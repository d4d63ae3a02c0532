import Interview.Proofs.Yaml.Sheet
import Interview.Yaml.Node.Grammar

/-!
# The node of a sheet

The tokens of each part of a sheet are read as the node of that part, whatever comes behind them, as
long as there is fuel for every token.
-/

namespace Interview.Yaml

namespace Sheet

namespace Scalar

/-- The content of a scalar without its quotes. -/
def content : Scalar → List Char
  | plain word => word
  | quoted content => content

/-- The tag of a scalar: a text between quotes is a text, and a plain word has the tag of its form. -/
def tag : Scalar → Tag
  | plain word => Tag.ofPlain word
  | quoted _ => .text

def node (scalar : Scalar) : Node := .scalar none scalar.tag scalar.content

end Scalar

def Content.node : Content → Node
  | .scalar one => one.node
  | .list items => .list none .list (items.map Scalar.node)

/-- The key and the value of a field. -/
def Field.nodes (field : Field) : Node × Node :=
  ((Scalar.plain field.key).node, field.content.node)

def Entry.node (entry : Entry) : Node := .mapping none .mapping (entry.fields.map Field.nodes)

def node (entries : List Entry) : Node := .list none .list (entries.map Entry.node)

variable {g : Grammar} {place : Place} {fuel : Nat} {rest inside : List Token}

/-! ## How the parts begin -/

theorem read_flowListStart :
    Node.read g place (fuel + 1) (.flowListStart :: inside) = (do
      let (items, rest) ← Node.readFlowItems g fuel true inside
      .ok (.list none .list items, rest)) :=
  rfl

theorem read_mappingStart :
    Node.read g .list (fuel + 1) (.blockMappingStart :: inside) = (do
      let (entries, rest) ← Node.readEntries g fuel inside
      .ok (.mapping none .mapping entries, rest)) :=
  rfl

theorem read_listStart :
    Node.read g .list (fuel + 1) (.blockListStart :: inside) = (do
      let (items, rest) ← Node.readItems g fuel inside
      .ok (.list none .list items, rest)) :=
  rfl

theorem readEntries_key (key : List Char) :
    Node.readEntries g (fuel + 4) (.key :: .scalar true key :: .value :: inside) = (do
      let (value, rest) ← Node.readUnless g .mapping [.key, .value, .blockEnd] (fuel + 2) inside
      let (entries, rest) ← Node.readEntries g (fuel + 3) rest
      .ok (((Scalar.plain key).node, value) :: entries, rest)) :=
  rfl

theorem readItems_entry :
    Node.readItems g (fuel + 3) (.entry :: .blockMappingStart :: inside) = (do
      let (item, rest) ← Node.read g .list (fuel + 1) (.blockMappingStart :: inside)
      let (items, rest) ← Node.readItems g (fuel + 2) rest
      .ok (item :: items, rest)) :=
  rfl

/-! ## The parts of a sheet -/

theorem read_scalar (scalar : Scalar) :
    Node.read g place (fuel + 1) (scalar.token :: rest) = .ok (scalar.node, rest) := by
  cases scalar with
  | plain word => rfl
  | quoted content => rfl

theorem readFlowItems_item (scalar : Scalar) :
    Node.readFlowItems g (fuel + 1) true (scalar.token :: rest) = (do
      let (item, rest) ← Node.read g .flow fuel (scalar.token :: rest)
      let (items, rest) ← Node.readFlowItems g fuel false rest
      .ok (item :: items, rest)) := by
  cases scalar with
  | plain word => rfl
  | quoted content => rfl

/-- The items of a flow list behind the first one, each after a comma. -/
theorem readFlowItems_items {item : Scalar} {others : List Scalar}
    (enough : 2 * (others.length + 1) ≤ fuel) :
    Node.readFlowItems g fuel true
        (((item :: others).map Scalar.token).intersperse .comma ++ .flowListEnd :: rest) =
      .ok ((item :: others).map Scalar.node, rest) := by
  induction others generalizing item fuel with
  | nil =>
      obtain ⟨fuel, rfl⟩ : ∃ n, fuel = n + 2 := ⟨fuel - 2, by simp at enough; omega⟩
      simp only [List.map_cons, List.map_nil, List.intersperse_singleton, List.singleton_append]
      rw [readFlowItems_item, read_scalar]
      rfl
  | cons next others ih =>
      obtain ⟨fuel, rfl⟩ : ∃ n, fuel = n + 2 := ⟨fuel - 2, by omega⟩
      have fits : 2 * (others.length + 1) ≤ fuel := by
        simp only [List.length_cons] at enough
        omega
      have later := @ih fuel next fits
      simp only [List.map_cons, List.intersperse_cons_cons, List.cons_append] at later ⊢
      rw [readFlowItems_item, read_scalar]
      simp only [bind, Except.bind, Node.readFlowItems]
      rw [later]

/-- What a field holds is read whole. -/
theorem read_content (content : Content) (enough : content.tokens.length ≤ fuel) :
    Node.read g place fuel (content.tokens ++ rest) = .ok (content.node, rest) := by
  cases content with
  | scalar one =>
      obtain ⟨fuel, rfl⟩ := Nat.exists_eq_add_of_le' enough
      exact read_scalar one
  | list items =>
      simp only [Content.tokens, List.length_cons, List.length_append, List.length_nil] at enough
      obtain ⟨fuel, rfl⟩ : ∃ n, fuel = n + 2 := ⟨fuel - 2, by omega⟩
      rw [Content.tokens, List.cons_append, read_flowListStart]
      cases items with
      | nil => rfl
      | cons item others =>
          rw [List.append_assoc, List.singleton_append, readFlowItems_items
            (by simp at enough; omega)]
          rfl

theorem readUnless_content (content : Content) (enough : content.tokens.length ≤ fuel) :
    Node.readUnless g .mapping [.key, .value, .blockEnd] (fuel + 1) (content.tokens ++ rest) =
      .ok (content.node, rest) := by
  have begins : startsWithAny [.key, .value, .blockEnd] (content.tokens ++ rest) = false := by
    cases content with
    | scalar one => cases one <;> rfl
    | list items => rfl
  rw [Node.readUnless, begins]
  exact read_content content enough

/-- The fields of an entry are read up to the end of its mapping. -/
theorem readEntries_fields (fields : List Field)
    (enough : (fields.flatMap Field.tokens).length < fuel) :
    Node.readEntries g fuel (fields.flatMap Field.tokens ++ .blockEnd :: rest) =
      .ok (fields.map Field.nodes, rest) := by
  induction fields generalizing fuel with
  | nil =>
      obtain ⟨fuel, rfl⟩ := Nat.exists_eq_add_of_le' enough
      rfl
  | cons field fields ih =>
      simp only [List.flatMap_cons, Field.tokens, List.length_cons, List.length_append] at enough
      obtain ⟨fuel, rfl⟩ : ∃ n, fuel = n + 4 := ⟨fuel - 4, by omega⟩
      simp only [List.flatMap_cons, Field.tokens, List.cons_append, List.append_assoc]
      have fits : (fields.flatMap Field.tokens).length < fuel + 3 := by omega
      rw [readEntries_key, readUnless_content field.content (by omega)]
      simp only [bind, Except.bind, ih fits]
      rfl

/-- The mapping of an entry is read up to its end. -/
theorem read_entry (entry : Entry) (enough : entry.tokens.length ≤ fuel) :
    Node.read g .list fuel
        (.blockMappingStart :: (entry.fields.flatMap Field.tokens ++ .blockEnd :: rest)) =
      .ok (entry.node, rest) := by
  simp only [Entry.tokens, List.length_cons] at enough
  obtain ⟨fuel, rfl⟩ : ∃ n, fuel = n + 1 := ⟨fuel - 1, by omega⟩
  rw [read_mappingStart, readEntries_fields entry.fields (by omega)]
  rfl

/-- The entries of a sheet are read up to the end of its list. -/
theorem readItems_entries (entries : List Entry)
    (enough : (entries.flatMap fun entry => entry.tokens ++ [.blockEnd]).length + 1 < fuel) :
    Node.readItems g fuel
        ((entries.flatMap fun entry => entry.tokens ++ [.blockEnd]) ++ .blockEnd :: rest) =
      .ok (entries.map Entry.node, rest) := by
  induction entries generalizing fuel with
  | nil =>
      obtain ⟨fuel, rfl⟩ := Nat.exists_eq_add_of_le' enough
      rfl
  | cons entry entries ih =>
      have long : entry.tokens.length = (entry.fields.flatMap Field.tokens).length + 2 := rfl
      simp only [List.flatMap_cons, List.length_append, List.length_cons, List.length_nil] at enough
      obtain ⟨fuel, rfl⟩ : ∃ n, fuel = n + 3 := ⟨fuel - 3, by omega⟩
      simp only [List.flatMap_cons, Entry.tokens, List.cons_append, List.append_assoc,
        List.nil_append]
      rw [readItems_entry, read_entry entry (by omega)]
      have later := @ih (fuel + 2) (by omega)
      simp only [Entry.tokens, List.cons_append] at later
      simp only [bind, Except.bind, later]
      rfl

/-- The tokens of a collection form its node if nothing is left behind it. -/
theorem ofTokens_of_read {first : Token} {node : Node}
    (begins : first = .blockListStart ∨ first = .blockMappingStart)
    (read : Node.read ⟨standardHandles, none⟩ .list (3 * (first :: inside).length + 3)
      (first :: inside) = .ok (node, [])) :
    Node.ofTokens ⟨first :: inside, none⟩ = .ok (some node) := by
  rcases begins with rfl | rfl
  all_goals
    simp only [Node.ofTokens, read, bind, Except.bind]
    rfl

/-- The tokens of a sheet form its node. -/
theorem ofTokens_eq (entries : List Entry) :
    Node.ofTokens ⟨tokens entries, none⟩ = .ok (some (node entries)) := by
  refine ofTokens_of_read (.inl rfl) ?_
  rw [read_listStart, readItems_entries entries]
  · rfl
  · simp only [List.length_cons, List.length_append]
    omega

end Sheet

end Interview.Yaml
