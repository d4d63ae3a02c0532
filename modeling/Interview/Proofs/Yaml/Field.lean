import Interview.Proofs.Yaml.Content

/-!
# Texts that are one field

A text that is one field, a key and a scalar behind its colon, denotes the mapping from the key to
the value of the scalar. It denotes nothing if the scalar has no value.
-/

namespace Interview.Yaml.Sheet

variable {field : Field} {scalar : Scalar} {key : List Char}
variable {known : Node.Anchors} {fuel level : Nat} {path : Node.Path}

/-- The tokens of a field on its own. -/
theorem Field.tokens_eq (sound : field.isSound = true) :
    Tokens.ofText field.text = ⟨.blockMappingStart :: (field.tokens ++ [.blockEnd]), none⟩ := by
  have admitted : field.text.all isAdmitted = true := by
    rw [List.all_eq_true]
    exact fun c member => isAdmitted_of_isVisible (isVisible_of_field sound c member)
  have starts := Stage.startsHere_field [] sound
  have ends : EndsLine [] 0 [] := ⟨rfl, .inl ⟨rfl, rfl⟩⟩
  have leads := Stage.leads_field [] [] 0 sound rfl ends (.inl rfl)
  rw [List.append_nil] at starts leads
  rw [Yaml.tokens_eq admitted starts leads]
  simp [Stage.opened]

/-- The field as an entry that has no other field. -/
def Field.alone (field : Field) : Entry := ⟨field, []⟩

theorem Field.ofTokens_eq (field : Field) :
    Node.ofTokens ⟨.blockMappingStart :: (field.tokens ++ [.blockEnd]), none⟩ =
      .ok (some field.alone.node) := by
  let tokens : List Token := .blockMappingStart :: (field.tokens ++ [.blockEnd])
  have enough : field.alone.tokens.length ≤ 3 * tokens.length + 3 := by
    simp only [alone, Entry.tokens, Entry.fields, tokens, List.length_cons, List.length_append,
      List.flatMap_cons, List.flatMap_nil, List.append_nil]
    omega
  have read := @read_entry ⟨standardHandles, none⟩ _ [] field.alone enough
  simp only [alone, Entry.fields, List.flatMap_cons, List.flatMap_nil, List.append_nil] at read
  exact ofTokens_of_read (.inr rfl) read

/-! ## Values -/

/-- The mapping of a field has a value if the scalar has one. -/
theorem valueFrom_alone (isText : Tag.ofPlain key = .text) :
    (Field.alone ⟨key, .scalar scalar⟩).node.valueFrom known (fuel + 2) level path =
      (scalar.read.mapError fun fault => (level + 1, fault)).map fun value =>
        Value.ofEntries [(String.ofList key, value)] := by
  have texts : ∀ field ∈ [(⟨key, .scalar scalar⟩ : Field)], Tag.ofPlain field.key = .text := by
    simpa using isText
  have name : Node.keyValue known (fuel + 2) (level + 1) (Scalar.plain key).node =
      .ok (.text (String.ofList key)) :=
    keyValue_key isText
  have scalarValue : scalar.node.valueFrom known (fuel + 1) (level + 1)
      ((none, .mapping) :: path) = scalar.read.mapError fun fault => (level + 1, fault) :=
    valueFrom_eq scalar
  rw [Field.alone, Entry.node, Node.valueFrom, levelsUp?_mapping]
  simp only [Node.follow, Node.tag, Node.anchor?, Entry.fields]
  rw [flatten_fields texts]
  simp only [List.map_cons, List.map_nil, Field.nodes, Content.node, name, scalarValue]
  cases scalar.read <;> rfl

/-- What a field denotes on its own. -/
theorem Field.content_eq (sound : Field.isSound ⟨key, .scalar scalar⟩ = true)
    (isText : Tag.ofPlain key = .text) :
    Yaml.content (Field.text ⟨key, .scalar scalar⟩) =
      scalar.read.map fun value => Value.ofEntries [(String.ofList key, value)] := by
  obtain ⟨fuel, enough⟩ : ∃ fuel, (Field.alone ⟨key, .scalar scalar⟩).node.size + 1 = fuel + 2 := by
    have size := two_le_size (Field.alone ⟨key, .scalar scalar⟩)
    exact ⟨(Field.alone ⟨key, .scalar scalar⟩).node.size - 1, by omega⟩
  have anchors : (Field.alone ⟨key, .scalar scalar⟩).node.anchors [] = .ok [] :=
    entryAnchors_fields _
  simp only [Yaml.content, Field.tokens_eq sound, Field.ofTokens_eq, bind, Except.bind, Node.value,
    anchors, List.length_nil, Nat.zero_add, Nat.one_mul, enough, valueFrom_alone isText]
  cases scalar.read <;> rfl

end Interview.Yaml.Sheet
