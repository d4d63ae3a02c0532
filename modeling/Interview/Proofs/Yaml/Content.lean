import Interview.Proofs.Yaml.Grammar
import Interview.Yaml.Content
import Mathlib.Data.List.Forall2

/-!
# The value of a sheet

A sheet without anchors denotes the list of its entries, each a mapping from the keys of its fields
to what they hold. `Sheet.content_eq` reads a sheet as a whole.
-/

namespace Interview.Yaml

variable {known : Node.Anchors} {fuel level : Nat} {path : Node.Path}

/-- Where each reading succeeds, all of them do. -/
theorem every_eq_ok {α β : Type} {read : α → Except Found β} {items : List α} {values : List β}
    (each : List.Forall₂ (fun item value => read item = .ok value) items values) :
    every (items.map read) = .ok values := by
  induction each with
  | nil => rfl
  | cons first _ ih =>
      rw [List.map_cons, every, first, ih]
      rfl

/-- A loop that keeps every item keeps them in their order. -/
theorem foldlM_eq_ok_of_keeps {α β ε : Type} {step : β × List α → α → Except ε (β × List α)}
    {items kept : List α} {other : β}
    (keeps : ∀ item ∈ items, ∀ kept, step (other, kept) item = .ok (other, kept ++ [item])) :
    items.foldlM step (other, kept) = .ok (other, kept ++ items) := by
  induction items generalizing kept with
  | nil => simp [pure, Except.pure]
  | cons item items ih =>
      rw [List.foldlM_cons, keeps item List.mem_cons_self]
      exact (ih fun item member => keeps item (List.mem_cons_of_mem _ member)).trans (by simp)

/-- A value under a new key comes last. -/
theorem write_of_new {key value : Value} {entries : List (Value × Value)}
    (new : ∀ entry ∈ entries, entry.1.sameKey key = false) :
    Value.write key value entries = entries ++ [(key, value)] := by
  induction entries with
  | nil => rfl
  | cons entry entries ih =>
      obtain ⟨here, there⟩ := List.forall_mem_cons.mp new
      rw [Value.write, here, ih there]
      rfl

/-- A mapping with distinct texts as keys keeps all its entries. -/
theorem distinctEntries_ofEntries {entries : List (String × Value)}
    (distinct : (entries.map Prod.fst).Nodup) :
    Node.distinctEntries (entries.map fun entry => (.text entry.1, entry.2)) =
      entries.map fun entry => (.text entry.1, entry.2) := by
  let pairs (entries : List (String × Value)) : List (Value × Value) :=
    entries.map fun entry => (.text entry.1, entry.2)
  -- What is kept so far has keys of its own.
  have kept (sofar : List (String × Value)) (apart : ((sofar ++ entries).map Prod.fst).Nodup) :
      (pairs entries).foldl (fun kept entry => Value.write entry.1 entry.2 kept) (pairs sofar) =
        pairs (sofar ++ entries) := by
    clear distinct
    induction entries generalizing sofar with
    | nil => simp [pairs]
    | cons entry entries ih =>
        have new : ∀ other ∈ pairs sofar, other.1.sameKey (.text entry.1) = false := by
          intro other member
          obtain ⟨before, among, rfl⟩ := List.mem_map.mp member
          rw [List.map_append, List.nodup_append] at apart
          have different := apart.2.2 before.1 (List.mem_map_of_mem among) entry.1
            (by simp)
          simpa [Value.sameKey] using different
        have later := ih (sofar ++ [entry]) (by simpa using apart)
        rw [List.append_assoc, List.singleton_append] at later
        rw [← later]
        simp [pairs, write_of_new new]
  exact kept [] distinct

namespace Sheet

variable {scalar : Scalar} {content : Content} {field : Field} {value : Value}

/-- The value of a scalar. -/
def Scalar.read (scalar : Scalar) : Except Fault Value := scalar.tag.read scalar.content

/-- The value of what a field holds. -/
inductive Content.Reads : Content → Value → Prop where
  | scalar {one : Scalar} {value : Value} (read : one.read = .ok value) : Reads (.scalar one) value
  | list {items : List Scalar} {values : List Value}
      (read : List.Forall₂ (fun item value => item.read = .ok value) items values) :
      Reads (.list items) (.list values)

/-- The key and value of a field whose key is a text. -/
structure Field.Reads (field : Field) (entry : String × Value) : Prop where
  isText : Tag.ofPlain field.key = .text
  key : entry.1 = String.ofList field.key
  value : field.content.Reads entry.2

/-- The keys and values of an entry that has no key twice. -/
structure Entry.Reads (entry : Entry) (values : List (String × Value)) : Prop where
  fields : List.Forall₂ Field.Reads entry.fields values
  distinct : (values.map Prod.fst).Nodup

/-! ## No anchors -/

theorem itemAnchors_scalars (items : List Scalar) :
    Node.itemAnchors known (items.map Scalar.node) = .ok known := by
  induction items with
  | nil => rfl
  | cons item items ih => exact ih

theorem anchors_content (content : Content) : content.node.anchors known = .ok known := by
  cases content with
  | scalar one => rfl
  | list items => exact itemAnchors_scalars items

theorem entryAnchors_fields (fields : List Field) :
    Node.entryAnchors known (fields.map Field.nodes) = .ok known := by
  induction fields with
  | nil => rfl
  | cons field fields ih =>
      have value : field.content.node.anchors known = .ok known := anchors_content field.content
      simp only [List.map_cons, Node.entryAnchors, Field.nodes, Node.pairAnchors]
      rw [show (Scalar.plain field.key).node.anchors known = .ok known from rfl]
      simp only [bind, Except.bind, value]
      exact ih

theorem itemAnchors_entries (entries : List Entry) :
    Node.itemAnchors known (entries.map Entry.node) = .ok known := by
  induction entries with
  | nil => rfl
  | cons entry entries ih =>
      have fields : entry.node.anchors known = .ok known := entryAnchors_fields entry.fields
      simp only [List.map_cons, Node.itemAnchors, fields]
      exact ih

theorem anchors_node (entries : List Entry) : (node entries).anchors known = .ok known :=
  itemAnchors_entries entries

/-! ## Values -/

/-- Only aliases stand for a collection around them. -/
theorem levelsUp?_scalar {anchor : Option Name} {tag : Tag} {text : List Char} :
    Node.levelsUp? (.scalar anchor tag text) path = none := by
  rcases path with _ | ⟨⟨_ | anchor, shape⟩, path⟩ <;> rfl

theorem levelsUp?_list {anchor : Option Name} {tag : Tag} {items : List Node} :
    Node.levelsUp? (.list anchor tag items) path = none := by
  rcases path with _ | ⟨⟨_ | anchor, shape⟩, path⟩ <;> rfl

theorem levelsUp?_mapping {anchor : Option Name} {tag : Tag} {entries : List (Node × Node)} :
    Node.levelsUp? (.mapping anchor tag entries) path = none := by
  rcases path with _ | ⟨⟨_ | anchor, shape⟩, path⟩ <;> rfl

/-- The tags that are inferred from a form. -/
theorem ofPlain_mem (text : List Char) :
    Tag.ofPlain text ∈
      [.null, .bool, .int, .float, .moment, .text, .merge, .default, .unknown] := by
  simp only [Tag.ofPlain]
  repeat' split
  all_goals simp

/-- A scalar is no collection. -/
theorem isCollection_tag (scalar : Scalar) : Node.isCollection scalar.tag = false := by
  cases scalar with
  | quoted content => rfl
  | plain word =>
      have single : ∀ tag ∈ [Tag.null, .bool, .int, .float, .moment, .text, .merge, .default,
          .unknown], Node.isCollection tag = false := by decide
      exact single _ (ofPlain_mem word)

theorem scalarValue_scalar {anchor : Option Name} {tag : Tag} {text : List Char}
    (single : Node.isCollection tag = false) :
    Node.scalarValue known (fuel + 1) level (.scalar anchor tag text) =
      (tag.read text).mapError fun fault => (level, fault) := by
  cases tag
  case list | mapping | set | pairs | orderedPairs => cases single
  all_goals rfl

/-- The value of a scalar is what its tag makes of its content. -/
theorem valueFrom_eq (scalar : Scalar) :
    scalar.node.valueFrom known (fuel + 1) level path =
      scalar.read.mapError fun fault => (level, fault) := by
  have single := isCollection_tag scalar
  have value : Node.scalarValue known (fuel + 1) level scalar.node =
      scalar.read.mapError fun fault => (level, fault) := scalarValue_scalar single
  rw [← value, Scalar.node, Node.valueFrom, levelsUp?_scalar]
  cases tag : scalar.tag <;> rw [tag] at single
  case list | mapping | set | pairs | orderedPairs => cases single
  all_goals rfl

theorem valueFrom_scalar (read : scalar.read = .ok value) :
    scalar.node.valueFrom known (fuel + 1) level path = .ok value := by
  rw [valueFrom_eq, read]
  rfl

theorem valueFrom_content (reads : content.Reads value) :
    content.node.valueFrom known (fuel + 2) level path = .ok value := by
  cases reads with
  | scalar read => exact valueFrom_scalar read
  | @list items values read =>
      have each : every ((items.map Scalar.node).map
          (Node.valueFrom known (fuel + 1) (level + 1) ((none, .list) :: path))) = .ok values :=
        every_eq_ok (List.forall₂_map_left_iff.mpr (read.imp fun item value => valueFrom_scalar))
      rw [Content.node, Node.valueFrom, levelsUp?_list]
      simp only [Node.follow, Node.tag, Node.anchor?]
      rw [each]
      rfl

/-- Keys that are texts are neither merged nor marks of a default value. -/
theorem flatten_fields {fields : List Field} (texts : ∀ field ∈ fields, Tag.ofPlain field.key = .text) :
    Node.flatten known (fuel + 1) [] (.mapping none .mapping (fields.map Field.nodes)) =
      .ok (fields.map Field.nodes) := by
  simp only [Node.flatten, Node.follow]
  rw [foldlM_eq_ok_of_keeps]
  · rfl
  · intro entry member kept
    obtain ⟨field, among, rfl⟩ := List.mem_map.mp member
    have isText := texts field among
    simp [Field.nodes, Scalar.node, Scalar.tag, Scalar.content, isText, Node.tag,
      Node.plainKey]

theorem keyValue_key {key : List Char} (isText : Tag.ofPlain key = .text) :
    Node.keyValue known (fuel + 1) level (Scalar.plain key).node =
      .ok (.text (String.ofList key)) := by
  rw [Scalar.node, Scalar.tag, isText]
  rfl

theorem both_field {entry : String × Value} (reads : field.Reads entry) :
    both (Node.keyValue known (fuel + 3) level field.nodes.1)
        (Node.valueFrom known (fuel + 2) level path field.nodes.2) =
      .ok (.text entry.1, entry.2) := by
  rw [Field.nodes, keyValue_key reads.isText, valueFrom_content reads.value, reads.key]
  rfl

theorem valueFrom_entry {entry : Entry} {values : List (String × Value)}
    (reads : entry.Reads values) :
    entry.node.valueFrom known (fuel + 3) level path = .ok (Value.ofEntries values) := by
  have texts : ∀ field ∈ entry.fields, Tag.ofPlain field.key = .text :=
    ((List.forall₂_and_left _ _).mp
      (reads.fields.imp fun field value read => ⟨read.isText, read⟩)).1
  have pairs : List.Forall₂ (fun nodes value =>
      both (Node.keyValue known (fuel + 3) (level + 1) nodes.1)
        (Node.valueFrom known (fuel + 2) (level + 1) ((none, .mapping) :: path) nodes.2) =
          .ok value)
      (entry.fields.map Field.nodes) (values.map fun entry => (.text entry.1, entry.2)) := by
    rw [List.forall₂_map_left_iff, List.forall₂_map_right_iff]
    exact reads.fields.imp fun field value => both_field
  rw [Entry.node, Node.valueFrom, levelsUp?_mapping]
  simp only [Node.follow, Node.tag, Node.anchor?]
  rw [flatten_fields texts]
  simp only
  rw [every_eq_ok pairs]
  simp only [Except.map, distinctEntries_ofEntries reads.distinct, Value.ofEntries]

theorem valueFrom_node {entries : List Entry} {values : List (List (String × Value))}
    (reads : List.Forall₂ Entry.Reads entries values) :
    (node entries).valueFrom known (fuel + 4) level path =
      .ok (.list (values.map Value.ofEntries)) := by
  have each : every ((entries.map Entry.node).map
      (Node.valueFrom known (fuel + 3) (level + 1) ((none, .list) :: path))) =
        .ok (values.map Value.ofEntries) :=
    every_eq_ok (List.forall₂_map_left_iff.mpr (List.forall₂_map_right_iff.mpr
      (reads.imp fun entry values => valueFrom_entry)))
  rw [node, Node.valueFrom, levelsUp?_list]
  simp only [Node.follow, Node.tag, Node.anchor?]
  rw [each]
  rfl

theorem two_le_size (entry : Entry) : 2 ≤ entry.node.size := by
  simp [Entry.node, Entry.fields, Field.nodes, Scalar.node, Node.size, Node.sizeEntries,
    Node.sizeEntry]
  omega

/-- A sheet with any number of empty lines behind it is read as the list of its entries. -/
theorem content_eq {entries : List Entry} {values : List (List (String × Value))}
    (some : entries ≠ []) (sound : ∀ entry ∈ entries, entry.isSound = true)
    (reads : List.Forall₂ Entry.Reads entries values) (blank : Nat) :
    Yaml.content (Text.unlines (lines entries ++ List.replicate blank [])) =
      .ok (.list (values.map Value.ofEntries)) := by
  obtain ⟨fuel, enough⟩ : ∃ fuel, (node entries).size + 1 = fuel + 4 := by
    obtain ⟨entry, others, rfl⟩ := List.exists_cons_of_ne_nil some
    have size := two_le_size entry
    refine ⟨(node (entry :: others)).size - 3, ?_⟩
    simp only [node, Node.size, List.map_cons, Node.sizeItems]
    omega
  have read : (node entries).valueFrom [] (fuel + 4) 0 [] =
      .ok (.list (values.map Value.ofEntries)) := valueFrom_node reads
  simp only [Yaml.content, tokens_eq some sound, ofTokens_eq, bind, Except.bind, Node.value,
    anchors_node, List.length_nil, Nat.zero_add, Nat.one_mul, enough, read]

end Sheet

end Interview.Yaml
