import Interview.Proofs.Document.Outcome
import Interview.Proofs.Value.Whole

/-!
# Reading texts out of a document

The header and the entries of the questions hold values, and what is needed of them are texts. A
value has none if an integer in it is too long to be written. The lemmas here say of each step which
values it reads: the step succeeds exactly when those values can be written.
-/

namespace Interview.Document

variable {header : Header} {overrides : Overrides} {key field digest : String}
variable {fields : List (Value × Value)} {value identifier : Value} {place : Nat}

/-! ## Texts of values -/

theorem exists_textOf_iff : (∃ text, textOf value = .ok text) ↔ value.IsWritable := by
  rw [← Value.isSome_text?_iff]
  unfold textOf
  cases value.text? <;> simp

/-- Whatever is made of the text of a value can be had if the value can be written. -/
theorem exists_textOf_bind_iff {α : Type} {made : String → α} :
    (∃ result, (textOf value >>= fun text => .ok (made text)) = .ok result) ↔
      value.IsWritable :=
  (exists_bind_eq_ok_iff_of_total fun _ => ⟨_, rfl⟩).trans exists_textOf_iff

/-- The absent value can be written. -/
@[simp] theorem isWritable_null : Value.null.IsWritable := by
  simp [Value.IsWritable, Value.wholes]

/-- The value under a key, if there is one, can be written. -/
def Header.CanWrite (header : Header) (key : String) : Prop :=
  ∀ value, header.value? key = some value → value.IsWritable

/-- A text of the header can be had if its value can be written. -/
theorem Header.exists_text?_iff : (∃ text, header.text? key = .ok text) ↔ header.CanWrite key := by
  unfold Header.text? Header.CanWrite
  split
  next absent => simp [absent]
  next null => simp [null]
  next value _ there => simp only [exists_textOf_bind_iff, there, Option.some.injEq, forall_eq']

/-! ## What a template is called -/

/-- What is known better is taken as it is, so that nothing is read for it. -/
theorem exists_unlessKnown_iff {override : Value} {result : Except LongNumber Value} :
    (∃ value, (if override.isTruthy then .ok override else result) = .ok value) ↔
      (override.isTruthy = false → ∃ value, result = .ok value) := by
  cases override.isTruthy <;> simp

theorem exists_identifierOf_iff {override : Value} :
    (∃ identifier, identifierOf override header digest = .ok identifier) ↔
      (override.isTruthy = false →
        header.CanWrite "slug" ∧ (header.text? "slug" = .ok none → header.CanWrite "name")) := by
  rw [identifierOf, exists_unlessKnown_iff]
  apply imp_congr_right
  intro unknown
  rw [exists_bind_eq_ok_iff, ← Header.exists_text?_iff, ← Header.exists_text?_iff]
  constructor
  · rintro ⟨slug, read, rest⟩
    refine ⟨⟨slug, read⟩, fun absent => ?_⟩
    cases absent.symm.trans read
    obtain ⟨name, readName, -⟩ := exists_bind_eq_ok_iff.mp rest
    exact ⟨name, readName⟩
  · rintro ⟨⟨slug, read⟩, behind⟩
    refine ⟨slug, read, ?_⟩
    cases slug with
    | some slug => exact ⟨_, rfl⟩
    | none =>
        obtain ⟨name, readName⟩ := behind read
        exact exists_bind_eq_ok_iff.mpr ⟨name, readName, _, rfl⟩

theorem exists_nameOf_iff {override : Value} :
    (∃ name, nameOf override header identifier = .ok name) ↔
      (override.isTruthy = false → header.CanWrite "name") := by
  rw [nameOf, exists_unlessKnown_iff, exists_bind_eq_ok_iff_of_total, Header.exists_text?_iff]
  intro name
  cases name.or header.title? <;> exact ⟨_, rfl⟩

theorem exists_categoryOf_iff {override : Value} :
    (∃ category, categoryOf override header = .ok category) ↔
      (override.isTruthy = false → header.CanWrite "category") := by
  rw [categoryOf, exists_unlessKnown_iff, exists_bind_eq_ok_iff_of_total, Header.exists_text?_iff]
  intro category
  exact ⟨_, rfl⟩

/-- The keys that are read to call a template by its identifier, name and category. -/
inductive Header.Names (header : Header) (overrides : Overrides) : String → Prop where
  | slug (unknown : overrides.identifier.isTruthy = false) : Names header overrides "slug"
  | nameBehindSlug (unknown : overrides.identifier.isTruthy = false)
      (absent : header.text? "slug" = .ok none) : Names header overrides "name"
  | name (unknown : overrides.name.isTruthy = false) : Names header overrides "name"
  | category (unknown : overrides.category.isTruthy = false) : Names header overrides "category"

/-- A template can be called if the values of the keys that are read for it can be written. -/
theorem forall_names_iff (digest : String) (identifier : Value) :
    (∀ key, header.Names overrides key → header.CanWrite key) ↔
      (∃ value, identifierOf overrides.identifier header digest = .ok value) ∧
        (∃ value, nameOf overrides.name header identifier = .ok value) ∧
        ∃ value, categoryOf overrides.category header = .ok value := by
  rw [exists_identifierOf_iff, exists_nameOf_iff, exists_categoryOf_iff]
  constructor
  · intro canWrite
    refine ⟨fun unknown => ⟨?_, fun absent => ?_⟩, fun unknown => ?_, fun unknown => ?_⟩
    · exact canWrite "slug" (.slug unknown)
    · exact canWrite "name" (.nameBehindSlug unknown absent)
    · exact canWrite "name" (.name unknown)
    · exact canWrite "category" (.category unknown)
  · rintro ⟨identifier, name, category⟩ key reads
    cases reads with
    | slug unknown => exact (identifier unknown).1
    | nameBehindSlug unknown absent => exact (identifier unknown).2 absent
    | name unknown => exact name unknown
    | category unknown => exact category unknown

/-! ## Questions -/

/-- The value of a field, if there is one, can be written. -/
def CanWriteField (fields : List (Value × Value)) (field : String) : Prop :=
  ∀ value, Value.lookup (.text field) fields = some value → value.IsWritable

/-- The values of an entry that are read as texts. The type is read only if nothing needed is
missing, and the options only if the type is known. -/
inductive EntryReads (fields : List (Value × Value)) : Value → Prop where
  | needed {field : String} {value : Value} (needed : field ∈ neededFields)
      (there : Value.lookup (.text field) fields = some value) : EntryReads fields value
  | type {value : Value} (complete : missingFields fields = .ok [])
      (there : Value.lookup (.text "type") fields = some value)
      (given : value.isTruthy = true) : EntryReads fields value
  | option {type : QuestionType} {items : List Value} {item : Value}
      (complete : missingFields fields = .ok []) (typed : typeOf fields = .ok type)
      (known : type.isKnown = true)
      (there : Value.lookup (.text "options") fields = some (.list items))
      (member : item ∈ items) : EntryReads fields item

theorem exists_isFieldMissing_iff :
    (∃ answer, isFieldMissing fields field = .ok answer) ↔ CanWriteField fields field := by
  unfold isFieldMissing CanWriteField
  split
  next absent => simp [absent]
  next null => simp [null]
  next value _ there => simp only [exists_textOf_bind_iff, there, Option.some.injEq, forall_eq']

theorem exists_missingFields_iff :
    (∃ missing, missingFields fields = .ok missing) ↔
      ∀ field ∈ neededFields, CanWriteField fields field := by
  simp only [missingFields, filterM_eq_ok, exists_isFieldMissing_iff]
  simp

theorem exists_fieldText_iff :
    (∃ text, fieldText fields field = .ok text) ↔ CanWriteField fields field := by
  unfold fieldText CanWriteField
  split
  next value there => simp only [exists_textOf_bind_iff, there, Option.some.injEq, forall_eq']
  next absent => simp [absent]

theorem exists_shownId_iff :
    (∃ shown, shownId fields = .ok shown) ↔ CanWriteField fields "id" := by
  unfold shownId CanWriteField
  split
  next absent => simp [absent]
  next null => simp [null]
  next value _ there =>
      simp only [there, Option.some.injEq, forall_eq', ← exists_textOf_iff]
      cases textOf value <;> simp [Functor.map, Except.map]

theorem exists_typeOf_iff :
    (∃ type, typeOf fields = .ok type) ↔
      ∀ value, Value.lookup (.text "type") fields = some value → value.isTruthy = true →
        value.IsWritable := by
  unfold typeOf
  cases there : Value.lookup (.text "type") fields with
  | none => simp
  | some value =>
      simp only [Option.some.injEq, forall_eq']
      cases value.isTruthy with
      | true => simp only [if_true, exists_textOf_bind_iff, true_imp_iff]
      | false => simp

theorem exists_optionsOf_iff :
    (∃ options, optionsOf fields = .ok options) ↔
      ∀ items, Value.lookup (.text "options") fields = some (.list items) →
        ∀ item ∈ items, item.IsWritable := by
  unfold optionsOf
  split
  next absent => simp [absent]
  next null => simp [null]
  next items there =>
      simp only [there, Option.some.injEq, Value.list.injEq, forall_eq', exists_bind_eq_ok_iff,
        ← exists_textOf_iff, ← exists_mapM_eq_ok_iff]
      simp
  next value _ _ other there =>
      simp only [there, Option.some.injEq]
      exact iff_of_true ⟨_, rfl⟩ fun items same => (other items same).elim

/-- What is read of an entry can be written if the entry gives a question or a problem. -/
theorem isWritable_of_entryReads {outcome : Except DocumentProblem Question}
    (whole : questionOf place (.mapping fields) = .ok outcome) (reads : EntryReads fields value) :
    value.IsWritable := by
  obtain ⟨missing, found, made⟩ := bind_eq_ok.mp whole
  cases reads with
  | needed needed there => exact exists_missingFields_iff.mp ⟨missing, found⟩ _ needed value there
  | type complete there given =>
      cases complete.symm.trans found
      obtain ⟨id, -, rest⟩ := bind_eq_ok.mp made
      obtain ⟨type, typed, -⟩ := bind_eq_ok.mp rest
      exact exists_typeOf_iff.mp ⟨type, typed⟩ value there given
  | option complete typed known there member =>
      cases complete.symm.trans found
      obtain ⟨id, -, rest⟩ := bind_eq_ok.mp made
      obtain ⟨type, typed', last⟩ := bind_eq_ok.mp rest
      cases typed.symm.trans typed'
      rw [known] at last
      obtain ⟨options, read, -⟩ := bind_eq_ok.mp last
      exact exists_optionsOf_iff.mp ⟨options, read⟩ _ there value member

/-- An entry gives a question or a problem if what is read of it can be written. -/
theorem exists_questionOf_iff :
    (∃ outcome, questionOf place (.mapping fields) = .ok outcome) ↔
      ∀ value, EntryReads fields value → value.IsWritable := by
  constructor
  · rintro ⟨outcome, whole⟩ value reads
    exact isWritable_of_entryReads whole reads
  · intro writable
    have canWrite (field : String) (needed : field ∈ neededFields) : CanWriteField fields field :=
      fun value there => writable value (.needed needed there)
    have text (field : String) (needed : field ∈ neededFields) :
        ∃ text, fieldText fields field = .ok text :=
      exists_fieldText_iff.mpr (canWrite field needed)
    -- Each step of the reading gives a value, or else ends it with a problem.
    obtain ⟨missing, found⟩ := exists_missingFields_iff.mpr canWrite
    refine exists_bind_eq_ok_iff.mpr ⟨missing, found, ?_⟩
    cases missing with
    | cons field others =>
        obtain ⟨shown, read⟩ := exists_shownId_iff.mpr (canWrite "id" (by decide))
        exact exists_bind_eq_ok_iff.mpr ⟨shown, read, _, rfl⟩
    | nil =>
        obtain ⟨id, readId⟩ := text "id" (by decide)
        refine exists_bind_eq_ok_iff.mpr ⟨id, readId, ?_⟩
        obtain ⟨type, typed⟩ := exists_typeOf_iff.mpr fun value there given =>
          writable value (.type found there given)
        refine exists_bind_eq_ok_iff.mpr ⟨type, typed, ?_⟩
        cases known : type.isKnown with
        | false => exact ⟨_, rfl⟩
        | true =>
            obtain ⟨options, readOptions⟩ := exists_optionsOf_iff.mpr fun items there item member =>
              writable item (.option found typed known there member)
            refine exists_bind_eq_ok_iff.mpr ⟨options, readOptions, ?_⟩
            cases options with
            | none => exact ⟨_, rfl⟩
            | some options =>
                obtain ⟨phase, readPhase⟩ := text "phase" (by decide)
                obtain ⟨wording, readWording⟩ := text "text" (by decide)
                exact exists_bind_eq_ok_iff.mpr
                  ⟨phase, readPhase, exists_bind_eq_ok_iff.mpr ⟨wording, readWording, _, rfl⟩⟩

/-- What is read of each entry of a list can be written. -/
def CanWriteEntries (entries : List Value) : Prop :=
  ∀ fields value, .mapping fields ∈ entries → EntryReads fields value → value.IsWritable

theorem exists_questionOf_iff_of_entry {entry : Value} :
    (∃ outcome, questionOf place entry = .ok outcome) ↔
      ∀ fields, entry = .mapping fields → ∀ value, EntryReads fields value → value.IsWritable := by
  cases entry with
  | mapping fields => simp [exists_questionOf_iff]
  | _ => simp [questionOf]

theorem canWriteEntries_cons_iff (place : Nat) {entry : Value} {entries : List Value} :
    CanWriteEntries (entry :: entries) ↔
      (∃ outcome, questionOf place entry = .ok outcome) ∧ CanWriteEntries entries := by
  simp only [exists_questionOf_iff_of_entry, CanWriteEntries, List.mem_cons]
  constructor
  · intro all
    exact ⟨fun fields same value => all fields value (.inl same.symm),
      fun fields value member => all fields value (.inr member)⟩
  · rintro ⟨here, there⟩ fields value (same | member)
    · exact here fields same.symm value
    · exact there fields value member

theorem exists_questionsFrom_iff (place : Nat) {entries : List Value} :
    (∃ result, questionsFrom place entries = .ok result) ↔ CanWriteEntries entries := by
  induction entries generalizing place with
  | nil => simp [questionsFrom, CanWriteEntries]
  | cons entry entries ih =>
      rw [canWriteEntries_cons_iff place, ← ih (place + 1), questionsFrom, exists_bind_eq_ok_iff]
      constructor
      · rintro ⟨outcome, made, rest⟩
        obtain ⟨result, read, -⟩ := exists_bind_eq_ok_iff.mp rest
        exact ⟨⟨outcome, made⟩, result, read⟩
      · rintro ⟨⟨outcome, made⟩, result, read⟩
        refine ⟨outcome, made, exists_bind_eq_ok_iff.mpr ⟨result, read, ?_⟩⟩
        cases outcome <;> exact ⟨_, rfl⟩

theorem exists_questionsOf_iff :
    (∃ result, questionsOf value = .ok result) ↔
      ∀ entries, value = .list entries → CanWriteEntries entries := by
  cases value with
  | list entries => simp [questionsOf, exists_questionsFrom_iff, -Prod.exists]
  | _ => simp [questionsOf]

end Interview.Document
