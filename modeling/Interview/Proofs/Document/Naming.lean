import Interview.Proofs.Document.Digest
import Interview.Proofs.Document.Reading
import Interview.Proofs.Document.Style

/-!
# Documents under other names

A caller who knows the identifier, the name or the category of a template gives it beside the
document. The template is then the same under other names, and the faults are the same, unless a
value that the override stands in for is too long to be written: without the override it is read,
and that is a fault.
-/

namespace Interview

open Document Text

/-- A text that is known counts if it is not empty. -/
abbrev KnownText := {text : String // text ≠ ""}

/-- What a caller knows of the names of a template. -/
structure Naming where
  identifier : Option KnownText
  name : Option KnownText
  category : Option KnownText

namespace Naming

/-- Nothing is known. -/
def none : Naming := ⟨.none, .none, .none⟩

/-- A known text as an override, which is absent if there is none. -/
def toOverride : Option KnownText → Value
  | some known => .text known
  | .none => .null

/-- The overrides of a caller, who may also know the source. -/
def overrides (naming : Naming) (sourceRef : Value) : Overrides where
  identifier := toOverride naming.identifier
  name := toOverride naming.name
  category := toOverride naming.category
  sourceRef := sourceRef

/-- The text that is known in place of a key of the header. -/
def under (naming : Naming) : String → Option KnownText
  | "slug" => naming.identifier
  | "name" => naming.name
  | "category" => naming.category
  | _ => .none

/-- A text that is known, or else another one. -/
def pick (known : Option KnownText) (text : String) : String :=
  known.elim text Subtype.val

/-- The text that is known, or else that of the template. -/
def pickOr (known : Option KnownText) (given : Option String) : Option String :=
  (known.map Subtype.val).or given

@[simp] theorem pickOr_some (known : Option KnownText) (text : String) :
    pickOr known (some text) = some (pick known text) := by
  cases known <;> rfl

/-- A template under the names that are known. A name that falls back to the identifier follows
it. -/
def rename (naming : Naming) (fallsBack : Bool) (template : Template) : Template :=
  let identifier := pickOr naming.identifier template.identifier
  { template with
    identifier
    name := pickOr naming.name (if fallsBack then identifier else template.name)
    category := pickOr naming.category template.category }

end Naming

namespace Document

variable {naming : Naming} {overrides : Overrides} {header : Header} {sections : List Section}
variable {content : Except Fault Body} {value sourceRef : Value} {key digest text identifier : String}

/-! ## The names of a document -/

/-- The document of a header has no name and no title, so that it is named by its identifier. -/
def Header.isNameless (header : Header) : Bool :=
  match header.text? "name" with
  | .ok none => header.title?.isNone
  | _ => false

/-- The header of a document, if the document has an outline. -/
def headerOf? (text : String) : Option Header :=
  (outline (dropReturns text.toList)).toOption.map Prod.fst

/-- A document that has no name of its own. -/
def isNameless (text : String) : Bool :=
  (headerOf? text).any Header.isNameless

/-- The template of a document under the names that are known. -/
structure RenamedBy (naming : Naming) (nameless : Bool) (plain renamed : Template) : Prop where
  fallen : nameless = true → plain.name = plain.identifier
  renamed : renamed = naming.rename nameless plain

/-- No value that an override stands in for is too long to be written. -/
def Header.CanWriteReplaced (header : Header) (naming : Naming) : Prop :=
  ∀ key, (naming.under key).isSome = true → header.CanWrite key

/-! ## The steps that give the names -/

/-- A text that is known is taken, and otherwise what the header gives. -/
theorem unlessKnown_eq (known : Option KnownText) {result : Except LongNumber Value}
    (given : result = .ok (.text text)) :
    (if (Naming.toOverride known).isTruthy then .ok (Naming.toOverride known) else result) =
      .ok (.text (Naming.pick known text)) := by
  cases known with
  | none => exact given
  | some known =>
      have counts : (Value.text known).isTruthy = true := by
        simpa [Value.isTruthy] using known.2
      exact if_pos counts

theorem identifierOf_toOverride (naming : Naming)
    (given : identifierOf .null header digest = .ok value) :
    ∃ identifier, value = .text identifier ∧
      identifierOf (Naming.toOverride naming.identifier) header digest =
        .ok (.text (Naming.pick naming.identifier identifier)) := by
  have isText : ∃ identifier, value = .text identifier := by
    rw [identifierOf, if_neg (by decide), bind_eq_ok] at given
    obtain ⟨slug, -, given⟩ := given
    cases slug with
    | some slug =>
        cases given
        exact ⟨slug, rfl⟩
    | none =>
        obtain ⟨named, -, made⟩ := bind_eq_ok.mp given
        cases made
        exact ⟨_, rfl⟩
  obtain ⟨identifier, rfl⟩ := isText
  exact ⟨identifier, rfl, unlessKnown_eq naming.identifier given⟩

/-- The name that a document gives its template, and how it changes with the identifier. -/
theorem nameOf_null_eq (given : nameOf .null header (.text identifier) = .ok value) :
    ∃ name, value = .text name ∧ (header.isNameless = true → name = identifier) ∧
      ∀ other, nameOf .null header (.text other) =
        .ok (.text (if header.isNameless then other else name)) := by
  rw [nameOf, if_neg (by decide), bind_eq_ok] at given
  obtain ⟨named, read, given⟩ := given
  have follows (other : String) : nameOf .null header (.text other) =
      .ok (.text ((named.or header.title?).getD other)) := by
    rw [nameOf, if_neg (by decide), read]
    simp only [bind, Except.bind]
    cases named.or header.title? <;> rfl
  have nameless : header.isNameless = (named.or header.title?).isNone := by
    rw [Header.isNameless, read]
    cases named <;> rfl
  simp only [follows, nameless]
  cases own : named.or header.title? with
  | some name =>
      rw [own] at given
      cases given
      exact ⟨name, rfl, by simp, by simp⟩
  | none =>
      rw [own] at given
      cases given
      exact ⟨identifier, rfl, by simp, by simp⟩

/-- The name is the known one or that of the document, or it follows the identifier. -/
theorem nameOf_toOverride (naming : Naming)
    (given : nameOf .null header (.text identifier) = .ok value) :
    ∃ name, value = .text name ∧ (header.isNameless = true → name = identifier) ∧
      ∀ other, nameOf (Naming.toOverride naming.name) header (.text other) =
        .ok (.text (Naming.pick naming.name (if header.isNameless then other else name))) := by
  obtain ⟨name, rfl, fallen, own⟩ := nameOf_null_eq given
  refine ⟨name, rfl, fallen, ?_⟩
  intro other
  exact unlessKnown_eq naming.name (own other)

theorem categoryOf_toOverride (naming : Naming) (given : categoryOf .null header = .ok value) :
    ∃ category, value = .text category ∧
      categoryOf (Naming.toOverride naming.category) header =
        .ok (.text (Naming.pick naming.category category)) := by
  have isText : ∃ category, value = .text category := by
    rw [categoryOf, if_neg (by decide), bind_eq_ok] at given
    obtain ⟨sorted, -, made⟩ := given
    cases made
    exact ⟨_, rfl⟩
  obtain ⟨category, rfl⟩ := isText
  exact ⟨category, rfl, unlessKnown_eq naming.category given⟩

section

variable {α β : Type} {related : α → β → Prop} {next : Value → Value → Value → Except Fault α}
variable {otherNext : Value → Value → Value → Except Fault β}

/-- What is made of the names of a template. -/
def withNames (overrides : Overrides) (header : Header) (digest : String)
    (next : Value → Value → Value → Except Fault α) : Except Fault α := do
  let identifier ← orLong (identifierOf overrides.identifier header digest)
  let name ← orLong (nameOf overrides.name header identifier)
  let category ← orLong (categoryOf overrides.category header)
  next identifier name category

theorem withNames_eq {identifier name category : Value}
    (identified : identifierOf overrides.identifier header digest = .ok identifier)
    (named : nameOf overrides.name header identifier = .ok name)
    (categorized : categoryOf overrides.category header = .ok category) :
    withNames overrides header digest next = next identifier name category := by
  simp only [withNames, identified, named, categorized, orLong, bind, Except.bind]

/-- Nothing is made of the names if a value that is read for them is too long. -/
theorem withNames_eq_longNumber
    (tooLong : ¬ ∀ key, header.Names overrides key → header.CanWrite key) :
    withNames overrides header digest next = .error .longNumber := by
  unfold withNames
  cases identified : identifierOf overrides.identifier header digest with
  | error long => rfl
  | ok identifier =>
      cases named : nameOf overrides.name header identifier with
      | error long => simp only [named, orLong, bind, Except.bind]
      | ok name =>
          cases categorized : categoryOf overrides.category header with
          | error long => simp only [named, orLong, bind, Except.bind]
          | ok category =>
              exact absurd ((forall_names_iff digest identifier).mpr
                ⟨⟨_, identified⟩, ⟨_, named⟩, _, categorized⟩) tooLong

/-- Fewer values are read where names are known. -/
theorem names_of_overrides (reads : header.Names (naming.overrides sourceRef) key) :
    header.Names (Naming.none.overrides sourceRef) key := by
  cases reads with
  | slug unknown => exact .slug rfl
  | nameBehindSlug unknown absent => exact .nameBehindSlug rfl absent
  | name unknown => exact .name rfl
  | category unknown => exact .category rfl

/-- A known text counts as an override. -/
theorem toOverride_eq_false_or (known : Option KnownText) :
    known.isSome = true ∨ (Naming.toOverride known).isTruthy = false := by
  cases known with
  | none => exact .inr rfl
  | some known => exact .inl rfl

/-- If the values that the overrides stand in for can be written, then no others are read without
them that could not. -/
theorem forall_names_overrides_iff (canWrite : header.CanWriteReplaced naming) :
    (∀ key, header.Names (naming.overrides sourceRef) key → header.CanWrite key) ↔
      ∀ key, header.Names (Naming.none.overrides sourceRef) key → header.CanWrite key := by
  constructor
  · intro readable key reads
    cases reads with
    | slug =>
        rcases toOverride_eq_false_or naming.identifier with known | unknown
        · exact canWrite "slug" known
        · exact readable "slug" (.slug unknown)
    | nameBehindSlug | name =>
        rcases toOverride_eq_false_or naming.name with known | unknown
        · exact canWrite "name" known
        · exact readable "name" (.name unknown)
    | category =>
        rcases toOverride_eq_false_or naming.category with known | unknown
        · exact canWrite "category" known
        · exact readable "category" (.category unknown)
  · intro readable key reads
    exact readable key (names_of_overrides reads)

/-- Names that are known take the place of others. -/
theorem concurs_withNames (canWrite : header.CanWriteReplaced naming)
    (later : ∀ identifier name category, (header.isNameless = true → name = identifier) →
      Concurs related (next (.text identifier) (.text name) (.text category))
        (let known := Naming.pick naming.identifier identifier
        otherNext (.text known)
          (.text (Naming.pick naming.name (if header.isNameless then known else name)))
          (.text (Naming.pick naming.category category)))) :
    Concurs related (withNames (Naming.none.overrides sourceRef) header digest next)
      (withNames (naming.overrides sourceRef) header digest otherNext) := by
  by_cases readable :
      ∀ key, header.Names (Naming.none.overrides sourceRef) key → header.CanWrite key
  · obtain ⟨⟨_, identified⟩, -, _, categorized⟩ := (forall_names_iff digest .null).mp readable
    obtain ⟨identifier, rfl, otherIdentified⟩ := identifierOf_toOverride naming identified
    obtain ⟨-, ⟨_, named⟩, -⟩ := (forall_names_iff digest (.text identifier)).mp readable
    obtain ⟨name, rfl, fallen, otherNamed⟩ := nameOf_toOverride naming named
    obtain ⟨category, rfl, otherCategorized⟩ := categoryOf_toOverride naming categorized
    rw [withNames_eq identified named categorized,
      withNames_eq otherIdentified (otherNamed _) otherCategorized]
    exact later identifier name category fallen
  · have otherLong := mt (forall_names_overrides_iff canWrite).mp readable
    rw [withNames_eq_longNumber readable, withNames_eq_longNumber otherLong]
    exact .failed _

end

/-- With the same content, a template is put together under other names. -/
theorem concurs_assemble_named (canWrite : header.CanWriteReplaced naming) :
    Concurs (RenamedBy naming header.isNameless)
      (assemble digest (Naming.none.overrides sourceRef) header content)
      (assemble digest (naming.overrides sourceRef) header content) := by
  refine concurs_withNames canWrite fun identifier name category fallen => ?_
  refine .bind_same fun body => .bind_same fun objective => .bind_same fun version => ?_
  refine .bind_same fun protocolRef => .bind_same fun personaRef => .bind_same fun source => ?_
  refine .succeeded ⟨fun nameless => congrArg some (fallen nameless), ?_⟩
  cases header.isNameless <;> simp [Naming.rename]

/-! ## Main result -/

/-- Without the overrides, a value that they stand in for is read, which is a fault if it is too
long. -/
theorem assemble_eq_longNumber (tooLong : ¬ header.CanWriteReplaced naming) :
    assemble digest (Naming.none.overrides sourceRef) header content = .error .longNumber := by
  refine withNames_eq_longNumber fun readable => tooLong ?_
  intro key known
  unfold Naming.under at known
  split at known
  · exact readable "slug" (.slug rfl)
  · exact readable "name" (.name rfl)
  · exact readable "category" (.category rfl)
  · cases known

theorem compile_of_outline (outlined : outline (dropReturns text.toList) = .ok (header, sections)) :
    compile text overrides = assemble (Digest.ofText text) overrides header (bodyOf sections) := by
  rw [compile_eq_assemble, outlined]
  rfl

theorem headerOf?_of_outline
    (outlined : outline (dropReturns text.toList) = .ok (header, sections)) :
    headerOf? text = some header := by
  rw [headerOf?, outlined]
  rfl

/-- With overrides for its names, a document has the same faults, or gives the same template under
the names that are known. It is otherwise only where a value that an override stands in for is too
long to be written: then the document fails without the overrides, and with them it does for such a
value elsewhere, or else there is a difference. -/
theorem naming_renames_template_iff (text : String) (naming : Naming) (sourceRef : Value) :
    (Concurs (RenamedBy naming (isNameless text)) (compile text (Naming.none.overrides sourceRef))
        (compile text (naming.overrides sourceRef)) ↔
      ∀ header, headerOf? text = some header →
        header.CanWriteReplaced naming ∨
          compile text (naming.overrides sourceRef) = .error .longNumber) ∧
    ∀ header, headerOf? text = some header → ¬ header.CanWriteReplaced naming →
      compile text (Naming.none.overrides sourceRef) = .error .longNumber := by
  cases outlined : outline (dropReturns text.toList) with
  | error fault =>
      have fails (overrides : Overrides) : compile text overrides = .error fault := by
        rw [compile_eq_assemble, outlined]
        rfl
      have noHeader : headerOf? text = none := by
        rw [headerOf?, outlined]
        rfl
      simp only [fails, noHeader, reduceCtorEq, false_imp_iff, implies_true, and_true, iff_true]
      exact .failed fault
  | ok outline =>
      obtain ⟨header, sections⟩ := outline
      have there := headerOf?_of_outline outlined
      have nameless : isNameless text = header.isNameless := by
        rw [isNameless, there, Option.any_some]
      simp only [there, Option.some.injEq, forall_eq', nameless, compile_of_outline outlined]
      refine ⟨?_, assemble_eq_longNumber⟩
      by_cases canWrite : header.CanWriteReplaced naming
      · exact iff_of_true (concurs_assemble_named canWrite) (.inl canWrite)
      · rw [assemble_eq_longNumber canWrite, Concurs.error_iff]
        simp only [canWrite, false_or]

/-- A document whose slug is a power of sixteen, with a title and a category. -/
def powerSlug (exponent : Nat) : String :=
  inFrontmatter "slug" (String.ofList (Yaml.powerText exponent)) categorized

/-- The header of that document. -/
def powerHeader (exponent : Nat) : Header :=
  ⟨[(.text "slug", .int (Nat.pow 16 exponent))], preambleOf categorized⟩

theorem isHeaderWord_powerText (exponent : Nat) :
    IsHeaderWord (String.ofList (Yaml.powerText exponent)) where
  ne_empty := by simp [Yaml.powerText]
  chars := by
    rw [String.toList_ofList]
    exact Yaml.forall_powerText (by decide) exponent

theorem outline_powerSlug (exponent : Nat) :
    outline (dropReturns (powerSlug exponent).toList) =
      .ok (powerHeader exponent, (splitSections (bodyLines categorized)).2) := by
  have isKey : "slug" ∈ headerKeys := by decide
  have is := isHeaderWord_powerText exponent
  have apart : String.ofList (Yaml.powerText exponent) ≠ "-" := by
    simp [Yaml.powerText, ← String.toList_inj]
  have read : (Yaml.Sheet.Scalar.plain (String.ofList (Yaml.powerText exponent)).toList).read =
      .ok (.int (Nat.pow 16 exponent)) := by
    rw [String.toList_ofList]
    exact Yaml.read_powerText exponent
  exact (outline_inFrontmatter isKey is (by decide +kernel)).mpr
    ⟨_, (frontmatterEntries_headerLine isKey is).mpr ⟨apart, _, read, rfl⟩, rfl, rfl⟩

/-- The slug can be written if the power has no more digits than are written. -/
theorem canWrite_powerHeader_iff {exponent : Nat} :
    (powerHeader exponent).CanWrite "slug" ↔
      Nat.pow 16 exponent < Nat.pow 10 Decimal.digitLimit := by
  have there : (powerHeader exponent).value? "slug" = some (.int (Nat.pow 16 exponent)) := rfl
  simp only [Header.CanWrite, there, Option.some.injEq, forall_eq', Value.IsWritable, Value.wholes,
    List.mem_singleton, forall_eq, Decimal.IsWritable, Int.natAbs_natCast]

/-- A caller who knows the identifier. -/
def knownIdentifier : Naming :=
  ⟨some ⟨"ask", by decide⟩, none, none⟩

theorem canWriteReplaced_knownIdentifier_iff :
    header.CanWriteReplaced knownIdentifier ↔ header.CanWrite "slug" := by
  constructor
  · intro canWrite
    exact canWrite "slug" rfl
  · intro canWrite key known
    unfold Naming.under at known
    split at known
    · exact canWrite
    all_goals cases known

/-- A slug that can be written gives way to the identifier that is known. -/
theorem naming_renames_template_iff_short :
    ∃ plain renamed,
      compile (powerSlug 1) (Naming.none.overrides (.text "ask.md")) = .ok plain ∧
        plain.identifier = some "16" ∧
        compile (powerSlug 1) (knownIdentifier.overrides (.text "ask.md")) = .ok renamed ∧
        RenamedBy knownIdentifier (isNameless (powerSlug 1)) plain renamed := by
  have named : (assemble (Digest.ofText (powerSlug 1)) (Naming.none.overrides (.text "ask.md"))
      (powerHeader 1) (bodyOf (splitSections (bodyLines categorized)).2)).toOption.any
        (·.identifier == some "16") = true := by
    decide +kernel
  rw [← compile_of_outline (outline_powerSlug 1)] at named
  obtain ⟨plain, compiled, identifier⟩ := exists_ok_of_any named
  have concurs := (naming_renames_template_iff (powerSlug 1) knownIdentifier (.text "ask.md")).1.mpr
    (by
      intro header there
      rw [headerOf?_of_outline (outline_powerSlug 1), Option.some.injEq] at there
      rw [← there, canWriteReplaced_knownIdentifier_iff, canWrite_powerHeader_iff]
      exact .inl (by decide +kernel))
  rw [compiled] at concurs
  obtain ⟨renamed, compiledToo, values⟩ := concurs.exists_of_ok
  exact ⟨plain, renamed, compiled, eq_of_beq identifier, compiledToo, values⟩

/-- An identifier that is known keeps a slug from being read that is too long to be written. -/
theorem naming_hides_long_slug :
    ¬ ∀ text naming sourceRef,
      Concurs (RenamedBy naming (isNameless text)) (compile text (Naming.none.overrides sourceRef))
        (compile text (naming.overrides sourceRef)) := by
  intro claim
  have same := claim (powerSlug 3600) knownIdentifier (.text "ask.md")
  have tooLong : ¬ (powerHeader 3600).CanWriteReplaced knownIdentifier := by
    rw [canWriteReplaced_knownIdentifier_iff, canWrite_powerHeader_iff]
    decide +kernel
  have succeeds : (assemble (Digest.ofText (powerSlug 3600))
      (knownIdentifier.overrides (.text "ask.md")) (powerHeader 3600)
      (bodyOf (splitSections (bodyLines categorized)).2)).isOk = true := by
    decide +kernel
  rw [compile_of_outline (outline_powerSlug 3600), compile_of_outline (outline_powerSlug 3600),
    assemble_eq_longNumber tooLong, Concurs.error_iff] at same
  rw [same] at succeeds
  cases succeeds

end Document

end Interview
