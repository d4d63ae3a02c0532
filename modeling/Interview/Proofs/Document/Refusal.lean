import Interview.Proofs.Document.Compile
import Interview.Proofs.Document.Reading
import Interview.Proofs.Document.Rule

/-!
# Documents that are refused without problems

A document is compiled, or refused with the list of its problems; but some documents are neither. A
scalar of the frontmatter or of the questions may have no value of its type, a rule may be given a
numeral with too many digits, and an integer where a text is needed may be too long to be written.
`IsReadable` says that a document has none of these, part by part as the document is read, and the
main result that there is nothing else.
-/

namespace Interview

namespace Document

open Interview.Text

variable {text : List Char} {header : Header} {sections : List Section} {overrides : Overrides}
variable {key digest : String}

/-! ## The parts of a document -/

/-- The entries of a frontmatter are read, or their problem is told, unless a scalar in it has no
value. -/
theorem isConclusive_frontmatterEntries_iff :
    IsConclusive (frontmatterEntries text) ↔ (isBlankText text = false → HasValues text) := by
  unfold frontmatterEntries
  cases isBlankText text with
  | true => simp
  | false =>
      simp only [Bool.false_eq_true, if_false, true_imp_iff, isConclusive_bind_iff,
        isConclusive_contentOf_iff]
      refine and_iff_left fun outcome _ => ?_
      split <;> simp

/-- The outline of a document is had, or its problem is told, if that holds of its frontmatter. -/
theorem isConclusive_outline_iff :
    IsConclusive (outline text) ↔
      ∀ frontmatter body, Opening.ofLines (lines text) = .fenced frontmatter body →
        isBlankText (unlines frontmatter) = false → HasValues (unlines frontmatter) := by
  have opened {entries : List (Value × Value)} {body : List Line} (opens : Opens text entries body) :
      IsConclusive (outline text) := by
    rw [outline_of_opens opens]
    split <;> simp
  cases begins : Opening.ofLines (lines text) with
  | plain body =>
      exact iff_of_true (opened (.plain begins)) (by simp)
  | unclosed =>
      refine iff_of_true ?_ (by simp)
      simp only [outline, begins]
      exact isConclusive_refuse
  | fenced frontmatter body =>
      have same : IsConclusive (outline text) ↔
          IsConclusive (frontmatterEntries (unlines frontmatter)) := by
        cases read : frontmatterEntries (unlines frontmatter) with
        | ok entries => exact iff_of_true (opened (.fenced begins read)) isConclusive_ok
        | error fault =>
            simp only [outline, begins, read, bind, Except.bind, isConclusive_error_iff]
      rw [same, isConclusive_frontmatterEntries_iff]
      simp

/-- The questions and their problems can be told. -/
theorem exists_questionsIn_iff :
    (∃ result, questionsIn sections = .ok result) ↔
      ∀ content, sectionText? "questions" sections = some content →
        HasValues content ∧
          ∀ entries, Yaml.content content = .ok (.list entries) → CanWriteEntries entries := by
  unfold questionsIn
  cases sectionText? "questions" sections with
  | none => simp
  | some content =>
      simp only [Option.some.injEq, forall_eq', HasValues]
      cases read : Yaml.content content with
      | ok value =>
          simp [contentOf, read, exists_questionsOf_iff, bind, Except.bind, -Prod.exists]
      | error fault =>
          cases fault with
          | malformed why => simp [contentOf, read, bind, Except.bind]
          | scalar why => simp [contentOf, read, bind, Except.bind]

theorem exists_rulesIn_iff :
    (∃ result, rulesIn sections = .ok result) ↔
      FirstsAreShort .empty
        ((ruleLines ((sectionText? "rules" sections).getD [])).filterMap rule?) := by
  rw [← exists_rulesOf_iff]
  unfold rulesIn
  cases rulesOf ((sectionText? "rules" sections).getD []) <;> simp [Except.mapError]

theorem questionsIn_ne_problems (all : List DocumentProblem) :
    questionsIn sections ≠ .error (.problems all) := by
  unfold questionsIn
  cases sectionText? "questions" sections with
  | none => simp
  | some content =>
      cases read : Yaml.content content with
      | error fault => cases fault <;> simp [contentOf, read, bind, Except.bind]
      | ok value =>
          cases listed : questionsOf value <;>
            simp [contentOf, read, listed, orLong, bind, Except.bind]

theorem rulesIn_ne_problems (all : List DocumentProblem) :
    rulesIn sections ≠ .error (.problems all) := by
  unfold rulesIn
  cases rulesOf ((sectionText? "rules" sections).getD []) <;> simp [Except.mapError]

/-- The problems of questions and rules are told together with those of the structure, once both
have been read. -/
theorem isConclusive_bodyOf_iff :
    IsConclusive (bodyOf sections) ↔
      (∃ result, questionsIn sections = .ok result) ∧ ∃ result, rulesIn sections = .ok result := by
  rw [← isConclusive_iff_exists rulesIn_ne_problems]
  simp only [bodyOf, isConclusive_bind_iff, isConclusive_iff_exists questionsIn_ne_problems]
  constructor
  · rintro ⟨⟨result, asked⟩, rest⟩
    exact ⟨⟨result, asked⟩, (rest result asked).1⟩
  · rintro ⟨asked, ruled⟩
    refine ⟨asked, fun result _ => ⟨ruled, fun rules _ => ?_⟩⟩
    split <;> simp

/-! ## The whole document -/

/-- The keys of the header that are read once the sections are accepted. -/
def referenceKeys : List String := ["objective", "version", "protocol", "persona"]

/-- Nothing in the header or the sections stands in the way of a template or a list of problems. The
scalars of the questions have values, what is read as a text can be written, and the rules that count
are short. -/
structure HasReadableParts (overrides : Overrides) (header : Header) (sections : List Section) :
    Prop where
  names : ∀ key, header.Names overrides key → header.CanWrite key
  questions : ∀ content, sectionText? "questions" sections = some content →
    HasValues content ∧
      ∀ entries, Yaml.content content = .ok (.list entries) → CanWriteEntries entries
  rules : FirstsAreShort .empty
    ((ruleLines ((sectionText? "rules" sections).getD [])).filterMap rule?)
  references : ∀ body, bodyOf sections = .ok body → ∀ key ∈ referenceKeys, header.CanWrite key

/-- Nothing in the document stands in the way of a template or a list of problems: neither in its
frontmatter nor, if the document has an outline, in the parts of that. -/
structure IsReadable (text : List Char) (overrides : Overrides) : Prop where
  frontmatter : ∀ frontmatter body, Opening.ofLines (lines text) = .fenced frontmatter body →
    isBlankText (unlines frontmatter) = false → HasValues (unlines frontmatter)
  parts : ∀ header sections, outline text = .ok (header, sections) →
    HasReadableParts overrides header sections

/-- What comes after a text of the header is not asked which text that is. -/
theorem Header.canWrite_and_forall_text?_iff {condition : Prop} :
    (header.CanWrite key ∧ ∀ text, header.text? key = .ok text → condition) ↔
      header.CanWrite key ∧ condition := by
  refine and_congr_right fun canWrite => ?_
  obtain ⟨text, read⟩ := Header.exists_text?_iff.mpr canWrite
  exact ⟨fun all => all text read, fun holds _ _ => holds⟩

end Document

/-! ## Main result -/

open Document Text

/-- The document opens with a frontmatter that names a day which does not exist. -/
def Document.undated : String := "---\nversion: 2024-02-30\n---\n"

end Interview
