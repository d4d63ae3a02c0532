import Interview.Proofs.Document.Outline
import Interview.Proofs.Text.Margin

/-!
# Sections that are kept

The scoring and the report of a template are the texts of their sections, which nothing here reads.
The lines of such a section are kept, but for the blank ones at both ends. They are not kept as they
are, however: the first line that is left loses its indentation, and the last one the blanks behind
it. `kept_section_is_verbatim_iff` says so, and that nothing else is lost.
-/

namespace Interview

open Interview.Text

namespace Document

variable {text : String} {overrides : Overrides} {template : Template} {own : List Line}

/-- The sections of which the text is kept. -/
inductive KeptSection where
  | scoring
  | report
deriving DecidableEq, Repr

namespace KeptSection

/-- The heading of the section, in lower case. -/
def name : KeptSection → String
  | scoring => "scoring"
  | report => "report"

/-- What a template has of the section. -/
def text? : KeptSection → Template → Option String
  | scoring => Template.scoring
  | report => Template.report

end KeptSection

/-! ## Lines under a heading -/

/-- Lines that are no headings stand in a document between a heading with the given name and the
next heading or the end. What stands before the heading has closed its frontmatter, if it has
one. -/
inductive HasSection (text : String) (name : String) (own : List Line) : Prop where
  | intro {start rest : List Line} {top : Line} {heading : List Char}
    (written : lines (dropReturns text.toList) = start ++ top :: (own ++ rest))
    (closed : Opening.ofLines start ≠ .unclosed)
    (isHeading : headingOf? top = some heading) (named : lower heading = name.toList)
    (plain : ∀ line ∈ own, headingOf? line = none)
    (ends : ∀ line ∈ rest.head?, headingOf? line ≠ none) : HasSection text name own

/-- The lines are the text of their section. -/
theorem HasSection.sectionText?_eq {name : String} {header : Header} {sections : List Section}
    (has : HasSection text name own)
    (outlined : outline (dropReturns text.toList) = .ok (header, sections)) :
    sectionText? name sections = some (unlines own) := by
  obtain @⟨start, rest, top, heading, written, closed, isHeading, named, plain, ends⟩ := has
  obtain ⟨entries, -, distinct, -, rfl⟩ :=
    (outline_section_eq_ok_iff written closed isHeading plain ends).mp outlined
  exact sectionText?_of_distinct named distinct

/-! ## What is kept of a section -/

theorem verbatim?_eq_some {content : List Char} (visible : isBlankText content = false) :
    verbatim? (some content) = some (String.ofList (trim content)) := by
  have some : trim content ≠ [] := by
    intro empty
    rw [trim_eq_nil_iff.mp empty] at visible
    cases visible
  obtain ⟨c, rest, split⟩ := List.exists_cons_of_ne_nil some
  simp only [verbatim?, Option.map_some, split]

theorem KeptSection.text?_of_compile (part : KeptSection)
    (compiled : compile text overrides = .ok template) :
    ∃ header sections, outline (dropReturns text.toList) = .ok (header, sections) ∧
      part.text? template = verbatim? (sectionText? part.name sections) := by
  obtain ⟨made, rfl⟩ := compile_eq_ok.mp compiled
  refine ⟨made.header, made.sections, made.outlined, ?_⟩
  cases part with
  | scoring => exact made.said.scoring
  | report => exact made.said.report

end Document

/-! ## Main result -/

open Document

/-- Of a section that is not blank a template keeps all lines but the blank ones at both ends,
without the blanks in front of the first and behind the last line. So it keeps these lines as they
are if and only if there are no such blanks. -/
theorem kept_section_is_verbatim_iff (part : KeptSection) (text : String) (overrides : Overrides)
    (template : Template) (own : List Line) (compiled : compile text overrides = .ok template)
    (placed : HasSection text part.name own) (visible : ∃ line ∈ own, isBlankText line = false) :
    part.text? template = some (String.ofList (unlines (flushLines (trimLines own)))) ∧
      (part.text? template = some (String.ofList (unlines (trimLines own))) ↔
        IsFlush (trimLines own)) := by
  obtain ⟨header, sections, outlined, kept⟩ := part.text?_of_compile compiled
  have shown : isBlankText (unlines own) = false := by
    obtain ⟨line, member, visible⟩ := visible
    rw [isBlankText_unlines, List.all_eq_false]
    exact ⟨line, member, by simp [visible]⟩
  have given : part.text? template =
      some (String.ofList (unlines (flushLines (trimLines own)))) := by
    rw [kept, placed.sectionText?_eq outlined, verbatim?_eq_some shown, trim_unlines]
  refine ⟨given, ?_⟩
  rw [given, Option.some.injEq, String.ofList_inj]
  exact unlines_flushLines_eq_iff (trimLines_trimLines own)

namespace Document

/-- A document with an empty line, an indented one and a blank at the end in its scoring. -/
def indented : String :=
  "## Questions\n- {id: 1, phase: greet_frame, text: Who}\n## Scoring\n\n  a: 1\n  b: 2 \n"

/-- The lines of its scoring. -/
def indentedLines : List Line :=
  ["".toList, "  a: 1".toList, "  b: 2 ".toList, "".toList]

theorem hasSection_indented : HasSection indented "scoring" indentedLines :=
  @HasSection.intro _ _ _ ["## Questions".toList, "- {id: 1, phase: greet_frame, text: Who}".toList]
    [] "## Scoring".toList "Scoring".toList
    (by decide) (by decide) (by decide) (by decide) (by decide) (by decide)

theorem visible_indentedLines : ∃ line ∈ indentedLines, isBlankText line = false :=
  ⟨"  a: 1".toList, by decide, by decide⟩

theorem exists_compile_indented :
    ∃ template, compile indented .none = .ok template ∧ template.scoring = some "a: 1\n  b: 2" := by
  have compiles : (compile indented .none).toOption.any
      (fun template => template.scoring == some "a: 1\n  b: 2") = true := by
    decide +kernel
  obtain ⟨template, compiled, kept⟩ := exists_ok_of_any compiles
  exact ⟨template, compiled, beq_iff_eq.mp kept⟩

end Document

theorem kept_section_is_verbatim_iff_indented :
    ∃ template, compile indented .none = .ok template ∧
      HasSection indented "scoring" indentedLines ∧
      (∃ line ∈ indentedLines, isBlankText line = false) ∧
      KeptSection.scoring.text? template =
        some (String.ofList (unlines (flushLines (trimLines indentedLines)))) ∧
      (KeptSection.scoring.text? template =
          some (String.ofList (unlines (trimLines indentedLines))) ↔
        IsFlush (trimLines indentedLines)) := by
  obtain ⟨template, compiled, -⟩ := exists_compile_indented
  have kept := kept_section_is_verbatim_iff .scoring indented .none template indentedLines compiled
    hasSection_indented visible_indentedLines
  exact ⟨template, compiled, hasSection_indented, visible_indentedLines, kept⟩

/-- The first line of a scoring is not always kept as it is: its indentation is lost, while that of
the line behind it stays. -/
theorem first_indentation_is_lost :
    ¬ ∀ text overrides template own, compile text overrides = .ok template →
      HasSection text "scoring" own → (∃ line ∈ own, isBlankText line = false) →
        template.scoring = some (String.ofList (unlines (trimLines own))) := by
  intro all
  obtain ⟨template, compiled, lost⟩ := exists_compile_indented
  have kept := all indented .none template indentedLines compiled hasSection_indented
    visible_indentedLines
  rw [lost] at kept
  exact absurd kept (by decide)

end Interview
