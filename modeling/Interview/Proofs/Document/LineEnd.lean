import Interview.Proofs.Document.Digest
import Interview.Proofs.Text.Line

/-!
# Line ends of documents

A line ends in a line feed, before which a carriage return may stand. Documents that differ in such
carriage returns only are read as the same lines, so that they compile alike:
`line_ends_are_immaterial`. What their templates do not share comes from their digests.
-/

namespace Interview

namespace Text

variable {text other : List Char}

/-- A text with carriage returns put before some of its line feeds. -/
inductive AddsReturns : List Char → List Char → Prop where
  | nil : AddsReturns [] []
  | keep {text other : List Char} (c : Char) :
      AddsReturns text other → AddsReturns (c :: text) (c :: other)
  | feed {text other : List Char} :
      AddsReturns text other → AddsReturns ('\n' :: text) ('\r' :: '\n' :: other)

/-- The carriage returns that `dropReturns` drops can be put back. -/
theorem addsReturns_dropReturns (text : List Char) : AddsReturns (dropReturns text) text := by
  induction text using dropReturns.induct with
  | case1 rest ih => exact .feed ih
  | case2 c rest other ih =>
      rw [dropReturns.eq_2 c rest other]
      exact .keep c ih
  | case3 => exact .nil

/-- In a text without carriage returns, those that are put before line feeds are all dropped
again. -/
theorem AddsReturns.dropReturns_eq (adds : AddsReturns text other) (plain : '\r' ∉ text) :
    dropReturns other = text := by
  induction adds with
  | nil => rfl
  | keep c adds ih =>
      obtain ⟨isOther, plain⟩ := List.ne_and_not_mem_of_not_mem_cons plain
      rw [dropReturns, ih plain]
      intro rest isReturn
      exact absurd isReturn isOther.symm
  | feed adds ih => rw [dropReturns, ih (List.not_mem_of_not_mem_cons plain)]

/-- The texts that differ from a text without carriage returns in their line ends are those that
become it when the returns are dropped. -/
theorem addsReturns_iff (plain : '\r' ∉ text) :
    AddsReturns text other ↔ dropReturns other = text := by
  constructor
  · intro adds
    exact adds.dropReturns_eq plain
  · intro same
    rw [← same]
    exact addsReturns_dropReturns other

end Text

namespace Document

open Interview.Text

variable {overrides : Overrides} {text other : String}

/-- Documents with the same lines compile alike. -/
theorem compileAlike_of_dropReturns
    (same : dropReturns text.toList = dropReturns other.toList) :
    CompileAlike overrides text other := by
  rw [CompileAlike, compile_eq_assemble, compile_eq_assemble, same]
  apply Concurs.bind_same
  intro outlined
  exact concurs_assemble

end Document

open Document Text

/-- A document compiles alike whichever of its line ends have a carriage return: it is refused with
the same fault, or gives the same template, but for what that takes from the digest. -/
theorem line_ends_are_immaterial (text other : String) (overrides : Overrides)
    (plain : '\r' ∉ text.toList) (adds : AddsReturns text.toList other.toList) :
    CompileAlike overrides text other := by
  apply compileAlike_of_dropReturns
  rw [dropReturns_of_notMem plain, adds.dropReturns_eq plain]

namespace Document

/-- A document with line feeds alone. -/
def feedsOnly : String :=
  "---\nname: Ask\n---\n## Questions\n- {id: 1, phase: greet_frame, text: Who}\n"

/-- The same document with carriage returns around its frontmatter and at its end. -/
def someReturns : String :=
  "---\r\nname: Ask\n---\r\n## Questions\n- {id: 1, phase: greet_frame, text: Who}\r\n"

end Document

theorem line_ends_are_immaterial_someReturns :
    '\r' ∉ feedsOnly.toList ∧ AddsReturns feedsOnly.toList someReturns.toList ∧
      CompileAlike .none feedsOnly someReturns := by
  have plain : '\r' ∉ feedsOnly.toList := by decide
  have adds : AddsReturns feedsOnly.toList someReturns.toList :=
    (addsReturns_iff plain).mpr (by decide)
  exact ⟨plain, adds, line_ends_are_immaterial feedsOnly someReturns .none plain adds⟩

end Interview
