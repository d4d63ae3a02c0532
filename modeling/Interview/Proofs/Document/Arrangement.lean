import Interview.Proofs.Document.Digest
import Interview.Proofs.Document.Outline
import Interview.Proofs.Document.Written
import Mathlib.Data.List.Nodup

/-!
# The order of sections

A document is a front part, blocks that each start with a heading, and line feeds at the end. Its
sections are found by their names, so neither their order nor sections of other names matter, but
for one thing: the line feeds at the end of the document belong to the last block, and the text of a
question's option can depend on them. `arrangement_is_immaterial` says what holds,
`keepsQuestions_of_sheets` that questions in the form of a sheet are no exception, and
`last_section_matters` that the exception is real.
-/

namespace Interview

open Interview.Text Interview.Yaml

namespace Document

/-! ## Documents in blocks -/

/-- A heading and lines that are none. -/
structure Block where
  top : Line
  heading : List Char
  lines : List Line
  isHeading : headingOf? top = some heading
  plain : ∀ line ∈ lines, headingOf? line = none
  areLines : ∀ line ∈ top :: lines, IsLine line

namespace Block

/-- The name under which a block is known as a section. -/
def key (block : Block) : List Char :=
  lower block.heading

/-- All lines of a block. -/
def all (block : Block) : List Line :=
  block.top :: block.lines

/-- Whether a block is read. -/
def isKnown (block : Block) : Bool :=
  sectionNames.any (·.toList == block.key)

end Block

/-- What stands before the first block: a frontmatter that is closed, or none, and a preamble. -/
structure Front where
  lines : List Line
  closed : Opening.ofLines lines ≠ .unclosed
  plain : ∀ line ∈ (Opening.ofLines lines).body, headingOf? line = none
  areLines : ∀ line ∈ lines, IsLine line

namespace Front

/-- The entries of the frontmatter. -/
def entries (front : Front) : Except Fault (List (Value × Value)) :=
  (Opening.ofLines front.lines).entries

/-- What the preamble says. -/
def preamble (front : Front) : Preamble :=
  Preamble.ofLines (Opening.ofLines front.lines).body

end Front

variable {front : Front} {blocks others : List Block} {feeds : Nat} {name : String}
variable {overrides : Overrides} {template : Template}

/-- The lines of a document, with empty lines for the line feeds at its end. -/
def documentLines (front : Front) (blocks : List Block) (feeds : Nat) : List Line :=
  front.lines ++ (blocks.flatMap Block.all ++ List.replicate feeds [])

/-- A document of a front part and blocks, with line feeds at its end. -/
def document (front : Front) (blocks : List Block) (feeds : Nat) : String :=
  .ofList (unlines (documentLines front blocks feeds))

/-- The sections of a document. The last one has the empty lines at the end. -/
def sectionsOf (feeds : Nat) : List Block → List Section
  | [] => []
  | block :: blocks =>
    ⟨block.heading, block.lines ++ List.replicate (if blocks.isEmpty then feeds else 0) []⟩ ::
      sectionsOf feeds blocks

/-! ## The outline -/

theorem isLine_of_mem_documentLines {line : Line}
    (member : line ∈ documentLines front blocks feeds) : IsLine line := by
  rcases List.mem_append.mp member with inFront | later
  · exact front.areLines line inFront
  · rcases List.mem_append.mp later with inBlocks | blank
    · obtain ⟨block, -, inBlock⟩ := List.mem_flatMap.mp inBlocks
      exact block.areLines line inBlock
    · rw [List.eq_of_mem_replicate blank]
      exact ⟨List.not_mem_nil, List.not_mem_nil⟩

theorem dropReturns_document :
    dropReturns (document front blocks feeds).toList =
      unlines (documentLines front blocks feeds) := by
  rw [document, String.toList_ofList]
  exact dropReturns_unlines fun _ => isLine_of_mem_documentLines

/-- Only an empty document has a line more than it is made of. -/
theorem exists_lines_document (front : Front) (blocks : List Block) (feeds : Nat) :
    ∃ n, lines (unlines (documentLines front blocks feeds)) = documentLines front blocks n ∧
      (n = feeds ∨ blocks = []) := by
  obtain written | ⟨none, written⟩ :=
    lines_unlines_or fun line member => (isLine_of_mem_documentLines member).1
  · exact ⟨feeds, written, .inl rfl⟩
  · have empty := none
    rw [documentLines, List.append_eq_nil_iff, List.append_eq_nil_iff] at none
    obtain ⟨noFront, noLines, -⟩ := none
    have noBlocks : blocks = [] := by
      cases blocks with
      | nil => rfl
      | cons block blocks => cases noLines
    refine ⟨1, ?_, .inr noBlocks⟩
    rw [written, documentLines, noFront, noBlocks]
    rfl

theorem splitSections_blocks (feeds : Nat) (blocks : List Block) :
    splitSections (blocks.flatMap Block.all ++ List.replicate feeds []) =
      (List.replicate (if blocks.isEmpty then feeds else 0) [], sectionsOf feeds blocks) := by
  induction blocks with
  | nil =>
      have blank : ∀ line ∈ List.replicate feeds ([] : Line), headingOf? line = none := by
        intro line member
        rw [List.eq_of_mem_replicate member]
        rfl
      simpa [splitSections, sectionsOf] using splitSections_append blank []
  | cons block blocks ih =>
      rw [List.flatMap_cons, Block.all, List.cons_append, List.cons_append, List.append_assoc,
        splitSections_heading block.isHeading, splitSections_append block.plain, ih]
      rfl

theorem map_key_sectionsOf : (sectionsOf feeds blocks).map Section.key = blocks.map Block.key := by
  induction blocks with
  | nil => rfl
  | cons block blocks ih => rw [sectionsOf, List.map_cons, List.map_cons, ih]; rfl

/-- The lines of a document open as its front part does. -/
theorem ofLines_documentLines (front : Front) (blocks : List Block) (feeds : Nat) :
    Opening.ofLines (documentLines front blocks feeds) =
      (Opening.ofLines front.lines).addLines
        (blocks.flatMap Block.all ++ List.replicate feeds []) := by
  refine Opening.ofLines_append front.closed fun _ line first => ?_
  cases blocks with
  | nil =>
      have blank : line ∈ List.replicate feeds ([] : Line) := List.mem_of_head? first
      rw [List.eq_of_mem_replicate blank]
      rfl
  | cons block blocks =>
      obtain rfl : block.top = line := by simpa [Block.all] using first
      exact isFence_of_headingOf? block.isHeading

/-- The outline of a document depends on its front part and its sections only. -/
theorem outline_document (distinct : (blocks.map Block.key).Nodup) :
    outline (dropReturns (document front blocks feeds).toList) =
      front.entries >>= fun entries =>
        .ok (⟨entries, front.preamble⟩, sectionsOf feeds blocks) := by
  obtain ⟨n, written, isFeeds⟩ := exists_lines_document front blocks feeds
  have sameSections : sectionsOf n blocks = sectionsOf feeds blocks := by
    rcases isFeeds with rfl | rfl <;> rfl
  have apart : repeatedSection? [] (sectionsOf feeds blocks) = none :=
    repeatedSection?_eq_none_iff.mpr
      ⟨map_key_sectionsOf ▸ distinct, fun _ _ => List.not_mem_nil⟩
  have whole (entries : List (Value × Value)) :
      outlineFrom entries ((Opening.ofLines front.lines).body ++
          (blocks.flatMap Block.all ++ List.replicate n [])) =
        .ok (⟨entries, front.preamble⟩, sectionsOf feeds blocks) := by
    rw [outlineFrom, splitSections_append front.plain, splitSections_blocks, sameSections, apart,
      Preamble.ofLines_blank]
    rfl
  rw [dropReturns_document, outline_eq, written, ofLines_documentLines, Opening.entries_addLines,
    Opening.body_addLines front.closed]
  simp only [whole]
  rfl

/-! ## The sections -/

/-- Whether the last block has a name. -/
def endsIn (name : String) (blocks : List Block) : Bool :=
  blocks.getLast?.any (·.key == name.toList)

theorem endsIn_cons_of_ne_nil {block : Block} (some : blocks ≠ []) :
    endsIn name (block :: blocks) = endsIn name blocks := by
  obtain ⟨next, rest, rfl⟩ := List.exists_cons_of_ne_nil some
  rw [endsIn, endsIn, List.getLast?_cons_cons]

theorem endsIn_eq_false (absent : name.toList ∉ blocks.map Block.key) :
    endsIn name blocks = false := by
  cases last : blocks.getLast? with
  | none => rw [endsIn, last]; rfl
  | some block =>
      have other : block.key ≠ name.toList := fun same =>
        absent (same ▸ List.mem_map_of_mem (List.mem_of_getLast? last))
      simpa [endsIn, last] using other

/-- The lines of a section are found by its name. The last section has the empty lines at the end of
the document. -/
theorem find?_sectionsOf (distinct : (blocks.map Block.key).Nodup) (name : String) (feeds : Nat) :
    (sectionsOf feeds blocks).find? (·.key == name.toList) =
      (blocks.find? (·.key == name.toList)).map fun block =>
        ⟨block.heading,
          block.lines ++ List.replicate (if endsIn name blocks then feeds else 0) []⟩ := by
  induction blocks with
  | nil => rfl
  | cons block blocks ih =>
      obtain ⟨apart, distinct⟩ := List.nodup_cons.mp distinct
      have sameKey (lines : List Line) : Section.key ⟨block.heading, lines⟩ = block.key := rfl
      rw [sectionsOf, List.find?_cons, List.find?_cons, sameKey]
      cases isNamed : block.key == name.toList with
      | true =>
          have ends : endsIn name (block :: blocks) = blocks.isEmpty := by
            cases blocks with
            | nil => simpa [endsIn] using isNamed
            | cons next rest =>
                rw [endsIn_cons_of_ne_nil (List.cons_ne_nil next rest)]
                exact endsIn_eq_false (beq_iff_eq.mp isNamed ▸ apart)
          rw [ends]
          rfl
      | false =>
          cases blocks with
          | nil => rfl
          | cons next rest =>
              rw [endsIn_cons_of_ne_nil (List.cons_ne_nil next rest)]
              exact ih distinct

/-- The text of a section is found by its name. -/
theorem sectionText?_sectionsOf (distinct : (blocks.map Block.key).Nodup) (name : String)
    (feeds : Nat) :
    sectionText? name (sectionsOf feeds blocks) =
      (blocks.find? (·.key == name.toList)).map fun block =>
        unlines (block.lines ++ List.replicate (if endsIn name blocks then feeds else 0) []) := by
  rw [sectionText?, find?_sectionsOf distinct, Option.map_map]
  rfl

/-! ## Arrangements -/

/-- The same blocks that are read, in any order and among any others. -/
structure Rearranges (blocks others : List Block) : Prop where
  distinct : (blocks.map Block.key).Nodup
  distinctOthers : (others.map Block.key).Nodup
  known : (blocks.filter Block.isKnown).Perm (others.filter Block.isKnown)

theorem find?_key_eq_some_iff (distinct : (blocks.map Block.key).Nodup) {key : List Char}
    {block : Block} :
    blocks.find? (·.key == key) = some block ↔ block ∈ blocks ∧ block.key = key := by
  constructor
  · intro found
    exact ⟨List.mem_of_find?_eq_some found, by simpa using List.find?_some found⟩
  · rintro ⟨member, rfl⟩
    have there : (blocks.find? (·.key == block.key)).isSome :=
      List.find?_isSome.mpr ⟨block, member, by simp⟩
    obtain ⟨other, found⟩ := Option.isSome_iff_exists.mp there
    have sameKey : other.key = block.key := by simpa using List.find?_some found
    rw [found, List.inj_on_of_nodup_map distinct (List.mem_of_find?_eq_some found) member sameKey]

/-- Blocks that are read are found in every arrangement. -/
theorem Rearranges.find?_eq (rearranges : Rearranges blocks others) (known : name ∈ sectionNames) :
    blocks.find? (·.key == name.toList) = others.find? (·.key == name.toList) := by
  have isKnown {block : Block} (named : block.key = name.toList) : block.isKnown = true :=
    List.any_eq_true.mpr ⟨name, known, by simp [named]⟩
  ext block
  rw [find?_key_eq_some_iff rearranges.distinct, find?_key_eq_some_iff rearranges.distinctOthers]
  refine and_congr_left fun named => ?_
  have same : block ∈ blocks.filter Block.isKnown ↔ block ∈ others.filter Block.isKnown :=
    rearranges.known.mem_iff
  simpa [isKnown named] using same

/-! ## What the sections say -/

/-- A section that is read has the same lines in every arrangement, but for empty lines at the
end. -/
theorem Rearranges.sectionText?_cases (rearranges : Rearranges blocks others) (feeds : Nat)
    (known : name ∈ sectionNames) :
    sectionText? name (sectionsOf feeds blocks) = none ∧
        sectionText? name (sectionsOf feeds others) = none ∨
      ∃ (block : Block) (n m : Nat),
        sectionText? name (sectionsOf feeds blocks) =
            some (unlines (block.lines ++ List.replicate n [])) ∧
          sectionText? name (sectionsOf feeds others) =
            some (unlines (block.lines ++ List.replicate m [])) := by
  rw [sectionText?_sectionsOf rearranges.distinct,
    sectionText?_sectionsOf rearranges.distinctOthers, rearranges.find?_eq known]
  cases others.find? (·.key == name.toList) with
  | none => exact .inl ⟨rfl, rfl⟩
  | some block => exact .inr ⟨block, _, _, rfl, rfl⟩

theorem Block.noFeed (block : Block) : ∀ line ∈ block.lines, '\n' ∉ line :=
  fun line member => (block.areLines line (List.mem_cons_of_mem block.top member)).1

theorem Rearranges.phasesIn_eq (rearranges : Rearranges blocks others) (feeds : Nat) :
    phasesIn (sectionsOf feeds blocks) = phasesIn (sectionsOf feeds others) := by
  obtain ⟨none, noneToo⟩ | ⟨block, n, m, text, textToo⟩ :=
    rearranges.sectionText?_cases feeds (show "phases" ∈ sectionNames by decide)
  · rw [phasesIn, phasesIn, none, noneToo]
  · simp only [phasesIn, text, textToo, phasesOf_blank block.noFeed]

theorem Rearranges.rulesIn_eq (rearranges : Rearranges blocks others) (feeds : Nat) :
    rulesIn (sectionsOf feeds blocks) = rulesIn (sectionsOf feeds others) := by
  obtain ⟨none, noneToo⟩ | ⟨block, n, m, text, textToo⟩ :=
    rearranges.sectionText?_cases feeds (show "rules" ∈ sectionNames by decide)
  · rw [rulesIn, rulesIn, none, noneToo]
  · simp only [rulesIn, text, textToo, Option.getD_some, rulesOf_blank block.noFeed]

theorem Rearranges.verbatim?_eq (rearranges : Rearranges blocks others) (feeds : Nat)
    (known : name ∈ sectionNames) :
    verbatim? (sectionText? name (sectionsOf feeds blocks)) =
      verbatim? (sectionText? name (sectionsOf feeds others)) := by
  obtain ⟨none, noneToo⟩ | ⟨block, n, m, text, textToo⟩ :=
    rearranges.sectionText?_cases feeds known
  · rw [none, noneToo]
  · simp only [verbatim?, text, textToo, Option.map_some, trim_unlines_blank]

/-- The sections say the same if the questions do. -/
theorem Rearranges.bodyOf_eq (rearranges : Rearranges blocks others)
    (asked : questionsIn (sectionsOf feeds blocks) = questionsIn (sectionsOf feeds others)) :
    bodyOf (sectionsOf feeds blocks) = bodyOf (sectionsOf feeds others) := by
  simp only [bodyOf, rearranges.phasesIn_eq, asked, rearranges.rulesIn_eq,
    rearranges.verbatim?_eq feeds (show "scoring" ∈ sectionNames by decide),
    rearranges.verbatim?_eq feeds (show "report" ∈ sectionNames by decide)]

/-! ## Questions -/

/-- The questions that the lines of a section give. -/
def asked (lines : List Line) : Except Fault (List Question × List DocumentProblem) :=
  questionsIn [⟨"questions".toList, lines⟩]

theorem sectionText?_asked (lines : List Line) :
    sectionText? "questions" [⟨"questions".toList, lines⟩] = some (unlines lines) := by
  have named : (lower "questions".toList == "questions".toList) = true := by decide
  simp only [sectionText?, List.find?_cons, Section.key, named]
  rfl

theorem questionsIn_of_text {sections : List Section} {lines : List Line}
    (text : sectionText? "questions" sections = some (unlines lines)) :
    questionsIn sections = asked lines := by
  rw [asked, questionsIn, questionsIn, text, sectionText?_asked]

/-- The questions do not depend on where the line feeds at the end of the document go: there are
none, or they go to the questions in both arrangements or in neither, or the questions read the same
with them. Questions that are not YAML do not read the same, as the place of the fault can move with
the line feeds, and nothing is said of a scalar without a value, whose text can end in them. -/
def KeepsQuestions (blocks others : List Block) (feeds : Nat) : Prop :=
  feeds = 0 ∨ endsIn "questions" blocks = endsIn "questions" others ∨
    ∀ block ∈ blocks, block.key = "questions".toList →
      asked (block.lines ++ List.replicate feeds []) = asked block.lines ∧
        ∀ why, asked block.lines ≠ .error (.scalar why)

theorem questionsIn_sectionsOf (distinct : (blocks.map Block.key).Nodup) {block : Block}
    (found : blocks.find? (·.key == "questions".toList) = some block) (feeds : Nat) :
    questionsIn (sectionsOf feeds blocks) =
      asked (block.lines ++
        List.replicate (if endsIn "questions" blocks then feeds else 0) []) :=
  questionsIn_of_text (by rw [sectionText?_sectionsOf distinct, found, Option.map_some])

theorem questionsIn_sectionsOf_of_none (distinct : (blocks.map Block.key).Nodup)
    (absent : blocks.find? (·.key == "questions".toList) = none) (feeds : Nat) :
    questionsIn (sectionsOf feeds blocks) = .ok ([], [.noQuestions]) := by
  rw [questionsIn, sectionText?_sectionsOf distinct, absent, Option.map_none]

/-- What is said of every block of a name is said of the one that is found. -/
theorem forall_named_iff (distinct : (blocks.map Block.key).Nodup) {name : List Char} {block : Block}
    (found : blocks.find? (·.key == name) = some block) {holds : Block → Prop} :
    (∀ other ∈ blocks, other.key = name → holds other) ↔ holds block := by
  have unique {other : Block} : other ∈ blocks ∧ other.key = name ↔ other = block := by
    rw [← find?_key_eq_some_iff distinct, found, Option.some.injEq, eq_comm]
  constructor
  · intro each
    obtain ⟨member, named⟩ := unique.mpr rfl
    exact each block member named
  · intro here other member named
    rwa [unique.mp ⟨member, named⟩]

/-- The questions of an arrangement are those that its own lines give, with or without the line
feeds at the end, or there are none. -/
theorem Rearranges.questionsIn_cases (rearranges : Rearranges blocks others) (feeds : Nat) :
    (∀ block ∈ blocks, block.key ≠ "questions".toList) ∧
        questionsIn (sectionsOf feeds blocks) = .ok ([], [.noQuestions]) ∧
        questionsIn (sectionsOf feeds others) = .ok ([], [.noQuestions]) ∨
      ∃ block, blocks.find? (·.key == "questions".toList) = some block ∧
        questionsIn (sectionsOf feeds blocks) = asked (block.lines ++
          List.replicate (if endsIn "questions" blocks then feeds else 0) []) ∧
        questionsIn (sectionsOf feeds others) = asked (block.lines ++
          List.replicate (if endsIn "questions" others then feeds else 0) []) := by
  have same := rearranges.find?_eq (show "questions" ∈ sectionNames by decide)
  cases found : blocks.find? (·.key == "questions".toList) with
  | none =>
      refine .inl ⟨fun block member named => ?_,
        questionsIn_sectionsOf_of_none rearranges.distinct found feeds,
        questionsIn_sectionsOf_of_none rearranges.distinctOthers (same ▸ found) feeds⟩
      exact List.find?_eq_none.mp found block member (beq_iff_eq.mpr named)
  | some block =>
      exact .inr ⟨block, rfl, questionsIn_sectionsOf rearranges.distinct found feeds,
        questionsIn_sectionsOf rearranges.distinctOthers (same ▸ found) feeds⟩

theorem asked_none (lines : List Line) : asked (lines ++ List.replicate 0 []) = asked lines := by
  rw [List.replicate_zero, List.append_nil]

theorem Rearranges.questionsIn_eq (rearranges : Rearranges blocks others)
    (keeps : KeepsQuestions blocks others feeds) :
    questionsIn (sectionsOf feeds blocks) = questionsIn (sectionsOf feeds others) := by
  obtain ⟨-, none, noneToo⟩ | ⟨block, found, read, readToo⟩ :=
    rearranges.questionsIn_cases feeds
  · rw [none, noneToo]
  · rw [read, readToo]
    rcases keeps with rfl | sameEnd | readsSame
    · rw [ite_self, ite_self]
    · rw [sameEnd]
    · obtain ⟨readsSame, -⟩ := (forall_named_iff rearranges.distinct found).mp readsSame
      split <;> split <;> simp only [asked_none, readsSame]

/-- Arrangements with the same questions, in which no scalar lacks a value, keep them. -/
theorem Rearranges.keepsQuestions (rearranges : Rearranges blocks others)
    (same : questionsIn (sectionsOf feeds blocks) = questionsIn (sectionsOf feeds others))
    (valued : ∀ why, questionsIn (sectionsOf feeds blocks) ≠ .error (.scalar why)) :
    KeepsQuestions blocks others feeds := by
  obtain ⟨absent, -⟩ | ⟨block, found, read, readToo⟩ := rearranges.questionsIn_cases feeds
  · exact .inr (.inr fun block member named => absurd named (absent block member))
  · rw [KeepsQuestions, forall_named_iff rearranges.distinct found]
    rw [read, readToo] at same
    rw [read] at valued
    cases ends : endsIn "questions" blocks <;> cases endsToo : endsIn "questions" others
    case true.false =>
      simp only [ends, endsToo, if_true, Bool.false_eq_true, if_false, asked_none] at same valued
      exact .inr (.inr ⟨same, same ▸ valued⟩)
    case false.true =>
      simp only [ends, endsToo, if_true, Bool.false_eq_true, if_false, asked_none] at same valued
      exact .inr (.inr ⟨same.symm, valued⟩)
    all_goals exact .inr (.inl rfl)

/-- A sheet reads the same with line feeds at its end, so questions in this form are the same in
every arrangement. -/
theorem keepsQuestions_of_sheets {others : List Block} {feeds : Nat}
    (sheets : ∀ block ∈ blocks, block.key = "questions".toList →
      ∃ (entries : List Sheet.Entry) (values : List (List (String × Value))), entries ≠ [] ∧
        (∀ entry ∈ entries, entry.isSound = true) ∧
        List.Forall₂ Sheet.Entry.Reads entries values ∧ block.lines = Sheet.lines entries) :
    KeepsQuestions blocks others feeds := by
  refine .inr (.inr fun block member named => ?_)
  obtain ⟨entries, values, some, sound, reads, isSheet⟩ := sheets block member named
  have read (n : Nat) : asked (Sheet.lines entries ++ List.replicate n []) =
      orLong (questionsFrom 1 (values.map Value.ofEntries)) :=
    questionsIn_sheet some sound reads (sectionText?_asked _)
  have none := (asked_none _).symm.trans (read 0)
  rw [isSheet, read feeds, none]
  refine ⟨rfl, fun why faulty => ?_⟩
  cases given : questionsFrom 1 (values.map Value.ofEntries) with
  | error fault =>
      rw [given] at faulty
      cases faulty
  | ok questions =>
      rw [given] at faulty
      cases faulty

/-! ## Main result -/

theorem questionsIn_of_compile (distinct : (blocks.map Block.key).Nodup)
    (compiled : compile (document front blocks feeds) overrides = .ok template) :
    questionsIn (sectionsOf feeds blocks) = .ok (template.questions, []) := by
  obtain ⟨made, rfl⟩ := compile_eq_ok.mp compiled
  have outlined := made.outlined
  rw [outline_document distinct, bind_eq_ok] at outlined
  obtain ⟨entries, -, same⟩ := outlined
  obtain ⟨-, sections⟩ := Prod.mk.inj (Except.ok.inj same)
  rw [sections]
  exact made.said.questions

theorem Rearranges.compileAlike (rearranges : Rearranges blocks others)
    (keeps : KeepsQuestions blocks others feeds) :
    CompileAlike overrides (document front blocks feeds) (document front others feeds) := by
  have sameBody : bodyOf (sectionsOf feeds blocks) = bodyOf (sectionsOf feeds others) :=
    rearranges.bodyOf_eq (rearranges.questionsIn_eq keeps)
  rw [CompileAlike, compile_eq_assemble, compile_eq_assemble, outline_document rearranges.distinct,
    outline_document rearranges.distinctOthers, bind_assoc, bind_assoc]
  refine .bind_same fun entries => ?_
  simp only [bind, Except.bind, sameBody]
  exact concurs_assemble

end Document

open Document

/-- The order of the sections of a document does not matter, nor do sections that are not read,
unless a line feed at the end of the document comes to the questions or goes from them, and they do
not read the same with it. -/
theorem arrangement_is_immaterial (front : Front) (blocks others : List Block) (feeds : Nat)
    (overrides : Overrides) (rearranges : Rearranges blocks others) :
    (KeepsQuestions blocks others feeds →
      CompileAlike overrides (document front blocks feeds) (document front others feeds)) ∧
      ∀ template, compile (document front blocks feeds) overrides = .ok template →
        CompileAlike overrides (document front blocks feeds) (document front others feeds) →
          KeepsQuestions blocks others feeds := by
  refine ⟨rearranges.compileAlike, fun template compiled alike => ?_⟩
  rw [CompileAlike, compiled] at alike
  obtain ⟨other, compiledToo, same⟩ := alike.exists_of_ok
  have sameQuestions : other.questions = template.questions := same.questions
  have read := questionsIn_of_compile rearranges.distinct compiled
  have readToo := questionsIn_of_compile rearranges.distinctOthers compiledToo
  refine rearranges.keepsQuestions ?_ fun why faulty => ?_
  · rw [read, readToo, sameQuestions]
  · cases read.symm.trans faulty

namespace Document

/-- A document that says what it is called. -/
def slugFront : Front where
  lines := ["slug: demo".toList]
  closed := by decide
  plain := by decide
  areLines := by decide

def phasesBlock : Block where
  top := "## Phases".toList
  heading := "Phases".toList
  lines := ["- a".toList]
  isHeading := by decide
  plain := by decide
  areLines := by decide

/-- A section that is not read. -/
def notesBlock : Block where
  top := "## Notes".toList
  heading := "Notes".toList
  lines := []
  isHeading := by decide
  plain := by decide
  areLines := by decide

def wellQuestion : Question := ⟨"q", "a", "Well?", .singleChoice, some ["yes", "no"]⟩

/-- A section of questions in the form of a sheet. -/
def sheetBlock : Block where
  top := "## Questions".toList
  heading := "Questions".toList
  lines := Sheet.lines [questionEntry wellQuestion]
  isHeading := by decide
  plain := by decide
  areLines := by decide

end Document

theorem arrangement_is_immaterial_sample :
    Rearranges [phasesBlock, sheetBlock] [notesBlock, sheetBlock, phasesBlock] ∧
      endsIn "questions" [phasesBlock, sheetBlock] = true ∧
      endsIn "questions" [notesBlock, sheetBlock, phasesBlock] = false ∧
      KeepsQuestions [phasesBlock, sheetBlock] [notesBlock, sheetBlock, phasesBlock] 1 ∧
      CompileAlike .none (document slugFront [phasesBlock, sheetBlock] 1)
        (document slugFront [notesBlock, sheetBlock, phasesBlock] 1) := by
  have rearranges : Rearranges [phasesBlock, sheetBlock] [notesBlock, sheetBlock, phasesBlock] :=
    ⟨by decide, by decide, .swap sheetBlock phasesBlock []⟩
  have keeps :
      KeepsQuestions [phasesBlock, sheetBlock] [notesBlock, sheetBlock, phasesBlock] 1 := by
    refine keepsQuestions_of_sheets fun block member named => ?_
    rcases List.mem_cons.mp member with rfl | last
    · exact absurd named (by decide)
    · rw [List.mem_singleton.mp last]
      exact ⟨[questionEntry wellQuestion], [questionFields wellQuestion], List.cons_ne_nil _ _,
        by decide, .cons (reads_questionEntry rfl) .nil, rfl⟩
  exact ⟨rearranges, by decide, by decide, keeps,
    (arrangement_is_immaterial slugFront _ _ 1 .none rearranges).1 keeps⟩

namespace Document

/-- A question whose options are given line by line. The last one is the last line. -/
def optionsBlock : Block where
  top := "## QUESTIONS".toList
  heading := "QUESTIONS".toList
  lines := ["- id: q".toList, "  phase: a".toList, "  text: Well?".toList,
    "  options:".toList, "  - |".toList, "    yes".toList, "  - |".toList, "    no".toList]
  isHeading := by decide
  plain := by decide
  areLines := by decide

end Document

/-- Behind another section, the last option of a question has lost its line feed. -/
theorem last_section_matters :
    Rearranges [phasesBlock, optionsBlock] [optionsBlock, phasesBlock] ∧
      Rearranges [phasesBlock, optionsBlock] [phasesBlock, optionsBlock, notesBlock] ∧
      ¬ CompileAlike .none (document slugFront [phasesBlock, optionsBlock] 1)
        (document slugFront [optionsBlock, phasesBlock] 1) ∧
      ¬ CompileAlike .none (document slugFront [phasesBlock, optionsBlock] 1)
        (document slugFront [phasesBlock, optionsBlock, notesBlock] 1) := by
  have differs {others : List Block}
      (options : ((compile (document slugFront others 1) .none).toOption.map
        Template.questions).map (·.map Question.options) = some [some ["yes\n", "no"]]) :
      ¬ CompileAlike .none (document slugFront [phasesBlock, optionsBlock] 1)
        (document slugFront others 1) := by
    intro alike
    have kept : ((compile (document slugFront [phasesBlock, optionsBlock] 1) .none).toOption.map
        Template.questions).map (·.map Question.options) = some [some ["yes\n", "no\n"]] := by
      decide +kernel
    rw [alike.questions, kept] at options
    exact absurd options (by decide)
  refine ⟨⟨by decide, by decide, .swap optionsBlock phasesBlock []⟩,
    ⟨by decide, by decide, .refl _⟩, differs ?_, differs ?_⟩
  · decide +kernel
  · decide +kernel

end Interview
