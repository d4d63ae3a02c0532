import Interview.Proofs.Document.Compile
import Interview.Proofs.Text.Line
import Interview.Proofs.Text.Trim

/-!
# Outlines of documents put together from parts

Lines behind a document that has opened belong to its body. In the body, lines that are no headings
stay where they are, and a heading starts a section with the lines behind it. Empty lines at the end
of a preamble, a list of phases or rules, or a text that is kept as it is say nothing.
-/

namespace Interview

open Interview.Text

namespace Text

variable {all : List (List Char)}

/-- An empty line at the end is trimmed. -/
theorem trim_unlines_blank (all : List (List Char)) (n : Nat) :
    trim (unlines (all ++ List.replicate n [])) = trim (unlines all) := by
  induction n with
  | zero => rw [List.replicate_zero, List.append_nil]
  | succ n ih =>
      rw [List.replicate_succ', ← List.append_assoc, ← ih]
      cases split : all ++ List.replicate n [] with
      | nil => rfl
      | cons line others =>
          rw [unlines_concat (List.cons_ne_nil line others), trim_append_of_blank rfl]

/-- The lines of a text put together from lines, of which there may be none. -/
theorem lines_unlines_or (inside : ∀ line ∈ all, '\n' ∉ line) :
    lines (unlines all) = all ∨ all = [] ∧ lines (unlines all) = [[]] := by
  cases all with
  | nil => exact .inr ⟨rfl, rfl⟩
  | cons line others => exact .inl (lines_unlines inside)

end Text

namespace Document

variable {line : Line} {heading : List Char} {before rest all : List Line}
variable {frontmatter rear : List Line}

/-! ## Sections -/

/-- Lines that are no headings stand before the first section or in the section before them. -/
theorem splitSections_append (plain : ∀ line ∈ before, headingOf? line = none)
    (rest : List Line) :
    splitSections (before ++ rest) =
      (before ++ (splitSections rest).1, (splitSections rest).2) := by
  induction before with
  | nil => rfl
  | cons line before ih =>
      obtain ⟨here, there⟩ := List.forall_mem_cons.mp plain
      simp [splitSections, here, ih there]

theorem splitSections_heading (is : headingOf? line = some heading) :
    splitSections (line :: rest) =
      ([], ⟨heading, (splitSections rest).1⟩ :: (splitSections rest).2) := by
  simp [splitSections, is]

/-- A heading ends the section before it. -/
theorem splitSections_append_heading (is : headingOf? line = some heading)
    (before rest : List Line) :
    splitSections (before ++ line :: rest) =
      ((splitSections before).1,
        (splitSections before).2 ++
          ⟨heading, (splitSections rest).1⟩ :: (splitSections rest).2) := by
  induction before with
  | nil => exact splitSections_heading is
  | cons first before ih =>
      rw [List.cons_append, splitSections, splitSections, ih]
      cases headingOf? first <;> rfl

/-- A heading starts a section that reaches to the next heading. -/
theorem splitSections_append_section {own : List Line} (is : headingOf? line = some heading)
    (plain : ∀ each ∈ own, headingOf? each = none)
    (ends : ∀ next ∈ rest.head?, headingOf? next ≠ none) (before : List Line) :
    splitSections (before ++ line :: (own ++ rest)) =
      ((splitSections before).1,
        (splitSections before).2 ++ ⟨heading, own⟩ :: (splitSections rest).2) := by
  have endsAtOnce : (splitSections rest).1 = [] := by
    cases rest with
    | nil => rfl
    | cons next rest =>
        obtain ⟨other, found⟩ := Option.ne_none_iff_exists'.mp (ends next rfl)
        rw [splitSections_heading found]
  rw [splitSections_append_heading is, splitSections_append plain, endsAtOnce, List.append_nil]

/-- A section is found by its name among sections with distinct names. -/
theorem sectionText?_of_distinct {name : String} {own : Section} {before after : List Section}
    (named : own.key = name.toList)
    (distinct : ((before ++ own :: after).map Section.key).Nodup) :
    sectionText? name (before ++ own :: after) = some own.text := by
  have absent : before.find? (fun part => part.key == name.toList) = none := by
    rw [List.map_append, List.map_cons, List.nodup_append] at distinct
    apply List.find?_eq_none.mpr
    intro part member same
    exact distinct.2.2 _ (List.mem_map_of_mem member) _ List.mem_cons_self
      ((beq_iff_eq.mp same).trans named.symm)
  rw [sectionText?, List.find?_append, absent, List.find?_cons, named, beq_self_eq_true]
  rfl

/-- No section comes twice if their names are distinct. -/
theorem repeatedSection?_eq_none_iff {sections : List Section} {seen : List (List Char)} :
    repeatedSection? seen sections = none ↔
      (sections.map Section.key).Nodup ∧ ∀ part ∈ sections, part.key ∉ seen := by
  induction sections generalizing seen with
  | nil => simp [repeatedSection?]
  | cons part sections ih =>
      rw [repeatedSection?, List.map_cons, List.nodup_cons, List.forall_mem_cons]
      split
      next old => simpa using fun _ _ new => absurd (List.contains_iff_mem.mp old) new
      next new =>
          have new : part.key ∉ seen := by simpa using new
          have apart : (∀ other ∈ sections, other.key ∉ part.key :: seen) ↔
              part.key ∉ sections.map Section.key ∧ ∀ other ∈ sections, other.key ∉ seen := by
            simp only [List.mem_cons, not_or, List.mem_map, not_exists, not_and, forall_and]
          rw [ih, apart]
          grind

/-! ## Openings -/

/-- A heading is no fence. -/
theorem isFence_of_headingOf? (is : headingOf? line = some heading) : isFence line = false := by
  unfold headingOf? at is
  split at is
  next begins => simp [isFence, begins]
  next => cases is

namespace Opening

/-- The lines behind the frontmatter, or all lines. -/
def body : Opening → List Line
  | .plain body => body
  | .fenced _ body => body
  | .unclosed => []

/-- The entries of the frontmatter, if there is one. -/
def entries : Opening → Except Fault (List (Value × Value))
  | .plain _ => .ok []
  | .fenced frontmatter _ => frontmatterEntries (unlines frontmatter)
  | .unclosed => refuse .openFrontmatter

/-- A beginning with more lines behind it. -/
def addLines (rest : List Line) : Opening → Opening
  | .plain body => .plain (body ++ rest)
  | .fenced frontmatter body => .fenced frontmatter (body ++ rest)
  | .unclosed => .unclosed

@[simp] theorem entries_addLines (opening : Opening) :
    (opening.addLines rest).entries = opening.entries := by
  cases opening <;> rfl

theorem body_addLines {opening : Opening} (closed : opening ≠ .unclosed) :
    (opening.addLines rest).body = opening.body ++ rest := by
  cases opening with
  | unclosed => exact absurd rfl closed
  | _ => rfl

end Opening

/-- The outline of a body behind the entries of a frontmatter. -/
def outlineFrom (entries : List (Value × Value)) (body : List Line) :
    Except Fault (Header × List Section) :=
  match repeatedSection? [] (splitSections body).2 with
  | some part => refuse (.repeatedSection (String.ofList part.heading))
  | none => .ok (⟨entries, Preamble.ofLines (splitSections body).1⟩, (splitSections body).2)

/-- The outline of a document is decided by how it opens. -/
theorem outline_eq {text : List Char} :
    outline text = (Opening.ofLines (lines text)).entries >>= fun entries =>
      outlineFrom entries (Opening.ofLines (lines text)).body := by
  unfold outline
  cases Opening.ofLines (lines text) with
  | plain body => rfl
  | fenced frontmatter body =>
      simp only [Opening.entries]
      cases frontmatterEntries (unlines frontmatter) <;> rfl
  | unclosed => rfl

theorem splitAtFence_append (split : splitAtFence all = some (frontmatter, rear)) :
    splitAtFence (all ++ rest) = some (frontmatter, rear ++ rest) := by
  induction all generalizing frontmatter with
  | nil => cases split
  | cons line all ih =>
      rw [splitAtFence] at split
      rw [List.cons_append, splitAtFence]
      cases fence : isFence line with
      | true =>
          rw [fence] at split
          cases split
          rfl
      | false =>
          simp only [fence, Bool.false_eq_true, if_false, Option.map_eq_some_iff, Prod.exists,
            Prod.mk.injEq] at split ⊢
          obtain ⟨lines, rest, split, rfl, rfl⟩ := split
          exact ⟨_, _, ih split, rfl, rfl⟩

/-- Lines behind a document that has opened belong to its body. -/
theorem Opening.ofLines_append (closed : Opening.ofLines all ≠ .unclosed)
    (noFence : all = [] → ∀ line ∈ rest.head?, isFence line = false) :
    Opening.ofLines (all ++ rest) = (Opening.ofLines all).addLines rest := by
  cases all with
  | nil =>
      cases rest with
      | nil => rfl
      | cons line rest =>
          have noFence := noFence rfl line rfl
          simp [Opening.ofLines, noFence, addLines]
  | cons line all =>
      rw [List.cons_append, Opening.ofLines, Opening.ofLines]
      rw [Opening.ofLines] at closed
      cases fence : isFence line with
      | false => rfl
      | true =>
          rw [fence] at closed
          cases split : splitAtFence all with
          | none => simp [split] at closed
          | some parts => simp [splitAtFence_append split, addLines]

/-- A heading behind a document that has opened belongs to its body. -/
theorem Opening.ofLines_append_heading (closed : Opening.ofLines all ≠ .unclosed)
    (is : headingOf? line = some heading) (rest : List Line) :
    Opening.ofLines (all ++ line :: rest) = (Opening.ofLines all).addLines (line :: rest) := by
  apply Opening.ofLines_append closed
  intro _ first begins
  obtain rfl : line = first := by simpa using begins
  exact isFence_of_headingOf? is

/-- The outline of a document that has some lines under a heading: they are a section of it, behind
those that have started before and in front of those that start later. -/
theorem outline_section_eq_ok_iff {text : List Char} {header : Header} {sections : List Section}
    {own : List Line} (written : lines text = before ++ line :: (own ++ rest))
    (closed : Opening.ofLines before ≠ .unclosed) (is : headingOf? line = some heading)
    (plain : ∀ each ∈ own, headingOf? each = none)
    (ends : ∀ next ∈ rest.head?, headingOf? next ≠ none) :
    outline text = .ok (header, sections) ↔
      ∃ entries, (Opening.ofLines before).entries = .ok entries ∧
        (sections.map Section.key).Nodup ∧
        header =
          ⟨entries, Preamble.ofLines (splitSections (Opening.ofLines before).body).1⟩ ∧
        sections =
          (splitSections (Opening.ofLines before).body).2 ++
            ⟨heading, own⟩ :: (splitSections rest).2 := by
  rw [outline_eq, written, Opening.ofLines_append_heading closed is, Opening.entries_addLines,
    Opening.body_addLines closed, bind_eq_ok]
  apply exists_congr
  intro entries
  rw [outlineFrom, splitSections_append_section is plain ends]
  apply and_congr_right
  intro _
  split
  next part repeated =>
      constructor
      · intro refused
        cases refused
      · rintro ⟨distinct, -, rfl⟩
        have none := repeatedSection?_eq_none_iff.mpr ⟨distinct, fun _ _ => List.not_mem_nil⟩
        rw [none] at repeated
        cases repeated
  next none =>
      have distinct := (repeatedSection?_eq_none_iff.mp none).1
      rw [Except.ok.injEq, Prod.mk.injEq]
      constructor
      · rintro ⟨rfl, rfl⟩
        exact ⟨distinct, rfl, rfl⟩
      · rintro ⟨-, rfl, rfl⟩
        exact ⟨rfl, rfl⟩

/-! ## Empty lines at the end -/

theorem Preamble.add_nil (preamble : Preamble) : preamble.add [] = preamble := by
  obtain ⟨title, values⟩ := preamble
  cases title <;> rfl

theorem Preamble.ofLines_blank (all : List Line) (n : Nat) :
    Preamble.ofLines (all ++ List.replicate n []) = Preamble.ofLines all := by
  rw [Preamble.ofLines, List.foldl_append, ← Preamble.ofLines]
  induction n with
  | zero => rfl
  | succ n ih => rw [List.replicate_succ, List.foldl_cons, Preamble.add_nil, ih]

/-- Lines are read one by one from a text that is put together from them, where nothing is read of
an empty one. -/
theorem filter_map_lines {α : Type} (read : Line → α) (keep : α → Bool)
    (dropped : keep (read []) = false) (inside : ∀ line ∈ all, '\n' ∉ line) :
    ((lines (unlines all)).map read).filter keep = (all.map read).filter keep := by
  obtain written | ⟨rfl, written⟩ := lines_unlines_or inside
  · rw [written]
  · simp [written, dropped]

theorem filter_map_lines_blank {α : Type} (read : Line → α) (keep : α → Bool)
    (dropped : keep (read []) = false) (inside : ∀ line ∈ all, '\n' ∉ line) (n : Nat) :
    ((lines (unlines (all ++ List.replicate n []))).map read).filter keep =
      ((lines (unlines all)).map read).filter keep := by
  have insideAll : ∀ line ∈ all ++ List.replicate n [], '\n' ∉ line := by
    intro line member
    rcases List.mem_append.mp member with here | blank
    · exact inside line here
    · simp [List.eq_of_mem_replicate blank]
  rw [filter_map_lines read keep dropped insideAll, filter_map_lines read keep dropped inside]
  simp [dropped]

theorem phasesOf_blank (inside : ∀ line ∈ all, '\n' ∉ line) (n : Nat) :
    phasesOf (unlines (all ++ List.replicate n [])) = phasesOf (unlines all) := by
  rw [phasesOf, phasesOf, filter_map_lines_blank trim isPhaseLine rfl inside]

theorem rulesOf_blank (inside : ∀ line ∈ all, '\n' ∉ line) (n : Nat) :
    rulesOf (unlines (all ++ List.replicate n [])) = rulesOf (unlines all) := by
  rw [rulesOf, rulesOf,
    filter_map_lines_blank (fun line => dropBullet (trim line)) isRuleLine rfl inside]

end Document

end Interview
