import Interview.Proofs.Document.Outline

/-!
# How a document is divided

A document is divided at lines: the fences of its frontmatter, and the headings of its sections.
Each line of the body stands before the first heading or belongs to the heading before it, and none
is lost. The division is refused only where two headings have the same name: `lines_are_divided`.
-/

namespace Interview

open Interview.Text

namespace Document

variable {line : Line} {all body : List Line} {text : List Char}

/-! ## Fences -/

/-- A line of three hyphens between blanks. -/
def IsFence (line : Line) : Prop :=
  trim line = "---".toList

instance : DecidablePred IsFence :=
  fun _ => inferInstanceAs (Decidable (_ = _))

theorem isFence_eq_true_iff : isFence line = true ↔ IsFence line :=
  beq_iff_eq

/-- Lines are split at the first fence among them. -/
theorem exists_fence_of_splitAtFence {before after : List Line}
    (split : splitAtFence all = some (before, after)) :
    ∃ fence, all = before ++ fence :: after ∧ IsFence fence ∧ ∀ line ∈ before, ¬ IsFence line := by
  induction all generalizing before with
  | nil => cases split
  | cons line all ih =>
      rw [splitAtFence] at split
      by_cases fence : IsFence line
      · rw [if_pos (isFence_eq_true_iff.mpr fence)] at split
        cases split
        exact ⟨line, rfl, fence, by simp⟩
      · rw [if_neg (mt isFence_eq_true_iff.mp fence), Option.map_eq_some_iff] at split
        obtain ⟨⟨others, rest⟩, split, whole⟩ := split
        cases whole
        obtain ⟨first, rfl, isFirst, noFence⟩ := ih split
        exact ⟨first, rfl, isFirst, List.forall_mem_cons.mpr ⟨fence, noFence⟩⟩

theorem splitAtFence_eq_none_iff : splitAtFence all = none ↔ ∀ line ∈ all, ¬ IsFence line := by
  induction all with
  | nil => simp [splitAtFence]
  | cons line all ih =>
      rw [splitAtFence, List.forall_mem_cons, ← ih]
      by_cases fence : IsFence line
      · simp [isFence_eq_true_iff.mpr fence, fence]
      · simp [mt isFence_eq_true_iff.mp fence, fence]

namespace Opening

variable {first : Line} {rest : List Line}

/-- Without a fence at the start, all lines are the body. -/
theorem ofLines_of_not_isFence (plain : ¬ IsFence first) :
    ofLines (first :: rest) = .plain (first :: rest) := by
  rw [ofLines, if_neg (mt isFence_eq_true_iff.mp plain)]

/-- A text is left open by a fence at its start that no other one closes. -/
theorem ofLines_eq_unclosed_iff :
    ofLines all = .unclosed ↔
      ∃ first rest, all = first :: rest ∧ IsFence first ∧ ∀ line ∈ rest, ¬ IsFence line := by
  cases all with
  | nil => simp [ofLines]
  | cons first rest =>
      simp only [List.cons.injEq, existsAndEq, and_true, true_and]
      by_cases fence : IsFence first
      · rw [ofLines, if_pos (isFence_eq_true_iff.mpr fence), ← splitAtFence_eq_none_iff]
        cases splitAtFence rest <;> simp [fence]
      · simp [ofLines_of_not_isFence fence, fence]

end Opening

/-! ## Headings -/

/-- A line that begins with two number signs and a space, once the blanks around it are trimmed. -/
def IsHeading (line : Line) : Prop :=
  "## ".toList <+: trim line

instance : DecidablePred IsHeading :=
  fun _ => inferInstanceAs (Decidable (_ <+: _))

/-- What stands in a heading behind its number signs. -/
def headingText (line : Line) : List Char :=
  trim ((trim line).drop "## ".length)

/-- The name that a heading gives to its section. -/
def headingName (line : Line) : List Char :=
  lower (headingText line)

theorem headingOf?_eq_ite :
    headingOf? line = if IsHeading line then some (headingText line) else none := by
  unfold headingOf?
  split
  next heading begins =>
      rw [if_pos ⟨heading, begins.symm⟩, headingText, begins]
      rfl
  next other =>
      rw [if_neg]
      rintro ⟨heading, begins⟩
      exact other heading begins.symm

theorem headingOf?_eq_none_of_mem (plain : ∀ line ∈ all, ¬ IsHeading line) :
    ∀ line ∈ all, headingOf? line = none := by
  intro line member
  rw [headingOf?_eq_ite, if_neg (plain line member)]

/-! ## Divisions -/

/-- A heading with the lines that belong to it. -/
structure Part where
  top : Line
  own : List Line
  isHeading : IsHeading top
  plain : ∀ line ∈ own, ¬ IsHeading line

namespace Part

/-- The lines of a part, its heading first. -/
def lines (part : Part) : List Line :=
  part.top :: part.own

/-- A part as a section. -/
def toSection (part : Part) : Section :=
  ⟨headingText part.top, part.own⟩

theorem headingOf?_top (part : Part) : headingOf? part.top = some (headingText part.top) := by
  rw [headingOf?_eq_ite, if_pos part.isHeading]

end Part

/-- Lines divided at the headings among them: those before the first one, and each heading with its
own lines. -/
structure Division (body : List Line) where
  before : List Line
  parts : List Part
  plain : ∀ line ∈ before, ¬ IsHeading line
  whole : body = before ++ parts.flatMap Part.lines

namespace Division

/-- Lines can be divided at their headings. -/
def ofLines : (body : List Line) → Division body
  | [] => ⟨[], [], by simp, rfl⟩
  | line :: rest =>
    let others := ofLines rest
    if heading : IsHeading line then
      { before := []
        parts := ⟨line, others.before, heading, others.plain⟩ :: others.parts
        plain := by simp
        whole := by rw [List.flatMap_cons, Part.lines, List.nil_append, List.cons_append,
          ← others.whole] }
    else
      { before := line :: others.before
        parts := others.parts
        plain := List.forall_mem_cons.mpr ⟨heading, others.plain⟩
        whole := by rw [List.cons_append, ← others.whole] }

/-- The headings of the parts are the headings of the body. -/
theorem map_top_parts (division : Division body) :
    division.parts.map Part.top = body.filter (IsHeading ·) := by
  obtain ⟨before, parts, plain, rfl⟩ := division
  have noHeading : before.filter (IsHeading ·) = [] := by simpa using plain
  rw [List.filter_append, noHeading, List.nil_append]
  induction parts with
  | nil => rfl
  | cons part parts ih =>
      have own : part.own.filter (IsHeading ·) = [] := by simpa using part.plain
      rw [List.map_cons, ih, List.flatMap_cons, Part.lines, List.cons_append,
        List.filter_cons_of_pos (by simpa using part.isHeading), List.filter_append, own,
        List.nil_append]

theorem splitSections_parts (parts : List Part) :
    splitSections (parts.flatMap Part.lines) = ([], parts.map Part.toSection) := by
  induction parts with
  | nil => rfl
  | cons part parts ih =>
      -- The lines behind the part start with a heading, so none of them is added to it.
      rw [List.flatMap_cons, Part.lines, List.cons_append,
        splitSections_heading part.headingOf?_top,
        splitSections_append (headingOf?_eq_none_of_mem part.plain), ih, List.append_nil]
      rfl

/-- The sections of a body are the parts of its division. -/
theorem splitSections_eq (division : Division body) :
    splitSections body = (division.before, division.parts.map Part.toSection) := by
  obtain ⟨before, parts, plain, rfl⟩ := division
  rw [splitSections_append (headingOf?_eq_none_of_mem plain), splitSections_parts,
    List.append_nil]

end Division

/-- The names that the headings of a body give. -/
def headingNames (body : List Line) : List (List Char) :=
  (body.filter (IsHeading ·)).map headingName

/-- The names of the sections are those that the headings give. -/
theorem Division.map_key_parts (division : Division body) :
    (division.parts.map Part.toSection).map Section.key = headingNames body := by
  rw [headingNames, ← division.map_top_parts, List.map_map, List.map_map]
  rfl

/-- The outline of a body follows its division where its headings have different names. -/
theorem outlineFrom_of_nodup (division : Division body) (entries : List (Value × Value))
    (distinct : (headingNames body).Nodup) :
    outlineFrom entries body =
      .ok (⟨entries, Preamble.ofLines division.before⟩, division.parts.map Part.toSection) := by
  have first : repeatedSection? [] (division.parts.map Part.toSection) = none :=
    repeatedSection?_eq_none_iff.mpr
      ⟨division.map_key_parts ▸ distinct, fun _ _ => List.not_mem_nil⟩
  rw [outlineFrom, division.splitSections_eq, first]

/-- A body is refused only where two headings have the same name. -/
theorem exists_outlineFrom_refuse_iff (entries : List (Value × Value)) :
    (∃ heading, outlineFrom entries body = refuse (.repeatedSection heading)) ↔
      ¬ (headingNames body).Nodup := by
  have division := Division.ofLines body
  constructor
  · rintro ⟨heading, refused⟩ distinct
    rw [outlineFrom_of_nodup division entries distinct] at refused
    cases refused
  · intro twice
    cases found : repeatedSection? [] (splitSections body).2 with
    | some part => exact ⟨String.ofList part.heading, by rw [outlineFrom, found]⟩
    | none =>
        have distinct := (repeatedSection?_eq_none_iff.mp found).1
        rw [division.splitSections_eq, division.map_key_parts] at distinct
        exact absurd distinct twice

/-- The body of a text: the whole of it where it does not start with a fence, and otherwise the
lines behind the first fence that follows. -/
def IsBodyOf (body : List Line) (text : List Char) : Prop :=
  ∃ first rest, lines text = first :: rest ∧
    (¬ IsFence first → unlines body = text) ∧
    (IsFence first → ∃ frontmatter last, rest = frontmatter ++ last :: body ∧ IsFence last ∧
      ∀ line ∈ frontmatter, ¬ IsFence line)

theorem isBodyOf_of_entries {entries : List (Value × Value)}
    (read : (Opening.ofLines (lines text)).entries = .ok entries) :
    IsBodyOf (Opening.ofLines (lines text)).body text := by
  obtain ⟨first, rest, split⟩ := List.exists_cons_of_ne_nil (lines_ne_nil text)
  refine ⟨first, rest, split, ?_, ?_⟩
  · intro plain
    rw [split, Opening.ofLines_of_not_isFence plain, Opening.body, ← split, unlines_lines]
  · intro fence
    rw [split, Opening.ofLines, if_pos (isFence_eq_true_iff.mpr fence)] at read ⊢
    cases found : splitAtFence rest with
    | none =>
        rw [found] at read
        cases read
    | some parts =>
        obtain ⟨last, whole, closes, plain⟩ := exists_fence_of_splitAtFence found
        exact ⟨parts.1, last, whole, closes, plain⟩

end Document

open Document

/-! ## Main result -/

/-- The body of a text is what stands behind its frontmatter, or all of it, and is only missing
where the frontmatter is left open. However the body is divided at its headings, its sections are
the headings with their own lines, in this order, unless two of them have the same name. -/
theorem lines_are_divided :
    (∀ text entries, (Opening.ofLines (lines text)).entries = .ok entries →
      IsBodyOf (Opening.ofLines (lines text)).body text) ∧
    (∀ text, Opening.ofLines (lines text) = .unclosed ↔
      ∃ first rest, lines text = first :: rest ∧ IsFence first ∧ ∀ line ∈ rest, ¬ IsFence line) ∧
    (∀ entries body, Nonempty (Division body) ∧ ∀ division : Division body,
      division.parts.map Part.top = body.filter (IsHeading ·) ∧
      ((∃ heading, outlineFrom entries body = refuse (.repeatedSection heading)) ↔
        ¬ (headingNames body).Nodup) ∧
      ((headingNames body).Nodup → ∃ sections,
        outlineFrom entries body =
          .ok (⟨entries, Preamble.ofLines division.before⟩, sections) ∧
        sections.map (fun part => (part.key, part.text)) =
          division.parts.map fun part => (headingName part.top, unlines part.own))) ∧
    ∀ text, outline text = (Opening.ofLines (lines text)).entries >>= fun entries =>
      outlineFrom entries (Opening.ofLines (lines text)).body := by
  refine ⟨fun text entries => isBodyOf_of_entries, fun text => Opening.ofLines_eq_unclosed_iff, ?_,
    fun text => outline_eq⟩
  intro entries body
  refine ⟨⟨Division.ofLines body⟩, ?_⟩
  intro division
  refine ⟨division.map_top_parts, exists_outlineFrom_refuse_iff entries, ?_⟩
  intro distinct
  refine ⟨_, outlineFrom_of_nodup division entries distinct, ?_⟩
  rw [List.map_map]
  rfl

namespace Document

/-- A text with an empty frontmatter, a heading between blanks, a line that is nearly one, and a
section without lines. -/
def looselyHeaded : List Char :=
  "---\n ---\n# Ask\n\t## Phases  \n- a\n##Rules\n## Scoring\n## Report\n".toList

/-- The lines of that text behind the frontmatter. -/
def looselyHeadedBody : List Line :=
  ["# Ask", "\t## Phases  ", "- a", "##Rules", "## Scoring", "## Report", ""].map String.toList

end Document

theorem lines_are_divided_loosely :
    (Opening.ofLines (lines looselyHeaded)).entries = .ok [] ∧
      (Opening.ofLines (lines looselyHeaded)).body = looselyHeadedBody ∧
      IsBodyOf looselyHeadedBody looselyHeaded ∧
      (headingNames looselyHeadedBody).Nodup ∧
      ∃ header sections, outline looselyHeaded = .ok (header, sections) ∧
        sections.map (fun part => (part.key, part.text)) =
          [("phases".toList, "- a\n##Rules".toList), ("scoring".toList, []),
            ("report".toList, [])] := by
  have read : (Opening.ofLines (lines looselyHeaded)).entries = .ok [] := rfl
  have behind : (Opening.ofLines (lines looselyHeaded)).body = looselyHeadedBody := by decide
  have distinct : (headingNames looselyHeadedBody).Nodup := by decide
  obtain ⟨bodies, -, divided, together⟩ := lines_are_divided
  have isBody := bodies looselyHeaded [] read
  obtain ⟨-, -, outlined⟩ := (divided [] looselyHeadedBody).2 (Division.ofLines looselyHeadedBody)
  obtain ⟨sections, outlined, parts⟩ := outlined distinct
  have whole := together looselyHeaded
  rw [behind] at isBody
  rw [read, behind] at whole
  exact ⟨read, behind, isBody, distinct, _, sections, whole.trans outlined, parts.trans (by decide)⟩

end Interview
