import Interview.Text.Line

/-!
# Texts put together from lines

`lines` undoes `unlines` where no line holds a line feed, and `dropReturns` leaves a text without
carriage returns as it is. The lemmas about appended texts let a document be read part by part.
-/

namespace Interview.Text

variable {line : List Char} {text rest : List Char} {others : List (List Char)}

/-- Lines behind another one, each after its line feed. -/
def fedLines (lines : List (List Char)) : List Char :=
  lines.flatMap ('\n' :: ·)

@[simp] theorem fedLines_nil : fedLines [] = [] := rfl

@[simp] theorem fedLines_cons : fedLines (line :: others) = '\n' :: (line ++ fedLines others) := by
  simp [fedLines]

@[simp] theorem fedLines_append {first second : List (List Char)} :
    fedLines (first ++ second) = fedLines first ++ fedLines second := by
  simp [fedLines]

@[simp] theorem fedLines_blank (n : Nat) :
    fedLines (List.replicate n []) = List.replicate n '\n' := by
  induction n with
  | zero => rfl
  | succ n ih => rw [List.replicate_succ, fedLines_cons, ih, List.nil_append, List.replicate_succ]

theorem unlines_cons : unlines (line :: others) = line ++ fedLines others := by
  induction others generalizing line with
  | nil => simp [unlines]
  | cons next others ih => simp [unlines, ih]

theorem unlines_concat {all : List (List Char)} (some : all ≠ []) :
    unlines (all ++ [line]) = unlines all ++ '\n' :: line := by
  obtain ⟨first, others, rfl⟩ := List.exists_cons_of_ne_nil some
  simp [unlines_cons]

/-- A text put together from lines holds their characters and line feeds. -/
theorem eq_feed_or_mem_of_mem_unlines {c : Char} {lines : List (List Char)}
    (member : c ∈ unlines lines) : c = '\n' ∨ ∃ line ∈ lines, c ∈ line := by
  cases lines with
  | nil => cases member
  | cons line others =>
      rw [unlines_cons, List.mem_append, fedLines, List.mem_flatMap] at member
      rcases member with here | ⟨other, among, inside⟩
      · exact .inr ⟨line, List.mem_cons_self, here⟩
      · rcases List.mem_cons.mp inside with feed | inside
        · exact .inl feed
        · exact .inr ⟨other, List.mem_cons_of_mem line among, inside⟩

/-- A line feed separates the lines before it from those behind it. -/
theorem lines_append_feed : lines (text ++ '\n' :: rest) = lines text ++ lines rest := by
  induction text with
  | nil => simp [lines]
  | cons c text ih =>
      by_cases feed : c = '\n'
      · simp [lines, feed, ih]
      · cases split : lines text with
        | nil => exact absurd split (lines_ne_nil text)
        | cons first others => simp [lines, feed, ih, split]

theorem lines_of_notMem (inside : '\n' ∉ line) : lines line = [line] := by
  induction line with
  | nil => rfl
  | cons c line ih =>
      obtain ⟨here, there⟩ := List.ne_and_not_mem_of_not_mem_cons inside
      simp [lines, ih there, here.symm]

/-- No line holds a line feed. -/
theorem notMem_of_mem_lines (member : line ∈ lines text) : '\n' ∉ line := by
  induction text generalizing line with
  | nil =>
      rw [List.mem_singleton.mp member]
      exact List.not_mem_nil
  | cons c text ih =>
      rw [lines] at member
      split at member
      next =>
          rcases List.mem_cons.mp member with rfl | later
          · exact List.not_mem_nil
          · exact ih later
      next other =>
          have other : '\n' ≠ c := fun same => other (beq_iff_eq.mpr same.symm)
          cases split : lines text with
          | nil => exact absurd split (lines_ne_nil text)
          | cons first others =>
              rw [split] at member ih
              rcases List.mem_cons.mp member with rfl | later
              · exact List.not_mem_cons_of_ne_of_not_mem other (ih List.mem_cons_self)
              · exact ih (List.mem_cons_of_mem first later)

/-- The lines of a text are those that it was put together from. -/
theorem lines_unlines (inside : ∀ each ∈ line :: others, '\n' ∉ each) :
    lines (unlines (line :: others)) = line :: others := by
  induction others generalizing line with
  | nil => exact lines_of_notMem (inside line List.mem_cons_self)
  | cons next others ih =>
      have here := inside line List.mem_cons_self
      have there : ∀ each ∈ next :: others, '\n' ∉ each :=
        fun each member => inside each (List.mem_cons_of_mem line member)
      rw [unlines, lines_append_feed, lines_of_notMem here, ih there, List.singleton_append]

theorem dropReturns_append (inside : '\r' ∉ text) (rest : List Char) :
    dropReturns (text ++ rest) = text ++ dropReturns rest := by
  induction text with
  | nil => rfl
  | cons c text ih =>
      obtain ⟨here, there⟩ := List.ne_and_not_mem_of_not_mem_cons inside
      rw [List.cons_append, dropReturns, ih there, List.cons_append]
      rintro rest' rfl
      exact absurd rfl here

theorem dropReturns_of_notMem (inside : '\r' ∉ text) : dropReturns text = text := by
  simpa [dropReturns] using dropReturns_append inside []

/-- A text without line ends. -/
def IsLine (line : List Char) : Prop :=
  '\n' ∉ line ∧ '\r' ∉ line

instance (line : List Char) : Decidable (IsLine line) :=
  inferInstanceAs (Decidable (_ ∧ _))

theorem dropReturns_unlines {all : List (List Char)} (areLines : ∀ line ∈ all, IsLine line) :
    dropReturns (unlines all) = unlines all := by
  refine dropReturns_of_notMem fun inside => ?_
  rcases eq_feed_or_mem_of_mem_unlines inside with feed | ⟨line, among, inside⟩
  · cases feed
  · exact (areLines line among).2 inside

end Interview.Text
