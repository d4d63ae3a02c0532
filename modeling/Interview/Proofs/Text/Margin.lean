import Interview.Proofs.Text.Line
import Interview.Proofs.Text.Trim
import Mathlib.Data.List.ModifyLast

/-!
# Trimming a text by its lines

Trimming removes more than blank lines. Of a text that is put together from lines, the blank lines
at both ends go, and with them the indentation of the first line that is left and the blanks behind
the last one: `trim_unlines`. All other lines stay as they are. `unlines_flushLines_eq_iff` says
when nothing but blank lines is removed.
-/

namespace Interview.Text

variable {line text : List Char} {all : List (List Char)} {p : Char → Bool}

/-- Lines without the blank ones at both ends. -/
def trimLines (all : List (List Char)) : List (List Char) :=
  (all.dropWhile isBlankText).rdropWhile isBlankText

/-- Lines without the blanks in front of the first one and behind the last one. -/
def flushLines (all : List (List Char)) : List (List Char) :=
  (all.modifyHead (dropStart isBlank)).modifyLast (dropEnd isBlank)

/-- No blank stands in front of the first line or behind the last one. -/
structure IsFlush (all : List (List Char)) : Prop where
  starts : ∀ line ∈ all.head?, ∀ c ∈ line.head?, isBlank c = false
  ends : ∀ line ∈ all.getLast?, ∀ c ∈ line.getLast?, isBlank c = false

/-! ## Dropping from lines -/

/-- A line stays blank, or stays visible, without the blanks in front. -/
theorem isBlankText_dropStart (line : List Char) :
    isBlankText (dropStart isBlank line) = isBlankText line := by
  induction line with
  | nil => rfl
  | cons c line ih =>
      cases blank : isBlank c with
      | true => simpa [dropStart, isBlankText, blank] using ih
      | false => simp [dropStart, blank]

/-- The blanks in front of a text are its first blank lines, and those in front of the next
line. -/
theorem dropStart_unlines (all : List (List Char)) :
    dropStart isBlank (unlines all) =
      unlines ((all.dropWhile isBlankText).modifyHead (dropStart isBlank)) := by
  induction all with
  | nil => rfl
  | cons line others ih =>
      rw [unlines_cons, dropStart_append, ← isBlankText, List.dropWhile_cons]
      cases isBlankText line with
      | false => exact unlines_cons.symm
      | true =>
          cases others with
          | nil => rfl
          | cons next others =>
              rw [unlines_cons] at ih
              rw [fedLines_cons]
              exact ih

/-- The blanks behind a text are its last blank lines, and those behind the line before. -/
theorem dropEnd_unlines (all : List (List Char)) :
    dropEnd isBlank (unlines all) =
      unlines ((all.rdropWhile isBlankText).modifyLast (dropEnd isBlank)) := by
  induction all using List.reverseRecOn with
  | nil => rfl
  | append_singleton others line ih =>
      rw [List.rdropWhile_concat]
      cases others with
      | nil =>
          cases blank : isBlankText line with
          | false => rfl
          | true =>
              have none := dropEnd_append (p := isBlank) [] line
              rwa [← isBlankText, blank] at none
      | cons first others =>
          have feed : isBlankText ('\n' :: line) = isBlankText line := rfl
          rw [unlines_concat (List.cons_ne_nil first others), dropEnd_append, ← isBlankText, feed]
          cases blank : isBlankText line with
          | true => exact ih
          | false =>
              have kept : dropEnd isBlank ('\n' :: line) = '\n' :: dropEnd isBlank line := by
                have behind := dropEnd_append (p := isBlank) ['\n'] line
                rwa [← isBlankText, blank] at behind
              rw [kept, if_neg Bool.false_ne_true, if_neg Bool.false_ne_true,
                List.modifyLast_concat, unlines_concat (List.cons_ne_nil first others)]

/-- Changing the first item in a way that does not matter for dropping can wait. -/
theorem rdropWhile_modifyHead {α : Type} {p : α → Bool} {change : α → α}
    (keeps : ∀ item, p (change item) = p item) (items : List α) :
    (items.modifyHead change).rdropWhile p = (items.rdropWhile p).modifyHead change := by
  induction items using List.reverseRecOn with
  | nil => rfl
  | append_singleton others item ih =>
      cases others with
      | nil =>
          cases dropped : p item <;> simp [List.rdropWhile, keeps, dropped]
      | cons first others =>
          rw [List.cons_append, List.modifyHead_cons, ← List.cons_append, ← List.cons_append,
            List.rdropWhile_concat, List.rdropWhile_concat]
          cases p item with
          | true => exact ih
          | false => rfl

/-- A text is trimmed line by line. -/
theorem trim_unlines (all : List (List Char)) :
    trim (unlines all) = unlines (flushLines (trimLines all)) := by
  rw [trim, strip, dropStart_unlines, dropEnd_unlines, rdropWhile_modifyHead isBlankText_dropStart]
  rfl

/-! ## Texts that lose blank lines only -/

/-- The lines at the ends that are left are not blank. -/
theorem ends_trimLines (all : List (List Char)) :
    (∀ line, (trimLines all).head? = some line → isBlankText line = false) ∧
      ∀ line, (trimLines all).getLast? = some line → isBlankText line = false :=
  ends_rdropWhile_dropWhile isBlankText all

theorem trimLines_trimLines (all : List (List Char)) : trimLines (trimLines all) = trimLines all :=
  rdropWhile_dropWhile_eq_self_iff.mpr (ends_trimLines all)

theorem ne_nil_of_visible (visible : isBlankText line = false) : line ≠ [] := by
  rintro rfl
  cases visible

/-- A text begins as its first line does, if that is not blank. -/
theorem head?_unlines (visible : ∀ line, all.head? = some line → isBlankText line = false) :
    (unlines all).head? = all.head?.bind List.head? := by
  cases all with
  | nil => rfl
  | cons line others =>
      have some := ne_nil_of_visible (visible line rfl)
      rw [unlines_cons, List.head?_append_of_ne_nil _ some]
      rfl

/-- A text ends as its last line does, if that is not blank. -/
theorem getLast?_unlines (visible : ∀ line, all.getLast? = some line → isBlankText line = false) :
    (unlines all).getLast? = all.getLast?.bind List.getLast? := by
  cases all using List.reverseRecOn with
  | nil => rfl
  | append_singleton others line =>
      have some := ne_nil_of_visible (visible line List.getLast?_concat)
      obtain ⟨c, rest, rfl⟩ := List.exists_cons_of_ne_nil some
      rw [List.getLast?_concat, Option.bind_some]
      cases others with
      | nil => rfl
      | cons first others =>
          rw [unlines_concat (List.cons_ne_nil first others), List.getLast?_append_cons,
            List.getLast?_cons_cons]

/-- Nothing but blank lines is removed from a text when its lines are flush. -/
theorem unlines_flushLines_eq_iff (trimmed : trimLines all = all) :
    unlines (flushLines all) = unlines all ↔ IsFlush all := by
  obtain ⟨starts, ends⟩ := ends_trimLines all
  rw [trimmed] at starts ends
  have whole := trim_unlines all
  rw [trimmed] at whole
  rw [← whole, trim, strip_eq_self_iff, head?_unlines starts, getLast?_unlines ends]
  simp only [Option.bind_eq_some_iff]
  constructor
  · rintro ⟨begins, closes⟩
    exact
      { starts := fun line first c here => begins c ⟨line, first, here⟩
        ends := fun line last c here => closes c ⟨line, last, here⟩ }
  · intro flush
    constructor
    · rintro c ⟨line, first, here⟩
      exact flush.starts line first c here
    · rintro c ⟨line, last, here⟩
      exact flush.ends line last c here

/-- Lines that are not all blank give a text that is not. -/
theorem isBlankText_unlines (all : List (List Char)) :
    isBlankText (unlines all) = all.all isBlankText := by
  induction all with
  | nil => rfl
  | cons line others ih =>
      cases others with
      | nil => simp [unlines]
      | cons next others =>
          have feed : isBlank '\n' = true := rfl
          rw [unlines, isBlankText, List.all_append, List.all_cons, feed, Bool.true_and,
            ← isBlankText, ← isBlankText, ih, ← List.all_cons]

end Interview.Text
