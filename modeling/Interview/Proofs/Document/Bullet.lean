import Interview.Document.Rule
import Interview.Proofs.Text.Margin
import Interview.Proofs.Value.Numeral
import Mathlib.Data.List.TakeDrop

/-!
# Bullets

A line may begin with a bullet, which is dropped with the blanks behind it. A text that does not
start with a bullet and a blank stays as it is.
-/

namespace Interview.Document

open Interview.Text

variable {bullet text rest : List Char} {c : Char}

/-- A mark, or digits of any script with a point or bracket. -/
inductive IsBullet : List Char → Prop where
  | mark {c : Char} (isMark : c = '-' ∨ c = '*' ∨ c = '+') : IsBullet [c]
  | number {digits : List Char} {c : Char} (some : digits ≠ [])
    (each : ∀ digit ∈ digits, isDigit digit = true) (closes : c = '.' ∨ c = ')') :
    IsBullet (digits ++ [c])

/-- A bullet and a blank stand at the start of a text. -/
def StartsWithBullet (text : List Char) : Prop :=
  ∃ bullet c rest, IsBullet bullet ∧ isBlank c = true ∧ text = bullet ++ c :: rest

namespace IsBullet

theorem isBlank_eq_false (is : IsBullet bullet) (member : c ∈ bullet) : isBlank c = false := by
  cases is with
  | mark isMark =>
      obtain rfl := List.mem_singleton.mp member
      rcases isMark with rfl | rfl | rfl <;> rfl
  | number _ each closes =>
      rcases List.mem_append.mp member with inside | last
      · exact isBlank_eq_false_of_isDigit (each c inside)
      · obtain rfl := List.mem_singleton.mp last
        rcases closes with rfl | rfl <;> rfl

theorem colon_notMem (is : IsBullet bullet) : ':' ∉ bullet := by
  intro member
  cases is with
  | mark isMark =>
      rw [← List.mem_singleton.mp member] at isMark
      exact absurd isMark (by decide)
  | number _ each closes =>
      rcases List.mem_append.mp member with inside | last
      · exact absurd (each ':' inside) (by decide)
      · rw [← List.mem_singleton.mp last] at closes
        exact absurd closes (by decide)

theorem ne_nil (is : IsBullet bullet) : bullet ≠ [] := by
  cases is with
  | mark _ => exact List.cons_ne_nil _ _
  | number _ _ _ => simp

end IsBullet

theorem span_append_closing {digits : List Char} (each : ∀ digit ∈ digits, isDigit digit = true)
    (closes : c = '.' ∨ c = ')') (rest : List Char) :
    (digits ++ c :: rest).span isDigit = (digits, c :: rest) := by
  have other : isDigit c = false := by
    rcases closes with rfl | rfl <;> rfl
  rw [List.span_eq_takeWhile_dropWhile, List.takeWhile_append_of_pos each,
    List.dropWhile_append_of_pos each]
  simp [other]

/-- A bullet is dropped with all blanks behind it. -/
theorem dropBullet_append (is : IsBullet bullet) (blank : isBlank c = true) (rest : List Char) :
    dropBullet (bullet ++ c :: rest) = dropStart isBlank (c :: rest) := by
  cases is with
  | mark isMark =>
      rcases isMark with rfl | rfl | rfl <;> simp [dropBullet, dropStart, blank]
  | @number digits closing some each closes =>
      obtain ⟨digit, others, rfl⟩ := List.exists_cons_of_ne_nil some
      have isDigit := each digit List.mem_cons_self
      have split := span_append_closing each closes (c :: rest)
      have unmarked : digit ≠ '-' ∧ digit ≠ '*' ∧ digit ≠ '+' := by
        refine ⟨?_, ?_, ?_⟩ <;> (rintro rfl; cases isDigit)
      rw [List.append_assoc, List.singleton_append]
      rcases closes with rfl | rfl <;> simp_all [dropBullet, dropStart]

/-- Digits that a point or a bracket closes are a bullet. -/
theorem exists_bullet_of_span {digit closing : Char} {digits : List Char}
    (split : text.span isDigit = (digit :: digits, closing :: rest))
    (closes : (closing == '.' || closing == ')') = true) :
    ∃ bullet, IsBullet bullet ∧ text = bullet ++ rest := by
  rw [List.span_eq_takeWhile_dropWhile, Prod.mk.injEq] at split
  obtain ⟨front, back⟩ := split
  have each : ∀ d ∈ digit :: digits, isDigit d = true := by
    rw [← front]
    exact fun d => List.mem_takeWhile_imp
  have isClosing : closing = '.' ∨ closing = ')' := by simpa using closes
  refine ⟨digit :: digits ++ [closing], .number (List.cons_ne_nil _ _) each isClosing, ?_⟩
  rw [List.append_assoc, List.singleton_append, ← front, ← back, List.takeWhile_append_dropWhile]

/-- A text that does not start with a bullet stays as it is. -/
theorem dropBullet_eq_self (none : ¬ StartsWithBullet text) : dropBullet text = text := by
  unfold dropBullet
  dsimp only
  split
  next c rest given =>
    have begins : ∃ bullet, IsBullet bullet ∧ text = bullet ++ c :: rest := by
      split at given
      next => cases given
      next first others =>
        split at given
        next isMark =>
          exact ⟨[first], .mark (by simpa [or_assoc] using isMark), by rw [given]; rfl⟩
        next =>
          split at given
          next digit digits closing more split =>
            split at given
            next closes => exact given ▸ exists_bullet_of_span split closes
            next => cases given
          next => cases given
    obtain ⟨bullet, is, whole⟩ := begins
    apply if_neg
    intro blank
    exact none ⟨bullet, c, rest, is, blank, whole⟩
  next => rfl

theorem StartsWithBullet.of_prefix (starts : StartsWithBullet text) (before : text <+: rest) :
    StartsWithBullet rest := by
  obtain ⟨bullet, c, more, is, blank, rfl⟩ := starts
  obtain ⟨behind, rfl⟩ := before
  exact ⟨bullet, c, more ++ behind, is, blank, by simp⟩

/-- A text starts with a bullet when something is dropped from it. -/
theorem startsWithBullet_iff : StartsWithBullet text ↔ dropBullet text ≠ text := by
  constructor
  · rintro ⟨bullet, c, rest, is, blank, rfl⟩ same
    rw [dropBullet_append is blank] at same
    have suffix : dropStart isBlank (c :: rest) <:+ c :: rest := List.dropWhile_suffix isBlank
    rw [same] at suffix
    have short := suffix.length_le
    have some := List.length_pos_of_ne_nil is.ne_nil
    rw [List.length_append] at short
    omega
  · intro changed
    by_contra none
    exact changed (dropBullet_eq_self none)

instance : DecidablePred StartsWithBullet :=
  fun _ => decidable_of_iff _ startsWithBullet_iff.symm

end Interview.Document
