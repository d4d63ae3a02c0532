import Interview.Text.Digit
import Interview.Text.Lower
import Mathlib.Data.List.Forall2

/-!
# Texts in lower case

Only two capitals have a lower-case form that depends on their place or is longer than they are. A
text without them is put into lower case character by character. Texts of the basic alphabet without
capitals stay as they are, and so do the digits of any script.
-/

namespace Interview.Text

variable {c : Char} {text letters : List Char}

theorem lowerFrom_of_forall₂ (before : List Char)
    (each : List.Forall₂ (fun c letter => c ≠ 'Σ' ∧ c ≠ 'İ' ∧ lowerChar c = letter) text letters) :
    lowerFrom before text = letters := by
  induction each generalizing before with
  | nil => rfl
  | cons here _ ih =>
      obtain ⟨noSigma, noDot, lowered⟩ := here
      simp [lowerFrom, noSigma, noDot, lowered, ih]

/-! ## The basic alphabet -/

/-- None of the two capitals is in the basic alphabet. -/
theorem lower_eq_map (basic : ∀ c ∈ text, c.toNat < 128) : lower text = text.map lowerChar := by
  apply lowerFrom_of_forall₂
  rw [List.forall₂_map_right_iff, List.forall₂_same]
  intro c member
  have basic := basic c member
  refine ⟨?_, ?_, rfl⟩ <;>
    (rintro rfl; exact absurd basic (by decide))

theorem lowerChar_eq_self (basic : c.toNat < 128) (noCapital : ¬ (65 ≤ c.toNat ∧ c.toNat ≤ 90)) :
    lowerChar c = c := by
  unfold lowerChar
  dsimp only
  rw [if_pos basic, if_neg noCapital]

/-- A text of the basic alphabet without capitals is in lower case. -/
theorem lower_eq_self
    (small : ∀ c ∈ text, c.toNat < 128 ∧ ¬ (65 ≤ c.toNat ∧ c.toNat ≤ 90)) : lower text = text := by
  calc
    lower text = text.map lowerChar := lower_eq_map fun c member => (small c member).1
    _ = text.map id :=
      List.map_congr_left fun c member => lowerChar_eq_self (small c member).1 (small c member).2
    _ = text := text.map_id

/-! ## Signs and digits -/

/-- The digits of a script lie together, apart from the letters that have a lower-case form. -/
theorem digitZeros_disjoint_lowerRuns :
    ∀ first ∈ digitZeros, ∀ run ∈ lowerRuns, first + 9 < run.first ∨ run.last < first := by
  decide +kernel

/-- Digits have no case. -/
theorem lowerChar_of_isDigit (digit : isDigit c = true) : lowerChar c = c := by
  unfold isDigit digit? at digit
  unfold lowerChar
  simp only at digit ⊢
  split
  next small =>
      rw [if_pos small] at digit
      split at digit
      next bounds => rw [if_neg (by omega)]
      next => cases digit
  next large =>
      rw [if_neg large, Option.isSome_map, List.find?_isSome] at digit
      obtain ⟨first, zero, among⟩ := digit
      have among : first ≤ c.toNat ∧ c.toNat ≤ first + 9 := by simpa using among
      have uncovered : lowerRuns.find? (·.covers c.toNat) = none := by
        refine List.find?_eq_none.mpr fun run member covered => ?_
        have bounds : run.first ≤ c.toNat ∧ c.toNat ≤ run.last := by
          simp only [CaseRun.covers, Bool.and_eq_true, decide_eq_true_eq] at covered
          exact covered.1
        rcases digitZeros_disjoint_lowerRuns first zero run member with before | after <;> omega
      rw [uncovered]

/-- A sign or a digit at the start of a text stays there in lower case. -/
theorem head?_lower (rest : List Char) (lead : c = '+' ∨ c = '-' ∨ isDigit c = true) :
    (lower (c :: rest)).head? = some c := by
  have plain : c ≠ 'Σ' ∧ c ≠ 'İ' ∧ lowerChar c = c := by
    rcases lead with rfl | rfl | digit
    · decide
    · decide
    · refine ⟨?_, ?_, lowerChar_of_isDigit digit⟩ <;>
        (rintro rfl; exact absurd digit (by decide))
  simp [lower, lowerFrom, plain]

end Interview.Text
