import Interview.Decimal.Numeral
import Interview.Proofs.Text.Trim
import Mathlib.Data.List.Forall2

/-!
# Decimal numerals

A row of digits is read to its end, and a number that is written again gives the digits that it was
read from, unless there are zeros in front.
-/

namespace Interview

open Interview.Text

variable {c : Char}

theorem isBlank_of_isDigit (digit : c.isDigit = true) : isBlank c = false := by
  have bounds : 48 ≤ c.toNat ∧ c.toNat ≤ 57 := by
    simpa [Char.isDigit, UInt32.le_iff_toNat_le] using digit
  simp only [isBlank, isSpace, Bool.or_eq_false_iff, Bool.and_eq_false_iff,
    decide_eq_false_iff_not, beq_eq_false_iff_ne]
  omega

namespace Text

theorem digit?_lt {value : Nat} (digit : digit? c = some value) : value < 10 := by
  unfold digit? at digit
  simp only at digit
  split at digit
  · split at digit
    · cases digit
      omega
    · cases digit
  · obtain ⟨first, found, rfl⟩ := Option.map_eq_some_iff.mp digit
    have among := List.find?_some found
    simp only [Bool.and_eq_true, decide_eq_true_eq] at among
    omega

/-- The digits of a script lie apart from white space. -/
theorem digitZeros_disjoint_blanks :
    ∀ first ∈ digitZeros, 32 < first ∧ first + 9 < 0x85 ∨ 0xA0 < first ∧ first + 9 < 0x1680 ∨
      0x1680 < first ∧ first + 9 < 0x2000 ∨ 0x205F < first ∧ first + 9 < 0x3000 ∨
        0x3000 < first := by
  decide

theorem isBlank_eq_false_of_isDigit (digit : isDigit c = true) : isBlank c = false := by
  obtain ⟨value, digit⟩ := Option.isSome_iff_exists.mp digit
  have among : ∃ first ∈ digitZeros, first ≤ c.toNat ∧ c.toNat ≤ first + 9 := by
    unfold digit? at digit
    simp only at digit
    split at digit
    · split at digit
      next bounds => exact ⟨48, by decide, bounds⟩
      next => cases digit
    · obtain ⟨first, found, -⟩ := Option.map_eq_some_iff.mp digit
      exact ⟨first, List.mem_of_find?_eq_some found, by simpa using List.find?_some found⟩
  obtain ⟨first, zero, bounds⟩ := among
  have apart := digitZeros_disjoint_blanks first zero
  simp only [isBlank, isSpace, Bool.or_eq_false_iff, Bool.and_eq_false_iff,
    decide_eq_false_iff_not, beq_eq_false_iff_ne]
  omega

end Text

namespace Decimal

variable {text : List Char}

/-! ## Reading -/

/-- Digits of any script have their values, and nothing else has. -/
theorem exists_values_iff :
    (∃ values, List.Forall₂ (fun c value => digit? c = some value) text values) ↔
      ∀ c ∈ text, isDigit c = true := by
  constructor
  · rintro ⟨values, each⟩
    induction each with
    | nil => simp
    | cons here _ ih =>
        exact List.forall_mem_cons.mpr ⟨Option.isSome_iff_exists.mpr ⟨_, here⟩, ih⟩
  · intro digits
    induction text with
    | nil => exact ⟨[], .nil⟩
    | cons c rest ih =>
        obtain ⟨here, there⟩ := List.forall_mem_cons.mp digits
        obtain ⟨value, found⟩ := Option.isSome_iff_exists.mp here
        obtain ⟨values, each⟩ := ih there
        exact ⟨value :: values, .cons found each⟩

/-- A row of digits is read to its end, digit by digit. -/
theorem groupedDigits_of_forall₂ {values : List Nat} (afterDigit : Bool)
    (digits : List.Forall₂ (fun c value => digit? c = some value) text values)
    (some : text ≠ [] ∨ afterDigit = true) :
    groupedDigits 10 afterDigit text = .some (values, []) := by
  induction digits generalizing afterDigit with
  | nil =>
      obtain rfl : afterDigit = true := by simpa using some
      rfl
  | @cons c value rest values here _ ih =>
      have plain : c ≠ '_' := by
        rintro rfl
        cases here
      have read : digitIn? 10 c = .some value := by simp [digitIn?, here, digit?_lt here]
      simp [groupedDigits, plain, read, ih true (.inr rfl)]

/-- Decimal numerals are not announced. -/
theorem dropAnnouncement_ten : dropAnnouncement 10 text = text := by
  unfold dropAnnouncement
  split
  · rfl
  · rfl

/-- A sign and digits of any script are read as their number, unless the digits are too many. -/
theorem readWhole_of_splitSign {digits : List Char} {values : List Nat} {negative : Bool}
    (trimmed : strip isSpace text = text) (split : splitSign text = (negative, digits))
    (some : digits ≠ [])
    (each : List.Forall₂ (fun c value => digit? c = .some value) digits values) :
    readWhole 10 text =
      if digits.length ≤ digitLimit then .ok (withSign negative (ofDigits 10 values))
      else .error (.tooLong digits.length) := by
  have read := groupedDigits_of_forall₂ false each (.inl some)
  have limited : isLimited 10 = true := rfl
  simp only [readWhole, trimmed, split, dropAnnouncement_ten, read, limited, Bool.true_and,
    ← each.length_eq, decide_eq_true_eq, List.isEmpty_nil, if_true]
  by_cases fits : digits.length ≤ digitLimit
  · rw [if_neg (Nat.not_lt.mpr fits), if_pos fits]
  · rw [if_pos (Nat.lt_of_not_le fits), if_neg fits]

/-! ## Reading what is written -/

theorem isAsciiDigit_bounds (digit : isAsciiDigit c = true) : 48 ≤ c.toNat ∧ c.toNat ≤ 57 := by
  simpa [isAsciiDigit, Char.le_def, UInt32.le_iff_toNat_le] using digit

theorem lt_toNat_of_ne_zero (digit : isAsciiDigit c = true) (other : c ≠ '0') : 48 < c.toNat := by
  have bounds := isAsciiDigit_bounds digit
  have apart : c.toNat ≠ '0'.toNat := fun same => other (Char.toNat_inj.mp same)
  change c.toNat ≠ 48 at apart
  omega

theorem isDigit_of_isAsciiDigit (digit : isAsciiDigit c = true) : c.isDigit = true := by
  have bounds := isAsciiDigit_bounds digit
  simpa [Char.isDigit, UInt32.le_iff_toNat_le] using bounds

theorem digit?_of_isAsciiDigit (digit : isAsciiDigit c = true) : digit? c = some (c.toNat - 48) := by
  have bounds := isAsciiDigit_bounds digit
  simp [digit?, bounds, show c.toNat < 128 by omega]

theorem splitSign_of_digits (digits : ∀ c ∈ text, isAsciiDigit c = true) :
    splitSign text = (false, text) := by
  unfold splitSign
  split
  next rest => exact absurd (digits '-' List.mem_cons_self) (by decide)
  next rest => exact absurd (digits '+' List.mem_cons_self) (by decide)
  next => rfl

/-- Digits are read as their number, unless they are too many. -/
theorem readWhole_digits (some : text ≠ []) (digits : ∀ c ∈ text, isAsciiDigit c = true) :
    readWhole 10 text =
      if text.length ≤ digitLimit then .ok (ofDigits 10 (text.map (·.toNat - 48)))
      else .error (.tooLong text.length) := by
  have trimmed : strip isSpace text = text :=
    strip_eq_self_of_forall fun c member =>
      isSpace_of_isBlank (isBlank_of_isDigit (isDigit_of_isAsciiDigit (digits c member)))
  have each : List.Forall₂ (fun c value => digit? c = .some value) text
      (text.map (·.toNat - 48)) := by
    rw [List.forall₂_map_right_iff, List.forall₂_same]
    exact fun c member => digit?_of_isAsciiDigit (digits c member)
  exact readWhole_of_splitSign trimmed (splitSign_of_digits digits) some each

/-- The character of a digit's value is the digit. -/
theorem digitChar_of_isAsciiDigit (digit : isAsciiDigit c = true) :
    Nat.digitChar (c.toNat - 48) = c := by
  have chars : ∀ value < 10, Nat.digitChar value = Char.ofNat (value + 48) := by decide
  have bounds := isAsciiDigit_bounds digit
  rw [chars (c.toNat - 48) (by omega), Nat.sub_add_cancel bounds.1, Char.ofNat_toNat]

/-- Digits behind a number that is not zero are written behind its own. -/
theorem toDigits_foldl {before : Nat} (positive : 0 < before)
    (digits : ∀ c ∈ text, isAsciiDigit c = true) :
    Nat.toDigits 10 ((text.map (·.toNat - 48)).foldl (fun value digit => value * 10 + digit) before) =
      Nat.toDigits 10 before ++ text := by
  induction text generalizing before with
  | nil => simp
  | cons c text ih =>
      obtain ⟨here, there⟩ := List.forall_mem_cons.mp digits
      have bounds := isAsciiDigit_bounds here
      have small : c.toNat - 48 < 10 := by omega
      have next : 0 < before * 10 + (c.toNat - 48) := by omega
      rw [List.map_cons, List.foldl_cons, ih next there, Nat.mul_comm before,
        ← Nat.toDigits_append_toDigits (by decide) positive small, Nat.toDigits_of_lt_base small,
        digitChar_of_isAsciiDigit here, List.append_assoc, List.singleton_append]

/-- Digits without a zero in front are those of their number. -/
theorem toDigits_ofDigits (digits : ∀ c ∈ text, isAsciiDigit c = true) (some : text ≠ [])
    (lead : text.head? ≠ .some '0') :
    Nat.toDigits 10 (ofDigits 10 (text.map (·.toNat - 48))) = text := by
  obtain ⟨c, rest, rfl⟩ := List.exists_cons_of_ne_nil some
  obtain ⟨here, there⟩ := List.forall_mem_cons.mp digits
  have bounds := isAsciiDigit_bounds here
  have small : c.toNat - 48 < 10 := by omega
  have positive : 0 < c.toNat - 48 := by
    have above := lt_toNat_of_ne_zero here fun zero => lead (congrArg Option.some zero)
    omega
  rw [List.map_cons, ofDigits, List.foldl_cons, Nat.zero_mul, Nat.zero_add,
    toDigits_foldl positive there, Nat.toDigits_of_lt_base small, digitChar_of_isAsciiDigit here]
  rfl

/-- A number is that of the digits with which it is written. -/
theorem exists_values_toDigits (n : Nat) :
    ∃ values, List.Forall₂ (fun c value => digit? c = some value) (Nat.toDigits 10 n) values ∧
      ofDigits 10 values = n := by
  have chars : ∀ value < 10, digit? (Nat.digitChar value) = some value := by decide
  induction n using Nat.strongRecOn with
  | ind n ih =>
      by_cases small : n < 10
      · rw [Nat.toDigits_of_lt_base small]
        exact ⟨[n], .cons (chars n small) .nil, by simp [ofDigits]⟩
      · obtain ⟨values, each, isNumber⟩ := ih (n / 10) (by omega)
        have last : n % 10 < 10 := by omega
        rw [Nat.toDigits_of_base_le (by decide) (Nat.le_of_not_lt small)]
        refine ⟨values ++ [n % 10], List.rel_append each (.cons (chars _ last) .nil), ?_⟩
        rw [ofDigits, List.foldl_append, ← ofDigits, isNumber, List.foldl_cons, List.foldl_nil]
        omega

/-- A number that is not zero is written without a zero in front. -/
theorem head?_toDigits {n : Nat} (positive : 0 < n) : (Nat.toDigits 10 n).head? ≠ some '0' := by
  induction n using Nat.strongRecOn with
  | ind n ih =>
      by_cases small : n < 10
      · have chars : ∀ value < 10, Nat.digitChar value = '0' → value = 0 := by decide
        rw [Nat.toDigits_of_lt_base small, List.head?_cons, ne_eq, Option.some.injEq]
        intro zero
        have none := chars n small zero
        omega
      · rw [Nat.toDigits_of_base_le (by decide) (Nat.le_of_not_lt small),
          List.head?_append_of_ne_nil _ Nat.toDigits_ne_nil]
        exact ih (n / 10) (by omega) (by omega)

/-- A natural number is written with its digits, unless they are too many. -/
theorem wholeText?_natCast (n : Nat) :
    wholeText? n =
      if (Nat.toDigits 10 n).length ≤ digitLimit then some (String.ofList (Nat.toDigits 10 n))
      else none := by
  have fits := @Nat.length_toDigits_le_iff 10 n digitLimit (by decide) (by decide)
  rw [← Nat.pow_eq] at fits
  rw [wholeText?, Int.natAbs_natCast, ← Nat.repr_eq_ofList_toDigits]
  generalize Nat.pow 10 digitLimit = bound at fits ⊢
  by_cases small : n < bound
  · rw [if_pos small, if_pos (fits.mpr small)]
    rfl
  · rw [if_neg small, if_neg (mt fits.mp small)]

/-- No number is written with a zero in front of other characters. -/
theorem wholeText?_ne_zero {n : Int} (some : text ≠ []) :
    wholeText? n ≠ .some (String.ofList ('0' :: text)) := by
  intro written
  cases n with
  | ofNat n =>
      rw [Int.ofNat_eq_natCast, wholeText?_natCast, Option.ite_none_right_eq_some,
        Option.some.injEq, String.ofList_inj] at written
      obtain ⟨-, digits⟩ := written
      cases n with
      | zero =>
          rw [Nat.toDigits_zero, List.cons.injEq] at digits
          exact some digits.2.symm
      | succ n =>
          have lead := head?_toDigits (Nat.succ_pos n)
          rw [digits] at lead
          exact lead rfl
  | negSucc n =>
      rw [wholeText?, Option.ite_none_right_eq_some, Option.some.injEq] at written
      have begins : (toString (Int.negSucc n)).toList.head? = .some '-' := by
        change ("-" ++ (n + 1).repr).toList.head? = .some '-'
        rw [String.toList_append]
        rfl
      rw [written.2, String.toList_ofList] at begins
      cases begins

end Decimal

end Interview
