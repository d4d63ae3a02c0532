import Interview.Proofs.Value.Numeral
import Interview.Proofs.Yaml.Word

/-!
# Numbers that are written as they are read

Digits alone are read as a whole number, which is written without zeros in front. So they are
verbatim if they have none, and if they are not too many. A zero in front makes them octal, unless
there is a digit that is not: then they are a text.
-/

namespace Interview.Yaml

open Interview.Text

variable {c : Char} {word rest : List Char}

/-! ## Digits have no other meaning -/

theorem isWordChar_of_isAsciiDigit (digit : isAsciiDigit c = true) : isWordChar c = true := by
  simp only [isAsciiDigit, isWordChar, isNameChar, Bool.or_eq_true] at digit ⊢
  grind

theorem dropSign_of_digits (digits : ∀ c ∈ word, isAsciiDigit c = true) : dropSign word = word := by
  cases word with
  | nil => rfl
  | cons c rest =>
      have here := digits c List.mem_cons_self
      simp [dropSign, ne_of_class here (d := '+') rfl, ne_of_class here (d := '-') rfl]

theorem isBoolForm_of_digits (digits : ∀ c ∈ word, isAsciiDigit c = true) :
    isBoolForm word = false := by
  have letters : ∀ form ∈ boolWords, form.toList.all isAsciiDigit = false := by decide
  rw [← Bool.not_eq_true, isBoolForm_iff]
  intro among
  have letter := letters _ among
  rw [String.toList_ofList, List.all_eq_true.mpr digits] at letter
  cases letter

theorem isFloatForm_of_digits (digits : ∀ c ∈ word, isAsciiDigit c = true) :
    isFloatForm word = false := by
  have row : word.span isDigitOrLow = (word, []) :=
    span_of_forall fun c member => by simp [isDigitOrLow, digits c member]
  have whole : word.span (· != '.') = (word, []) :=
    span_of_forall fun c member => by simpa using ne_of_class (digits c member) (d := '.') rfl
  unfold isFloatForm
  simp only [dropSign_of_digits digits, row, whole]
  cases word with
  | nil => rfl
  | cons c rest =>
      simp [ne_of_class (digits c List.mem_cons_self) (d := '.') rfl]

/-- A moment has a hyphen behind its year. -/
theorem isMomentForm_of_digits (digits : ∀ c ∈ word, isAsciiDigit c = true) :
    isMomentForm word = false := by
  have noHyphen (count : Nat) : expect '-' (word.drop count) = none := by
    cases behind : word.drop count with
    | nil => rfl
    | cons c rest =>
        have member : c ∈ word := List.mem_of_mem_drop (by rw [behind]; exact List.mem_cons_self)
        simp [expect, ne_of_class (digits c member) (d := '-') rfl]
  have none : MomentText.read? word = none := by
    by_cases long : 4 ≤ ((word.take 4).takeWhile isAsciiDigit).length
    · simp [MomentText.read?, digitsBetween, long, noHyphen]
    · simp [MomentText.read?, digitsBetween, long]
  rw [isMomentForm, none]

/-- Digits are a number, or else a text. -/
theorem ofPlain_digits (some : word ≠ []) (digits : ∀ c ∈ word, isAsciiDigit c = true) :
    Tag.ofPlain word = if isIntForm word then .int else .text := by
  have chars : ∀ c ∈ word, isWordChar c = true :=
    fun c member => isWordChar_of_isAsciiDigit (digits c member)
  obtain ⟨c, rest, rfl⟩ := List.exists_cons_of_ne_nil some
  have here := digits c List.mem_cons_self
  have other {d : Char} (outside : isAsciiDigit d = false) : c ≠ d := ne_of_class here outside
  have notNull : isNullForm (c :: rest) = false := by
    simp [isNullForm, other (d := '~') rfl, other (d := 'n') rfl, other (d := 'N') rfl]
  simp [Tag.ofPlain, dropLastFeed_of_isWordChar chars, isBoolForm_of_digits digits,
    isFloatForm_of_digits digits, isMomentForm_of_digits digits, notNull, other (d := '<') rfl,
    other (d := '=') rfl, other (d := '!') rfl, other (d := '&') rfl, other (d := '*') rfl]

/-! ## What digits are read as -/

/-- Digits without a zero in front have the form of a number. -/
theorem isIntForm_of_digits (some : word ≠ []) (digits : ∀ c ∈ word, isAsciiDigit c = true)
    (lead : word.head? ≠ .some '0') : isIntForm word = true := by
  rw [isIntForm, dropSign_of_digits digits]
  split
  next => rfl
  next => exact absurd rfl lead
  next c rest _ _ =>
      obtain ⟨here, there⟩ := List.forall_mem_cons.mp digits
      have row : rest.all isDigitOrLow = true :=
        List.all_eq_true.mpr fun d member => by simp [isDigitOrLow, there d member]
      have above := Decimal.lt_toNat_of_ne_zero here fun zero => lead (congrArg Option.some zero)
      have bounds := Decimal.isAsciiDigit_bounds here
      have first : ('1' ≤ c && c ≤ '9') = true := by
        simp only [Char.le_def, UInt32.le_iff_toNat_le, Bool.and_eq_true, decide_eq_true_eq]
        change 49 ≤ c.toNat ∧ c.toNat ≤ 57
        omega
      rw [row, first]
      rfl
  next => exact absurd rfl some

/-- Digits without a zero in front are read as their number. -/
theorem readInt_digits (some : word ≠ []) (digits : ∀ c ∈ word, isAsciiDigit c = true)
    (lead : word.head? ≠ .some '0') :
    readInt word =
      if word.length ≤ Decimal.digitLimit then
        .ok (Decimal.ofDigits 10 (word.map (·.toNat - 48)))
      else .error (.scalar .unreadable) := by
  have kept : word.filter (· != '_') = word :=
    List.filter_eq_self.mpr fun c member => by
      simpa using ne_of_class (digits c member) (d := '_') rfl
  have noColon : word.contains ':' = false := by
    rw [← Bool.not_eq_true, List.contains_iff_mem]
    exact fun member => absurd (digits ':' member) (by decide)
  have magnitude : readMagnitude word = wholeIn 10 word := by
    unfold readMagnitude
    split
    case h_1 => exact absurd rfl some
    case h_6 => rw [if_neg (by simpa using noColon)]
    all_goals exact absurd rfl lead
  have given : word.isEmpty = false := by simpa using some
  simp only [readInt, kept, Decimal.splitSign_of_digits digits, given, magnitude, wholeIn,
    Decimal.readWhole_digits some digits, Bool.false_eq_true, if_false]
  by_cases fits : word.length ≤ Decimal.digitLimit
  · simp only [fits, if_true]
    rfl
  · simp only [fits, if_false]
    rfl

/-- Digits without a zero in front are verbatim if they are not too many. -/
theorem isVerbatim_iff_of_digits (some : word ≠ []) (digits : ∀ c ∈ word, isAsciiDigit c = true)
    (lead : word.head? ≠ .some '0') :
    IsVerbatim word ↔ word.length ≤ Decimal.digitLimit := by
  have tag := ofPlain_digits some digits
  rw [isIntForm_of_digits some digits lead, if_pos rfl] at tag
  have read : (Sheet.Scalar.plain word).read = (readInt word).map .int := by
    simp only [Sheet.Scalar.read, Sheet.Scalar.tag, Sheet.Scalar.content, tag]
    rfl
  have numeral := Decimal.toDigits_ofDigits digits some lead
  rw [IsVerbatim, read, readInt_digits some digits lead]
  by_cases fits : word.length ≤ Decimal.digitLimit
  · have text : (Value.int (Decimal.ofDigits 10 (word.map (·.toNat - 48)))).text? =
        .some (String.ofList word) := by
      rw [text?_int, Decimal.wholeText?_natCast, numeral, if_pos fits]
    rw [if_pos fits]
    exact iff_of_true ⟨_, rfl, text⟩ fits
  · rw [if_neg fits]
    refine iff_of_false ?_ fits
    rintro ⟨value, given, -⟩
    cases given

example : IsVerbatim ['0'] := ⟨.int 0, rfl, by decide +kernel⟩

/-- Digits behind a zero are octal if they can be. -/
theorem isIntForm_zero_iff (digits : ∀ c ∈ rest, isAsciiDigit c = true) :
    isIntForm ('0' :: rest) = true ↔ '8' ∉ rest ∧ '9' ∉ rest := by
  have octal {d : Char} (digit : isAsciiDigit d = true) :
      (('0' ≤ d && d ≤ '7') || d == '_') = true ↔ '8' ≠ d ∧ '9' ≠ d := by
    have bounds := Decimal.isAsciiDigit_bounds digit
    have plain : d ≠ '_' := ne_of_class digit rfl
    rw [ne_eq, ne_eq, ← Char.toNat_inj, ← Char.toNat_inj]
    simp only [plain, Char.le_def, UInt32.le_iff_toNat_le, Bool.or_eq_true, Bool.and_eq_true,
      decide_eq_true_eq, beq_iff_eq, or_false]
    change 48 ≤ d.toNat ∧ d.toNat ≤ 55 ↔ 56 ≠ d.toNat ∧ 57 ≠ d.toNat
    omega
  have form : isIntForm ('0' :: rest) =
      rest.all fun d => ('0' ≤ d && d ≤ '7') || d == '_' := by
    cases rest with
    | nil => rfl
    | cons c others =>
        have here := digits c List.mem_cons_self
        have noBase : (c == 'b') = false ∧ (c == 'x') = false :=
          ⟨beq_eq_false_iff_ne.mpr (ne_of_class here rfl),
            beq_eq_false_iff_ne.mpr (ne_of_class here rfl)⟩
        have sign : dropSign ('0' :: c :: others) = '0' :: c :: others := rfl
        simp only [isIntForm, sign, noBase, Bool.false_eq_true, if_false]
  rw [form, List.all_eq_true]
  constructor
  · intro all
    exact ⟨fun member => ((octal (digits _ member)).mp (all _ member)).1 rfl,
      fun member => ((octal (digits _ member)).mp (all _ member)).2 rfl⟩
  · rintro ⟨noEight, noNine⟩ d member
    exact (octal (digits d member)).mpr
      ⟨(ne_of_mem_of_not_mem member noEight).symm, (ne_of_mem_of_not_mem member noNine).symm⟩

/-- A zero in front keeps digits from being verbatim, unless they are not octal and so a text. -/
theorem isVerbatim_iff_of_zero (some : rest ≠ []) (digits : ∀ c ∈ rest, isAsciiDigit c = true) :
    IsVerbatim ('0' :: rest) ↔ '8' ∈ rest ∨ '9' ∈ rest := by
  have all : ∀ c ∈ '0' :: rest, isAsciiDigit c = true := List.forall_mem_cons.mpr ⟨rfl, digits⟩
  have tag := ofPlain_digits (List.cons_ne_nil '0' rest) all
  constructor
  · rintro ⟨value, read, written⟩
    by_contra octal
    rw [if_pos ((isIntForm_zero_iff digits).mpr (not_or.mp octal))] at tag
    have number : (readInt ('0' :: rest)).map Value.int = .ok value := by
      simpa [Sheet.Scalar.read, Sheet.Scalar.tag, Sheet.Scalar.content, tag, Tag.read] using read
    cases given : readInt ('0' :: rest) with
    | error fault =>
        rw [given] at number
        cases number
    | ok n =>
        rw [given] at number
        obtain rfl := Except.ok.inj number
        rw [text?_int] at written
        exact Decimal.wholeText?_ne_zero some written
  · intro found
    have noNumber : ¬ isIntForm ('0' :: rest) = true := by
      rw [isIntForm_zero_iff digits]
      exact fun octal => found.elim octal.1 octal.2
    rw [if_neg noNumber] at tag
    refine ⟨.text (String.ofList ('0' :: rest)), ?_, rfl⟩
    simp [Sheet.Scalar.read, Sheet.Scalar.tag, Sheet.Scalar.content, tag, Tag.read]

/-! ## Powers of sixteen -/

/-- A power of sixteen in hexadecimal form. -/
def powerText (exponent : Nat) : List Char :=
  "0x1".toList ++ List.replicate exponent '0'

/-- What holds of its mark holds of all its characters. -/
theorem forall_powerText {p : Char → Bool} (mark : "0x1".toList.all p = true) (exponent : Nat) :
    ∀ c ∈ powerText exponent, p c = true := by
  intro c member
  rcases List.mem_append.mp member with inMark | inZeros
  · exact List.all_eq_true.mp mark c inMark
  · rw [List.eq_of_mem_replicate inZeros]
    exact List.all_eq_true.mp mark '0' (by decide)

theorem groupedDigits_replicate (exponent : Nat) :
    Decimal.groupedDigits 16 true (List.replicate exponent '0') =
      some (List.replicate exponent 0, []) := by
  induction exponent with
  | zero => rfl
  | succ exponent ih =>
      have zero : Decimal.digitIn? 16 '0' = some 0 := by decide
      simp [List.replicate_succ, Decimal.groupedDigits, zero, ih]

theorem ofDigits_replicate (exponent : Nat) :
    Decimal.ofDigits 16 (1 :: List.replicate exponent 0) = Nat.pow 16 exponent := by
  have shifted (value : Nat) : (List.replicate exponent 0).foldl
      (fun value digit => value * 16 + digit) value = value * Nat.pow 16 exponent := by
    induction exponent generalizing value with
    | zero => simp
    | succ exponent ih =>
        rw [List.replicate_succ, List.foldl_cons, ih, Nat.add_zero, Nat.mul_assoc, Nat.mul_comm 16]
        rfl
  simp [Decimal.ofDigits, shifted]

theorem readWhole_powerText (exponent : Nat) :
    Decimal.readWhole 16 ('1' :: List.replicate exponent '0') = .ok (Nat.pow 16 exponent) := by
  have trimmed : strip isSpace ('1' :: List.replicate exponent '0') =
      '1' :: List.replicate exponent '0' := by
    refine strip_eq_self_of_forall fun c member => ?_
    rcases List.mem_cons.mp member with rfl | zero
    · decide
    · rw [List.eq_of_mem_replicate zero]
      decide
  have one : Decimal.digitIn? 16 '1' = some 1 := by decide
  have grouped : Decimal.groupedDigits 16 false ('1' :: List.replicate exponent '0') =
      some (1 :: List.replicate exponent 0, []) := by
    simp [Decimal.groupedDigits, one, groupedDigits_replicate]
  simp [Decimal.readWhole, trimmed, Decimal.splitSign, Decimal.dropAnnouncement, grouped,
    Decimal.isLimited, Decimal.withSign, ofDigits_replicate]

theorem ofPlain_powerText (exponent : Nat) : Tag.ofPlain (powerText exponent) = .int := by
  have chars : ∀ c ∈ powerText exponent, isWordChar c = true :=
    forall_powerText (by decide) exponent
  have notBool : isBoolForm (powerText exponent) = false := by
    have starts : ∀ form ∈ boolWords, form.toList.head? ≠ some '0' := by decide
    rw [← Bool.not_eq_true, isBoolForm_iff]
    intro among
    exact starts _ among (by rw [String.toList_ofList]; rfl)
  have noPoint : (powerText exponent).span (· != '.') = (powerText exponent, []) :=
    span_of_forall (forall_powerText (by decide) exponent)
  have notFloat : isFloatForm (powerText exponent) = false := by
    have unsigned : dropSign (powerText exponent) = powerText exponent := rfl
    unfold isFloatForm
    simp only [unsigned, noPoint]
    rfl
  have isInt : isIntForm (powerText exponent) = true := by
    have zero : (hexDigit? '0').isSome = true := by decide
    have one : (hexDigit? '1').isSome = true := by decide
    simp [isIntForm, powerText, dropSign, one, zero]
  have given : (powerText exponent).isEmpty = false := rfl
  simp [Tag.ofPlain, dropLastFeed_of_isWordChar chars, given, notBool, notFloat, isInt]

theorem readInt_powerText (exponent : Nat) :
    readInt (powerText exponent) = .ok (Nat.pow 16 exponent) := by
  have kept : (powerText exponent).filter (· != '_') = powerText exponent := by
    simp [powerText]
  have unsigned : Decimal.splitSign (powerText exponent) = (false, powerText exponent) := rfl
  have magnitude : readMagnitude (powerText exponent) = .ok (Nat.pow 16 exponent) := by
    simp [powerText, readMagnitude, wholeIn, readWhole_powerText]
  rw [readInt, kept, unsigned]
  simp only [magnitude]
  rfl

/-- A power of sixteen is read however long it is. -/
theorem read_powerText (exponent : Nat) :
    (Sheet.Scalar.plain (powerText exponent)).read = .ok (.int (Nat.pow 16 exponent)) := by
  simp only [Sheet.Scalar.read, Sheet.Scalar.tag, Sheet.Scalar.content, ofPlain_powerText, Tag.read,
    readInt_powerText]
  rfl

end Interview.Yaml
