import Interview.Document.Header
import Interview.Proofs.Yaml.Verbatim
import Mathlib.Data.List.TakeDrop
import Mathlib.Data.List.TakeWhile

/-!
# The types of words

A plain scalar that starts with a letter is a text, unless it is one of the words for truth values
or for the absent value.
-/

namespace Interview.Yaml

open Interview.Document (isLetter)
open Interview.Text (isAsciiDigit)

variable {c d : Char} {word : List Char}

/-- A word: a letter, and letters, digits and underscores after it. -/
def isWord : List Char → Bool
  | [] => false
  | c :: rest => isLetter c && rest.all fun d => isLetter d || isAsciiDigit d || d == '_'

/-- The words that are read as truth values. -/
def boolWords : List String :=
  ["yes", "YES", "Yes", "no", "NO", "No", "true", "TRUE", "True", "false", "FALSE", "False",
    "on", "ON", "On", "off", "OFF", "Off"]

/-- The words whose value has another text. -/
def renamedWords : List String :=
  ["yes", "YES", "Yes", "no", "NO", "No", "true", "TRUE", "false", "FALSE", "on", "ON", "On", "off",
    "OFF", "Off", "null", "Null", "NULL"]

theorem mem_renamedWords_iff {word : String} :
    word ∈ renamedWords ↔
      (word ∈ boolWords ∧ word ∉ ["True", "False"]) ∨ word ∈ nullWords := by
  have same : renamedWords =
      boolWords.filter (fun form => form ∉ ["True", "False"]) ++ nullWords := by
    decide
  rw [same, List.mem_append, List.mem_filter, decide_eq_true_eq]

theorem isBoolForm_iff : isBoolForm word = true ↔ String.ofList word ∈ boolWords := by
  have forms : boolWords.map String.toList = (truthWords.map Prod.fst).flatMap fun form =>
      [form, form.map Char.toUpper, (form.take 1).map Char.toUpper ++ form.drop 1] := by
    decide
  rw [ofList_mem_iff, forms, isBoolForm, List.any_eq_true]
  simp only [List.mem_flatMap, List.mem_map, List.mem_cons, List.not_mem_nil, or_false,
    Bool.or_eq_true, beq_iff_eq, or_assoc]
  constructor
  · rintro ⟨⟨form, meaning⟩, among, same⟩
    exact ⟨form, ⟨_, among, rfl⟩, same⟩
  · rintro ⟨_, ⟨pair, among, rfl⟩, same⟩
    exact ⟨pair, among, same⟩

/-- The first letter of a word, and what follows it. -/
theorem exists_letter (is : isWord word = true) :
    ∃ c rest, word = c :: rest ∧ isLetter c = true ∧
      ∀ d ∈ rest, (isLetter d || isAsciiDigit d || d == '_') = true := by
  cases word with
  | nil => cases is
  | cons c rest =>
      rw [isWord, Bool.and_eq_true, List.all_eq_true] at is
      exact ⟨c, rest, rfl, is⟩

theorem ne_nil_of_isWord (is : isWord word = true) : word ≠ [] := by
  rintro rfl
  cases is

theorem isLetter_bounds (letter : isLetter c = true) :
    (97 ≤ c.toNat ∧ c.toNat ≤ 122) ∨ (65 ≤ c.toNat ∧ c.toNat ≤ 90) := by
  simpa [isLetter, Char.le_def, UInt32.le_iff_toNat_le] using letter

theorem isAsciiDigit_of_isLetter (letter : isLetter c = true) : isAsciiDigit c = false := by
  have bounds := isLetter_bounds letter
  cases digit : isAsciiDigit c with
  | false => rfl
  | true =>
      have digitBounds := Decimal.isAsciiDigit_bounds digit
      omega

theorem isWordChar_of_isWord (is : isWord word = true) : ∀ c ∈ word, isWordChar c = true := by
  have covers (d : Char) (inside : (isLetter d || isAsciiDigit d || d == '_') = true) :
      isWordChar d = true := by
    simp only [isLetter, isAsciiDigit, isWordChar, isNameChar, Bool.or_eq_true] at inside ⊢
    grind
  obtain ⟨c, rest, rfl, letter, others⟩ := exists_letter is
  intro d member
  rcases List.mem_cons.mp member with rfl | member
  · exact covers d (by simp [letter])
  · exact covers d (others d member)

theorem point_notMem (is : isWord word = true) : '.' ∉ word := by
  obtain ⟨c, rest, rfl, letter, others⟩ := exists_letter is
  intro member
  rcases List.mem_cons.mp member with rfl | member
  · cases letter
  · exact absurd (others '.' member) (by decide)

theorem dropSign_of_isLetter (letter : isLetter c = true) {rest : List Char} :
    dropSign (c :: rest) = c :: rest := by
  simp [dropSign, ne_of_class letter (d := '+') rfl, ne_of_class letter (d := '-') rfl]

/-! ## Words are no numbers and no moments -/

/-- A text of one class is a run of the class. -/
theorem span_of_forall {p : Char → Bool} (all : ∀ c ∈ word, p c = true) :
    word.span p = (word, []) := by
  rw [List.span_eq_takeWhile_dropWhile, List.takeWhile_eq_self_iff.mpr all,
    List.dropWhile_eq_nil_iff.mpr all]

theorem isFloatForm_of_isWord (is : isWord word = true) : isFloatForm word = false := by
  have points := point_notMem is
  obtain ⟨c, rest, rfl, letter, -⟩ := exists_letter is
  have digits : (c :: rest).span isDigitOrLow = ([], c :: rest) := by
    simp [List.span_eq_takeWhile_dropWhile, isDigitOrLow, isAsciiDigit_of_isLetter letter,
      ne_of_class letter (d := '_') rfl]
  have whole : (c :: rest).span (· != '.') = (c :: rest, []) :=
    span_of_forall fun d member => by simpa using ne_of_mem_of_not_mem member points
  unfold isFloatForm
  simp only [dropSign_of_isLetter letter, digits, whole]
  simp [ne_of_class letter (d := '.') rfl]

theorem isIntForm_of_isWord (is : isWord word = true) : isIntForm word = false := by
  obtain ⟨c, rest, rfl, letter, -⟩ := exists_letter is
  have bounds := isLetter_bounds letter
  have digit : ('1' ≤ c && c ≤ '9') = false := by
    cases inside : ('1' ≤ c && c ≤ '9') with
    | false => rfl
    | true =>
        have digitBounds : 49 ≤ c.toNat ∧ c.toNat ≤ 57 := by
          simpa [Char.le_def, UInt32.le_iff_toNat_le] using inside
        omega
  have zero : c ≠ '0' := ne_of_class letter rfl
  rw [isIntForm, dropSign_of_isLetter letter]
  split
  next same => exact absurd (List.head_eq_of_cons_eq same) zero
  next same => exact absurd (List.head_eq_of_cons_eq same) zero
  next same =>
      cases same
      rw [digit, Bool.false_and]
  next => rfl

theorem isMomentForm_of_isWord (is : isWord word = true) : isMomentForm word = false := by
  obtain ⟨c, rest, rfl, letter, -⟩ := exists_letter is
  have year : digitsBetween 4 4 (c :: rest) = none := by
    simp [digitsBetween, isAsciiDigit_of_isLetter letter]
  simp [isMomentForm, MomentText.read?, year]

/-- A word is a text unless it has another meaning. -/
theorem ofPlain_word (is : isWord word = true) :
    Tag.ofPlain word =
      if String.ofList word ∈ boolWords then .bool
      else if String.ofList word ∈ nullWords then .null
      else .text := by
  have chars := isWordChar_of_isWord is
  have marks : word ≠ ['<', '<'] ∧ word ≠ ['='] ∧ word ≠ ['!'] ∧ word ≠ ['&'] ∧
      word ≠ ['*'] := by
    obtain ⟨c, rest, rfl, letter, -⟩ := exists_letter is
    simp [ne_of_class letter (d := '<') rfl, ne_of_class letter (d := '=') rfl,
      ne_of_class letter (d := '!') rfl, ne_of_class letter (d := '&') rfl,
      ne_of_class letter (d := '*') rfl]
  have some : word.isEmpty = false := by
    obtain ⟨c, rest, rfl, -⟩ := exists_letter is
    rfl
  simp only [← isBoolForm_iff, ← isNullForm_iff chars]
  simp [Tag.ofPlain, some, dropLastFeed_of_isWordChar chars, isFloatForm_of_isWord is,
    isIntForm_of_isWord is, marks, isMomentForm_of_isWord is]

/-- How a truth value is shown. -/
def truthText (truth : Bool) : String := if truth then "True" else "False"

/-- A word for a truth value is read as one, whose text is the word only for two of the words. -/
theorem exists_truth_of_boolWord {form : String} (member : form ∈ boolWords) :
    ∃ truth, Tag.read .bool form.toList = .ok (.bool truth) ∧
      (truthText truth = form ↔ form ∈ ["True", "False"]) := by
  have all : ∀ form ∈ boolWords,
      (truthWords.lookup (Text.lower form.toList)).any (fun truth =>
        decide (truthText truth = form ↔ form ∈ ["True", "False"])) = true := by
    decide
  have shown := all form member
  rw [Tag.read]
  cases found : truthWords.lookup (Text.lower form.toList) with
  | none => simp [found] at shown
  | some truth =>
      rw [found, Option.any_some, decide_eq_true_eq] at shown
      exact ⟨truth, rfl, shown⟩

/-! ## What words are read as -/

/-- A word is read as a value with a text, which is the word unless it is among a few. -/
theorem exists_text_of_isWord (is : isWord word = true) :
    ∃ value shown, (Sheet.Scalar.plain word).read = .ok value ∧ value.text? = some shown ∧
      (shown = String.ofList word ↔ String.ofList word ∉ renamedWords) := by
  have tag := ofPlain_word is
  simp only [Sheet.Scalar.read, Sheet.Scalar.tag, Sheet.Scalar.content, tag]
  have apart : ∀ form ∈ boolWords, form ∉ nullWords := by decide
  by_cases truthWord : String.ofList word ∈ boolWords
  · obtain ⟨truth, read, same⟩ := exists_truth_of_boolWord truthWord
    rw [if_pos truthWord]
    rw [String.toList_ofList] at read
    refine ⟨_, truthText truth, read, rfl, ?_⟩
    simp only [same, mem_renamedWords_iff, truthWord, apart _ truthWord, true_and, or_false, not_not]
  · rw [if_neg truthWord]
    by_cases nullWord : String.ofList word ∈ nullWords
    · rw [if_pos nullWord]
      have shown : "None" ∉ nullWords := by decide
      refine ⟨_, "None", rfl, rfl, ?_⟩
      rw [mem_renamedWords_iff]
      exact iff_of_false (fun same => shown (same ▸ nullWord)) (fun other => other (.inr nullWord))
    · rw [if_neg nullWord]
      refine ⟨_, _, rfl, rfl, ?_⟩
      simp [mem_renamedWords_iff, truthWord, nullWord]

/-- The words that are verbatim. -/
theorem isVerbatim_iff_of_isWord (is : isWord word = true) :
    IsVerbatim word ↔ String.ofList word ∉ renamedWords := by
  obtain ⟨value, shown, read, text, same⟩ := exists_text_of_isWord is
  rw [← same]
  constructor
  · rintro ⟨other, read', text'⟩
    cases read.symm.trans read'
    exact Option.some.inj (text.symm.trans text')
  · rintro rfl
    exact ⟨value, read, text⟩

end Interview.Yaml
