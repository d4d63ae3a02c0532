import Interview.Proofs.Document.Rule
import Interview.Proofs.Value.Tidy

/-!
# Literals

The value of a rule is written as a literal: a word for a truth value, a number with its sign, or a
text between quotes. Each of them is read as the value that it is written for:
`scalarValue_of_spells`.
-/

namespace Interview.Document

open Interview.Text

variable {literal word letters text : List Char} {value : Value} {c : Char}

/-- A word whose letters are written in either case. -/
def InAnyCase (word letters : List Char) : Prop :=
  List.Forall₂ (fun c letter => c = letter ∨ c = letter.toUpper) word letters

/-- The word for a truth value. -/
def truthWord : Bool → String
  | true => "true"
  | false => "false"

/-- The signs that a number may have. -/
inductive IsSign : List Char → Int → Prop where
  | none {n : Int} (nonneg : 0 ≤ n) : IsSign [] n
  | plus {n : Int} (nonneg : 0 ≤ n) : IsSign ['+'] n
  | minus {n : Int} (nonpos : n ≤ 0) : IsSign ['-'] n

/-- A text is written for a value: a word for a truth value, a sign and decimal digits for a whole
number, or any text between equal quotes. -/
inductive Spells : List Char → Value → Prop where
  | truth {word : List Char} {value : Bool} (spelled : InAnyCase word (truthWord value).toList) :
      Spells word (.bool value)
  | whole {sign digits : List Char} {values : List Nat} {n : Int} (signed : IsSign sign n)
      (some : digits ≠ []) (short : digits.length ≤ Decimal.digitLimit)
      (each : List.Forall₂ (fun c value => digit? c = .some value) digits values)
      (isNumber : Decimal.ofDigits 10 values = n.natAbs) : Spells (sign ++ digits) (.int n)
  | quoted {mark : Char} {content : List Char} (isMark : mark = '\'' ∨ mark = '"') :
      Spells (mark :: (content ++ [mark])) (.text (.ofList content))

/-- What is used of the letters of the two words for truth values. -/
theorem forall_truthWord : ∀ value, ∀ letter ∈ (truthWord value).toList, ∀ c,
    c = letter ∨ c = letter.toUpper →
      (isBlank c = false ∧ c ≠ '\'' ∧ c ≠ '"') ∧ c ≠ 'Σ' ∧ c ≠ 'İ' ∧ lowerChar c = letter := by
  -- The tests run over the letters of the words, since a quantifier would run over all characters.
  have all : ∀ value, (truthWord value).toList.all (fun letter => [letter, letter.toUpper].all
      fun c => (isBlank c = false ∧ c ≠ '\'' ∧ c ≠ '"') ∧ c ≠ 'Σ' ∧ c ≠ 'İ' ∧
        lowerChar c = letter) = true := by
    decide
  intro value letter member c isCase
  have both := List.all_eq_true.mp (all value) letter member
  exact of_decide_eq_true (List.all_eq_true.mp both c (by simpa using isCase))

/-- The letters of a word for a truth value are neither blanks nor quotes, and each of them has its
letter in lower case. -/
theorem letters_of_truth {value : Bool} (spelled : InAnyCase word (truthWord value).toList) :
    (∀ c ∈ word, isBlank c = false ∧ c ≠ '\'' ∧ c ≠ '"') ∧
      List.Forall₂ (fun c letter => c ≠ 'Σ' ∧ c ≠ 'İ' ∧ lowerChar c = letter) word
        (truthWord value).toList := by
  rw [← List.forall₂_and_left]
  have letters := forall_truthWord value
  generalize (truthWord value).toList = whole at spelled letters
  induction spelled with
  | nil => exact .nil
  | cons here _ ih =>
      obtain ⟨first, others⟩ := List.forall_mem_cons.mp letters
      exact .cons (first _ here) (ih others)

theorem exists_cons_of_truth {value : Bool} (spelled : InAnyCase word (truthWord value).toList) :
    ∃ c others, word = c :: others ∧ c ≠ '\'' ∧ c ≠ '"' := by
  obtain ⟨plain, -⟩ := letters_of_truth spelled
  cases word with
  | nil =>
      have some : (truthWord value).toList ≠ [] := by
        cases value <;> decide
      exact absurd (List.forall₂_nil_left_iff.mp spelled) some
  | cons c others => exact ⟨c, others, rfl, (plain c List.mem_cons_self).2⟩

/-- A sign is told from the digits behind it. -/
theorem exists_splitSign {sign digits : List Char} {values : List Nat} {n : Int}
    (signed : IsSign sign n) (some : digits ≠ [])
    (each : List.Forall₂ (fun c value => digit? c = .some value) digits values) :
    ∃ negative, Decimal.splitSign (sign ++ digits) = (negative, digits) ∧
      Decimal.withSign negative n.natAbs = n := by
  cases signed with
  | plus nonneg => exact ⟨false, rfl, Int.natAbs_of_nonneg nonneg⟩
  | minus nonpos =>
      refine ⟨true, rfl, ?_⟩
      rw [Decimal.withSign, if_pos rfl]
      omega
  | none nonneg =>
      refine ⟨false, ?_, Int.natAbs_of_nonneg nonneg⟩
      cases each with
      | nil => exact absurd rfl some
      | @cons c _ _ _ here _ =>
          have unsigned : c ≠ '-' ∧ c ≠ '+' := by
            constructor <;> (rintro rfl; cases here)
          unfold Decimal.splitSign
          split
          next same => exact absurd (List.cons.inj same).1 unsigned.1
          next same => exact absurd (List.cons.inj same).1 unsigned.2
          next => rfl

theorem IsSign.isBlank_eq_false {sign : List Char} {n : Int} (signed : IsSign sign n)
    (member : c ∈ sign) : isBlank c = false := by
  cases signed with
  | none _ => cases member
  | plus _ =>
      obtain rfl := List.mem_singleton.mp member
      rfl
  | minus _ =>
      obtain rfl := List.mem_singleton.mp member
      rfl

/-- No blanks stand around a literal. -/
theorem Spells.isTidy (spells : Spells literal value) : (String.ofList literal).IsTidy := by
  cases spells with
  | truth spelled =>
      obtain ⟨c, others, begins, -, -⟩ := exists_cons_of_truth spelled
      exact String.isTidy_of_forall (begins ▸ List.cons_ne_nil c others) fun c member =>
        ((letters_of_truth spelled).1 c member).1
  | whole signed some _ each _ =>
      apply String.isTidy_of_forall (List.append_ne_nil_of_right_ne_nil _ some)
      intro c member
      rcases List.mem_append.mp member with inSign | inDigits
      · exact signed.isBlank_eq_false inSign
      · have digital := Decimal.exists_values_iff.mp ⟨_, each⟩
        exact isBlank_eq_false_of_isDigit (digital c inDigits)
  | @quoted mark content isMark =>
      have visible : isBlank mark = false := by
        rcases isMark with rfl | rfl <;> rfl
      apply String.isTidy_ofList_iff.mpr
      refine ⟨strip_eq_self_iff.mpr ⟨?_, ?_⟩, List.cons_ne_nil _ _⟩
      · rintro first ⟨⟩
        exact visible
      · intro last ends
        rw [← List.cons_append, List.getLast?_concat] at ends
        cases ends
        exact visible

/-- A literal is read as the value that it is written for. -/
theorem scalarValue_of_spells (spells : Spells literal value) (trimmed : trim text = literal) :
    scalarValue text = .ok value := by
  cases spells with
  | @truth _ value spelled =>
      obtain ⟨c, others, rfl, unquoted⟩ := exists_cons_of_truth spelled
      have plain : quotedContent? (c :: others) = none := by
        simp [quotedContent?, unquoted]
      have lowered : lower (c :: others) = (truthWord value).toList :=
        lowerFrom_of_forall₂ [] (letters_of_truth spelled).2
      simp only [scalarValue, trimmed, plain, lowered]
      cases value <;> rfl
  | @whole sign digits values n signed some short each isNumber =>
      obtain ⟨negative, split, isSigned⟩ := exists_splitSign signed some each
      have digital : digits.all isDigit = true :=
        List.all_eq_true.mpr (Decimal.exists_values_iff.mp ⟨values, each⟩)
      have form : isWholeForm (trim text) = true := by
        simp [isWholeForm, trimmed, split, some, digital]
      have stripped : strip isSpace (sign ++ digits) = sign ++ digits :=
        trimmed ▸ strip_isSpace_trim text
      have read := Decimal.readWhole_of_splitSign stripped split some each
      rw [if_pos short, isNumber, isSigned] at read
      rw [scalarValue_of_isWholeForm form, trimmed, wholeNumber, String.toList_ofList, read]
      rfl
  | @quoted mark content isMark =>
      have inside : quotedContent? (mark :: (content ++ [mark])) = some content := by
        rcases isMark with rfl | rfl <;> simp [quotedContent?]
      simp only [scalarValue, trimmed, inside]

/-- A number that is not too long can be written in decimal, with a sign. -/
theorem spells_toDigits {sign : List Char} {n : Int} (signed : IsSign sign n)
    (short : (Nat.toDigits 10 n.natAbs).length ≤ Decimal.digitLimit) :
    Spells (sign ++ Nat.toDigits 10 n.natAbs) (.int n) := by
  obtain ⟨values, each, isNumber⟩ := Decimal.exists_values_toDigits n.natAbs
  exact .whole signed Nat.toDigits_ne_nil short each isNumber

end Interview.Document
