import Interview.Proofs.Document.Outcome
import Interview.Proofs.Text.Lower
import Interview.Proofs.Text.Trim
import Interview.Proofs.Value.Numeral

/-!
# Reading rules

The rules of a document are read line by line, and of several lines for one key the first one
counts. Whatever else stands in a line gives a value or a problem, so nothing but a numeral with more
digits than are read stops the reading: `exists_rulesOf_iff`.
-/

namespace Interview

open Interview.Text

namespace Document

variable {text value line : List Char}

/-! ## Values of rules -/

/-- A whole number begins with a sign or a digit. -/
theorem exists_lead_of_isWholeForm (whole : isWholeForm text = true) :
    ∃ c rest, text = c :: rest ∧ (c = '+' ∨ c = '-' ∨ isDigit c = true) := by
  simp only [isWholeForm, Bool.and_eq_true, Bool.not_eq_true', List.isEmpty_eq_false_iff] at whole
  unfold Decimal.splitSign at whole
  split at whole
  next rest => exact ⟨'-', rest, rfl, .inr (.inl rfl)⟩
  next rest => exact ⟨'+', rest, rfl, .inl rfl⟩
  next =>
    cases text with
    | nil => exact absurd rfl whole.1
    | cons c rest =>
        exact ⟨c, rest, rfl, .inr (.inr (List.all_eq_true.mp whole.2 c List.mem_cons_self))⟩

/-- The digits of a whole number may be those of any script, and it is read unless it has too
many. -/
theorem exists_readWhole_iff (whole : isWholeForm text = true)
    (trimmed : strip isSpace text = text) :
    (∃ n, Decimal.readWhole 10 text = .ok n) ↔
      (Decimal.splitSign text).2.length ≤ Decimal.digitLimit := by
  simp only [isWholeForm, Bool.and_eq_true, Bool.not_eq_true', List.isEmpty_eq_false_iff] at whole
  obtain ⟨values, each⟩ := Decimal.exists_values_iff.mpr (List.all_eq_true.mp whole.2)
  have split : Decimal.splitSign text =
      ((Decimal.splitSign text).1, (Decimal.splitSign text).2) := rfl
  rw [Decimal.readWhole_of_splitSign trimmed split whole.1 each]
  by_cases short : (Decimal.splitSign text).2.length ≤ Decimal.digitLimit
  · simp [short]
  · simp [short]

/-- The value of a rule is a whole number with more digits than are read. -/
def isLongNumeral (value : List Char) : Bool :=
  isWholeForm (trim value) && Decimal.digitLimit < (Decimal.splitSign (trim value)).2.length

/-- A sign or digit at the start keeps a text from being a word in lower case. -/
theorem lower_ne_of_lead {c first : Char} {rest word : List Char}
    (lead : c = '+' ∨ c = '-' ∨ isDigit c = true)
    (other : ¬ (first = '+' ∨ first = '-' ∨ isDigit first = true)) :
    lower (c :: rest) ≠ first :: word := by
  intro same
  have begins := head?_lower rest lead
  rw [same] at begins
  cases begins
  exact other lead

/-- A whole number does not stand between quotes, and it is not a truth value. -/
theorem scalarValue_of_isWholeForm (whole : isWholeForm (trim value) = true) :
    scalarValue value = (wholeNumber (String.ofList (trim value))).map .int := by
  obtain ⟨c, rest, begins, lead⟩ := exists_lead_of_isWholeForm whole
  have unquoted : quotedContent? (trim value) = none := by
    have plain : c ≠ '\'' ∧ c ≠ '"' := by
      constructor <;> (rintro rfl; exact absurd lead (by decide))
    simp [begins, quotedContent?, plain]
  have notTrue : lower (trim value) ≠ "true".toList := begins ▸ lower_ne_of_lead lead (by decide)
  have notFalse : lower (trim value) ≠ "false".toList := begins ▸ lower_ne_of_lead lead (by decide)
  simp only [scalarValue, unquoted, beq_iff_eq, if_neg notTrue, if_neg notFalse, if_pos whole]

/-- A text is read as a whole number if the numeral is read. -/
theorem exists_wholeNumber_iff {text : String} :
    (∃ n, wholeNumber text = .ok n) ↔ ∃ n, Decimal.readWhole 10 text.toList = .ok n := by
  unfold wholeNumber
  split <;> simp_all

/-- The value of a rule is read unless it is a whole number with too many digits. -/
theorem exists_scalarValue_iff :
    (∃ result, scalarValue value = .ok result) ↔ isLongNumeral value = false := by
  cases whole : isWholeForm (trim value) with
  | true =>
      have mapped : (∃ result, scalarValue value = .ok result) ↔
          ∃ n, wholeNumber (String.ofList (trim value)) = .ok n := by
        rw [scalarValue_of_isWholeForm whole]
        cases wholeNumber (String.ofList (trim value)) <;> simp [Except.map]
      rw [mapped, exists_wholeNumber_iff, String.toList_ofList,
        exists_readWhole_iff whole (strip_isSpace_trim value)]
      simp [isLongNumeral, whole]
  | false =>
      simp only [isLongNumeral, whole, Bool.false_and, iff_true]
      simp only [scalarValue, whole, Bool.false_eq_true, if_false]
      repeat' split
      all_goals exact ⟨_, rfl⟩

/-! ## The lines of a section -/

/-- The lines of a rules section that are read, without their bullets. -/
def ruleLines (content : List Char) : List (List Char) :=
  ((lines content).map fun line => dropBullet (trim line)).filter isRuleLine

/-- The key and the value that a line gives, if it is a rule. -/
def rule? (line : List Char) : Option (String × List Char) :=
  match splitColon line with
  | some (key, value) =>
    if (trim key).isEmpty then none else some (String.ofList (trim key), value)
  | none => none

/-- A line is a rule for its key, or a problem; and so is a second rule for a key. -/
theorem addRule_eq {rules : Entries Value} {problems : List DocumentProblem} :
    addRule (rules, problems) line =
      match rule? line with
      | none => .ok (rules, problems ++ [.malformedRule (String.ofList line)])
      | some (key, value) =>
        if rules.contains key then .ok (rules, problems ++ [.repeatedRule key])
        else (scalarValue value).map fun value => (rules.put key value, problems) := by
  unfold addRule rule?
  cases splitColon line with
  | none => rfl
  | some parts =>
      have named : (String.ofList (trim parts.1)).isEmpty = (trim parts.1).isEmpty := by
        rw [Bool.eq_iff_iff, String.isEmpty_iff, List.isEmpty_iff, ← String.toList_inj]
        simp
      simp only [named]
      cases (trim parts.1).isEmpty with
      | true => rfl
      | false =>
          simp only [Bool.false_eq_true, if_false]
          split
          · rfl
          · cases scalarValue parts.2 <;> rfl

/-- Of the values given for a key that has no rule yet, the first is not a numeral with too many
digits. -/
def FirstsAreShort (rules : Entries Value) (given : List (String × List Char)) : Prop :=
  ∀ key value, rules.contains key = false → Entries.lookup key given = some value →
    isLongNumeral value = false

variable {rules : Entries Value} {given : List (String × List Char)} {key : String}

/-- Another value for a key that has a rule does not count. -/
theorem firstsAreShort_cons_of_known (known : rules.contains key = true) :
    FirstsAreShort rules ((key, value) :: given) ↔ FirstsAreShort rules given := by
  have skip {other : String} (new : rules.contains other = false) :
      Entries.lookup other ((key, value) :: given) = Entries.lookup other given := by
    apply if_neg
    rintro rfl
    rw [known] at new
    cases new
  constructor
  · intro short other found new first
    exact short other found new (by rwa [skip new])
  · intro short other found new first
    exact short other found new (by rwa [← skip new])

/-- The first value for a new key counts, and no later one does. -/
theorem firstsAreShort_cons_of_new {result : Value} (new : rules.contains key = false) :
    FirstsAreShort rules ((key, value) :: given) ↔
      isLongNumeral value = false ∧ FirstsAreShort (rules.put key result) given := by
  have later {other : String} :
      (rules.put key result).contains other = false ↔
        key ≠ other ∧ rules.contains other = false := by
    rw [← Bool.not_eq_true, Entries.contains_put, not_or, Bool.not_eq_true, ne_comm]
  constructor
  · intro short
    constructor
    · exact short key value new (if_pos rfl)
    · intro other found absent first
      obtain ⟨differs, absent⟩ := later.mp absent
      exact short other found absent (by rwa [Entries.lookup, if_neg differs])
  · rintro ⟨here, short⟩ other found absent first
    by_cases same : key = other
    · obtain rfl : value = found := by simpa [Entries.lookup, same] using first
      exact here
    · rw [Entries.lookup, if_neg same] at first
      exact short other found (later.mpr ⟨same, absent⟩) first

/-- Lines are read to the last one if the values that count are short. -/
theorem exists_foldlM_addRule_iff {problems : List DocumentProblem} {lines : List (List Char)} :
    (∃ result, lines.foldlM addRule (rules, problems) = .ok result) ↔
      FirstsAreShort rules (lines.filterMap rule?) := by
  induction lines generalizing rules problems with
  | nil => simp [FirstsAreShort, Entries.lookup, pure, Except.pure]
  | cons line lines ih =>
      rw [List.foldlM_cons, addRule_eq, List.filterMap_cons]
      cases rule? line with
      | none => exact ih
      | some rule =>
          obtain ⟨key, value⟩ := rule
          cases known : rules.contains key with
          | true =>
              rw [firstsAreShort_cons_of_known known, ← ih]
              simp only [known, if_true]
              rfl
          | false =>
              simp only [known, Bool.false_eq_true, if_false]
              cases read : scalarValue value with
              | error fault =>
                  constructor
                  · rintro ⟨result, ⟨⟩⟩
                  · intro short
                    obtain ⟨result, read'⟩ :=
                      exists_scalarValue_iff.mpr (short key value known (if_pos rfl))
                    cases read.symm.trans read'
              | ok result =>
                  have short := exists_scalarValue_iff.mp ⟨result, read⟩
                  rw [firstsAreShort_cons_of_new known, and_iff_right short, ← ih]
                  rfl

/-- The rules of a section can be read unless the first one for some key has a numeral with too many
digits as its value. -/
theorem exists_rulesOf_iff {content : List Char} :
    (∃ result, rulesOf content = .ok result) ↔
      FirstsAreShort .empty ((ruleLines content).filterMap rule?) :=
  exists_foldlM_addRule_iff

end Document

end Interview
