import Interview.Proofs.Text.Lower
import Interview.Protocol.FieldName

/-!
# Spellings of a field

The name of a field is made of words of small letters. An author joins them with underscores, or
writes each word but the first with a capital. Both spellings lead to the same field, and those of
different names to different fields: `spellings_reach_field`. The one name that stands for another
field is that of the limit of questions.
-/

namespace Interview

open Interview.Text

namespace Protocol

variable {c : Char} {text : List Char}

/-! ## Words and spellings -/

/-- A small letter of the basic alphabet. -/
def isSmall (c : Char) : Bool :=
  'a' ≤ c && c ≤ 'z'

/-- A word of small letters, with at least one of them. -/
structure SmallWord where
  initial : Char
  rest : List Char
  small : (initial :: rest).all isSmall = true := by decide

namespace SmallWord

/-- The letters of a word. -/
def letters (word : SmallWord) : List Char :=
  word.initial :: word.rest

/-- A word with a capital. -/
def capitalized (word : SmallWord) : List Char :=
  word.initial.toUpper :: word.rest

end SmallWord

variable {words others : List SmallWord}

/-- Words joined by underscores. -/
def snakeCase (words : List SmallWord) : String :=
  .ofList (List.intercalate ['_'] (words.map SmallWord.letters))

/-- The first word and behind it the others, each with a capital. -/
def camelCase : List SmallWord → String
  | [] => ""
  | first :: others => .ofList (first.letters ++ others.flatMap SmallWord.capitalized)

/-- The name that stands for the limit of questions. -/
def questionLimitName : String := "local_max_questions"

/-! ## Letters -/

theorem toNat_of_isSmall (small : isSmall c = true) : 97 ≤ c.toNat ∧ c.toNat ≤ 122 := by
  simpa [isSmall, Char.le_def, UInt32.le_iff_toNat_le] using small

theorem exists_ofNat_of_isSmall (small : isSmall c = true) :
    ∃ place < 26, c = Char.ofNat (97 + place) := by
  have bounds := toNat_of_isSmall small
  refine ⟨c.toNat - 97, by omega, ?_⟩
  rw [Nat.add_sub_cancel' bounds.1, Char.ofNat_toNat]

/-- A small letter is no capital, and it is the lower-case form of its own capital. -/
theorem capital_of_isSmall (small : isSmall c = true) :
    isCapital c = false ∧ isCapital c.toUpper = true ∧ c.toUpper.toNat < 128 ∧
      lowerChar c.toUpper = c := by
  have all : ∀ place < 26,
      let c := Char.ofNat (97 + place)
      isCapital c = false ∧ isCapital c.toUpper = true ∧ c.toUpper.toNat < 128 ∧
        lowerChar c.toUpper = c := by
    decide
  obtain ⟨place, below, rfl⟩ := exists_ofNat_of_isSmall small
  exact all place below

namespace SmallWord

theorem isSmall_of_mem {word : SmallWord} (member : c ∈ word.letters) : isSmall c = true :=
  List.all_eq_true.mp word.small c member

theorem isSmall_initial (word : SmallWord) : isSmall word.initial = true :=
  isSmall_of_mem List.mem_cons_self

theorem isSmall_of_mem_rest {word : SmallWord} (member : c ∈ word.rest) : isSmall c = true :=
  isSmall_of_mem (List.mem_cons_of_mem _ member)

/-- Small letters are in lower case. -/
theorem map_lowerChar_eq_self (small : ∀ c ∈ text, isSmall c = true) :
    text.map lowerChar = text := by
  have same : text.map lowerChar = text.map id := by
    apply List.map_congr_left
    intro c member
    have bounds := toNat_of_isSmall (small c member)
    exact lowerChar_eq_self (by omega) (by omega)
  rw [same, List.map_id]

theorem map_lowerChar_letters (word : SmallWord) : word.letters.map lowerChar = word.letters :=
  map_lowerChar_eq_self fun _ => isSmall_of_mem

/-- In lower case, a word is the same with a capital as without. -/
theorem map_lowerChar_capitalized (word : SmallWord) :
    word.capitalized.map lowerChar = word.letters := by
  have initial := (capital_of_isSmall word.isSmall_initial).2.2.2
  have rest : word.rest.map lowerChar = word.rest :=
    map_lowerChar_eq_self fun _ => isSmall_of_mem_rest
  rw [capitalized, List.map_cons, initial, rest, letters]

theorem toNat_of_mem_letters {word : SmallWord} (member : c ∈ word.letters) : c.toNat < 128 := by
  have bounds := toNat_of_isSmall (isSmall_of_mem member)
  omega

theorem toNat_of_mem_capitalized {word : SmallWord} (member : c ∈ word.capitalized) :
    c.toNat < 128 := by
  rcases List.mem_cons.mp member with rfl | inside
  · exact (capital_of_isSmall word.isSmall_initial).2.2.1
  · exact toNat_of_mem_letters (List.mem_cons_of_mem _ inside)

theorem isCapital_of_mem_rest {word : SmallWord} (member : c ∈ word.rest) : isCapital c = false :=
  (capital_of_isSmall (isSmall_of_mem_rest member)).1

end SmallWord

/-! ## Splitting at capitals -/

theorem splitCapitals_append (front rear : List Char) :
    splitCapitals (front ++ rear) = splitCapitals front ++ splitCapitals rear :=
  List.flatMap_append

theorem splitCapitals_eq_self (noCapital : ∀ c ∈ text, isCapital c = false) :
    splitCapitals text = text := by
  induction text with
  | nil => rfl
  | cons c text ih =>
      obtain ⟨here, there⟩ := List.forall_mem_cons.mp noCapital
      rw [splitCapitals, List.flatMap_cons, ← splitCapitals, ih there, here]
      rfl

/-- A word with a capital is split from what stands before it. -/
theorem splitCapitals_capitalized (word : SmallWord) :
    splitCapitals word.capitalized = '_' :: word.capitalized := by
  have initial := (capital_of_isSmall word.isSmall_initial).2.1
  have rest : splitCapitals word.rest = word.rest :=
    splitCapitals_eq_self fun c => SmallWord.isCapital_of_mem_rest
  rw [SmallWord.capitalized, ← List.singleton_append, splitCapitals_append, rest]
  simp [splitCapitals, initial]

theorem splitCapitals_flatMap (words : List SmallWord) :
    splitCapitals (words.flatMap SmallWord.capitalized) =
      words.flatMap fun word => '_' :: word.capitalized := by
  induction words with
  | nil => rfl
  | cons word words ih =>
      rw [List.flatMap_cons, List.flatMap_cons, splitCapitals_append, splitCapitals_capitalized, ih]

/-! ## Both spellings -/

/-- Behind the first word, each word follows an underscore. -/
theorem toList_snakeCase_cons (first : SmallWord) (others : List SmallWord) :
    (snakeCase (first :: others)).toList =
      first.letters ++ others.flatMap fun word => '_' :: word.letters := by
  rw [snakeCase, String.toList_ofList]
  induction others generalizing first with
  | nil => simp [List.intercalate]
  | cons next others ih =>
      rw [List.map_cons, List.map_cons, List.intercalate_cons_cons, ← List.map_cons, ih next]
      simp

theorem mem_snakeCase (member : c ∈ (snakeCase words).toList) : c = '_' ∨ isSmall c = true := by
  cases words with
  | nil => cases member
  | cons first others =>
      rw [toList_snakeCase_cons, List.mem_append, List.mem_flatMap] at member
      rcases member with here | ⟨word, -, inside⟩
      · exact .inr (SmallWord.isSmall_of_mem here)
      · rcases List.mem_cons.mp inside with mark | inside
        · exact .inl mark
        · exact .inr (SmallWord.isSmall_of_mem inside)

/-- A name with underscores is joined already. -/
theorem joinWords_snakeCase (words : List SmallWord) :
    joinWords (snakeCase words).toList = (snakeCase words).toList := by
  have noCapital : ∀ c ∈ (snakeCase words).toList,
      isCapital c = false ∧ c.toNat < 128 ∧ ¬ (65 ≤ c.toNat ∧ c.toNat ≤ 90) := by
    intro c member
    rcases mem_snakeCase member with rfl | small
    · decide
    · have bounds := toNat_of_isSmall small
      exact ⟨(capital_of_isSmall small).1, by omega, by omega⟩
  generalize (snakeCase words).toList = text at noCapital
  cases text with
  | nil => rfl
  | cons c rest =>
      rw [joinWords, splitCapitals_eq_self fun c member =>
        (noCapital c (List.mem_cons_of_mem _ member)).1]
      exact lower_eq_self fun c member => (noCapital c member).2

/-- In lower case, the words behind the first one lose the capitals that the underscores stand
before. -/
theorem lower_flatMap_capitalized (first : SmallWord) (others : List SmallWord) :
    lower (first.letters ++ others.flatMap fun word => '_' :: word.capitalized) =
      first.letters ++ others.flatMap fun word => '_' :: word.letters := by
  have basic : ∀ c ∈ first.letters ++ others.flatMap fun word => '_' :: word.capitalized,
      c.toNat < 128 := by
    intro c member
    rw [List.mem_append, List.mem_flatMap] at member
    rcases member with here | ⟨word, -, inside⟩
    · exact SmallWord.toNat_of_mem_letters here
    · rcases List.mem_cons.mp inside with rfl | inside
      · decide
      · exact SmallWord.toNat_of_mem_capitalized inside
  have mark : lowerChar '_' = '_' := by decide
  rw [lower_eq_map basic, List.map_append, first.map_lowerChar_letters, List.map_flatMap]
  simp only [List.map_cons, mark, SmallWord.map_lowerChar_capitalized]

/-- The capitals of a name tell its words apart, so that they are joined as with underscores. -/
theorem joinWords_camelCase (words : List SmallWord) :
    joinWords (camelCase words).toList = (snakeCase words).toList := by
  cases words with
  | nil => rfl
  | cons first others =>
      have noCapital : splitCapitals first.rest = first.rest :=
        splitCapitals_eq_self fun c => SmallWord.isCapital_of_mem_rest
      rw [toList_snakeCase_cons, ← lower_flatMap_capitalized, camelCase, String.toList_ofList,
        SmallWord.letters, List.cons_append, joinWords, splitCapitals_append, noCapital,
        splitCapitals_flatMap, List.cons_append]

/-! ## The name of another field -/

/-- The name for the limit of questions has one spelling beside itself. -/
theorem joinWords_of_mem_questionLimitNames :
    ∀ key ∈ questionLimitNames, joinWords key.toList = questionLimitName.toList := by
  decide

/-- A key whose words are joined to the name of a field means this field, unless the name stands
for another one. -/
theorem fieldName_of_joinWords {key name : String} (joined : joinWords key.toList = name.toList)
    (other : name ≠ questionLimitName) : fieldName key = name := by
  have unlisted : questionLimitNames.contains key = false := by
    rw [← Bool.not_eq_true, List.contains_iff_mem]
    intro listed
    have same := joined.symm.trans (joinWords_of_mem_questionLimitNames key listed)
    exact other (String.toList_inj.mp same)
  rw [fieldName, unlisted, joined, String.ofList_toList]
  rfl

/-- The words are found between the underscores. -/
theorem splitOn_snakeCase (some : words ≠ []) :
    (snakeCase words).toList.splitOn '_' = words.map SmallWord.letters := by
  rw [snakeCase, String.toList_ofList]
  apply List.splitOn_intercalate
  · intro letters member inside
    obtain ⟨word, -, rfl⟩ := List.mem_map.mp member
    exact absurd (SmallWord.isSmall_of_mem inside) (by decide)
  · simpa using some

theorem SmallWord.letters_injective : Function.Injective SmallWord.letters := by
  intro word other same
  cases word
  cases other
  cases same
  rfl

/-- Different words make different names. -/
theorem snakeCase_injective : Function.Injective snakeCase := by
  -- Splitting finds a word in the name of no words too, so that name is told apart first.
  have notEmpty (first : SmallWord) (others : List SmallWord) :
      snakeCase (first :: others) ≠ snakeCase [] := by
    intro same
    have begins := toList_snakeCase_cons first others
    rw [same] at begins
    cases begins
  intro words others same
  cases words with
  | nil =>
      cases others with
      | nil => rfl
      | cons first others => exact absurd same.symm (notEmpty first others)
  | cons first words =>
      cases others with
      | nil => exact absurd same (notEmpty first words)
      | cons other others =>
          apply List.map_injective_iff.mpr SmallWord.letters_injective
          rw [← splitOn_snakeCase (List.cons_ne_nil first words), same,
            splitOn_snakeCase (List.cons_ne_nil other others)]

/-- The words of the name that stands for the limit of questions. -/
def questionLimitWords : List SmallWord :=
  [{ initial := 'l', rest := "ocal".toList }, { initial := 'm', rest := "ax".toList },
    { initial := 'q', rest := "uestions".toList }]

/-- The name that stands for the limit of questions does so in both spellings. -/
theorem fieldName_questionLimitWords :
    snakeCase questionLimitWords = questionLimitName ∧
      fieldName (camelCase questionLimitWords) = fieldName (snakeCase questionLimitWords) := by
  decide

end Protocol

open Protocol

/-- A name of words in small letters is its own field, and so is the name with capitals in place of
underscores, unless it is the name that stands for the limit of questions. In any case both
spellings reach the same field, and different names have different spellings with capitals, which
reach different fields. -/
theorem spellings_reach_field (words : List SmallWord) :
    (snakeCase words ≠ questionLimitName →
      fieldName (snakeCase words) = snakeCase words ∧
        fieldName (camelCase words) = snakeCase words) ∧
    fieldName (camelCase words) = fieldName (snakeCase words) ∧
    ∀ others, snakeCase others ≠ snakeCase words →
      camelCase others ≠ camelCase words ∧
        (snakeCase words ≠ questionLimitName → snakeCase others ≠ questionLimitName →
          fieldName (camelCase others) ≠ fieldName (camelCase words)) := by
  have named (words : List SmallWord) (other : snakeCase words ≠ questionLimitName) :
      fieldName (snakeCase words) = snakeCase words ∧
        fieldName (camelCase words) = snakeCase words :=
    ⟨fieldName_of_joinWords (joinWords_snakeCase words) other,
      fieldName_of_joinWords (joinWords_camelCase words) other⟩
  refine ⟨named words, ?_, ?_⟩
  · by_cases limit : snakeCase words = questionLimitName
    · rw [snakeCase_injective (limit.trans fieldName_questionLimitWords.1.symm)]
      exact fieldName_questionLimitWords.2
    · rw [(named words limit).1, (named words limit).2]
  · intro others apart
    constructor
    · intro same
      apply apart
      rw [← String.toList_inj, ← joinWords_camelCase, ← joinWords_camelCase, same]
    · intro here there
      rw [(named words here).2, (named others there).2]
      exact apart

namespace Protocol

/-- The words of a name, one of which is a single letter. -/
def driftWords : List SmallWord :=
  [{ initial := 'd', rest := "rift".toList }, { initial := 'a', rest := [] },
    { initial := 'b', rest := "it".toList }]

/-- Other words of the same letters. -/
def driftWordsElsewhere : List SmallWord :=
  [{ initial := 'd', rest := "rift".toList }, { initial := 'a', rest := "b".toList },
    { initial := 'i', rest := "t".toList }]

end Protocol

theorem spellings_reach_field_drift :
    camelCase driftWords = "driftABit" ∧ camelCase driftWordsElsewhere = "driftAbIt" ∧
      snakeCase driftWords ≠ questionLimitName ∧
      fieldName (snakeCase driftWords) = "drift_a_bit" ∧
      fieldName (camelCase driftWords) = "drift_a_bit" ∧
      snakeCase driftWordsElsewhere ≠ snakeCase driftWords ∧
      snakeCase driftWordsElsewhere ≠ questionLimitName ∧
      fieldName (camelCase driftWordsElsewhere) ≠ fieldName (camelCase driftWords) := by
  have other : snakeCase driftWords ≠ questionLimitName := by decide
  have elsewhere : snakeCase driftWordsElsewhere ≠ questionLimitName := by decide
  have apart : snakeCase driftWordsElsewhere ≠ snakeCase driftWords := by decide
  obtain ⟨named, -, different⟩ := spellings_reach_field driftWords
  exact ⟨by decide, by decide, other, (named other).1, (named other).2, apart, elsewhere,
    (different driftWordsElsewhere apart).2 other elsewhere⟩

end Interview
