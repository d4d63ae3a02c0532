import Interview.Proofs.Value.Tidy
import Interview.Proofs.Yaml.Content
import Interview.Value.Display

/-!
# Words that are written as they are read

A plain word stands for a value, and that value is written as a text again. The word is verbatim if
the text is the word.
-/

namespace Interview.Yaml

variable {word : List Char} {value : Value}

/-- A word is the text of the value that it is read as. -/
def IsVerbatim (word : List Char) : Prop :=
  ∃ value, (Sheet.Scalar.plain word).read = .ok value ∧ value.text? = some (String.ofList word)

/-- The words that are read as the absent value. -/
def nullWords : List String := ["null", "Null", "NULL"]

theorem ofList_mem_iff {words : List String} :
    String.ofList word ∈ words ↔ word ∈ words.map String.toList := by
  rw [List.mem_map]
  constructor
  · intro among
    exact ⟨_, among, String.toList_ofList⟩
  · rintro ⟨form, among, rfl⟩
    rwa [String.ofList_toList]

theorem dropLastFeed_of_isWordChar (chars : ∀ c ∈ word, isWordChar c = true) :
    dropLastFeed word = word := by
  have feed : word.getLast? ≠ some '\n' := fun ends =>
    absurd (chars '\n' (List.mem_of_getLast? ends)) (by decide)
  simp [dropLastFeed, feed]

theorem isNullForm_iff (chars : ∀ c ∈ word, isWordChar c = true) :
    isNullForm word = true ↔ String.ofList word ∈ nullWords := by
  have tilde : word ≠ ['~'] := by
    rintro rfl
    exact absurd (chars '~' List.mem_cons_self) (by decide)
  rw [ofList_mem_iff]
  simp [isNullForm, nullWords, tilde, or_assoc]

/-- Of the words only those for the absent value have its tag. -/
theorem mem_nullWords_of_ofPlain (some : word ≠ []) (chars : ∀ c ∈ word, isWordChar c = true)
    (tag : Tag.ofPlain word = .null) : String.ofList word ∈ nullWords := by
  have given : word.isEmpty = false := by simpa using some
  simp only [Tag.ofPlain, given, dropLastFeed_of_isWordChar chars, Bool.false_eq_true,
    if_false] at tag
  rw [← isNullForm_iff chars]
  by_contra other
  rw [if_neg other] at tag
  revert tag
  repeat' split
  all_goals decide

theorem read_of_mem_nullWords (member : String.ofList word ∈ nullWords) :
    (Sheet.Scalar.plain word).read = .ok .null := by
  rw [ofList_mem_iff] at member
  simp only [nullWords, List.map_cons, List.map_nil, List.mem_cons, List.not_mem_nil,
    or_false] at member
  rcases member with rfl | rfl | rfl <;> rfl

/-- A word for the absent value is no verbatim one. -/
theorem not_isVerbatim_of_mem_nullWords (member : String.ofList word ∈ nullWords) :
    ¬ IsVerbatim word := by
  rintro ⟨value, read, written⟩
  cases (read_of_mem_nullWords member).symm.trans read
  rw [← Option.some.inj written] at member
  exact absurd member (by decide)

theorem isTidy_of_isWordChar (some : word ≠ []) (chars : ∀ c ∈ word, isWordChar c = true) :
    (String.ofList word).IsTidy :=
  String.isTidy_of_forall some fun c member => isBlank_of_isWordChar (chars c member)

theorem text?_int (n : Int) : (Value.int n).text? = Decimal.wholeText? n := by
  rw [Value.text?, Value.literal?]
  all_goals simp

/-! ## Values whose text is tidy -/

/-- A value is there, and the text that it has is tidy. -/
structure IsTidyValue (value : Value) : Prop where
  given : value ≠ .null
  tidy : ∀ text, value.text? = some text → text.IsTidy

namespace IsTidyValue

theorem bool (truth : Bool) : IsTidyValue (.bool truth) where
  given := by simp
  tidy text shown := by
    rw [← Option.some.inj shown]
    cases truth <;> decide

theorem int (n : Int) : IsTidyValue (.int n) where
  given := by simp
  tidy text shown := by
    rw [text?_int] at shown
    exact Decimal.isTidy_wholeText? shown

theorem float (x : Float) : IsTidyValue (.float x) where
  given := by simp
  tidy text shown := by
    rw [← Option.some.inj shown]
    exact Decimal.isTidy_text x

theorem ofText {content : String} (tidy : content.IsTidy) : IsTidyValue (.text content) where
  given := by simp
  tidy text shown := by rwa [← Option.some.inj shown]

theorem date (day : Calendar.Day) : IsTidyValue (.date day) where
  given := by simp
  tidy text shown := by
    rw [← Option.some.inj shown]
    exact Calendar.Day.isTidy_text day

theorem moment (instant : Calendar.Moment) : IsTidyValue (.moment instant) where
  given := by simp
  tidy text shown := by
    rw [← Option.some.inj shown]
    exact Calendar.Moment.isTidy_text instant

theorem of_momentText {parts : MomentText} (read : parts.value = .ok value) :
    IsTidyValue value := by
  simp only [MomentText.value] at read
  split at read
  · split at read
    · cases read
      exact .date _
    · cases read
  · split at read
    · cases read
      exact .moment _
    · cases read

end IsTidyValue

/-- A word is read as the absent value, or as a value whose text is tidy. -/
theorem null_or_tidy_of_read (some : word ≠ []) (chars : ∀ c ∈ word, isWordChar c = true)
    (read : (Sheet.Scalar.plain word).read = .ok value) :
    (value = .null ∧ String.ofList word ∈ nullWords) ∨ IsTidyValue value := by
  have among := Sheet.ofPlain_mem word
  simp only [Sheet.Scalar.read, Sheet.Scalar.tag, Sheet.Scalar.content] at read
  cases tag : Tag.ofPlain word with
  | null =>
      rw [tag] at read
      cases read
      exact .inl ⟨rfl, mem_nullWords_of_ofPlain some chars tag⟩
  | bool =>
      rw [tag, Tag.read] at read
      split at read
      · cases read
        exact .inr (.bool _)
      · cases read
  | int =>
      rw [tag, Tag.read] at read
      cases number : readInt word with
      | error fault =>
          rw [number] at read
          cases read
      | ok n =>
          rw [number] at read
          cases read
          exact .inr (.int n)
  | float =>
      rw [tag, Tag.read] at read
      cases number : readFloat word with
      | error fault =>
          rw [number] at read
          cases read
      | ok x =>
          rw [number] at read
          cases read
          exact .inr (.float x)
  | moment =>
      rw [tag, Tag.read] at read
      split at read
      · exact .inr (.of_momentText read)
      · cases read
  | text =>
      rw [tag] at read
      cases read
      exact .inr (.ofText (isTidy_of_isWordChar some chars))
  | merge | default | unknown =>
      rw [tag] at read
      cases read
  | octets | orderedPairs | pairs | set | list | mapping =>
      rw [tag] at among
      exact absurd among (by decide)

end Interview.Yaml
