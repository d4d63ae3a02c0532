import Interview.Proofs.Document.Sheet
import Interview.Proofs.Yaml.Verbatim
import Mathlib.Data.List.TakeDrop
import Mathlib.Logic.Function.Basic

/-!
# Lines that set a key of the header

A line with a key and a value is no fence, no heading and no title. In front of a preamble it sets
the key, and leaves the title and all other keys as they are.
-/

namespace Interview.Document

open Interview.Text Interview.Yaml

variable {key value : String} {line : Line} {texts : String → Option String}

/-! ## Writing a key of the header -/

/-- A key with its value. -/
def headerLine (key value : String) : Line :=
  key.toList ++ ':' :: ' ' :: value.toList

/-- Values that are written as they are: letters, digits, points, hyphens and underscores. -/
structure IsHeaderWord (value : String) : Prop where
  ne_empty : value ≠ ""
  chars : ∀ c ∈ value.toList, isWordChar c = true

instance (value : String) : Decidable (IsHeaderWord value) :=
  decidable_of_iff (value ≠ "" ∧ value.toList.all isWordChar = true)
    ⟨fun ⟨ne_empty, chars⟩ => ⟨ne_empty, List.all_eq_true.mp chars⟩,
      fun ⟨ne_empty, chars⟩ => ⟨ne_empty, List.all_eq_true.mpr chars⟩⟩

/-! ## The line of a key -/

/-- What is used of the keys of a header. -/
theorem forall_headerKeys : ∀ key ∈ headerKeys,
    isKeyWord key.toList = true ∧ Tag.ofPlain key.toList = .text ∧ key.toList.all isLetter = true ∧
      String.ofList (lower key.toList) = key := by
  decide

theorem IsHeaderWord.ne_nil (is : IsHeaderWord value) : value.toList ≠ [] := by
  simpa using is.ne_empty

theorem IsHeaderWord.isTidy (is : IsHeaderWord value) : value.IsTidy := by
  simpa using isTidy_of_isWordChar is.ne_nil is.chars

theorem exists_letter_of_isKey (isKey : key ∈ headerKeys) :
    ∃ c others, key.toList = c :: others ∧ isLetter c = true := by
  have all : ∀ key ∈ headerKeys, key.toList.head?.any isLetter = true := by decide
  have first := all key isKey
  cases split : key.toList with
  | nil =>
      rw [split] at first
      cases first
  | cons c others =>
      rw [split] at first
      exact ⟨c, others, rfl, first⟩

theorem isWordChar_of_isLetter {c : Char} (letter : isLetter c = true) : isWordChar c = true := by
  simp only [isLetter, isWordChar, isNameChar, Bool.or_eq_true] at letter ⊢
  grind

theorem isBlank_of_isLetter {c : Char} (letter : isLetter c = true) : isBlank c = false :=
  isBlank_of_isWordChar (isWordChar_of_isLetter letter)

theorem isVisible_of_headerLine (isKey : key ∈ headerKeys) (is : IsHeaderWord value) :
    ∀ c ∈ headerLine key value, isVisible c = true := by
  have letters := List.all_eq_true.mp (forall_headerKeys key isKey).2.2.1
  simp only [headerLine, List.forall_mem_append, List.forall_mem_cons]
  exact ⟨fun c member => isVisible_of_isWordChar (isWordChar_of_isLetter (letters c member)), rfl,
    rfl, fun c member => isVisible_of_isWordChar (is.chars c member)⟩

theorem trim_headerLine (isKey : key ∈ headerKeys) (is : IsHeaderWord value) :
    trim (headerLine key value) = headerLine key value := by
  obtain ⟨c, others, split, letter⟩ := exists_letter_of_isKey isKey
  refine strip_eq_self_iff.mpr ⟨?_, ?_⟩
  · intro first begins
    simp only [headerLine, split, List.cons_append, List.head?_cons, Option.some.injEq] at begins
    rw [← begins]
    exact isBlank_of_isLetter letter
  · intro last ends
    obtain ⟨d, more, splitValue⟩ := List.exists_cons_of_ne_nil is.ne_nil
    have inside : value.toList.getLast? = some last := by
      simpa [headerLine, splitValue, List.getLast?_append, List.getLast?_cons_cons] using ends
    exact isBlank_of_isWordChar (is.chars last (List.mem_of_getLast? inside))

/-- The line is no fence, no heading and no title. -/
theorem headerLine_plain (isKey : key ∈ headerKeys) (is : IsHeaderWord value) :
    isFence (headerLine key value) = false ∧ headingOf? (headerLine key value) = none ∧
      titleOf? (headerLine key value) = none := by
  have trimmed := trim_headerLine isKey is
  obtain ⟨c, others, split, letter⟩ := exists_letter_of_isKey isKey
  have begins : headerLine key value = c :: (others ++ ':' :: ' ' :: value.toList) := by
    rw [headerLine, split, List.cons_append]
  have hyphen : c ≠ '-' := ne_of_class letter rfl
  have number : c ≠ '#' := ne_of_class letter rfl
  rw [isFence, headingOf?, titleOf?, trimmed, begins]
  refine ⟨by simp [hyphen], ?_, ?_⟩
  · split
    next same => exact absurd (List.head_eq_of_cons_eq same) number
    next => rfl
  · split
    next same => exact absurd (List.head_eq_of_cons_eq same) number
    next => rfl

/-- The line sets the key to the value. -/
theorem headerLine?_headerLine (isKey : key ∈ headerKeys) (is : IsHeaderWord value) :
    headerLine? (headerLine key value) = some (key, value) := by
  obtain ⟨-, -, letters, lowered⟩ := forall_headerKeys key isKey
  have span : (headerLine key value).span isLetter = (key.toList, ':' :: ' ' :: value.toList) := by
    have letters := List.all_eq_true.mp letters
    have colon : isLetter ':' = false := rfl
    rw [headerLine, List.span_eq_takeWhile_dropWhile, List.takeWhile_append_of_pos letters,
      List.dropWhile_append_of_pos letters]
    simp [colon]
  have unquoted : unquote (trim (' ' :: value.toList)) = value.toList := by
    have quotes : quotedContent? value.toList = none := by
      obtain ⟨d, more, split⟩ := List.exists_cons_of_ne_nil is.ne_nil
      have char := is.chars d (by simp [split])
      simp [split, quotedContent?, ne_of_class char (d := '\'') rfl,
        ne_of_class char (d := '"') rfl]
    rw [trim_cons_of_blank rfl, (trim_toList is.isTidy).1, unquote, quotes, Option.getD_none]
  have space : isBlank ':' = false := rfl
  simp only [headerLine?, trim_headerLine isKey is, span, lowered, List.dropWhile_cons, space,
    Bool.false_eq_true, if_false, unquoted, String.ofList_toList]
  simp [isKey]

/-! ## Preambles -/

variable {header : Header} {before : List Line} {preamble : Preamble}

/-- The same value gives the same text. -/
theorem Header.text?_congr {other : Header} (same : header.value? key = other.value? key) :
    header.text? key = other.text? key := by
  rw [Header.text?, same, ← Header.text?]

/-- A preamble that has another one's title and values, but for one key. -/
structure Preamble.Sets (key value : String) (preamble other : Preamble) : Prop where
  title : preamble.title = other.title
  here : preamble.values.find? key = some value
  there : ∀ name ≠ key, preamble.values.find? name = other.values.find? name

/-- No title sets a key. -/
theorem headerLine?_of_titleOf? {title : List Char} (titled : titleOf? line = some title) :
    headerLine? line = none := by
  unfold titleOf? at titled
  split at titled
  next rest begins =>
      have sharp : isLetter '#' = false ∧ isBlank '#' = false := ⟨rfl, rfl⟩
      simp [headerLine?, begins, List.span_eq_takeWhile_dropWhile, sharp]
  next => cases titled

/-- Titles and values are found independently of each other. -/
theorem Preamble.add_eq (preamble : Preamble) (line : Line) :
    preamble.add line =
      { title := preamble.title.or ((titleOf? line).map dropTitleMark)
        values :=
          match headerLine? line with
          | some (name, value) => preamble.values.put name value
          | none => preamble.values } := by
  obtain ⟨title, values⟩ := preamble
  cases title with
  | none =>
      cases titled : titleOf? line with
      | some found => simp [Preamble.add, titled, headerLine?_of_titleOf? titled]
      | none => cases set : headerLine? line <;> simp [Preamble.add, titled, set]
  | some given => cases set : headerLine? line <;> simp [Preamble.add, set]

/-- A line for another key changes nothing about that. -/
theorem Preamble.Sets.add {other : Preamble} (sets : Preamble.Sets key value preamble other)
    (unset : ∀ value, headerLine? line ≠ some (key, value)) :
    Preamble.Sets key value (preamble.add line) (other.add line) := by
  obtain ⟨title, here, there⟩ := sets
  rw [Preamble.add_eq, Preamble.add_eq, title]
  cases set : headerLine? line with
  | none => exact ⟨rfl, here, there⟩
  | some entry =>
      obtain ⟨name, given⟩ := entry
      have differs : name ≠ key := by
        rintro rfl
        exact unset given set
      refine ⟨rfl, (Entries.find?_put_of_ne differs).trans here, fun asked apart => ?_⟩
      by_cases same : name = asked
      · rw [same, Entries.find?_put_self, Entries.find?_put_self]
      · rw [Entries.find?_put_of_ne same, Entries.find?_put_of_ne same, there asked apart]

theorem Preamble.Sets.foldl {other : Preamble} (sets : Preamble.Sets key value preamble other)
    (unset : ∀ line ∈ before, ∀ value, headerLine? line ≠ some (key, value)) :
    Preamble.Sets key value (before.foldl Preamble.add preamble)
      (before.foldl Preamble.add other) := by
  induction before generalizing preamble other with
  | nil => exact sets
  | cons line before ih =>
      obtain ⟨here, there⟩ := List.forall_mem_cons.mp unset
      exact ih (sets.add here) there

/-- The line in front of a preamble sets the key, and leaves the rest as it is. -/
theorem Preamble.sets_ofLines (isKey : key ∈ headerKeys) (is : IsHeaderWord value)
    (unset : ∀ line ∈ before, ∀ value, headerLine? line ≠ some (key, value)) :
    Preamble.Sets key value (Preamble.ofLines (headerLine key value :: before))
      (Preamble.ofLines before) := by
  have first : Preamble.add ⟨none, .empty⟩ (headerLine key value) =
      ⟨none, Entries.empty.put key value⟩ := by
    rw [Preamble.add_eq, headerLine?_headerLine isKey is, (headerLine_plain isKey is).2.2]
    rfl
  rw [Preamble.ofLines, List.foldl_cons, first]
  refine Preamble.Sets.foldl ⟨rfl, Entries.find?_put_self, fun name apart => ?_⟩ unset
  exact Entries.find?_put_of_ne apart.symm

/-- A preamble whose lines do not set a key has no value for it. -/
theorem Preamble.find?_ofLines_of_unset
    (unset : ∀ line ∈ before, ∀ value, headerLine? line ≠ some (key, value)) :
    (Preamble.ofLines before).values.find? key = none := by
  have kept (preamble : Preamble) (absent : preamble.values.find? key = none) :
      (before.foldl Preamble.add preamble).values.find? key = none := by
    induction before generalizing preamble with
    | nil => exact absent
    | cons line before ih =>
        obtain ⟨here, there⟩ := List.forall_mem_cons.mp unset
        refine ih there _ ?_
        rw [Preamble.add_eq]
        cases set : headerLine? line with
        | none => exact absent
        | some entry =>
            have differs : entry.1 ≠ key := fun same => here entry.2 (by rw [set, ← same])
            exact (Entries.find?_put_of_ne differs).trans absent
  exact kept ⟨none, .empty⟩ rfl

/-- The line of the preamble gives the value as it is written. -/
theorem states_inPreamble (isKey : key ∈ headerKeys) (is : IsHeaderWord value)
    (unset : ∀ line ∈ before, ∀ value, headerLine? line ≠ some (key, value))
    (stated : Header.States ⟨[], Preamble.ofLines before⟩ texts) :
    Header.States ⟨[], Preamble.ofLines (headerLine key value :: before)⟩
      (Function.update texts key (some value)) := by
  obtain ⟨-, here, there⟩ := Preamble.sets_ofLines isKey is unset
  intro name among
  by_cases same : name = key
  · subst same
    have given : Header.value? ⟨[], Preamble.ofLines (headerLine name value :: before)⟩ name =
        some (.text value) := by
      simp [Header.value?, Value.lookup, here]
    have some : value.isEmpty = false := by simpa using is.ne_empty
    rw [Header.text?, given, Function.update_self]
    simp [textOf, Value.text?, is.isTidy.1, some, bind, Except.bind]
  · rw [Function.update_of_ne same, ← stated name among]
    refine Header.text?_congr ?_
    simp [Header.value?, Value.lookup, there name same]

end Interview.Document
