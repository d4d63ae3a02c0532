import Interview.Text.Blank
import Mathlib.Data.List.DropRight

/-!
# Trimmed texts

Trimming leaves a text that begins and ends with characters that are not blank, so a second trimming
changes nothing. A text that is trimmed and not blank is called tidy; this is the form in which
names, identifiers and wordings come out of a document.
-/

namespace Interview.Text

variable {text : List Char} {p : Char → Bool} {c : Char}

/-! ## Ends of lists -/

section Ends

variable {α : Type} {p : α → Bool} {items : List α}

/-- A list keeps its form when items are dropped from both ends if none of them stands at either
end. -/
theorem rdropWhile_dropWhile_eq_self_iff :
    (items.dropWhile p).rdropWhile p = items ↔
      (∀ first, items.head? = some first → p first = false) ∧
        ∀ last, items.getLast? = some last → p last = false := by
  constructor
  · intro same
    have shorter := (List.rdropWhile_prefix p (items.dropWhile p)).length_le
    have atStart : items.dropWhile p = items := by
      refine (List.dropWhile_sublist p).eq_of_length_le ?_
      rwa [same] at shorter
    have atEnd : items.rdropWhile p = items := by
      rwa [atStart] at same
    constructor
    · intro first begins
      rcases List.head?_eq_some_iff.mp begins with ⟨rest, rfl⟩
      exact Bool.eq_false_iff.mpr <| List.dropWhile_eq_self_iff.mp atStart (by simp)
    · intro last ends
      have ne_nil : items ≠ [] := by
        rintro rfl
        cases ends
      rw [List.getLast?_eq_some_getLast ne_nil, Option.some.injEq] at ends
      subst ends
      simpa using List.rdropWhile_eq_self_iff.mp atEnd ne_nil
  · rintro ⟨begins, ends⟩
    have atStart : items.dropWhile p = items := by
      refine List.dropWhile_eq_self_iff.mpr fun inside => ?_
      simp [begins items[0] (by simp [List.head?_eq_getElem?, inside])]
    rw [atStart, List.rdropWhile_eq_self_iff]
    intro ne_nil
    simp [ends _ (List.getLast?_eq_some_getLast ne_nil)]

/-- What is left of a list has none of the dropped items at its ends. -/
theorem ends_rdropWhile_dropWhile (p : α → Bool) (items : List α) :
    (∀ first, ((items.dropWhile p).rdropWhile p).head? = some first → p first = false) ∧
      ∀ last, ((items.dropWhile p).rdropWhile p).getLast? = some last → p last = false := by
  constructor
  · intro first begins
    rcases List.head?_eq_some_iff.mp begins with ⟨rest, split⟩
    obtain ⟨more, whole⟩ := List.rdropWhile_prefix p (items.dropWhile p)
    rw [split] at whole
    have kept := List.head?_dropWhile_not p items
    rw [← whole] at kept
    simpa using kept
  · intro last ends
    have ne_nil : (items.dropWhile p).rdropWhile p ≠ [] := by
      intro empty
      rw [empty] at ends
      cases ends
    rw [List.getLast?_eq_some_getLast ne_nil, Option.some.injEq] at ends
    subst ends
    exact Bool.eq_false_iff.mpr <| List.rdropWhile_last_not p (items.dropWhile p) ne_nil

end Ends

/-! ## Texts -/

theorem strip_eq_rdropWhile : strip p text = (text.dropWhile p).rdropWhile p :=
  rfl

/-- A text keeps its form when characters are stripped from it if none of them stands at either
end. -/
theorem strip_eq_self_iff :
    strip p text = text ↔ (∀ first, text.head? = some first → p first = false) ∧
      ∀ last, text.getLast? = some last → p last = false :=
  rdropWhile_dropWhile_eq_self_iff

theorem dropStart_append (text rest : List Char) :
    dropStart p (text ++ rest) =
      if text.all p then dropStart p rest else dropStart p text ++ rest := by
  have empty : (text.dropWhile p).isEmpty = text.all p := by
    rw [Bool.eq_iff_iff, List.isEmpty_iff, List.dropWhile_eq_nil_iff, List.all_eq_true]
  rw [dropStart, List.dropWhile_append, empty]
  rfl

theorem dropEnd_append (front text : List Char) :
    dropEnd p (front ++ text) =
      if text.all p then dropEnd p front else front ++ dropEnd p text := by
  have mirrored := dropStart_append (p := p) text.reverse front.reverse
  rw [List.all_reverse] at mirrored
  rw [dropEnd, List.reverse_append, ← dropStart, mirrored]
  cases text.all p with
  | true => rfl
  | false => simp [dropEnd, dropStart]

/-- Nothing is stripped from a text that has none of the stripped characters. -/
theorem strip_eq_self_of_forall (kept : ∀ c ∈ text, p c = false) : strip p text = text :=
  strip_eq_self_iff.mpr
    ⟨fun _ begins => kept _ (List.mem_of_head? begins),
      fun _ ends => kept _ (List.mem_of_getLast? ends)⟩

/-- Nothing more is stripped from what is left of a text. -/
theorem strip_strip (p : Char → Bool) (text : List Char) : strip p (strip p text) = strip p text :=
  strip_eq_self_iff.mpr (ends_rdropWhile_dropWhile p text)

@[simp] theorem trim_trim (text : List Char) : trim (trim text) = trim text :=
  strip_strip isBlank text

theorem isSpace_of_isBlank (visible : isBlank c = false) : isSpace c = false :=
  (Bool.or_eq_false_iff.mp visible).1

/-- A trimmed text has no white space at its ends. -/
theorem strip_isSpace_trim (text : List Char) : strip isSpace (trim text) = trim text := by
  obtain ⟨begins, ends⟩ := strip_eq_self_iff.mp (trim_trim text)
  exact strip_eq_self_iff.mpr
    ⟨fun first found => isSpace_of_isBlank (begins first found),
      fun last found => isSpace_of_isBlank (ends last found)⟩

/-- Trimming leaves nothing of a blank text, and of no other. -/
theorem trim_eq_nil_iff : trim text = [] ↔ isBlankText text = true := by
  rw [trim, strip_eq_rdropWhile, List.rdropWhile_eq_nil_iff, isBlankText, List.all_eq_true]
  constructor
  · intro rest c member
    by_contra visible
    have empty : text.dropWhile isBlank = [] := by
      cases split : text.dropWhile isBlank with
      | nil => rfl
      | cons first others =>
          have kept := List.head?_dropWhile_not isBlank text
          rw [split] at kept rest
          have blank := rest first List.mem_cons_self
          simp [blank] at kept
    exact visible (List.dropWhile_eq_nil_iff.mp empty c member)
  · exact fun all c member => all c ((List.dropWhile_sublist isBlank).mem member)

theorem visible_of_any (none : text.any isBlank = false) : ∀ c ∈ text, isBlank c = false := by
  simpa using none

theorem trim_eq_self_of_forall (visible : ∀ c ∈ text, isBlank c = false) : trim text = text :=
  strip_eq_self_of_forall visible

/-- Trimming passes over blanks in front. -/
theorem trim_append_of_blank_front {front : List Char} (blank : isBlankText front = true)
    (text : List Char) : trim (front ++ text) = trim text := by
  rw [trim, strip, dropStart_append, ← isBlankText, if_pos blank]
  rfl

theorem trim_cons_of_blank (blank : isBlank c = true) : trim (c :: text) = trim text := by
  have front : isBlankText [c] = true := by simpa [isBlankText] using blank
  exact trim_append_of_blank_front front text

theorem trim_cons_of_visible (visible : isBlank c = false) (rest : List Char) :
    trim (c :: rest) = dropEnd isBlank (c :: rest) := by
  simp [trim, strip, dropStart, visible]

/-- Trimming passes over blanks at the end. -/
theorem trim_append_of_blank {rest : List Char} (blank : isBlankText rest = true)
    (text : List Char) : trim (text ++ rest) = trim text := by
  have all : rest.all isBlank = true := blank
  rw [trim, trim, strip, strip, dropStart_append]
  cases shown : text.all isBlank with
  | true =>
      have none : dropStart isBlank text = [] :=
        List.dropWhile_eq_nil_iff.mpr (List.all_eq_true.mp shown)
      have noRest : dropStart isBlank rest = [] :=
        List.dropWhile_eq_nil_iff.mpr (List.all_eq_true.mp all)
      rw [if_pos rfl, none, noRest]
  | false => rw [if_neg Bool.false_ne_true, dropEnd_append, if_pos all]

/-- Of a text that does not begin with a blank, trimming removes blanks at the end only. -/
theorem trim_append_of_visible {front : List Char} (some : front ≠ [])
    (begins : ∀ c ∈ front.head?, isBlank c = false) (shown : isBlankText text = false) :
    trim (front ++ text) = front ++ dropEnd isBlank text := by
  obtain ⟨first, others, rfl⟩ := List.exists_cons_of_ne_nil some
  have visible := begins first rfl
  have all : text.all isBlank = false := shown
  rw [trim, strip, List.cons_append, dropStart, List.dropWhile_cons_of_neg (by simp [visible]),
    ← List.cons_append, dropEnd_append, all, if_neg Bool.false_ne_true]

/-- Trimming keeps a first character that is not blank. -/
theorem exists_trim_cons {c : Char} (visible : isBlank c = false) (text : List Char) :
    ∃ others, trim (c :: text) = c :: others := by
  have kept : trim (c :: text) <+: c :: text := by
    rw [trim_cons_of_visible visible]
    exact List.rdropWhile_prefix isBlank (c :: text)
  cases split : trim (c :: text) with
  | nil =>
      rw [trim_eq_nil_iff, isBlankText, List.all_cons, visible] at split
      cases split
  | cons d others =>
      rw [split] at kept
      exact ⟨others, by rw [(List.cons_prefix_cons.mp kept).1]⟩

end Interview.Text

namespace String

open Interview

/-- The text is not blank, and no blanks stand around it. -/
def IsTidy (text : String) : Prop :=
  text.trimBlank = text ∧ text.isBlankText = false

instance (text : String) : Decidable text.IsTidy :=
  inferInstanceAs (Decidable (_ ∧ _))

variable {text : String} {content : List Char}

/-- A text is tidy if trimming leaves it as it is and something is there. -/
theorem isTidy_ofList_iff :
    (ofList content).IsTidy ↔ Text.trim content = content ∧ content ≠ [] := by
  have blank : (ofList content).isBlankText = false ↔ Text.trim content ≠ [] := by
    rw [isBlankText, toList_ofList, ne_eq, Text.trim_eq_nil_iff, Bool.not_eq_true]
  rw [IsTidy, blank, trimBlank, toList_ofList, ofList_inj]
  constructor
  · rintro ⟨same, ne_nil⟩
    exact ⟨same, same ▸ ne_nil⟩
  · rintro ⟨same, ne_nil⟩
    exact ⟨same, same.symm ▸ ne_nil⟩

theorem isTidy_ofList_trim (visible : Text.trim content ≠ []) :
    (ofList (Text.trim content)).IsTidy :=
  isTidy_ofList_iff.mpr ⟨Text.trim_trim content, visible⟩

/-- What is left of a text that is not blank is tidy. -/
theorem isTidy_trimBlank (visible : text.isBlankText = false) : text.trimBlank.IsTidy := by
  refine isTidy_ofList_trim fun empty => ?_
  rw [Text.trim_eq_nil_iff] at empty
  exact absurd (empty.symm.trans visible) (by decide)

theorem isBlankText_eq_false_of_trimBlank (visible : text.trimBlank.isEmpty = false) :
    text.isBlankText = false := by
  rw [Bool.eq_false_iff]
  intro blank
  rw [trimBlank, Text.trim_eq_nil_iff.mpr blank] at visible
  exact absurd visible (by decide)

end String
