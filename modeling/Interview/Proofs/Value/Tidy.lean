import Interview.Calendar
import Interview.Decimal.Layout
import Interview.Decimal.Numeral
import Interview.Proofs.Value.Numeral

/-!
# Numbers and days in tidy form

Whole numbers, doubles, days and moments are written without blanks around them.
-/

namespace String

open Interview Interview.Text

variable {first second : String} {content : List Char}

/-- A text without any blank is tidy if there is something in it. -/
theorem isTidy_of_forall (some : content ≠ []) (visible : ∀ c ∈ content, isBlank c = false) :
    (ofList content).IsTidy :=
  isTidy_ofList_iff.mpr ⟨trim_eq_self_of_forall visible, some⟩

/-- A tidy text begins and ends with characters that are not blank. -/
theorem isTidy_iff_ends {text : String} :
    text.IsTidy ↔ (∃ c, text.toList.head? = some c ∧ isBlank c = false) ∧
      ∃ c, text.toList.getLast? = some c ∧ isBlank c = false := by
  rw [← ofList_toList (s := text), isTidy_ofList_iff, toList_ofList]
  have trimmed : Text.trim text.toList = text.toList ↔ _ := strip_eq_self_iff
  rw [trimmed]
  constructor
  · rintro ⟨⟨begins, ends⟩, some⟩
    exact ⟨⟨_, List.head?_eq_some_head some, begins _ (List.head?_eq_some_head some)⟩,
      ⟨_, List.getLast?_eq_some_getLast some, ends _ (List.getLast?_eq_some_getLast some)⟩⟩
  · rintro ⟨⟨c, begins, visibleFirst⟩, ⟨d, ends, visibleLast⟩⟩
    refine ⟨⟨?_, ?_⟩, fun none => by simp [none] at begins⟩
    · intro first found
      cases begins.symm.trans found
      exact visibleFirst
    · intro last found
      cases ends.symm.trans found
      exact visibleLast

/-- Whatever stands between tidy texts, the whole is tidy. -/
theorem IsTidy.enclose (tidyFirst : first.IsTidy) (tidySecond : second.IsTidy) (between : String) :
    (first ++ between ++ second).IsTidy := by
  obtain ⟨⟨c, begins, visibleFirst⟩, -⟩ := isTidy_iff_ends.mp tidyFirst
  obtain ⟨-, d, ends, visibleLast⟩ := isTidy_iff_ends.mp tidySecond
  refine isTidy_iff_ends.mpr ⟨⟨c, ?_, visibleFirst⟩, ⟨d, ?_, visibleLast⟩⟩
  · simp [List.head?_append, begins]
  · simp [List.getLast?_append, ends]

end String

namespace Interview

open Text

variable {c : Char}

theorem isBlank_of_mem_toDigits {n : Nat} (member : c ∈ Nat.toDigits 10 n) : isBlank c = false :=
  isBlank_of_isDigit (Nat.isDigit_of_mem_toDigits (by decide) (by decide) member)

/-! ## Numbers -/

namespace Decimal

variable {n : Int} {x : Float} {digits : Digits} {text : String}

theorem isTidy_repr (n : Nat) : n.repr.IsTidy := by
  rw [Nat.repr_eq_ofList_toDigits]
  exact String.isTidy_of_forall Nat.toDigits_ne_nil fun c => isBlank_of_mem_toDigits

theorem isTidy_wholeText? (shown : wholeText? n = some text) : text.IsTidy := by
  rw [wholeText?, Option.ite_none_right_eq_some, Option.some.injEq] at shown
  rw [← shown.2]
  clear shown
  cases n with
  | ofNat n => exact isTidy_repr n
  | negSucc n =>
      have sign : "-".IsTidy := by decide
      exact sign.enclose (isTidy_repr (n + 1)) ""

theorem isBlank_of_mem_ofGrid {value count : Nat} {point : Int}
    (member : c ∈ (Digits.ofGrid value point count).digits) : isBlank c = false := by
  simp only [Digits.ofGrid, List.mem_reverse] at member
  exact isBlank_of_mem_toDigits (List.mem_reverse.mp ((List.dropWhile_sublist _).mem member))

theorem isBlank_of_mem_firstGrid {range : Interval} {point : Int} {fuel count : Nat}
    (member : c ∈ (range.firstGrid point fuel count).digits) : isBlank c = false := by
  induction fuel generalizing count with
  | zero => exact isBlank_of_mem_ofGrid member
  | succ fuel ih =>
      rw [Interval.firstGrid] at member
      split at member
      · exact isBlank_of_mem_ofGrid member
      · exact ih member

theorem isBlank_of_mem_shortest (member : c ∈ (shortest x).digits) : isBlank c = false := by
  simp only [shortest] at member
  split at member
  · rw [List.mem_singleton.mp member]
    rfl
  · exact isBlank_of_mem_firstGrid member

theorem positional_visible (visible : ∀ c ∈ digits.digits, isBlank c = false) :
    positional digits ≠ [] ∧ ∀ c ∈ positional digits, isBlank c = false := by
  have zeros (count : Nat) : ∀ c ∈ List.replicate count '0', isBlank c = false := by
    intro c member
    rw [List.eq_of_mem_replicate member]
    rfl
  have front (count : Nat) : ∀ c ∈ digits.digits.take count, isBlank c = false :=
    fun c member => visible c (List.mem_of_mem_take member)
  have back (count : Nat) : ∀ c ∈ digits.digits.drop count, isBlank c = false :=
    fun c member => visible c (List.mem_of_mem_drop member)
  simp only [positional]
  split
  · refine ⟨by simp, ?_⟩
    simp only [List.forall_mem_append]
    exact ⟨⟨visible_of_any rfl, zeros _⟩, visible⟩
  · refine ⟨by simp, ?_⟩
    simp only [List.forall_mem_append, List.forall_mem_cons]
    refine ⟨⟨front _, zeros _⟩, rfl, ?_⟩
    split
    · exact visible_of_any rfl
    · exact back _

theorem scientific_visible {width : Nat} (visible : ∀ c ∈ digits.digits, isBlank c = false) :
    scientific width digits ≠ [] ∧ ∀ c ∈ scientific width digits, isBlank c = false := by
  have zeros (count : Nat) : ∀ c ∈ List.replicate count '0', isBlank c = false := by
    intro c member
    rw [List.eq_of_mem_replicate member]
    rfl
  refine ⟨by simp [scientific], ?_⟩
  simp only [scientific, List.forall_mem_append]
  refine ⟨⟨⟨⟨?_, ?_⟩, ?_⟩, zeros _⟩, fun c => isBlank_of_mem_toDigits⟩
  · exact fun c member => visible c (List.mem_of_mem_take member)
  · split
    · simp
    · rw [List.forall_mem_cons]
      exact ⟨rfl, fun c member => visible c (List.mem_of_mem_drop member)⟩
  · split <;> exact visible_of_any rfl

theorem write_visible (x : Float) : write x ≠ [] ∧ ∀ c ∈ write x, isBlank c = false := by
  have digits : ∀ c ∈ (shortest x).digits, isBlank c = false := fun c => isBlank_of_mem_shortest
  have laid : Layout.plain.write (shortest x) ≠ [] ∧
      ∀ c ∈ Layout.plain.write (shortest x), isBlank c = false := by
    rw [Layout.write]
    split
    · exact positional_visible digits
    · exact scientific_visible digits
  simp only [write]
  split
  · exact ⟨by decide, visible_of_any rfl⟩
  · have magnitude : ∀ c ∈ (if x.isInf then "inf".toList else Layout.plain.write (shortest x)),
        isBlank c = false := by
      split
      · exact visible_of_any rfl
      · exact laid.2
    split
    · exact ⟨by simp, List.forall_mem_cons.mpr ⟨rfl, magnitude⟩⟩
    · refine ⟨?_, magnitude⟩
      split
      · decide
      · exact laid.1

/-- A double is written without blanks. -/
theorem isTidy_text (x : Float) : (Decimal.text x).IsTidy :=
  String.isTidy_of_forall (write_visible x).1 (write_visible x).2

end Decimal

/-! ## Days and moments -/

namespace Calendar

theorem isBlank_of_mem_decimalPadded {width n : Nat} (member : c ∈ decimalPadded width n) :
    isBlank c = false := by
  have all : ∀ digit < 10, isBlank (Char.ofNat (48 + digit)) = false := by decide
  induction width generalizing n with
  | zero => cases member
  | succ width ih =>
      rcases List.mem_append.mp member with before | last
      · exact ih before
      · rw [List.mem_singleton.mp last]
        exact all _ (Nat.mod_lt _ (by decide))

theorem isTidy_padded (width n : Nat) : (padded (width + 1) n).IsTidy :=
  String.isTidy_of_forall (by simp [decimalPadded]) fun c => isBlank_of_mem_decimalPadded

theorem Day.isTidy_text (day : Day) : day.text.IsTidy := by
  have whole := (isTidy_padded 3 day.year).enclose (isTidy_padded 1 day.day)
    ("-" ++ padded 2 day.month ++ "-")
  simpa only [Day.text, String.append_assoc] using whole

theorem Moment.isTidy_text (moment : Moment) : moment.text.IsTidy := by
  have seconds := moment.day.isTidy_text.enclose (isTidy_padded 1 moment.second)
    (" " ++ padded 2 moment.hour ++ ":" ++ padded 2 moment.minute ++ ":")
  have fraction : (moment.day.text ++ " " ++ padded 2 moment.hour ++ ":" ++ padded 2 moment.minute ++
      ":" ++ padded 2 moment.second ++
      (if moment.microsecond = 0 then "" else "." ++ padded 6 moment.microsecond)).IsTidy := by
    split
    · simpa [String.append_assoc] using seconds
    · simpa [String.append_assoc] using seconds.enclose (isTidy_padded 5 moment.microsecond) "."
  rw [Moment.text]
  cases moment.offset with
  | none => simpa using fraction
  | some offset =>
      rw [Option.map_some, Option.getD_some, offsetText]
      simpa only [String.append_assoc] using
        fraction.enclose (isTidy_padded 1 (offset.natAbs % 60)) (_ ++ _ ++ _)

end Calendar

end Interview
