import Interview.Value.Display

/-!
# Values that have a text

Every value is written out in full, whatever it holds, and only the integers in it can stand in the
way: `isSome_text?_iff` says that a value has a text exactly when each integer in it, however deep,
is short enough to be written.
-/

namespace Interview

/-- The integer is short enough to be written in decimal form. -/
def Decimal.IsWritable (n : Int) : Prop :=
  n.natAbs < Nat.pow 10 digitLimit

theorem Decimal.isSome_wholeText?_iff {n : Int} : (wholeText? n).isSome ↔ IsWritable n := by
  unfold wholeText? IsWritable
  split <;> simp_all

namespace Value

mutual

/-- The integers in a value, in the order in which they are written. -/
def wholes : Value → List Int
  | .int n => [n]
  | .list items => wholesInList items
  | .pair first second => wholes first ++ wholes second
  | .set members => wholesInList members
  | .mapping entries => wholesInEntries entries
  | _ => []

/-- The integers in a list of values. -/
def wholesInList : List Value → List Int
  | [] => []
  | item :: items => wholes item ++ wholesInList items

/-- The integers in the entries of a mapping. -/
def wholesInEntries : List (Value × Value) → List Int
  | [] => []
  | entry :: entries => wholesInEntry entry ++ wholesInEntries entries

/-- The integers in a key and its value. -/
def wholesInEntry : Value × Value → List Int
  | (key, value) => wholes key ++ wholes value

end

/-- Every integer in the value is short enough to be written. -/
def IsWritable (value : Value) : Prop :=
  ∀ n ∈ value.wholes, Decimal.IsWritable n

/-- Two parts that are written one behind the other are written if each of them is. -/
theorem isSome_together {α β γ : Type} {first : Option α} {second : Option β} {join : α → β → γ} :
    (do let left ← first; let right ← second; some (join left right)).isSome ↔
      first.isSome ∧ second.isSome := by
  cases first <;> cases second <;> simp

mutual

theorem isSome_literal?_iff : ∀ value, (literal? value).isSome ↔ value.IsWritable
  | .int n => by simp [literal?, IsWritable, wholes, Decimal.isSome_wholeText?_iff]
  | .list items => by simp [literal?, IsWritable, wholes, isSome_literals?_iff items]
  | .pair first second => by
      rw [literal?, isSome_together, isSome_literal?_iff first, isSome_literal?_iff second]
      simp only [IsWritable, wholes, List.forall_mem_append]
  | .set [] => by simp [literal?, IsWritable, wholes, wholesInList]
  | .set (member :: members) => by
      simp [literal?, IsWritable, wholes, isSome_literals?_iff (member :: members)]
  | .mapping entries => by
      simp [literal?, IsWritable, wholes, isSome_entryLiterals?_iff entries]
  | .null | .bool _ | .float _ | .text _ | .bytes _ | .date _ | .moment _ | .again .list _
  | .again .mapping _ => by simp [literal?, IsWritable, wholes]

theorem isSome_literals?_iff :
    ∀ items, (literals? items).isSome ↔ ∀ n ∈ wholesInList items, Decimal.IsWritable n
  | [] => by simp [literals?, wholesInList]
  | item :: items => by
      rw [literals?, isSome_together, isSome_literal?_iff item, isSome_literals?_iff items,
        wholesInList, List.forall_mem_append, IsWritable]

theorem isSome_entryLiterals?_iff :
    ∀ entries, (entryLiterals? entries).isSome ↔
      ∀ n ∈ wholesInEntries entries, Decimal.IsWritable n
  | [] => by simp [entryLiterals?, wholesInEntries]
  | entry :: entries => by
      rw [entryLiterals?, isSome_together, isSome_entryLiteral?_iff entry,
        isSome_entryLiterals?_iff entries, wholesInEntries, List.forall_mem_append]

theorem isSome_entryLiteral?_iff :
    ∀ entry, (entryLiteral? entry).isSome ↔ ∀ n ∈ wholesInEntry entry, Decimal.IsWritable n
  | (key, value) => by
      rw [entryLiteral?, isSome_together, isSome_literal?_iff key, isSome_literal?_iff value,
        wholesInEntry, List.forall_mem_append, IsWritable, IsWritable]

end

/-- A value has a text if every integer in it can be written. -/
theorem isSome_text?_iff {value : Value} : value.text?.isSome ↔ value.IsWritable := by
  unfold text?
  split
  · simp [IsWritable, wholes]
  · simp [IsWritable, wholes]
  · simp [IsWritable, wholes]
  · exact isSome_literal?_iff value

end Value

end Interview
