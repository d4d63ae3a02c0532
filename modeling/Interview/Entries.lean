/-!
# Keyed entries in order of insertion

Answers, rules and registered templates are kept under text keys, and their order is the order in
which the keys first came in. Writing to a key that is present replaces its value in place; a new
key goes to the end. No key occurs twice, which is part of the type.
-/

namespace Interview

variable {α β : Type}

namespace Entries

/-- The value at a key in a list of pairs: the first one. -/
def lookup (key : String) : List (String × α) → Option α
  | [] => none
  | entry :: rest => if entry.1 = key then some entry.2 else lookup key rest

/-- The list with the value at a key replaced, or with a new pair at its end. -/
def write (key : String) (value : α) : List (String × α) → List (String × α)
  | [] => [(key, value)]
  | entry :: rest =>
    if entry.1 = key then (key, value) :: rest else entry :: write key value rest

theorem mem_keys_write {key other : String} {value : α} {pairs : List (String × α)} :
    other ∈ (write key value pairs).map Prod.fst ↔ other = key ∨ other ∈ pairs.map Prod.fst := by
  induction pairs with
  | nil => simp [write]
  | cons entry rest ih =>
    unfold write
    split
    · rename_i same
      subst same
      simp
    · simp only [List.map_cons, List.mem_cons, ih]
      grind

theorem nodup_write {key : String} {value : α} {pairs : List (String × α)}
    (distinct : (pairs.map Prod.fst).Nodup) :
    ((write key value pairs).map Prod.fst).Nodup := by
  induction pairs with
  | nil => simp [write]
  | cons entry rest ih =>
    simp only [List.map_cons, List.nodup_cons] at distinct
    unfold write
    split
    · rename_i same
      subst same
      simpa using distinct
    · rename_i differs
      simp only [List.map_cons, List.nodup_cons, mem_keys_write, not_or]
      exact ⟨⟨differs, distinct.1⟩, ih distinct.2⟩

theorem lookup_write {key other : String} {value : α} {pairs : List (String × α)} :
    lookup other (write key value pairs) =
      if key = other then some value else lookup other pairs := by
  induction pairs with
  | nil => simp [write, lookup]
  | cons entry rest ih =>
    unfold write
    split
    · rename_i same
      subst same
      simp only [lookup]
      split <;> rfl
    · rename_i differs
      simp only [lookup, ih]
      grind

theorem isSome_lookup {key : String} {pairs : List (String × α)} :
    (lookup key pairs).isSome ↔ key ∈ pairs.map Prod.fst := by
  induction pairs with
  | nil => simp [lookup]
  | cons entry rest ih =>
    unfold lookup
    split
    · rename_i same
      simp [same]
    · rename_i differs
      simp [ih, Ne.symm differs]

/-- A key that is present keeps its place, and a new one comes last. -/
theorem keys_write {key : String} {value : α} {pairs : List (String × α)} :
    (write key value pairs).map Prod.fst =
      if key ∈ pairs.map Prod.fst then pairs.map Prod.fst else pairs.map Prod.fst ++ [key] := by
  induction pairs with
  | nil => simp [write]
  | cons entry rest ih =>
    unfold write
    split
    · rename_i same
      simp [same]
    · rename_i differs
      simp only [List.map_cons, ih, List.mem_cons, Ne.symm differs, false_or]
      split <;> rfl

end Entries

/-- Values under distinct keys, in the order in which the keys came in. -/
structure Entries (α : Type) where
  toList : List (String × α)
  distinct : (toList.map Prod.fst).Nodup

namespace Entries

/-- No entries. -/
def empty : Entries α := ⟨[], by simp⟩

instance : Inhabited (Entries α) := ⟨empty⟩

instance [DecidableEq α] : DecidableEq (Entries α) := fun a b =>
  match decEq a.toList b.toList with
  | .isTrue same => .isTrue (by cases a; cases b; cases same; rfl)
  | .isFalse differ => .isFalse (by intro same; cases same; exact differ rfl)

/-- The keys in order. -/
def keys (entries : Entries α) : List String :=
  entries.toList.map Prod.fst

/-- The values in order. -/
def values (entries : Entries α) : List α :=
  entries.toList.map Prod.snd

/-- The value at a key. -/
def find? (entries : Entries α) (key : String) : Option α :=
  lookup key entries.toList

/-- Whether a key is present. -/
def contains (entries : Entries α) (key : String) : Bool :=
  (entries.find? key).isSome

@[simp] theorem contains_empty {key : String} : (empty : Entries α).contains key = false :=
  rfl

/-- The entries with a value written at a key. -/
def put (entries : Entries α) (key : String) (value : α) : Entries α :=
  ⟨write key value entries.toList, nodup_write entries.distinct⟩

@[simp] theorem find?_put_self {entries : Entries α} {key : String} {value : α} :
    (entries.put key value).find? key = some value := by
  simp [find?, put, lookup_write]

theorem find?_put_of_ne {entries : Entries α} {key other : String} {value : α}
    (differs : key ≠ other) : (entries.put key value).find? other = entries.find? other := by
  simp [find?, put, lookup_write, differs]

theorem contains_iff_mem_keys {entries : Entries α} {key : String} :
    entries.contains key ↔ key ∈ entries.keys :=
  isSome_lookup

theorem contains_put {entries : Entries α} {key other : String} {value : α} :
    (entries.put key value).contains other ↔ other = key ∨ entries.contains other := by
  rw [contains_iff_mem_keys, contains_iff_mem_keys]
  exact mem_keys_write

theorem keys_put {entries : Entries α} {key : String} {value : α} :
    (entries.put key value).keys =
      if entries.contains key then entries.keys else entries.keys ++ [key] := by
  simp only [contains_iff_mem_keys]
  exact keys_write

/-- The entries of a list of pairs, written one after the other. -/
def ofList (pairs : List (String × α)) : Entries α :=
  pairs.foldl (fun entries pair => entries.put pair.1 pair.2) empty

/-- Whether there are no entries. -/
def isEmpty (entries : Entries α) : Bool :=
  entries.toList.isEmpty

/-- The entries that satisfy a condition. -/
def filter (keep : String × α → Bool) (entries : Entries α) : Entries α :=
  ⟨entries.toList.filter keep,
    (List.Sublist.map Prod.fst List.filter_sublist).nodup entries.distinct⟩

/-- The entries with each value replaced by its image. -/
def mapValues (f : α → β) (entries : Entries α) : Entries β :=
  ⟨entries.toList.map fun (key, value) => (key, f value), by
    simpa [Function.comp_def] using entries.distinct⟩

end Entries

end Interview
