import Interview.Entries
import Interview.Value.Basic
import Mathlib.Data.List.Forall2

/-!
# Entries written one after the other

Entries that come from a list of pairs hold at each key what was written there last, and the values
of a mapping are found under its text keys.
-/

namespace Interview

namespace Entries

variable {α : Type} {key : String} {value : α} {pairs others : List (String × α)}
variable {entries : Entries α}

theorem eq_of_toList {others : Entries α} (same : entries.toList = others.toList) :
    entries = others := by
  cases entries
  cases others
  cases same
  rfl

theorem lookup_append :
    lookup key (pairs ++ others) = (lookup key pairs).or (lookup key others) := by
  induction pairs with
  | nil => rfl
  | cons pair pairs ih =>
      rw [List.cons_append, lookup, lookup]
      split
      · rfl
      · exact ih

/-- The pairs that are looked up are those of the list. -/
theorem mem_of_lookup (found : lookup key pairs = some value) : (key, value) ∈ pairs := by
  induction pairs with
  | nil => cases found
  | cons pair pairs ih =>
      rw [lookup] at found
      split at found
      next same =>
          cases found
          exact same ▸ List.mem_cons_self
      next => exact List.mem_cons_of_mem pair (ih found)

/-- Lists that have the same keys, and at one key the same values, are alike in a lookup of that
key. -/
theorem lookup_congr (alike : List.Forall₂ (fun pair other : String × α =>
      pair.1 = other.1 ∧ (pair.1 = key → pair.2 = other.2)) pairs others) :
    lookup key pairs = lookup key others := by
  induction alike with
  | nil => rfl
  | cons same _ ih =>
      obtain ⟨sameKey, sameValue⟩ := same
      rw [lookup, lookup, ← sameKey, ih]
      split
      next named => rw [sameValue named]
      next => rfl

/-- Of several values for one key the one that was written last is found. -/
theorem find?_foldl_put :
    (pairs.foldl (fun entries pair => entries.put pair.1 pair.2) entries).find? key =
      (lookup key pairs.reverse).or (entries.find? key) := by
  induction pairs generalizing entries with
  | nil => rfl
  | cons pair pairs ih =>
      rw [List.foldl_cons, ih, List.reverse_cons, lookup_append, Option.or_assoc]
      congr 1
      by_cases same : pair.1 = key
      · subst same
        simp [lookup]
      · simp [lookup, same, find?_put_of_ne same]

theorem find?_ofList : (ofList pairs).find? key = lookup key pairs.reverse :=
  find?_foldl_put.trans (Option.or_none ..)

theorem contains_ofList : (ofList pairs).contains key = true ↔ key ∈ pairs.map Prod.fst := by
  rw [contains, find?_ofList, isSome_lookup, List.map_reverse, List.mem_reverse]

/-- Where no key comes twice, the pairs of the list are what is found. -/
theorem lookup_eq_some_iff (distinct : (pairs.map Prod.fst).Nodup) :
    lookup key pairs = some value ↔ (key, value) ∈ pairs := by
  constructor
  · exact mem_of_lookup
  · intro member
    induction pairs with
    | nil => cases member
    | cons pair pairs ih =>
        obtain ⟨new, distinct⟩ := List.nodup_cons.mp distinct
        rw [lookup]
        rcases List.mem_cons.mp member with rfl | later
        · exact if_pos rfl
        · rw [if_neg]
          · exact ih distinct later
          · intro same
            exact new (List.mem_map.mpr ⟨_, later, same.symm⟩)

/-- Where no key comes twice, the order of the pairs does not matter. -/
theorem lookup_perm (distinct : (pairs.map Prod.fst).Nodup) (perm : pairs.Perm others) :
    lookup key pairs = lookup key others := by
  ext value
  rw [lookup_eq_some_iff distinct, lookup_eq_some_iff ((perm.map Prod.fst).nodup_iff.mp distinct),
    perm.mem_iff]

/-- A value under a new key comes last. -/
theorem toList_put_of_new (new : entries.contains key = false) :
    (entries.put key value).toList = entries.toList ++ [(key, value)] := by
  have absent : key ∉ entries.toList.map Prod.fst := by
    rw [← Bool.not_eq_true, contains_iff_mem_keys] at new
    exact new
  show write key value entries.toList = _
  generalize entries.toList = pairs at absent
  induction pairs with
  | nil => rfl
  | cons entry rest ih =>
      rw [List.map_cons, List.mem_cons, not_or] at absent
      rw [write, if_neg (Ne.symm absent.1), ih absent.2, List.cons_append]

/-- A list in which no key comes twice is the list of its entries. -/
theorem toList_ofList (distinct : (pairs.map Prod.fst).Nodup) : (ofList pairs).toList = pairs := by
  have behind : ∀ entries : Entries α, ((entries.toList ++ pairs).map Prod.fst).Nodup →
      (pairs.foldl (fun entries pair => entries.put pair.1 pair.2) entries).toList =
        entries.toList ++ pairs := by
    clear distinct
    induction pairs with
    | nil => simp
    | cons pair pairs ih =>
        intro entries distinct
        have new : entries.contains pair.1 = false := by
          rw [← Bool.not_eq_true, contains_iff_mem_keys]
          intro old
          rw [List.map_append, List.map_cons, List.nodup_append] at distinct
          exact distinct.2.2 _ old _ List.mem_cons_self rfl
        have added : (entries.put pair.1 pair.2).toList = entries.toList ++ [pair] :=
          toList_put_of_new new
        rw [List.foldl_cons, ih, added, List.append_assoc, List.singleton_append]
        rwa [added, List.append_assoc, List.singleton_append]
  exact behind .empty distinct

/-- Entries stay as they are when each value does. -/
theorem mapValues_eq_self_iff {f : α → α} :
    entries.mapValues f = entries ↔ ∀ value ∈ entries.values, f value = value := by
  have lists : entries.mapValues f = entries ↔ (entries.mapValues f).toList = entries.toList :=
    ⟨congrArg Entries.toList, Entries.eq_of_toList⟩
  have each : (entries.mapValues f).toList = entries.toList ↔
      ∀ pair ∈ entries.toList, (pair.1, f pair.2) = pair := by
    conv_lhs => rhs; rw [← List.map_id entries.toList]
    exact List.map_inj_left
  rw [lists, each, values, List.forall_mem_map]
  exact forall₂_congr fun pair _ => Prod.ext_iff.trans (and_iff_right rfl)

end Entries

/-- What stands in a mapping under a text key. -/
theorem Value.lookup_ofEntries {key : String} (pairs : List (String × Value)) :
    Value.lookup (.text key) (pairs.map fun pair => (.text pair.1, pair.2)) =
      Entries.lookup key pairs := by
  induction pairs with
  | nil => rfl
  | cons pair pairs ih =>
      rw [List.map_cons, Value.lookup, Entries.lookup, ih]
      simp [Value.sameKey]

end Interview
