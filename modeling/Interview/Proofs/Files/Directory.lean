import Interview.Files.Tree
import Interview.Proofs.Text.Order
import Mathlib.Data.List.Sort

/-!
# What stands in a directory

The listing of a directory holds the names under which something stands in it, each once and in
increasing order. So it is known as soon as it is known what stands at the paths of the entries:
nothing else in the tree has a part in it.
-/

namespace Interview.FileTree

variable {tree other : FileTree} {directory : Path} {place found names : List String}
variable {name : String}

/-- One name more leads from a directory to the place of that name in it. -/
theorem follow_concat (led : tree.follow place names = some found)
    (directory : tree.entryAt? found = some .directory) (down : name ≠ "..") :
    tree.follow place (names ++ [name]) = some (found ++ [name]) := by
  induction names generalizing place with
  | nil =>
      cases led
      simp [follow, directory, down]
  | cons first names ih =>
      rw [List.cons_append]
      unfold follow at led ⊢
      split at led
      · cases led
      next within =>
          rw [if_neg within]
          split at led
          next up =>
              rw [if_pos up]
              split at led
              · cases led
              · exact ih led
          next ahead =>
              rw [if_neg ahead]
              exact ih led

/-- A directory has a place. -/
theorem exists_follow (present : tree.find? directory = some .directory) :
    directory.root.isEmpty = true ∧
      ∃ place, tree.follow [] directory.names = some place ∧
        tree.entryAt? place = some .directory := by
  unfold find? at present
  split at present
  next within => exact ⟨within, Option.bind_eq_some_iff.mp present⟩
  next => cases present

/-- What stands at the path of an entry is what stands at its name in the place of the directory. -/
theorem find?_child (within : directory.root.isEmpty = true)
    (led : tree.follow [] directory.names = some place)
    (present : tree.entryAt? place = some .directory) (down : name ≠ "..") :
    tree.find? (directory.child name) = tree.entryAt? (place ++ [name]) := by
  rw [find?, Path.child, if_pos within, follow_concat led present down, Option.bind_some]

theorem isSome_entryAt?_iff :
    (tree.entryAt? names).isSome = true ↔ ∃ entry, (names, entry) ∈ tree.entries := by
  rw [entryAt?, List.lookup_isSome_iff]
  simp

/-- A name is listed if something stands at its path. -/
theorem mem_list_iff (present : tree.find? directory = some .directory) (down : name ≠ "..") :
    name ∈ tree.list directory ↔ tree.contains (directory.child name) = true := by
  obtain ⟨within, place, led, directory⟩ := exists_follow present
  rw [contains, find?_child within led directory down, isSome_entryAt?_iff]
  simp only [list, led, List.mem_mergeSort, List.mem_eraseDups, List.mem_filterMap, Prod.exists,
    Option.ite_none_right_eq_some]
  constructor
  · intro listed
    obtain ⟨names, entry, member, around, last⟩ := listed
    rw [← around, List.dropLast_append_getLast? name last]
    exact ⟨entry, member⟩
  · intro there
    obtain ⟨entry, member⟩ := there
    exact ⟨place ++ [name], entry, member, by simp, by simp⟩

/-- The names of a listing are in increasing order, each once. -/
theorem pairwise_list : (tree.list directory).Pairwise (· < ·) := by
  unfold list
  split
  · exact List.Pairwise.nil
  · exact pairwise_lt_mergeSort (nodup_eraseDups _)

end Interview.FileTree
