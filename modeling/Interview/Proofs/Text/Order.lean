import Mathlib.Data.List.Basic

/-!
# Texts in increasing order

Names are listed in increasing order, each once. They come from a list in which a name may stand
more than once, or from the keys of entries, which are distinct.
-/

namespace Interview

/-- Of each name one is left. -/
theorem nodup_eraseDups : ∀ names : List String, names.eraseDups.Nodup
  | [] => List.nodup_nil
  | name :: names => by
      have later := nodup_eraseDups (names.filter fun other => !other == name)
      have apart : name ∉ (names.filter fun other => !other == name).eraseDups := by simp
      rw [List.eraseDups_cons]
      exact List.nodup_cons.mpr ⟨apart, later⟩
termination_by names => names.length
decreasing_by
  simp only [List.length_cons]
  exact Nat.lt_add_one_of_le (List.length_filter_le ..)

/-- Distinct names are in increasing order when they are sorted. -/
theorem pairwise_lt_mergeSort {names : List String} (distinct : names.Nodup) :
    (names.mergeSort fun a b => decide (a ≤ b)).Pairwise (· < ·) := by
  have sorted : (names.mergeSort fun a b => decide (a ≤ b)).Pairwise (· ≤ ·) := by
    refine (List.pairwise_mergeSort ?_ ?_ names).imp of_decide_eq_true
    · intro a b c below above
      exact decide_eq_true (String.le_trans (of_decide_eq_true below) (of_decide_eq_true above))
    · intro a b
      simpa using String.le_total a b
  have separate := (List.mergeSort_perm names fun a b => decide (a ≤ b)).nodup_iff.mpr distinct
  refine (sorted.and separate).imp ?_
  intro a b both
  exact Std.lt_of_le_of_ne both.1 both.2

end Interview
