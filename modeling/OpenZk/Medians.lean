import Mathlib.Data.List.Sort

set_option autoImplicit false

structure Median {α : Type} [LinearOrder α] (values : List α) (middle : α) : Prop where
  below : values.length ≤ 2 * values.countP (fun value => value ≤ middle)
  above : values.length ≤ 2 * values.countP (fun value => middle ≤ value)

namespace Median

variable {α : Type} [LinearOrder α]

def ascending (values : List α) : List α := values.mergeSort (fun a b => a ≤ b)

theorem ascending_perm (values : List α) : (ascending values).Perm values := List.mergeSort_perm values _

theorem ascending_ordered (values : List α) : (ascending values).Pairwise (· ≤ ·) :=
  List.pairwise_mergeSort' (· ≤ ·) values

theorem ascending_length (values : List α) : (ascending values).length = values.length := List.length_mergeSort values

theorem ascending_congr (values others : List α) (perm : values.Perm others) : ascending values = ascending others := by
  have same : (ascending values).Perm (ascending others) :=
    (ascending_perm values).trans (perm.trans (ascending_perm others).symm)
  exact same.eq_of_pairwise' (ascending_ordered values) (ascending_ordered others)

theorem of_perm (values others : List α) (middle : α) (perm : values.Perm others) (median : Median values middle) :
    Median others middle := by
  refine ⟨?_, ?_⟩
  · rw [← perm.length_eq, ← perm.countP_eq]
    exact median.below
  · rw [← perm.length_eq, ← perm.countP_eq]
    exact median.above

theorem count_below (sorted : List α) (ordered : sorted.Pairwise (· ≤ ·)) (index : Nat) (bound : index < sorted.length)
    (middle : α) (reached : sorted[index] ≤ middle) :
    index + 1 ≤ sorted.countP (fun value => value ≤ middle) := by
  have all : ∀ value ∈ sorted.take (index + 1), decide (value ≤ middle) = true := by
    intro value member
    obtain ⟨place, within, rfl⟩ := List.mem_iff_getElem.mp member
    rw [List.length_take] at within
    rw [List.getElem_take, decide_eq_true_eq]
    by_cases last : place = index
    · subst last
      exact reached
    · exact le_trans (List.pairwise_iff_getElem.mp ordered place index (by omega) bound (by omega)) reached
  calc index + 1 = (sorted.take (index + 1)).length := by
        rw [List.length_take]
        omega
    _ = (sorted.take (index + 1)).countP (fun value => value ≤ middle) := (List.countP_eq_length.mpr all).symm
    _ ≤ sorted.countP (fun value => value ≤ middle) := (List.take_sublist _ _).countP_le

theorem count_above (sorted : List α) (ordered : sorted.Pairwise (· ≤ ·)) (index : Nat) (bound : index < sorted.length)
    (middle : α) (reached : middle ≤ sorted[index]) :
    sorted.length - index ≤ sorted.countP (fun value => middle ≤ value) := by
  have all : ∀ value ∈ sorted.drop index, decide (middle ≤ value) = true := by
    intro value member
    obtain ⟨place, within, rfl⟩ := List.mem_iff_getElem.mp member
    rw [List.length_drop] at within
    rw [List.getElem_drop, decide_eq_true_eq]
    by_cases first : place = 0
    · subst first
      exact reached
    · exact le_trans reached (List.pairwise_iff_getElem.mp ordered index (index + place) bound (by omega) (by omega))
  calc sorted.length - index = (sorted.drop index).length := List.length_drop.symm
    _ = (sorted.drop index).countP (fun value => middle ≤ value) := (List.countP_eq_length.mpr all).symm
    _ ≤ sorted.countP (fun value => middle ≤ value) := (List.drop_sublist _ _).countP_le

theorem between (sorted : List α) (ordered : sorted.Pairwise (· ≤ ·)) (low high : Nat) (lowBound : low < sorted.length)
    (highBound : high < sorted.length) (middle : α) (above : sorted[low] ≤ middle) (below : middle ≤ sorted[high])
    (left : sorted.length ≤ 2 * (low + 1)) (right : sorted.length ≤ 2 * (sorted.length - high)) : Median sorted middle := by
  have lower := count_below sorted ordered low lowBound middle above
  have upper := count_above sorted ordered high highBound middle below
  exact ⟨by omega, by omega⟩

end Median
