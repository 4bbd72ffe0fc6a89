import OpenZk.Tiling
import Mathlib.Algebra.Order.Floor.Div

set_option autoImplicit false

namespace Chunks

def pieces (width start stop : Nat) : List (Nat × Nat) :=
  (List.range ((stop - start) ⌈/⌉ width)).map fun index =>
    (start + index * width, min (start + (index + 1) * width) stop - 1)

theorem lt_count_iff (width total index : Nat) (positive : 1 ≤ width) : index < total ⌈/⌉ width ↔ index * width < total := by
  rw [← Nat.not_le, ceilDiv_le_iff_le_mul positive, Nat.not_le, Nat.mul_comm]

theorem count_pos (width total : Nat) (positive : 1 ≤ width) (some_left : 0 < total) : 0 < total ⌈/⌉ width := by
  rw [lt_count_iff width total 0 positive, Nat.zero_mul]
  exact some_left

theorem count_step (width total : Nat) (positive : 1 ≤ width) : (total + width) ⌈/⌉ width = total ⌈/⌉ width + 1 := by
  have regroup : total + width + width - 1 = total + width - 1 + width := by omega
  rw [Nat.ceilDiv_eq_add_pred_div, Nat.ceilDiv_eq_add_pred_div, regroup, Nat.add_div_right _ positive]

theorem count_short (width total : Nat) (some_left : 0 < total) (short : total ≤ width) : total ⌈/⌉ width = 1 := by
  have positive : 1 ≤ width := by omega
  apply Nat.le_antisymm
  · rw [ceilDiv_le_iff_le_mul positive]
    omega
  · exact count_pos width total positive some_left

theorem count_one_iff (width total : Nat) (positive : 1 ≤ width) (some_left : 0 < total) :
    total ⌈/⌉ width = 1 ↔ total ≤ width := by
  refine ⟨?_, count_short width total some_left⟩
  intro one
  have second := (lt_count_iff width total 1 positive).not.mp (by omega)
  omega

theorem count_exact (width quotient : Nat) (positive : 1 ≤ width) : (width * quotient) ⌈/⌉ width = quotient := by
  induction quotient with
  | zero => rw [Nat.mul_zero, zero_ceilDiv]
  | succ quotient ih => rw [Nat.mul_succ, count_step width _ positive, ih]

theorem count_remainder (width quotient left : Nat) (some_left : 0 < left) (short : left ≤ width) :
    (width * quotient + left) ⌈/⌉ width = quotient + 1 := by
  have positive : 1 ≤ width := by omega
  induction quotient with
  | zero => rw [Nat.mul_zero, Nat.zero_add, count_short width left some_left short]
  | succ quotient ih =>
      have regroup : width * (quotient + 1) + left = width * quotient + left + width := by
        rw [Nat.mul_succ]
        omega
      rw [regroup, count_step width _ positive, ih]

theorem pieces_length (width start stop : Nat) : (pieces width start stop).length = (stop - start) ⌈/⌉ width := by
  simp [pieces]

theorem pieces_done (width start stop : Nat) (past : stop ≤ start) : pieces width start stop = [] := by
  simp [pieces, Nat.sub_eq_zero_of_le past]

theorem pieces_short (width start stop : Nat) (within : start < stop) (short : stop ≤ start + width) :
    pieces width start stop = [(start, stop - 1)] := by
  have one := count_short width (stop - start) (by omega) (by omega)
  simp [pieces, one, Nat.min_eq_right short]

theorem pieces_full (width start stop : Nat) (positive : 1 ≤ width) (fits : start + width ≤ stop) :
    pieces width start stop = (start, start + width - 1) :: pieces width (start + width) stop := by
  have total : stop - start = stop - (start + width) + width := by omega
  have shift : ∀ index, start + (index + 1) * width = start + width + index * width := by
    intro index
    rw [Nat.add_mul]
    omega
  rw [pieces, total, count_step width _ positive, List.range_succ_eq_map, List.map_cons, List.map_map]
  simp only [Nat.zero_mul, Nat.add_zero, Nat.zero_add, Nat.one_mul, Nat.min_eq_left fits, pieces]
  simp [Function.comp_def, shift]

theorem pieces_step (width start stop : Nat) (positive : 1 ≤ width) (within : start < stop) :
    pieces width start stop = (start, min (start + width) stop - 1) :: pieces width (min (start + width) stop) stop := by
  by_cases fits : start + width ≤ stop
  · rw [Nat.min_eq_left fits, pieces_full width start stop positive fits]
  · rw [Nat.min_eq_right (by omega), pieces_done width stop stop (Nat.le_refl stop),
      pieces_short width start stop within (by omega)]

theorem pieces_tiles (width start stop : Nat) (positive : 1 ≤ width) (order : start ≤ stop) :
    Tiles start stop (pieces width start stop) := by
  induction left : stop - start using Nat.strong_induction_on generalizing start with
  | _ left ih =>
      by_cases done : start = stop
      · rw [done, pieces_done width stop stop (Nat.le_refl stop)]
        exact .done stop
      · have next : min (start + width) stop - 1 + 1 = min (start + width) stop := by omega
        rw [pieces_step width start stop positive (by omega)]
        apply Tiles.tile start (min (start + width) stop - 1) stop _ (by omega)
        rw [next]
        exact ih _ (by omega) (min (start + width) stop) (Nat.min_le_right _ _) rfl

theorem pieces_get (width start stop : Nat) (front back : List (Nat × Nat)) (piece : Nat × Nat)
    (parted : pieces width start stop = front ++ piece :: back) :
    piece = (start + front.length * width, min (start + (front.length + 1) * width) stop - 1) := by
  have at_front : (pieces width start stop)[front.length]? = some piece := by
    rw [parted]
    simp
  rw [pieces, List.getElem?_map, Option.map_eq_some_iff] at at_front
  obtain ⟨index, found, rfl⟩ := at_front
  obtain ⟨bound, same⟩ := List.getElem?_eq_some_iff.mp found
  rw [List.getElem_range] at same
  rw [← same]

theorem pieces_within (width start stop : Nat) (positive : 1 ≤ width) (front back : List (Nat × Nat)) (piece : Nat × Nat)
    (parted : pieces width start stop = front ++ piece :: back) :
    start + (front.length + back.length) * width < stop := by
  have total := pieces_length width start stop
  rw [parted, List.length_append, List.length_cons] at total
  have below : front.length + back.length < (stop - start) ⌈/⌉ width := by omega
  have room := (lt_count_iff width (stop - start) _ positive).mp below
  omega

theorem piece_full (width start stop : Nat) (positive : 1 ≤ width) (front back : List (Nat × Nat)) (piece : Nat × Nat)
    (parted : pieces width start stop = front ++ piece :: back) (later : back ≠ []) : piece.2 + 1 = piece.1 + width := by
  have within := pieces_within width start stop positive front back piece parted
  have one : 1 ≤ back.length := List.length_pos_iff.mpr later
  have reach : (front.length + 1) * width ≤ (front.length + back.length) * width :=
    Nat.mul_le_mul_right width (by omega)
  have next : (front.length + 1) * width = front.length * width + width := by
    rw [Nat.add_mul, Nat.one_mul]
  rw [pieces_get width start stop front back piece parted]
  dsimp only
  omega

theorem piece_bounds (width start stop : Nat) (positive : 1 ≤ width) (piece : Nat × Nat)
    (member : piece ∈ pieces width start stop) : piece.1 < piece.2 + 1 ∧ piece.2 + 1 ≤ piece.1 + width := by
  obtain ⟨front, back, parted⟩ := List.append_of_mem member
  have within := pieces_within width start stop positive front back piece parted
  have reach : front.length * width ≤ (front.length + back.length) * width := Nat.mul_le_mul_right width (by omega)
  have next : (front.length + 1) * width = front.length * width + width := by
    rw [Nat.add_mul, Nat.one_mul]
  rw [pieces_get width start stop front back piece parted]
  dsimp only
  omega

end Chunks
