import Mathlib.Data.List.Basic
import Mathlib.Data.List.Range

set_option autoImplicit false

/-- Closed intervals of numbers laid one after the other, with no gap and no overlap, from a first
number up to an excluded last one. -/
inductive Tiles : Nat → Nat → List (Nat × Nat) → Prop where
  | done (stop : Nat) : Tiles stop stop []
  -- The next interval starts right behind: no gap and no overlap.
  | tile (start last stop : Nat) (rest : List (Nat × Nat)) (inhabited : start ≤ last)
      (tail : Tiles (last + 1) stop rest) : Tiles start stop ((start, last) :: rest)

namespace Tiles

def members (tile : Nat × Nat) : List Nat := List.range' tile.1 (tile.2 + 1 - tile.1)

theorem start_le_stop (start stop : Nat) (tiles : List (Nat × Nat)) (tiling : Tiles start stop tiles) : start ≤ stop := by
  induction tiling with
  | done stop => exact Nat.le_refl stop
  | tile start last stop rest inhabited tail ih => omega

theorem tile_bounds (start stop : Nat) (tiles : List (Nat × Nat)) (tiling : Tiles start stop tiles) (piece : Nat × Nat)
    (member : piece ∈ tiles) : start ≤ piece.1 ∧ piece.1 ≤ piece.2 ∧ piece.2 < stop := by
  induction tiling with
  | done stop => cases member
  | tile start last stop rest inhabited tail ih =>
      have beyond := start_le_stop (last + 1) stop rest tail
      rcases List.mem_cons.mp member with rfl | later
      · exact ⟨Nat.le_refl _, inhabited, by omega⟩
      · obtain ⟨low, order, high⟩ := ih later
        exact ⟨by omega, order, high⟩

theorem members_range (start stop : Nat) (tiles : List (Nat × Nat)) (tiling : Tiles start stop tiles) :
    tiles.flatMap members = List.range' start (stop - start) := by
  induction tiling with
  | done stop => simp
  | tile start last stop rest inhabited tail ih =>
      have beyond := start_le_stop (last + 1) stop rest tail
      have join : start + 1 * (last + 1 - start) = last + 1 := by omega
      have total : (last + 1 - start) + (stop - (last + 1)) = stop - start := by omega
      rw [List.flatMap_cons, ih, members, ← total, ← List.range'_append, join]

theorem adjacent (start stop : Nat) (front back : List (Nat × Nat)) (a b : Nat × Nat)
    (tiling : Tiles start stop (front ++ a :: b :: back)) : b.1 = a.2 + 1 := by
  induction front generalizing start with
  | nil =>
      cases tiling with
      | tile _ last _ _ inhabited tail =>
          cases tail with
          | tile => rfl
  | cons head rest ih =>
      cases tiling with
      | tile _ last _ _ inhabited tail => exact ih (last + 1) tail

theorem head_start (start stop : Nat) (head : Nat × Nat) (rest : List (Nat × Nat))
    (tiling : Tiles start stop (head :: rest)) : head.1 = start := by
  cases tiling
  rfl

theorem last_end (start stop : Nat) (front : List (Nat × Nat)) (final : Nat × Nat)
    (tiling : Tiles start stop (front ++ [final])) : final.2 + 1 = stop := by
  induction front generalizing start with
  | nil =>
      cases tiling with
      | tile _ last _ _ inhabited tail =>
          cases tail
          rfl
  | cons head rest ih =>
      cases tiling with
      | tile _ last _ _ inhabited tail => exact ih (last + 1) tail

theorem nonempty (start stop : Nat) (tiles : List (Nat × Nat)) (tiling : Tiles start stop tiles) (room : start < stop) :
    tiles ≠ [] := by
  intro empty
  rw [empty] at tiling
  cases tiling
  exact absurd room (Nat.lt_irrefl _)

theorem rising_ranges {α : Type} (low high : α → Nat) (first : α) (rest : List α)
    (linked : List.IsChain (fun a b => low b = max (low a) (high a)) (first :: rest)) :
    low first ≤ max (low (rest.getLastD first)) (high (rest.getLastD first)) ∧
      (first :: rest).flatMap (fun a => List.range' (low a + 1) (high a - low a)) =
        List.range' (low first + 1) (max (low (rest.getLastD first)) (high (rest.getLastD first)) - low first) := by
  induction rest generalizing first with
  | nil =>
      have top : max (low first) (high first) - low first = high first - low first := by omega
      refine ⟨Nat.le_max_left _ _, ?_⟩
      simp [top]
  | cons second rest ih =>
      obtain ⟨next, others⟩ := List.isChain_cons_cons.mp linked
      obtain ⟨risen, joined⟩ := ih second others
      rw [List.getLastD_cons]
      refine ⟨by omega, ?_⟩
      by_cases empty : high first ≤ low first
      · have same : low second = low first := by omega
        have nothing : high first - low first = 0 := by omega
        rw [List.flatMap_cons, joined, nothing, same]
        rfl
      · have meets : low first + 1 + 1 * (high first - low first) = low second + 1 := by omega
        have total : max (low (rest.getLastD second)) (high (rest.getLastD second)) - low first =
            (high first - low first) + (max (low (rest.getLastD second)) (high (rest.getLastD second)) - low second) := by omega
        rw [List.flatMap_cons, joined, total, ← List.range'_append, meets]

end Tiles
