import OpenZk.Words
import OpenZk.Chunking

set_option autoImplicit false

namespace OpenZk

open Words

inductive ProvingMode where
  | groth16
  | compressed
  | execute
deriving DecidableEq

structure ProofRequest where
  l1Head : Bytes32
  l2StartBlock : UInt64
  l2EndBlock : UInt64
  l2StartOutputRoot : Bytes32
  mode : ProvingMode
deriving DecidableEq

structure ChainState where
  l1Head : Bytes32
  l2ProvenBlock : UInt64
  l2SafeBlock : UInt64
deriving DecidableEq

namespace Planner

inductive Fault where
  | overflow
  | outOfFuel
deriving DecidableEq

def checkedAdd (a b : UInt64) : Except Fault UInt64 := if a.toNat + b.toNat < 2 ^ 64 then .ok (a + b) else .error .overflow

def checkedSub (a b : UInt64) : Except Fault UInt64 := if b ≤ a then .ok (a - b) else .error .overflow

def pendingRange (state : ChainState) : Except Fault (Option (UInt64 × UInt64)) :=
  if state.l2SafeBlock > state.l2ProvenBlock then
    match checkedAdd state.l2ProvenBlock 1 with
    | .ok start => .ok (some (start, state.l2SafeBlock))
    | .error fault => .error fault
  else .ok none

def requestFor (mode : ProvingMode) (state : ChainState) (cursor rangeEnd : UInt64) : ProofRequest where
  l1Head := state.l1Head
  l2StartBlock := cursor
  l2EndBlock := rangeEnd
  l2StartOutputRoot := zeroWord
  mode := mode

def advance (window stop cursor : UInt64) : Except Fault (UInt64 × UInt64) :=
  match checkedAdd cursor window with
  | .error fault => .error fault
  | .ok sum =>
      match checkedSub sum 1 with
      | .error fault => .error fault
      | .ok last =>
          match checkedAdd (min last stop) 1 with
          | .error fault => .error fault
          | .ok next => .ok (min last stop, next)

def planLoop (window : UInt64) (mode : ProvingMode) (state : ChainState) (stop : UInt64) :
    Nat → UInt64 → Except Fault (List ProofRequest)
  | 0, cursor => if cursor ≤ stop then .error .outOfFuel else .ok []
  | fuel + 1, cursor =>
      if cursor ≤ stop then
        match advance window stop cursor with
        | .error fault => .error fault
        | .ok (rangeEnd, next) =>
            match planLoop window mode state stop fuel next with
            | .error fault => .error fault
            | .ok rest => .ok (requestFor mode state cursor rangeEnd :: rest)
      else .ok []

def planRange (window : UInt64) (mode : ProvingMode) (state : ChainState) (start stop : UInt64) :
    Except Fault (List ProofRequest) :=
  -- Each round of a window of at least one block uses up a block.
  planLoop window mode state stop (stop.toNat + 1 - start.toNat) start

def span (request : ProofRequest) : Nat × Nat := (request.l2StartBlock.toNat, request.l2EndBlock.toNat)

def requestOf (mode : ProvingMode) (state : ChainState) (piece : Nat × Nat) : ProofRequest :=
  requestFor mode state (UInt64.ofNat piece.1) (UInt64.ofNat piece.2)

def Room (window start stop : UInt64) : Prop :=
  start.toNat + window.toNat * ((stop.toNat + 1 - start.toNat) ⌈/⌉ window.toNat) < 2 ^ 64

instance (window start stop : UInt64) : Decidable (Room window start stop) := inferInstanceAs (Decidable (_ < _))

theorem checked_add_ok (a b sum : UInt64) (added : checkedAdd a b = .ok sum) : sum.toNat = a.toNat + b.toNat := by
  rw [checkedAdd] at added
  split at added
  · rename_i bound
    rw [← Except.ok.inj added, UInt64.toNat_add, Nat.mod_eq_of_lt bound]
  · cases added

theorem checked_sub_ok (a b difference : UInt64) (subtracted : checkedSub a b = .ok difference) :
    b.toNat ≤ a.toNat ∧ difference.toNat = a.toNat - b.toNat := by
  rw [checkedSub] at subtracted
  split at subtracted
  · rename_i bound
    rw [← Except.ok.inj subtracted, UInt64.toNat_sub_of_le _ _ bound]
    exact ⟨UInt64.le_iff_toNat_le.mp bound, rfl⟩
  · cases subtracted

theorem min_to_nat (a b : UInt64) : (min a b).toNat = min a.toNat b.toNat := by
  have unfolded : min a b = if a ≤ b then a else b := rfl
  rw [unfolded]
  by_cases order : a ≤ b
  · rw [if_pos order, Nat.min_eq_left (UInt64.le_iff_toNat_le.mp order)]
  · rw [if_neg order, Nat.min_eq_right]
    exact Nat.le_of_lt (Nat.lt_of_not_le (fun le => order (UInt64.le_iff_toNat_le.mpr le)))

theorem advance_ok (window stop cursor rangeEnd next : UInt64) (advanced : advance window stop cursor = .ok (rangeEnd, next)) :
    rangeEnd.toNat = min (cursor.toNat + window.toNat - 1) stop.toNat ∧ next.toNat = rangeEnd.toNat + 1 ∧
      1 ≤ cursor.toNat + window.toNat := by
  rw [advance] at advanced
  split at advanced
  · cases advanced
  · rename_i sum added
    split at advanced
    · cases advanced
    · rename_i last subtracted
      split at advanced
      · cases advanced
      · rename_i following incremented
        simp only [Except.ok.injEq, Prod.mk.injEq] at advanced
        obtain ⟨rfl, rfl⟩ := advanced
        obtain ⟨positive, difference⟩ := checked_sub_ok sum 1 last subtracted
        have total := checked_add_ok cursor window sum added
        have one : (1 : UInt64).toNat = 1 := rfl
        rw [min_to_nat]
        refine ⟨by rw [difference, total, one], ?_, by omega⟩
        rw [checked_add_ok _ _ _ incremented, min_to_nat, one]

theorem advance_fits (window stop cursor : UInt64) (positive : 1 ≤ window.toNat)
    (fits : cursor.toNat + window.toNat < 2 ^ 64) : ∃ rangeEnd next, advance window stop cursor = .ok (rangeEnd, next) := by
  have added : checkedAdd cursor window = .ok (cursor + window) := if_pos fits
  have total := checked_add_ok cursor window _ added
  have one : (1 : UInt64).toNat = 1 := rfl
  have subtracted : checkedSub (cursor + window) 1 = .ok (cursor + window - 1) :=
    if_pos (UInt64.le_iff_toNat_le.mpr (by omega))
  have difference := (checked_sub_ok _ _ _ subtracted).2
  have incremented : checkedAdd (min (cursor + window - 1) stop) 1 = .ok (min (cursor + window - 1) stop + 1) := by
    apply if_pos
    rw [min_to_nat, one]
    omega
  refine ⟨min (cursor + window - 1) stop, min (cursor + window - 1) stop + 1, ?_⟩
  simp only [advance, added, subtracted, incremented]

theorem advance_overflow (window stop cursor : UInt64) (full : ¬ cursor.toNat + window.toNat < 2 ^ 64) :
    advance window stop cursor = .error .overflow := by
  have failed : checkedAdd cursor window = .error .overflow := if_neg full
  simp only [advance, failed]

theorem room_done (window start stop : UInt64) (past : stop.toNat < start.toNat) : Room window start stop := by
  rw [Room, Nat.sub_eq_zero_of_le past, zero_ceilDiv, Nat.mul_zero]
  exact start.toNat_lt

theorem room_fits (window start stop : UInt64) (positive : 1 ≤ window.toNat) (within : start.toNat ≤ stop.toNat)
    (room : Room window start stop) : start.toNat + window.toNat < 2 ^ 64 := by
  have one := Chunks.count_pos window.toNat (stop.toNat + 1 - start.toNat) positive (by omega)
  have reach := Nat.le_mul_of_pos_right window.toNat one
  rw [Room] at room
  omega

theorem room_next (window start next stop : UInt64) (positive : 1 ≤ window.toNat) (within : start.toNat ≤ stop.toNat)
    (fits : start.toNat + window.toNat < 2 ^ 64)
    (moved : next.toNat = min (start.toNat + window.toNat) (stop.toNat + 1)) :
    Room window start stop ↔ Room window next stop := by
  by_cases full : start.toNat + window.toNat ≤ stop.toNat + 1
  · have total : stop.toNat + 1 - start.toNat = stop.toNat + 1 - next.toNat + window.toNat := by omega
    rw [Room, Room, total, Chunks.count_step window.toNat _ positive, Nat.mul_add, Nat.mul_one]
    omega
  · have done : stop.toNat < next.toNat := by omega
    have one := Chunks.count_short window.toNat (stop.toNat + 1 - start.toNat) (by omega) (by omega)
    refine iff_of_true ?_ (room_done window next stop done)
    rw [Room, one, Nat.mul_one]
    exact fits

theorem plan_loop_eq (window : UInt64) (mode : ProvingMode) (state : ChainState) (stop : UInt64) (fuel : Nat)
    (cursor : UInt64) (positive : 1 ≤ window.toNat) (enough : stop.toNat + 1 - cursor.toNat ≤ fuel) :
    planLoop window mode state stop fuel cursor =
      if Room window cursor stop then
        .ok ((Chunks.pieces window.toNat cursor.toNat (stop.toNat + 1)).map (requestOf mode state))
      else .error .overflow := by
  -- The room at the next cursor is the room at this one, once the step has fitted.
  induction fuel generalizing cursor with
  | zero =>
      have past : stop.toNat < cursor.toNat := by omega
      have beyond : ¬ cursor ≤ stop := fun le => Nat.not_le.mpr past (UInt64.le_iff_toNat_le.mp le)
      rw [planLoop, if_neg beyond, if_pos (room_done window cursor stop past), Chunks.pieces_done _ _ _ past]
      rfl
  | succ fuel ih =>
      by_cases within : cursor ≤ stop
      · have inside := UInt64.le_iff_toNat_le.mp within
        rw [planLoop, if_pos within]
        by_cases fits : cursor.toNat + window.toNat < 2 ^ 64
        · obtain ⟨rangeEnd, next, advanced⟩ := advance_fits window stop cursor positive fits
          obtain ⟨rangeEndEq, nextEq, _⟩ := advance_ok window stop cursor rangeEnd next advanced
          have moved : next.toNat = min (cursor.toNat + window.toNat) (stop.toNat + 1) := by omega
          have last : requestFor mode state cursor rangeEnd = requestOf mode state (cursor.toNat, next.toNat - 1) := by
            rw [nextEq, Nat.add_sub_cancel, requestOf, UInt64.ofNat_toNat, UInt64.ofNat_toNat]
          rw [advanced]
          dsimp only
          rw [ih next (by omega), Chunks.pieces_step _ _ _ positive (Nat.lt_succ_of_le inside), ← moved, List.map_cons, last]
          by_cases room : Room window cursor stop
          · rw [if_pos room, if_pos ((room_next window cursor next stop positive inside fits moved).mp room)]
          · rw [if_neg room, if_neg (fun later => room ((room_next window cursor next stop positive inside fits moved).mpr later))]
        · have full : ¬ Room window cursor stop := fun room => fits (room_fits window cursor stop positive inside room)
          rw [advance_overflow window stop cursor fits, if_neg full]
      · have past : stop.toNat < cursor.toNat := Nat.lt_of_not_le fun le => within (UInt64.le_iff_toNat_le.mpr le)
        rw [planLoop, if_neg within, if_pos (room_done window cursor stop past), Chunks.pieces_done _ _ _ past]
        rfl

theorem plan_range_eq (window : UInt64) (mode : ProvingMode) (state : ChainState) (start stop : UInt64)
    (positive : 1 ≤ window.toNat) :
    planRange window mode state start stop =
      if Room window start stop then
        .ok ((Chunks.pieces window.toNat start.toNat (stop.toNat + 1)).map (requestOf mode state))
      else .error .overflow :=
  plan_loop_eq window mode state stop _ start positive (Nat.le_refl _)

theorem plan_range_empty (window : UInt64) (mode : ProvingMode) (state : ChainState) (start stop : UInt64)
    (past : stop < start) : planRange window mode state start stop = .ok [] := by
  have beyond := UInt64.lt_iff_toNat_lt.mp past
  have spent : stop.toNat + 1 - start.toNat = 0 := by omega
  rw [planRange, spent, planLoop, if_neg (UInt64.not_le.mpr past)]

theorem plan_range_ok (window : UInt64) (mode : ProvingMode) (state : ChainState) (start stop : UInt64)
    (requests : List ProofRequest) (positive : 1 ≤ window.toNat)
    (planned : planRange window mode state start stop = .ok requests) :
    requests = (Chunks.pieces window.toNat start.toNat (stop.toNat + 1)).map (requestOf mode state) := by
  rw [plan_range_eq window mode state start stop positive] at planned
  split at planned
  · exact (Except.ok.inj planned).symm
  · cases planned

theorem span_request_of (mode : ProvingMode) (state : ChainState) (piece : Nat × Nat) (ordered : piece.1 ≤ piece.2)
    (small : piece.2 < 2 ^ 64) : span (requestOf mode state piece) = piece := by
  rw [span, requestOf, requestFor, UInt64.toNat_ofNat_of_lt' (Nat.lt_of_le_of_lt ordered small),
    UInt64.toNat_ofNat_of_lt' small]

theorem plan_range_spans (window : UInt64) (mode : ProvingMode) (state : ChainState) (start stop : UInt64)
    (requests : List ProofRequest) (positive : 1 ≤ window.toNat) (order : start ≤ stop)
    (planned : planRange window mode state start stop = .ok requests) :
    requests.map span = Chunks.pieces window.toNat start.toNat (stop.toNat + 1) := by
  have within := UInt64.le_iff_toNat_le.mp order
  have tiling := Chunks.pieces_tiles window.toNat start.toNat (stop.toNat + 1) positive (by omega)
  rw [plan_range_ok window mode state start stop requests positive planned, List.map_map]
  refine (List.map_congr_left ?_).trans (List.map_id _)
  intro piece member
  obtain ⟨_, ordered, below⟩ := Tiles.tile_bounds _ _ _ tiling piece member
  exact span_request_of mode state piece ordered (Nat.lt_of_lt_of_le below stop.toNat_lt)

theorem plan_range_tiles (window : UInt64) (mode : ProvingMode) (state : ChainState) (start stop : UInt64)
    (requests : List ProofRequest) (positive : 1 ≤ window.toNat) (order : start ≤ stop)
    (planned : planRange window mode state start stop = .ok requests) :
    Tiles start.toNat (stop.toNat + 1) (requests.map span) := by
  have within := UInt64.le_iff_toNat_le.mp order
  rw [plan_range_spans window mode state start stop requests positive order planned]
  exact Chunks.pieces_tiles window.toNat start.toNat (stop.toNat + 1) positive (by omega)

theorem plan_range_blocks (window : UInt64) (mode : ProvingMode) (state : ChainState) (start stop : UInt64)
    (requests : List ProofRequest) (positive : 1 ≤ window.toNat) (order : start ≤ stop)
    (planned : planRange window mode state start stop = .ok requests) :
    requests.flatMap (fun request => Tiles.members (span request)) =
      List.range' start.toNat (stop.toNat + 1 - start.toNat) := by
  rw [← Tiles.members_range _ _ _ (plan_range_tiles window mode state start stop requests positive order planned),
    List.flatMap_map]

theorem plan_range_ends (window : UInt64) (mode : ProvingMode) (state : ChainState) (start stop : UInt64)
    (front : List ProofRequest) (final : ProofRequest) (positive : 1 ≤ window.toNat) (order : start ≤ stop)
    (planned : planRange window mode state start stop = .ok (front ++ [final])) : final.l2EndBlock = stop := by
  have tiling := plan_range_tiles window mode state start stop _ positive order planned
  rw [List.map_append, List.map_singleton] at tiling
  have last := Tiles.last_end _ _ _ _ tiling
  exact UInt64.toNat_inj.mp (Nat.succ.inj last)

theorem plan_loop_window (window : UInt64) (mode : ProvingMode) (state : ChainState) (stop : UInt64) (fuel : Nat)
    (cursor : UInt64) (requests : List ProofRequest) (within : cursor ≤ stop)
    (planned : planLoop window mode state stop fuel cursor = .ok requests) : 1 ≤ window.toNat := by
  induction fuel generalizing cursor requests with
  | zero =>
      rw [planLoop, if_pos within] at planned
      cases planned
  | succ fuel ih =>
      rw [planLoop, if_pos within] at planned
      split at planned
      · cases planned
      · rename_i rangeEnd next advanced
        obtain ⟨rangeEndEq, nextEq, positive⟩ := advance_ok window stop cursor rangeEnd next advanced
        split at planned
        · cases planned
        · rename_i rest later
          by_cases zero : window.toNat = 0
          · have inside := UInt64.le_iff_toNat_le.mp within
            exact ih next rest (UInt64.le_iff_toNat_le.mpr (by omega)) later
          · omega

theorem plan_range_window (window : UInt64) (mode : ProvingMode) (state : ChainState) (start stop : UInt64)
    (requests : List ProofRequest) (order : start ≤ stop) (planned : planRange window mode state start stop = .ok requests) :
    1 ≤ window.toNat :=
  plan_loop_window window mode state stop _ start requests order planned

theorem plan_range_member (window : UInt64) (mode : ProvingMode) (state : ChainState) (start stop : UInt64)
    (requests : List ProofRequest) (planned : planRange window mode state start stop = .ok requests)
    (request : ProofRequest) (member : request ∈ requests) : ∃ piece, request = requestOf mode state piece := by
  by_cases order : start ≤ stop
  · have positive := plan_range_window window mode state start stop requests order planned
    rw [plan_range_ok window mode state start stop requests positive planned] at member
    obtain ⟨piece, _, same⟩ := List.mem_map.mp member
    exact ⟨piece, same.symm⟩
  · rw [plan_range_empty window mode state start stop (UInt64.not_le.mp order)] at planned
    rw [← Except.ok.inj planned] at member
    cases member

theorem plan_range_head (window : UInt64) (mode : ProvingMode) (state : ChainState) (start stop : UInt64)
    (requests : List ProofRequest) (planned : planRange window mode state start stop = .ok requests)
    (request : ProofRequest) (member : request ∈ requests) : request.l1Head = state.l1Head := by
  obtain ⟨piece, rfl⟩ := plan_range_member window mode state start stop requests planned request member
  rfl

theorem plan_range_mode (window : UInt64) (mode : ProvingMode) (state : ChainState) (start stop : UInt64)
    (requests : List ProofRequest) (planned : planRange window mode state start stop = .ok requests)
    (request : ProofRequest) (member : request ∈ requests) : request.mode = mode := by
  obtain ⟨piece, rfl⟩ := plan_range_member window mode state start stop requests planned request member
  rfl

theorem plan_range_starts (window : UInt64) (mode : ProvingMode) (state : ChainState) (start stop : UInt64)
    (requests : List ProofRequest) (positive : 1 ≤ window.toNat) (order : start ≤ stop)
    (planned : planRange window mode state start stop = .ok requests) :
    ∃ request ∈ requests, request.l2StartBlock = start := by
  have tiling := plan_range_tiles window mode state start stop requests positive order planned
  have within := UInt64.le_iff_toNat_le.mp order
  cases requests with
  | nil => exact absurd rfl (Tiles.nonempty _ _ _ tiling (by omega))
  | cons request rest => exact ⟨request, List.mem_cons_self, UInt64.toNat_inj.mp (Tiles.head_start _ _ _ _ tiling)⟩

theorem plan_range_stops (window : UInt64) (mode : ProvingMode) (state : ChainState) (start stop : UInt64)
    (requests : List ProofRequest) (positive : 1 ≤ window.toNat) (order : start ≤ stop)
    (planned : planRange window mode state start stop = .ok requests) : ∃ request ∈ requests, request.l2EndBlock = stop := by
  rcases List.eq_nil_or_concat' requests with rfl | ⟨front, final, rfl⟩
  · obtain ⟨request, member, _⟩ := plan_range_starts window mode state start stop [] positive order planned
    cases member
  · exact ⟨final, by simp, plan_range_ends window mode state start stop front final positive order planned⟩

theorem room_of_bound (window start stop : UInt64) (positive : 1 ≤ window.toNat)
    (bound : stop.toNat + window.toNat < 2 ^ 64) : Room window start stop := by
  by_cases order : start.toNat ≤ stop.toNat
  · have rounded : window.toNat * ((stop.toNat + 1 - start.toNat) ⌈/⌉ window.toNat) ≤
        stop.toNat + 1 - start.toNat + window.toNat - 1 := Nat.mul_div_le _ _
    rw [Room]
    omega
  · exact room_done window start stop (Nat.lt_of_not_le order)

theorem plan_range_total (window : UInt64) (mode : ProvingMode) (state : ChainState) (start stop : UInt64)
    (positive : 1 ≤ window.toNat) (room : stop.toNat + window.toNat < 2 ^ 64) :
    ∃ requests, planRange window mode state start stop = .ok requests :=
  ⟨_, by rw [plan_range_eq window mode state start stop positive, if_pos (room_of_bound window start stop positive room)]⟩

theorem pending_range_order (state : ChainState) (start stop : UInt64)
    (pending : pendingRange state = .ok (some (start, stop))) :
    start.toNat = state.l2ProvenBlock.toNat + 1 ∧ stop = state.l2SafeBlock ∧ start.toNat ≤ stop.toNat := by
  rw [pendingRange] at pending
  split at pending
  · rename_i above
    split at pending
    · rename_i first incremented
      simp only [Except.ok.injEq, Option.some.injEq, Prod.mk.injEq] at pending
      obtain ⟨rfl, rfl⟩ := pending
      have next : first.toNat = state.l2ProvenBlock.toNat + 1 := checked_add_ok state.l2ProvenBlock 1 first incremented
      have order := UInt64.lt_iff_toNat_lt.mp above
      exact ⟨next, rfl, by omega⟩
    · cases pending
  · cases pending

theorem pending_range_total (state : ChainState) : ∃ range, pendingRange state = .ok range := by
  by_cases above : state.l2SafeBlock > state.l2ProvenBlock
  · have order := UInt64.lt_iff_toNat_lt.mp above
    have room : state.l2ProvenBlock.toNat + (1 : UInt64).toNat < 2 ^ 64 := by
      have bound := state.l2SafeBlock.toNat_lt
      have one : (1 : UInt64).toNat = 1 := rfl
      omega
    exact ⟨_, by rw [pendingRange, if_pos above, checkedAdd, if_pos room]⟩
  · exact ⟨none, by rw [pendingRange, if_neg above]⟩

theorem plan_range_bounds (window : UInt64) (mode : ProvingMode) (state : ChainState) (start stop : UInt64)
    (requests : List ProofRequest) (positive : 1 ≤ window.toNat) (order : start ≤ stop)
    (planned : planRange window mode state start stop = .ok requests) (request : ProofRequest)
    (member : request ∈ requests) :
    start.toNat ≤ request.l2StartBlock.toNat ∧ request.l2StartBlock.toNat ≤ request.l2EndBlock.toNat ∧
      request.l2EndBlock.toNat ≤ stop.toNat := by
  have tiling := plan_range_tiles window mode state start stop requests positive order planned
  obtain ⟨low, ordered, high⟩ := Tiles.tile_bounds _ _ _ tiling (span request) (List.mem_map_of_mem member)
  exact ⟨low, ordered, Nat.le_of_lt_succ high⟩

theorem plan_range_fault (window : UInt64) (mode : ProvingMode) (state : ChainState) (start stop : UInt64) (fault : Fault)
    (positive : 1 ≤ window.toNat) (failed : planRange window mode state start stop = .error fault) : fault = .overflow := by
  rw [plan_range_eq window mode state start stop positive] at failed
  split at failed
  · cases failed
  · exact (Except.error.inj failed).symm

end Planner

end OpenZk
