import OpenZk.RpcMonitor

set_option autoImplicit false

namespace OpenZk.Planner

open Words

def PlansSoundly (window : UInt64) (mode : ProvingMode) (state : ChainState) (start stop : UInt64) : Prop :=
  ∃ requests, planRange window mode state start stop = .ok requests ∧
    ∀ request ∈ requests, request.l2StartBlock ≤ request.l2EndBlock

def PendingPlanned (window : UInt64) (mode : ProvingMode) (state : ChainState) : Prop :=
  ∃ range, pendingRange state = .ok range ∧
    ∀ start stop, range = some (start, stop) → PlansSoundly window mode state start stop

def DisputePlanned (window : UInt64) (mode : ProvingMode) (state : ChainState) (latest : UInt64) : Prop :=
  ∀ connect monitor dispute, RpcMonitor.activeDispute connect monitor = some dispute → dispute.startBlock = latest →
    PlansSoundly window mode state dispute.startBlock dispute.endBlock

theorem plans_soundly_iff (window : UInt64) (mode : ProvingMode) (state : ChainState) (start stop : UInt64)
    (positive : 1 ≤ window.toNat) : PlansSoundly window mode state start stop ↔ Room window start stop := by
  refine ⟨?_, ?_⟩
  · intro sound
    obtain ⟨requests, planned, _⟩ := sound
    rw [plan_range_eq window mode state start stop positive] at planned
    by_cases room : Room window start stop
    · exact room
    · rw [if_neg room] at planned
      cases planned
  · intro room
    by_cases order : start ≤ stop
    · have planned := plan_range_eq window mode state start stop positive
      rw [if_pos room] at planned
      refine ⟨_, planned, ?_⟩
      intro request member
      have bounds := plan_range_bounds window mode state start stop _ positive order planned request member
      exact UInt64.le_iff_toNat_le.mpr bounds.2.1
    · exact ⟨[], plan_range_empty window mode state start stop (UInt64.not_le.mp order), by simp⟩

theorem pending_range_some (state : ChainState) (behind : state.l2ProvenBlock < state.l2SafeBlock) :
    ∃ start, pendingRange state = .ok (some (start, state.l2SafeBlock)) ∧
      start.toNat = state.l2ProvenBlock.toNat + 1 := by
  obtain ⟨range, reported⟩ := pending_range_total state
  cases range with
  | none =>
      rw [pendingRange, if_pos behind] at reported
      split at reported <;> cases reported
  | some pair =>
      obtain ⟨start, stop⟩ := pair
      obtain ⟨next, rfl, _⟩ := pending_range_order state start stop reported
      exact ⟨start, reported, next⟩

theorem pending_range_none (state : ChainState) (caught_up : ¬ state.l2ProvenBlock < state.l2SafeBlock) :
    pendingRange state = .ok none := if_neg caught_up

theorem pending_planned_iff (window : UInt64) (mode : ProvingMode) (state : ChainState) (positive : 1 ≤ window.toNat) :
    PendingPlanned window mode state ↔
      (state.l2ProvenBlock < state.l2SafeBlock →
        state.l2ProvenBlock.toNat + 1 +
          window.toNat * ((state.l2SafeBlock.toNat - state.l2ProvenBlock.toNat) ⌈/⌉ window.toNat) < 2 ^ 64) := by
  by_cases behind : state.l2ProvenBlock < state.l2SafeBlock
  · obtain ⟨start, reported, next⟩ := pending_range_some state behind
    have left : state.l2SafeBlock.toNat + 1 - start.toNat = state.l2SafeBlock.toNat - state.l2ProvenBlock.toNat := by omega
    have room := plans_soundly_iff window mode state start state.l2SafeBlock positive
    rw [Room, left, next] at room
    rw [forall_prop_of_true behind, ← room]
    refine ⟨?_, ?_⟩
    · intro planned
      obtain ⟨range, answered, sound⟩ := planned
      rw [reported] at answered
      exact sound start _ (Except.ok.inj answered).symm
    · intro sound
      refine ⟨_, reported, ?_⟩
      intro first last same
      cases same
      exact sound
  · refine iff_of_true ⟨none, pending_range_none state behind, ?_⟩ (fun ahead => absurd ahead behind)
    intro start stop same
    cases same

def disputingNode (latest : UInt64) : RpcMonitor.Node where
  blockByNumber := fun _ => .ok none
  call := fun _ call =>
    match call with
    | .latestBlockNumber => .ok (RpcMonitor.abiUint64 latest)
    | .isDisputed _ => .ok (RpcMonitor.abiBool true)

theorem disputing_node_reports (latest : UInt64) (monitor : RpcMonitor.RpcChainMonitor) (disputeAddress : Address)
    (configured : monitor.disputeAddress = some disputeAddress) :
    RpcMonitor.activeDispute (fun _ => disputingNode latest) monitor = some ⟨latest, latest⟩ :=
  RpcMonitor.active_dispute_answered _ monitor disputeAddress latest true configured rfl rfl

theorem active_dispute_one_block (connect : String → RpcMonitor.Node) (monitor : RpcMonitor.RpcChainMonitor)
    (dispute : DisputeInfo) (reported : RpcMonitor.activeDispute connect monitor = some dispute) :
    dispute.endBlock = dispute.startBlock := by
  rw [RpcMonitor.activeDispute] at reported
  obtain ⟨disputeAddress, _, reported⟩ := Option.bind_eq_some_iff.mp reported
  split at reported
  · cases reported
  · split at reported
    · cases reported
    · dsimp only at reported
      split at reported
      · cases reported
      · split at reported
        · rw [← Option.some.inj reported]
        · cases reported

theorem dispute_planned_iff (window : UInt64) (mode : ProvingMode) (state : ChainState) (latest : UInt64)
    (positive : 1 ≤ window.toNat) :
    DisputePlanned window mode state latest ↔ latest.toNat + window.toNat < 2 ^ 64 := by
  have one := Chunks.count_short window.toNat (latest.toNat + 1 - latest.toNat) (by omega) (by omega)
  have room := plans_soundly_iff window mode state latest latest positive
  rw [Room, one, Nat.mul_one] at room
  rw [← room]
  refine ⟨?_, ?_⟩
  · intro planned
    exact planned _ ⟨"", "", 0, some 0⟩ _ (disputing_node_reports latest ⟨"", "", 0, some 0⟩ 0 rfl) rfl
  · intro sound connect monitor dispute reported same
    rw [active_dispute_one_block connect monitor dispute reported, same]
    exact sound

/-- The step to the next cursor is computed before it is cut down to the end of the range, so it has
to fit for every window begun. -/
theorem planning_sound_iff (window : UInt64) (mode : ProvingMode) (state : ChainState) (latest : UInt64)
    (positive : 1 ≤ window.toNat) :
    PendingPlanned window mode state ∧ DisputePlanned window mode state latest ↔
      (state.l2ProvenBlock < state.l2SafeBlock →
        state.l2ProvenBlock.toNat + 1 +
          window.toNat * ((state.l2SafeBlock.toNat - state.l2ProvenBlock.toNat) ⌈/⌉ window.toNat) < 2 ^ 64) ∧
      latest.toNat + window.toNat < 2 ^ 64 :=
  and_congr (pending_planned_iff window mode state positive) (dispute_planned_iff window mode state latest positive)

theorem planning_sound_sample :
    PendingPlanned 100 .groth16 ⟨zeroWord, 500, 750⟩ ∧ DisputePlanned 100 .groth16 ⟨zeroWord, 500, 750⟩ 500 ↔
      ((500 : UInt64) < 750 →
        (500 : UInt64).toNat + 1 +
          (100 : UInt64).toNat * (((750 : UInt64).toNat - (500 : UInt64).toNat) ⌈/⌉ (100 : UInt64).toNat) < 2 ^ 64) ∧
      (500 : UInt64).toNat + (100 : UInt64).toNat < 2 ^ 64 :=
  planning_sound_iff 100 .groth16 ⟨zeroWord, 500, 750⟩ 500 (by decide)

theorem last_block_overflows :
    (pendingRange ⟨zeroWord, 0xfffffffffffffffe, 0xffffffffffffffff⟩ =
        .ok (some (0xffffffffffffffff, 0xffffffffffffffff)) ∧
      planRange 10 .groth16 ⟨zeroWord, 0xfffffffffffffffe, 0xffffffffffffffff⟩ 0xffffffffffffffff 0xffffffffffffffff =
        .error .overflow) ∧
      ¬ PendingPlanned 10 .groth16 ⟨zeroWord, 0xfffffffffffffffe, 0xffffffffffffffff⟩ ∧
      ¬ DisputePlanned 10 .groth16 ⟨zeroWord, 0xfffffffffffffffe, 0xffffffffffffffff⟩ 0xffffffffffffffff := by
  refine ⟨⟨by decide, by decide⟩, ?_, ?_⟩
  · rw [pending_planned_iff 10 _ _ (by decide)]
    decide
  · rw [dispute_planned_iff 10 _ _ _ (by decide)]
    decide

end OpenZk.Planner
