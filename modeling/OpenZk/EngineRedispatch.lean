import OpenZk.EngineSnapshots
import OpenZk.Positions

set_option autoImplicit false

namespace OpenZk.Engine

open Words Traced

variable {engine : OrchestrationEngine}

def Answered (engine : OrchestrationEngine) (front : Trace) : Action → Prop
  | .event _ => True
  | .polled answer => answer = engine.monitor.getState front
  | .rangeAsked answer => ∃ own, engine.monitor.ownRange = some own ∧ answer = own front
  | .stateAsked answer => answer = engine.monitor.getState front
  | .disputeAsked answer => answer = engine.monitor.activeDispute front
  | .submitted request answer => answer = engine.dispatcher.submit request front
  | .waited handle answer => answer = engine.dispatcher.wait handle front
  | .aggregationSubmitted rangeProofs answer => answer = engine.dispatcher.submitAggregation rangeProofs front

theorem answered_observed {β : Type} {marked : Action → Bool} (observe : Action → Option β) (answer : Trace → Option β)
    (shown : ∀ front action, Answered engine front action → observe action = if marked action then answer front else none)
    (trace : Trace) (answered : Throughout (Answered engine) trace) :
    trace.filterMap observe = (marks marked [] trace).filterMap answer :=
  marks_observed observe answer [] trace fun front action back split => shown front action (answered front action back split)

theorem send_answered (event : EngineEvent) : Maintains (Answered engine) (send event) :=
  maintains_emit _ fun _ => trivial

theorem state_answered : Maintains (Answered engine) (getState engine.monitor) :=
  maintains_ask _ _ _ fun _ => rfl

theorem submit_answered (request : ProofRequest) : Maintains (Answered engine) (submit engine.dispatcher request) :=
  maintains_ask _ _ _ fun _ => rfl

theorem wait_answered (handle : ProofJobHandle) : Maintains (Answered engine) (wait engine.dispatcher handle) :=
  maintains_ask _ _ _ fun _ => rfl

theorem pending_range_answered : Maintains (Answered engine) (pendingRange engine.monitor) := by
  rw [pendingRange]
  cases defined : engine.monitor.ownRange with
  | some own => exact maintains_ask _ _ _ fun _ => ⟨own, defined, rfl⟩
  | none => exact maintains_bind (maintains_ask _ _ _ fun _ => rfl) fun _ => maintains_lift _

theorem aggregate_answered (rangeProofs : List ProofArtifact) (start stop : UInt64) :
    Maintains (Answered engine) (do
      if rangeProofs.length > 1 then
        send (.aggregationStarted rangeProofs.length)
        let aggHandle ← submitAggregation engine.dispatcher rangeProofs
        let _ ← wait engine.dispatcher aggHandle
        send (.aggregationCompleted start stop)) := by
  by_cases many : rangeProofs.length > 1
  · rw [if_pos many]
    refine maintains_bind (send_answered _) fun _ => ?_
    refine maintains_bind (maintains_ask _ _ _ fun _ => rfl) fun _ => ?_
    exact maintains_bind (wait_answered _) fun _ => send_answered _
  · rw [if_neg many]
    exact maintains_pure ()

theorem beacon_round_answered : Maintains (Answered engine) engine.beaconRound := by
  rw [OrchestrationEngine.beaconRound]
  refine maintains_bind pending_range_answered fun range => ?_
  cases range with
  | none => exact maintains_pure ()
  | some bounds =>
      refine maintains_bind (send_answered _) fun _ => ?_
      refine maintains_bind state_answered fun _ => ?_
      refine maintains_bind (maintains_lift _) fun requests => ?_
      refine maintains_bind (maintains_for (fun request proofs => ?_) requests []) fun rangeProofs =>
        aggregate_answered rangeProofs _ _
      refine maintains_bind (send_answered _) fun _ => ?_
      refine maintains_bind (submit_answered request) fun _ => ?_
      refine maintains_bind (wait_answered _) fun _ => ?_
      exact maintains_bind (send_answered _) fun _ => maintains_pure _

theorem sentinel_round_answered : Maintains (Answered engine) engine.sentinelRound := by
  rw [OrchestrationEngine.sentinelRound]
  refine maintains_bind (maintains_observe _ _ fun _ => rfl) fun dispute => ?_
  cases dispute with
  | none => exact maintains_pure ()
  | some dispute =>
      refine maintains_bind (send_answered _) fun _ => ?_
      refine maintains_bind state_answered fun _ => ?_
      refine maintains_bind (maintains_lift _) fun requests => ?_
      refine maintains_bind (maintains_for (fun request _ => ?_) requests PUnit.unit) fun _ => send_answered _
      refine maintains_bind (submit_answered request) fun _ => ?_
      exact maintains_bind (wait_answered _) fun _ => maintains_pure _

theorem beacon_loop_answered (rounds : Nat) : Throughout (Answered engine) (traceOf (engine.runBeaconLoop rounds [])) :=
  maintains_repeatedly beacon_round_answered rounds [] throughout_nil

theorem sentinel_loop_answered (rounds : Nat) : Throughout (Answered engine) (traceOf (engine.runSentinelLoop rounds [])) :=
  maintains_repeatedly sentinel_round_answered rounds [] throughout_nil

def readsChain : Action → Bool
  | .polled _ => true
  | .rangeAsked _ => true
  | .stateAsked _ => true
  | .disputeAsked _ => true
  | _ => false

/-- A dispatch knows its place in the plan of its round, whose two reads of the chain are the last ones before it. -/
structure Placed (engine : OrchestrationEngine) (front : Trace) (request : ProofRequest) extends Dispatch engine front request where
  unread : ∀ action ∈ tail, readsChain action = false
  remaining : List ProofRequest
  order : requests = dispatched tail ++ request :: remaining

def PlacedAt (engine : OrchestrationEngine) (front : Trace) (action : Action) : Prop :=
  ∀ request answer, action = .submitted request answer → Nonempty (Placed engine front request)

theorem placed_prepend (past front : Trace) (action : Action) (holds : PlacedAt engine front action) :
    PlacedAt engine (past ++ front) action := by
  intro request answer same
  obtain ⟨placed⟩ := holds request answer same
  have shape := congrArg (past ++ ·) placed.shape
  exact ⟨{ placed with past := past ++ placed.past, shape := shape.trans (List.append_assoc _ _ _).symm }⟩

theorem placed_resume (front : Trace) (bad good : Action) (same : sameCall bad good)
    (holds : PlacedAt engine front good) : PlacedAt engine front bad := by
  intro request answer equal
  subst equal
  obtain ⟨reply, rfl⟩ := submitted_again same
  exact holds request reply rfl

theorem after_anchor_unread (round : Round engine) : ∀ action ∈ afterAnchor round, readsChain action = false := by
  have jobs : ∀ action ∈ round.jobs.flatMap Job.actions, readsChain action = false := by
    intro action member
    obtain ⟨job, _, inside⟩ := List.mem_flatMap.mp member
    simp only [Job.actions, Job.calls, List.cons_append, List.nil_append, List.mem_cons, List.not_mem_nil, or_false] at inside
    rcases inside with rfl | rfl | rfl | rfl <;> rfl
  have aggregation : ∀ action ∈ aggregationActions round.jobs round.aggHandle round.aggProof round.start round.stop,
      readsChain action = false := by
    rw [aggregationActions]
    split <;> simp [readsChain]
  intro action member
  rcases List.mem_append.mp member with inJobs | inAggregation
  · exact jobs action inJobs
  · exact aggregation action inAggregation

theorem round_placed (inherited : engine.monitor.ownRange = none) (round : Round engine) (tail right : Trace)
    (request : ProofRequest) (answer : Except String ProofJobHandle)
    (split : afterAnchor round = tail ++ .submitted request answer :: right) :
    Nonempty (Placed engine (.polled (.ok round.snapshot) :: .event (.rangeDetected round.start round.stop) ::
      .stateAsked (.ok round.state) :: tail) request) := by
  obtain ⟨noPoll, noAnchor, sent⟩ := after_anchor_quiet round
  rw [split, polled_append, List.append_eq_nil_iff] at noPoll
  rw [split, anchors_append, List.append_eq_nil_iff] at noAnchor
  have unread := after_anchor_unread round
  rw [split] at unread
  have order : round.jobs.map Job.request = dispatched tail ++ request :: dispatched right := by
    rw [← sent, split, dispatched_append]
    rfl
  have member : request ∈ round.jobs.map Job.request := by simp [order]
  exact ⟨⟨[], round.snapshot, round.state, round.start, round.stop, _, tail, rfl, ⟨noPoll.1, noAnchor.1⟩,
    (round_opening inherited round).2, round.planned, member⟩, fun action inTail => unread action (List.mem_append_left _ inTail),
    dispatched right, order⟩

theorem poll_placed (inherited : engine.monitor.ownRange = none) (poll : Poll engine) (left right : Trace)
    (action : Action) (split : poll.actions = left ++ action :: right) : PlacedAt engine left action := by
  intro request answer equal
  subst equal
  have member : .submitted request answer ∈ poll.actions := by simp [split]
  obtain ⟨proved, round⟩ := paying_poll poll _ member rfl
  subst round
  rw [Poll.actions, round_shape inherited proved] at split
  rcases left with _ | ⟨_, _ | ⟨_, _ | ⟨_, tail⟩⟩⟩
  · simp at split
  · simp at split
  · simp at split
  · simp only [List.cons_append, List.cons.injEq] at split
    obtain ⟨rfl, rfl, rfl, rest⟩ := split
    exact round_placed inherited proved tail right request answer rest

theorem loop_placed (inherited : engine.monitor.ownRange = none) (rounds : Nat) :
    Throughout (PlacedAt engine) (traceOf (engine.runBeaconLoop rounds [])) :=
  loop_positions rounds placed_prepend (fun poll left action right => poll_placed inherited poll left right action)
    placed_resume

theorem placed_bounds {front : Trace} {request : ProofRequest} (placed : Placed engine front request) :
    placed.polled.l2ProvenBlock < request.l2StartBlock ∧ request.l2StartBlock ≤ request.l2EndBlock ∧
      request.l2EndBlock ≤ placed.polled.l2SafeBlock ∧ placed.anchor.l1Head = request.l1Head := by
  obtain ⟨first, last, order⟩ := Planner.pending_range_order _ _ _ placed.computed
  have ordered := UInt64.le_iff_toNat_le.mpr order
  have window := Planner.plan_range_window _ _ _ _ _ _ ordered placed.planned
  obtain ⟨low, within, high⟩ := Planner.plan_range_bounds _ _ _ _ _ _ window ordered placed.planned request placed.member
  have head := Planner.plan_range_head _ _ _ _ _ _ placed.planned request placed.member
  rw [last] at high
  exact ⟨UInt64.lt_iff_toNat_lt.mpr (by omega), UInt64.le_iff_toNat_le.mpr within, UInt64.le_iff_toNat_le.mpr high, head.symm⟩

theorem placed_apart {front : Trace} {request earlier : ProofRequest} (placed : Placed engine front request)
    (sent : earlier ∈ dispatched placed.tail) (block : Nat) (first : block ∈ Tiles.members (Planner.span earlier)) :
    block ∉ Tiles.members (Planner.span request) := by
  obtain ⟨_, _, order⟩ := Planner.pending_range_order _ _ _ placed.computed
  have ordered := UInt64.le_iff_toNat_le.mpr order
  have window := Planner.plan_range_window _ _ _ _ _ _ ordered placed.planned
  have once : (placed.requests.flatMap fun request => Tiles.members (Planner.span request)).Nodup := by
    rw [Planner.plan_range_blocks _ _ _ _ _ _ window ordered placed.planned]
    exact List.nodup_range'
  rw [placed.order, List.flatMap_append, List.nodup_append] at once
  intro second
  have before : block ∈ (dispatched placed.tail).flatMap fun request => Tiles.members (Planner.span request) :=
    List.mem_flatMap.mpr ⟨earlier, sent, first⟩
  have after : block ∈ (request :: placed.remaining).flatMap fun request => Tiles.members (Planner.span request) :=
    List.mem_flatMap.mpr ⟨request, List.mem_cons_self, second⟩
  exact once.2.2 block before block after rfl

theorem placed_polled_between {front middle : Trace} {earlier request : ProofRequest} {answer : Except String ProofJobHandle}
    (placed : Placed engine (front ++ .submitted earlier answer :: middle) request) (block : Nat)
    (first : block ∈ Tiles.members (Planner.span earlier)) (second : block ∈ Tiles.members (Planner.span request)) :
    front ++ [.submitted earlier answer] <+: placed.past := by
  have shape := placed.shape
  rcases List.append_eq_append_iff.mp shape with ⟨later, past, rest⟩ | ⟨inside, _, rest⟩
  · cases later with
    | nil => simp at rest
    | cons action later =>
        simp only [List.cons_append, List.cons.injEq] at rest
        obtain ⟨rfl, _⟩ := rest
        exact ⟨later, by rw [past]; simp⟩
  · -- Within the round that dispatches the block again, no dispatch has it.
    rcases inside with _ | ⟨_, _ | ⟨_, _ | ⟨_, inside⟩⟩⟩
    · simp at rest
    · simp at rest
    · simp at rest
    · simp only [List.cons_append, List.cons.injEq] at rest
      obtain ⟨_, _, _, inTail⟩ := rest
      have sent : earlier ∈ dispatched placed.tail := by
        rw [inTail, dispatched_append]
        exact List.mem_append_right _ List.mem_cons_self
      exact absurd second (placed_apart placed sent block first)

end OpenZk.Engine
