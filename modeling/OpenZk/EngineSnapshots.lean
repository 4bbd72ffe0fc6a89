import OpenZk.EngineDispatch

set_option autoImplicit false

namespace OpenZk.Engine

open Words Traced

def anchorOf : Action → Option ChainState
  | .stateAsked (.ok snapshot) => some snapshot
  | _ => none

def anchorStates (trace : Trace) : List ChainState := trace.filterMap anchorOf

def lastPolled (trace : Trace) : Option ChainState := (polledStates trace).getLast?

def lastAnchor (trace : Trace) : Option ChainState := (anchorStates trace).getLast?

structure Covers (snapshot : ChainState) (request : ProofRequest) : Prop where
  head : snapshot.l1Head = request.l1Head
  safe : request.l2EndBlock ≤ snapshot.l2SafeBlock
  unproven : snapshot.l2ProvenBlock < request.l2StartBlock

def Anchored (trace : Trace) : Prop :=
  ∀ front request answer back, trace = front ++ .submitted request answer :: back →
    ∃ snapshot, (lastPolled front = some snapshot ∨ lastAnchor front = some snapshot) ∧ Covers snapshot request

def Agree (polled anchor : ChainState) : Prop :=
  polled.l1Head = anchor.l1Head ∨
    (polled.l2SafeBlock ≤ anchor.l2SafeBlock ∧ anchor.l2ProvenBlock ≤ polled.l2ProvenBlock)

def SnapshotsAgree (trace : Trace) : Prop :=
  ∀ front anchor back, trace = front ++ .stateAsked (.ok anchor) :: back →
    ∀ polled, lastPolled front = some polled → Agree polled anchor

variable {engine : OrchestrationEngine}

theorem covered_iff (polled anchor : ChainState) (start stop : UInt64) (requests : List ProofRequest)
    (computed : Planner.pendingRange polled = .ok (some (start, stop)))
    (planned : engine.planRange start stop anchor = .ok requests) :
    (∀ request ∈ requests, Covers polled request ∨ Covers anchor request) ↔ Agree polled anchor := by
  obtain ⟨first, last, order⟩ := Planner.pending_range_order polled start stop computed
  have ordered := UInt64.le_iff_toNat_le.mpr order
  have window := Planner.plan_range_window _ _ _ _ _ _ ordered planned
  have heads := Planner.plan_range_head _ _ _ _ _ _ planned
  have bounds := Planner.plan_range_bounds _ _ _ _ _ _ window ordered planned
  constructor
  · intro covered
    by_cases same : polled.l1Head = anchor.l1Head
    · exact .inl same
    · have byAnchor : ∀ request ∈ requests, Covers anchor request := by
        intro request member
        rcases covered request member with byPolled | byAnchor
        · exact absurd (byPolled.head.trans (heads request member)) same
        · exact byAnchor
      -- The first request has to lie above the second snapshot and the last one below it.
      obtain ⟨head, headMember, starts⟩ := Planner.plan_range_starts _ _ _ _ _ _ window ordered planned
      obtain ⟨final, finalMember, stops⟩ := Planner.plan_range_stops _ _ _ _ _ _ window ordered planned
      have safe := (byAnchor final finalMember).safe
      have unproven := UInt64.lt_iff_toNat_lt.mp (byAnchor head headMember).unproven
      rw [stops, last] at safe
      rw [starts] at unproven
      exact .inr ⟨safe, UInt64.le_iff_toNat_le.mpr (by omega)⟩
  · intro agree request member
    obtain ⟨low, _, high⟩ := bounds request member
    rcases agree with same | ⟨safe, proven⟩
    · refine .inl ⟨same.trans (heads request member).symm, ?_, ?_⟩
      · rw [← last]
        exact UInt64.le_iff_toNat_le.mpr high
      · exact UInt64.lt_iff_toNat_lt.mpr (by omega)
    · rw [← last] at safe
      have within := UInt64.le_iff_toNat_le.mp safe
      have behind := UInt64.le_iff_toNat_le.mp proven
      exact .inr ⟨(heads request member).symm, UInt64.le_iff_toNat_le.mpr (by omega), UInt64.lt_iff_toNat_lt.mpr (by omega)⟩

structure Dispatch (engine : OrchestrationEngine) (front : Trace) (request : ProofRequest) where
  past : Trace
  polled : ChainState
  anchor : ChainState
  start : UInt64
  stop : UInt64
  requests : List ProofRequest
  tail : Trace
  shape : front = past ++ .polled (.ok polled) :: .event (.rangeDetected start stop) :: .stateAsked (.ok anchor) :: tail
  quiet : polledStates tail = [] ∧ anchorStates tail = []
  computed : Planner.pendingRange polled = .ok (some (start, stop))
  planned : engine.planRange start stop anchor = .ok requests
  member : request ∈ requests

def Dispatches (engine : OrchestrationEngine) (front : Trace) (action : Action) : Prop :=
  ∀ request answer, action = .submitted request answer → Nonempty (Dispatch engine front request)

theorem anchors_append (front back : Trace) : anchorStates (front ++ back) = anchorStates front ++ anchorStates back :=
  List.filterMap_append

theorem round_last (past tail : Trace) (polled anchor : ChainState) (event : EngineEvent)
    (noPoll : polledStates tail = []) (noAnchor : anchorStates tail = []) :
    lastPolled (past ++ .polled (.ok polled) :: .event event :: .stateAsked (.ok anchor) :: tail) = some polled ∧
      lastAnchor (past ++ .polled (.ok polled) :: .event event :: .stateAsked (.ok anchor) :: tail) = some anchor := by
  have polls : polledStates (.polled (.ok polled) :: .event event :: .stateAsked (.ok anchor) :: tail) = [polled] := by
    rw [← noPoll]
    rfl
  have anchors : anchorStates (.polled (.ok polled) :: .event event :: .stateAsked (.ok anchor) :: tail) = [anchor] := by
    rw [← noAnchor]
    rfl
  rw [lastPolled, lastAnchor, polled_append, anchors_append, polls, anchors, List.getLast?_concat, List.getLast?_concat]
  exact ⟨rfl, rfl⟩

theorem dispatches_prepend (past front : Trace) (action : Action) (holds : Dispatches engine front action) :
    Dispatches engine (past ++ front) action := by
  intro request answer same
  obtain ⟨dispatch⟩ := holds request answer same
  have shape := congrArg (past ++ ·) dispatch.shape
  exact ⟨{ dispatch with past := past ++ dispatch.past, shape := shape.trans (List.append_assoc _ _ _).symm }⟩

theorem dispatches_resume (front : Trace) (bad good : Action) (same : sameCall bad good)
    (holds : Dispatches engine front good) : Dispatches engine front bad := by
  intro request answer equal
  subst equal
  obtain ⟨reply, rfl⟩ := submitted_again same
  exact holds request reply rfl

theorem jobs_anchors (jobs : List Job) : anchorStates (jobs.flatMap Job.actions) = [] := by
  rw [anchorStates, jobs_observed anchorOf (fun _ => []) jobs fun _ => rfl]
  exact List.flatMap_eq_nil_iff.mpr fun _ _ => rfl

def afterAnchor (round : Round engine) : Trace :=
  round.jobs.flatMap Job.actions ++ aggregationActions round.jobs round.aggHandle round.aggProof round.start round.stop

theorem round_shape (inherited : engine.monitor.ownRange = none) (round : Round engine) :
    round.actions = .polled (.ok round.snapshot) :: .event (.rangeDetected round.start round.stop) ::
      .stateAsked (.ok round.state) :: afterAnchor round := by
  rw [Round.actions, Round.dispatch, (round_opening inherited round).1]
  rfl

theorem after_anchor_quiet (round : Round engine) :
    polledStates (afterAnchor round) = [] ∧ anchorStates (afterAnchor round) = [] ∧
      dispatched (afterAnchor round) = round.jobs.map Job.request := by
  obtain ⟨noDispatch, noPoll⟩ := aggregation_silent round.jobs round.aggHandle round.aggProof round.start round.stop
  have noAnchor : anchorStates (aggregationActions round.jobs round.aggHandle round.aggProof round.start round.stop) = [] :=
    aggregation_unseen anchorOf _ _ _ _ _ rfl
  rw [afterAnchor, polled_append, anchors_append, dispatched_append, noDispatch, noPoll, noAnchor, jobs_polled, jobs_anchors,
    jobs_dispatched]
  exact ⟨rfl, rfl, List.append_nil _⟩

theorem round_dispatches (inherited : engine.monitor.ownRange = none) (round : Round engine) (tail right : Trace)
    (request : ProofRequest) (answer : Except String ProofJobHandle)
    (split : afterAnchor round = tail ++ .submitted request answer :: right) :
    Nonempty (Dispatch engine (.polled (.ok round.snapshot) :: .event (.rangeDetected round.start round.stop) ::
      .stateAsked (.ok round.state) :: tail) request) := by
  obtain ⟨noPoll, noAnchor, sent⟩ := after_anchor_quiet round
  rw [split, polled_append, List.append_eq_nil_iff] at noPoll
  rw [split, anchors_append, List.append_eq_nil_iff] at noAnchor
  have member : request ∈ round.jobs.map Job.request := by
    rw [← sent, split, dispatched_append]
    exact List.mem_append_right _ (List.mem_cons_self)
  exact ⟨⟨[], round.snapshot, round.state, round.start, round.stop, _, tail, rfl, ⟨noPoll.1, noAnchor.1⟩,
    (round_opening inherited round).2, round.planned, member⟩⟩

theorem poll_dispatches (inherited : engine.monitor.ownRange = none) (poll : Poll engine) (left right : Trace)
    (action : Action) (split : poll.actions = left ++ action :: right) : Dispatches engine left action := by
  intro request answer equal
  subst equal
  have member : .submitted request answer ∈ poll.actions := by simp [split]
  obtain ⟨proved, round⟩ := paying_poll poll _ member rfl
  subst round
  rw [Poll.actions, round_shape inherited proved] at split
  -- None of the first three actions of a round is a dispatch.
  rcases left with _ | ⟨_, _ | ⟨_, _ | ⟨_, tail⟩⟩⟩
  · simp at split
  · simp at split
  · simp at split
  · simp only [List.cons_append, List.cons.injEq] at split
    obtain ⟨rfl, rfl, rfl, rest⟩ := split
    exact round_dispatches inherited proved tail right request answer rest

theorem job_split (round : Round engine) (request : ProofRequest) (member : request ∈ round.jobs.map Job.request) :
    ∃ tail answer right, afterAnchor round = tail ++ .submitted request answer :: right := by
  obtain ⟨job, jobMember, rfl⟩ := List.mem_map.mp member
  have sent : .submitted job.request (.ok job.handle) ∈ afterAnchor round :=
    List.mem_append_left _ (List.mem_flatMap.mpr ⟨job, jobMember, by simp [Job.actions, Job.calls]⟩)
  obtain ⟨tail, right, split⟩ := List.append_of_mem sent
  exact ⟨tail, _, right, split⟩

theorem round_agrees (round : Round engine) (inherited : engine.monitor.ownRange = none) (past future : Trace)
    (anchored : Anchored (past ++ (round.actions ++ future))) : Agree round.snapshot round.state := by
  obtain ⟨noPoll, noAnchor, _⟩ := after_anchor_quiet round
  rw [← covered_iff round.snapshot round.state round.start round.stop _ (round_opening inherited round).2 round.planned]
  intro request member
  obtain ⟨tail, answer, right, split⟩ := job_split round request member
  rw [split, polled_append, List.append_eq_nil_iff] at noPoll
  rw [split, anchors_append, List.append_eq_nil_iff] at noAnchor
  obtain ⟨lastPoll, lastState⟩ := round_last past tail round.snapshot round.state (.rangeDetected round.start round.stop)
    noPoll.1 noAnchor.1
  obtain ⟨snapshot, origin, covers⟩ := anchored (past ++ .polled (.ok round.snapshot) ::
    .event (.rangeDetected round.start round.stop) :: .stateAsked (.ok round.state) :: tail) request answer (right ++ future)
    (by rw [round_shape inherited round, split]; simp only [List.append_assoc, List.cons_append])
  rw [lastPoll, lastState] at origin
  rcases origin with same | same
  · cases same
    exact .inl covers
  · cases same
    exact .inr covers

theorem loop_dispatches (inherited : engine.monitor.ownRange = none) (rounds : Nat) (front : Trace) (action : Action)
    (back : Trace) (split : traceOf (engine.runBeaconLoop rounds []) = front ++ action :: back) :
    Dispatches engine front action :=
  loop_positions rounds dispatches_prepend (fun poll left action right => poll_dispatches inherited poll left right action)
    dispatches_resume front action back split

theorem agreement_anchors (inherited : engine.monitor.ownRange = none) (rounds : Nat)
    (agree : SnapshotsAgree (traceOf (engine.runBeaconLoop rounds []))) :
    Anchored (traceOf (engine.runBeaconLoop rounds [])) := by
  intro front request answer back split
  obtain ⟨past, polled, anchor, start, stop, requests, tail, shape, ⟨noPoll, noAnchor⟩, computed, planned, member⟩ :=
    loop_dispatches inherited rounds front _ back split request answer rfl
  obtain ⟨lastPoll, lastState⟩ := round_last past tail polled anchor (.rangeDetected start stop) noPoll noAnchor
  have polledLast : lastPolled (past ++ [.polled (.ok polled), .event (.rangeDetected start stop)]) = some polled := by
    rw [lastPolled, polled_append]
    exact List.getLast?_concat
  have agreed := agree (past ++ [.polled (.ok polled), .event (.rangeDetected start stop)]) anchor
    (tail ++ .submitted request answer :: back) (by rw [split, shape]; simp) polled polledLast
  rw [← shape] at lastPoll lastState
  rcases (covered_iff polled anchor start stop requests computed planned).mpr agreed request member with covers | covers
  · exact ⟨polled, .inl lastPoll, covers⟩
  · exact ⟨anchor, .inr lastState, covers⟩

theorem anchors_agreement (inherited : engine.monitor.ownRange = none) (rounds : Nat) (trace : Trace)
    (succeeded : engine.runBeaconLoop rounds [] = .ok () trace) (anchored : Anchored trace) : SnapshotsAgree trace := by
  obtain ⟨polls, rfl, planned⟩ := returned_polls rounds trace succeeded
  intro front anchor back split polled polledLast
  obtain ⟨before, after, poll, left, right, listed, holds, shape, ends⟩ := flat_map_split polls front back _ split
  have member : .stateAsked (.ok anchor) ∈ poll.actions := by simp [holds]
  have finished : poll.result = some () := planned poll (by simp [listed])
  -- An idle poll reads no second snapshot, and one that cannot plan does not return.
  cases poll with
  | idle opening opened =>
      rw [Poll.actions, List.mem_singleton] at member
      rw [← member] at opened
      cases opened
  | unplanned opening start stop state fault opened reported failed => cases finished
  | round proved =>
      have agreed := round_agrees proved inherited (before.flatMap Poll.actions) (after.flatMap Poll.actions) (by
        rw [listed, List.flatMap_append, List.flatMap_cons] at anchored
        exact anchored)
      obtain ⟨_, noAnchor, _⟩ := after_anchor_quiet proved
      have absent : .stateAsked (.ok anchor) ∉ afterAnchor proved := by
        intro inside
        have listed : anchor ∈ anchorStates (afterAnchor proved) := List.mem_filterMap.mpr ⟨_, inside, rfl⟩
        rw [noAnchor] at listed
        cases listed
      have position : [.polled (.ok proved.snapshot), .event (.rangeDetected proved.start proved.stop)] ++
          .stateAsked (.ok proved.state) :: afterAnchor proved = left ++ .stateAsked (.ok anchor) :: right := by
        rw [← holds, Poll.actions, round_shape inherited proved]
        rfl
      rw [List.append_cons_inj_of_notMem (by simp) absent] at position
      obtain ⟨begins, same, _⟩ := position
      cases same
      rw [shape, ← begins, lastPolled, polled_append] at polledLast
      have last : (polledStates (before.flatMap Poll.actions) ++ [proved.snapshot]).getLast? = some polled := polledLast
      rw [List.getLast?_concat] at last
      cases last
      exact agreed

/-- A round that a failed call cuts short may have dispatched only requests that happen to be
covered, so the converse is about runs without failures. -/
theorem round_snapshots_iff (engine : OrchestrationEngine) (rounds : Nat) (inherited : engine.monitor.ownRange = none) :
    (SnapshotsAgree (traceOf (engine.runBeaconLoop rounds [])) → Anchored (traceOf (engine.runBeaconLoop rounds []))) ∧
      (errorOf (engine.runBeaconLoop rounds []) = none →
        (Anchored (traceOf (engine.runBeaconLoop rounds [])) ↔
          SnapshotsAgree (traceOf (engine.runBeaconLoop rounds [])))) := by
  refine ⟨agreement_anchors inherited rounds, fun running => ⟨?_, agreement_anchors inherited rounds⟩⟩
  cases outcome : engine.runBeaconLoop rounds [] with
  | ok value trace => exact anchors_agreement inherited rounds trace outcome
  | error reason trace =>
      rw [outcome] at running
      cases running

theorem round_snapshots_iff_stalled :
    (SnapshotsAgree (traceOf (stalledEngine.runBeaconLoop 2 [])) → Anchored (traceOf (stalledEngine.runBeaconLoop 2 []))) ∧
      (errorOf (stalledEngine.runBeaconLoop 2 []) = none →
        (Anchored (traceOf (stalledEngine.runBeaconLoop 2 [])) ↔
          SnapshotsAgree (traceOf (stalledEngine.runBeaconLoop 2 [])))) :=
  round_snapshots_iff stalledEngine 2 rfl

def laggingMonitor : ChainMonitor where
  getState := fun history => .ok (if history.isEmpty then ⟨wordOfNat 0xaa, 0, 2⟩ else ⟨wordOfNat 0xbb, 0, 1⟩)
  ownRange := none
  activeDispute := fun _ => none

def laggingRequest : ProofRequest := ⟨wordOfNat 0xbb, 1, 2, zeroWord, .groth16⟩

def laggingOpening : Trace :=
  [.polled (.ok ⟨wordOfNat 0xaa, 0, 2⟩), .event (.rangeDetected 1 2), .stateAsked (.ok ⟨wordOfNat 0xbb, 0, 1⟩),
    .event (.proofStarted 1 2)]

theorem lagging_run : (mockEngine .beacon 10 laggingMonitor).runBeaconLoop 1 [] =
    .ok () (laggingOpening ++ [.submitted laggingRequest (.ok ⟨"mock-1-2", laggingRequest⟩),
      .waited ⟨"mock-1-2", laggingRequest⟩ (.ok sampleArtifact), .event (.proofCompleted 1 2)]) := rfl

theorem lagging_round_uncovered :
    ¬ ∀ (engine : OrchestrationEngine) (rounds : Nat), engine.monitor.ownRange = none →
      Anchored (traceOf (engine.runBeaconLoop rounds [])) := by
  intro always
  have anchored := always (mockEngine .beacon 10 laggingMonitor) 1 rfl
  rw [lagging_run] at anchored
  obtain ⟨snapshot, origin, covers⟩ := anchored laggingOpening laggingRequest _ _ rfl
  rcases origin with same | same
  · cases same
    have equal := word_of_nat_inj 0xaa 0xbb (by decide) (by decide) covers.head
    cases equal
  · cases same
    have within : (2 : UInt64) ≤ 1 := covers.safe
    exact absurd within (by decide)

end OpenZk.Engine
