import OpenZk.EngineScripts

set_option autoImplicit false

namespace OpenZk.Engine

open Words Traced

def roundEvents (start stop : UInt64) (requests : List ProofRequest) : List EngineEvent :=
  .rangeDetected start stop ::
    (requests.flatMap (fun request =>
      [.proofStarted request.l2StartBlock request.l2EndBlock, .proofCompleted request.l2StartBlock request.l2EndBlock]) ++
    if requests.length > 1 then [.aggregationStarted requests.length, .aggregationCompleted start stop] else [])

variable {engine : OrchestrationEngine}

def Round.events (round : Round engine) : List EngineEvent :=
  roundEvents round.start round.stop (round.jobs.map Job.request)

def Poll.rounds : Poll engine → List (Round engine)
  | .round proved => [proved]
  | _ => []

theorem events_append (front back : Trace) : events (front ++ back) = events front ++ events back :=
  List.filterMap_append

theorem opening_silent (monitor : ChainMonitor) (opening : Action) (range : Option (UInt64 × UInt64)) (rest : Trace)
    (opened : Opening monitor opening range) : events (opening :: rest) = events rest := by
  cases opened <;> rfl

theorem aggregation_observed {β : Type} (observe : Action → Option β) (jobs : List Job) (aggHandle : ProofJobHandle)
    (aggProof : ProofArtifact) (start stop : UInt64) :
    (aggregationActions jobs aggHandle aggProof start stop).filterMap observe =
      if jobs.length > 1 then
        [Action.event (.aggregationStarted jobs.length), .aggregationSubmitted (jobs.map Job.proof) (.ok aggHandle),
          .waited aggHandle (.ok aggProof), .event (.aggregationCompleted start stop)].filterMap observe
      else [] := by
  unfold aggregationActions
  by_cases many : jobs.length > 1
  · rw [if_pos many, if_pos many]
  · rw [if_neg many, if_neg many]
    rfl

theorem aggregation_unseen {β : Type} (observe : Action → Option β) (jobs : List Job) (aggHandle : ProofJobHandle)
    (aggProof : ProofArtifact) (start stop : UInt64) (unseen : [Action.event (.aggregationStarted jobs.length),
      .aggregationSubmitted (jobs.map Job.proof) (.ok aggHandle), .waited aggHandle (.ok aggProof),
      .event (.aggregationCompleted start stop)].filterMap observe = []) :
    (aggregationActions jobs aggHandle aggProof start stop).filterMap observe = [] := by
  rw [aggregation_observed, unseen, ite_self]

theorem jobs_observed {β : Type} (observe : Action → Option β) (seen : Job → List β) (jobs : List Job)
    (each : ∀ job : Job, job.actions.filterMap observe = seen job) :
    (jobs.flatMap Job.actions).filterMap observe = jobs.flatMap seen := by
  rw [List.filterMap_flatMap]
  exact List.flatMap_congr fun job _ => each job

theorem round_events (round : Round engine) : events round.actions = round.events := by
  have jobs : events (round.jobs.flatMap Job.actions) = (round.jobs.map Job.request).flatMap (fun request =>
      [.proofStarted request.l2StartBlock request.l2EndBlock, .proofCompleted request.l2StartBlock request.l2EndBlock]) := by
    rw [List.flatMap_map]
    exact jobs_observed eventOf _ round.jobs fun _ => rfl
  have dispatched : events round.dispatch =
      .rangeDetected round.start round.stop :: events (round.jobs.flatMap Job.actions) := by
    rw [Round.dispatch, opening_silent _ _ _ _ round.opened]
    rfl
  have aggregated := aggregation_observed eventOf round.jobs round.aggHandle round.aggProof round.start round.stop
  rw [Round.actions, events_append, dispatched, jobs, events, aggregated, Round.events, roundEvents, List.length_map]
  rfl

theorem poll_events (poll : Poll engine) (planned : poll.result = some ()) :
    events poll.actions = poll.rounds.flatMap Round.events := by
  cases poll with
  | idle opening opened => exact opening_silent _ _ _ [] opened
  | round proved =>
      simp only [Poll.rounds, List.flatMap_cons, List.flatMap_nil, List.append_nil]
      exact round_events proved
  | unplanned opening start stop state fault opened reported failed => cases planned

theorem polls_events (polls : List (Poll engine)) (planned : ∀ poll ∈ polls, poll.result = some ()) :
    events (polls.flatMap Poll.actions) = (polls.flatMap Poll.rounds).flatMap Round.events := by
  rw [events, List.filterMap_flatMap, List.flatMap_assoc]
  apply List.flatMap_congr
  intro poll member
  exact poll_events poll (planned poll member)

structure RangesFit (engine : OrchestrationEngine) : Prop where
  window : 1 ≤ engine.config.intent.aggregationWindow.toNat
  ranges : ∀ start stop state, Reported engine.monitor start stop → engine.planRange start stop state ≠ .error .overflow

structure DisputesFit (engine : OrchestrationEngine) : Prop where
  window : 1 ≤ engine.config.intent.aggregationWindow.toNat
  disputes : ∀ history dispute state, engine.monitor.activeDispute history = some dispute →
    engine.planRange dispute.startBlock dispute.endBlock state ≠ .error .overflow

theorem poll_planned (fits : RangesFit engine) (poll : Poll engine) : poll.result = some () := by
  cases poll with
  | idle opening opened => rfl
  | round proved => rfl
  | unplanned opening start stop state fault opened reported failed =>
      have overflow := Planner.plan_range_fault _ _ _ _ _ fault fits.window failed
      subst overflow
      exact absurd failed (fits.ranges start stop state reported)

theorem watch_planned (fits : DisputesFit engine) (watch : Watch engine) : watch.result = some () := by
  cases watch with
  | quiet => rfl
  | resolved answered => rfl
  | unplanned dispute state fault reported failed =>
      obtain ⟨history, answered⟩ := reported
      have overflow := Planner.plan_range_fault _ _ _ _ _ fault fits.window failed
      subst overflow
      exact absurd failed (fits.disputes history dispute state answered)

def Aggregates (engine : OrchestrationEngine) (front : Trace) (action : Action) : Prop :=
  ∀ rangeProofs answer, action = .aggregationSubmitted rangeProofs answer →
    ∃ past, ∃ round : Round engine, front = past ++ (round.dispatch ++ [.event (.aggregationStarted round.jobs.length)]) ∧
      rangeProofs = round.jobs.map Job.proof

/-- What stands right before the completion of a proof, and of an aggregation: the calls that
brought it about, the last of them answered with the proof. -/
def ProofCompletes (front : Trace) (action : Action) : Prop :=
  ∀ start stop, action = .event (.proofCompleted start stop) → ∃ job : Job,
    .event (.proofStarted start stop) :: job.calls <:+ front ∧
      job.request.l2StartBlock = start ∧ job.request.l2EndBlock = stop

def AggregationCompletes (engine : OrchestrationEngine) (front : Trace) (action : Action) : Prop :=
  ∀ start stop, action = .event (.aggregationCompleted start stop) → ∃ round : Round engine,
    round.dispatch ++ [.event (.aggregationStarted round.jobs.length),
        .aggregationSubmitted (round.jobs.map Job.proof) (.ok round.aggHandle),
        .waited round.aggHandle (.ok round.aggProof)] <:+ front ∧
      round.start = start ∧ round.stop = stop

def Resolves (engine : OrchestrationEngine) (front : Trace) (action : Action) : Prop :=
  ∀ start stop, action = .event (.disputeResolved start stop) →
    ∃ past, ∃ round : DisputeRound engine, front = past ++ round.answer ∧ round.dispute = ⟨start, stop⟩

def pays : Action → Bool
  | .submitted _ _ => true
  | .aggregationSubmitted _ _ => true
  | _ => false

def works : Action → Bool
  | .event (.rangeDetected _ _) => false
  | .event _ => true
  | action => pays action

theorem working_apart {monitor : ChainMonitor} {opening : Action} {range : Option (UInt64 × UInt64)}
    (opened : Opening monitor opening range) (action : Action) (working : works action = true) : action ≠ opening := by
  rintro rfl
  cases opened with
  | polled snapshot range inherited computed => cases working
  | asked range defined => cases working

theorem not_aggregation_in_dispatch (round : Round engine) (rangeProofs : List ProofArtifact)
    (answer : Except String ProofJobHandle) : .aggregationSubmitted rangeProofs answer ∉ round.dispatch := by
  have opening := working_apart round.opened (.aggregationSubmitted rangeProofs answer) rfl
  simp [Round.dispatch, Job.actions, Job.calls, opening]

theorem working_poll (poll : Poll engine) (action : Action) (member : action ∈ poll.actions) (working : works action = true) :
    ∃ proved, poll = .round proved := by
  cases poll with
  | idle opening opened => exact absurd (List.mem_singleton.mp member) (working_apart opened action working)
  | round proved => exact ⟨proved, rfl⟩
  | unplanned opening start stop state fault opened reported failed =>
      simp only [Poll.actions, List.mem_cons, List.not_mem_nil, or_false] at member
      rcases member with same | rfl | rfl
      · exact absurd same (working_apart opened action working)
      · cases working
      · cases working

theorem paying_poll (poll : Poll engine) (action : Action) (member : action ∈ poll.actions) (paid : pays action = true) :
    ∃ proved, poll = .round proved := by
  apply working_poll poll action member
  cases action with
  | event event => cases paid
  | _ => exact paid

theorem poll_aggregates (poll : Poll engine) (left right : Trace) (action : Action)
    (split : poll.actions = left ++ action :: right) : Aggregates engine left action := by
  intro rangeProofs answer equal
  subst equal
  have member : .aggregationSubmitted rangeProofs answer ∈ poll.actions := by simp [split]
  obtain ⟨proved, round⟩ := paying_poll poll _ member rfl
  subst round
  have absent := not_aggregation_in_dispatch proved rangeProofs answer
  by_cases many : proved.jobs.length > 1
  · rw [Poll.actions, Round.actions, aggregationActions, if_pos many, List.append_cons] at split
    rw [List.append_cons_inj_of_notMem (by simp [absent]) (by simp)] at split
    obtain ⟨before, same, _⟩ := split
    cases same
    exact ⟨[], proved, before.symm, rfl⟩
  · rw [Poll.actions, Round.actions, aggregationActions, if_neg many, List.append_nil] at member
    exact absurd member absent

theorem proof_completes_prepend (past front : Trace) (action : Action) (holds : ProofCompletes front action) :
    ProofCompletes (past ++ front) action := by
  intro start stop same
  obtain ⟨job, before, bounds⟩ := holds start stop same
  exact ⟨job, before.trans (List.suffix_append past front), bounds⟩

theorem aggregation_completes_prepend (past front : Trace) (action : Action)
    (holds : AggregationCompletes engine front action) : AggregationCompletes engine (past ++ front) action := by
  intro start stop same
  obtain ⟨round, before, bounds⟩ := holds start stop same
  exact ⟨round, before.trans (List.suffix_append past front), bounds⟩

theorem job_completes (job : Job) (left : Trace) (action : Action) (right : Trace)
    (split : job.actions = left ++ action :: right) : ProofCompletes left action := by
  intro start stop equal
  subst equal
  have ends : job.actions = (.event (.proofStarted job.request.l2StartBlock job.request.l2EndBlock) :: job.calls) ++
      [.event (.proofCompleted job.request.l2StartBlock job.request.l2EndBlock)] := rfl
  rw [ends, List.append_cons_inj_of_notMem (by simp [Job.calls]) (by simp)] at split
  obtain ⟨before, same, _⟩ := split
  simp only [Action.event.injEq, EngineEvent.proofCompleted.injEq] at same
  obtain ⟨rfl, rfl⟩ := same
  exact ⟨job, by rw [before], rfl, rfl⟩

theorem completes_absent (trace past : Trace) (absent : ∀ start stop, .event (.proofCompleted start stop) ∉ trace)
    (left : Trace) (action : Action) (right : Trace) (split : trace = left ++ action :: right) :
    ProofCompletes (past ++ left) action := by
  intro start stop equal
  subst equal
  exact absurd (by simp [split]) (absent start stop)

theorem round_proof_completes (round : Round engine) (left : Trace) (action : Action) (right : Trace)
    (split : round.actions = left ++ action :: right) : ProofCompletes left action := by
  have opening (start stop : UInt64) := working_apart round.opened (.event (.proofCompleted start stop)) rfl
  have dispatch : round.dispatch = [round.opening, .event (.rangeDetected round.start round.stop),
      .stateAsked (.ok round.state)] ++ round.jobs.flatMap Job.actions := rfl
  rw [Round.actions] at split
  refine append_positions _ _ ?_ ?_ left action right split
  · rw [dispatch]
    refine append_positions _ _ ?_ ?_
    · exact completes_absent _ [] fun start stop => by simp [opening]
    · intro left action right inJobs
      exact proof_completes_prepend _ left action
        (flat_map_positions round.jobs proof_completes_prepend job_completes left action right inJobs)
  · apply completes_absent
    intro start stop
    rw [aggregationActions]
    split <;> simp

theorem poll_proof_completes (poll : Poll engine) (left : Trace) (action : Action) (right : Trace)
    (split : poll.actions = left ++ action :: right) : ProofCompletes left action := by
  intro start stop equal
  have member : action ∈ poll.actions := by simp [split]
  obtain ⟨proved, round⟩ := working_poll poll action member (by rw [equal]; rfl)
  subst round
  exact round_proof_completes proved left action right split start stop equal

theorem poll_aggregation_completes (poll : Poll engine) (left : Trace) (action : Action) (right : Trace)
    (split : poll.actions = left ++ action :: right) : AggregationCompletes engine left action := by
  intro start stop equal
  have member : action ∈ poll.actions := by simp [split]
  obtain ⟨proved, round⟩ := working_poll poll action member (by rw [equal]; rfl)
  subst round equal
  have absent : .event (.aggregationCompleted start stop) ∉ proved.dispatch := by
    have opening := working_apart proved.opened (.event (.aggregationCompleted start stop)) rfl
    simp [Round.dispatch, Job.actions, Job.calls, opening]
  by_cases many : proved.jobs.length > 1
  · have ends : proved.actions = (proved.dispatch ++ [.event (.aggregationStarted proved.jobs.length),
        .aggregationSubmitted (proved.jobs.map Job.proof) (.ok proved.aggHandle),
        .waited proved.aggHandle (.ok proved.aggProof)]) ++ [.event (.aggregationCompleted proved.start proved.stop)] := by
      rw [Round.actions, aggregationActions, if_pos many, List.append_assoc]
      rfl
    rw [Poll.actions, ends, List.append_cons_inj_of_notMem (by simp [absent]) (by simp)] at split
    obtain ⟨before, same, _⟩ := split
    simp only [Action.event.injEq, EngineEvent.aggregationCompleted.injEq] at same
    obtain ⟨rfl, rfl⟩ := same
    exact ⟨proved, by rw [before], rfl, rfl⟩
  · rw [Poll.actions, Round.actions, aggregationActions, if_neg many, List.append_nil] at member
    exact absurd member absent

theorem not_resolved_in_answer (round : DisputeRound engine) (start stop : UInt64) :
    .event (.disputeResolved start stop) ∉ round.answer := by
  simp [DisputeRound.answer, Job.calls]

theorem watch_resolves (watch : Watch engine) (left right : Trace) (action : Action)
    (split : watch.actions = left ++ action :: right) : Resolves engine left action := by
  intro start stop equal
  subst equal
  have member : .event (.disputeResolved start stop) ∈ watch.actions := by simp [split]
  cases watch with
  | quiet => simp [Watch.actions] at member
  | unplanned dispute state fault reported failed => simp [Watch.actions] at member
  | resolved answered =>
      have absent := not_resolved_in_answer answered start stop
      rw [Watch.actions, DisputeRound.actions] at split
      rw [List.append_cons_inj_of_notMem absent (by simp)] at split
      obtain ⟨before, same, _⟩ := split
      simp only [Action.event.injEq, EngineEvent.disputeResolved.injEq] at same
      obtain ⟨rfl, rfl⟩ := same
      exact ⟨[], answered, before.symm, rfl⟩

theorem aggregates_prepend (past front : Trace) (action : Action) (holds : Aggregates engine front action) :
    Aggregates engine (past ++ front) action := by
  intro rangeProofs answer same
  obtain ⟨earlier, round, shape, proofs⟩ := holds rangeProofs answer same
  exact ⟨past ++ earlier, round, by rw [shape, List.append_assoc], proofs⟩

theorem resolves_prepend (past front : Trace) (action : Action) (holds : Resolves engine front action) :
    Resolves engine (past ++ front) action := by
  intro start stop same
  obtain ⟨earlier, round, shape, dispute⟩ := holds start stop same
  exact ⟨past ++ earlier, round, by rw [shape, List.append_assoc], dispute⟩

theorem aggregates_resume (front : Trace) (bad good : Action) (same : sameCall bad good)
    (holds : Aggregates engine front good) : Aggregates engine front bad := by
  intro rangeProofs answer equal
  subst equal
  cases good with
  | aggregationSubmitted others reply =>
      have proofs : rangeProofs = others := same
      rw [proofs]
      exact holds others reply rfl
  | _ => exact absurd same id

theorem submitted_again {request : ProofRequest} {answer : Except String ProofJobHandle} {good : Action}
    (same : sameCall (.submitted request answer) good) : ∃ reply, good = .submitted request reply := by
  cases good with
  | submitted other reply =>
      have requests : request = other := same
      exact ⟨reply, by rw [requests]⟩
  | _ => exact absurd same id

theorem call_unemitted {bad good : Action} (event : EngineEvent) (same : sameCall bad good) : bad ≠ .event event := by
  rintro rfl
  exact same

theorem loop_positions {holds : Trace → Action → Prop} (rounds : Nat)
    (prepend : ∀ past front action, holds front action → holds (past ++ front) action)
    (each : ∀ (poll : Poll engine) left action right, poll.actions = left ++ action :: right → holds left action)
    (resumes : ∀ front bad good, sameCall bad good → holds front good → holds front bad) (front : Trace) (action : Action)
    (back : Trace) (split : traceOf (engine.runBeaconLoop rounds []) = front ++ action :: back) : holds front action := by
  apply ended_positions ((beacon_loop_follows engine rounds).runs []) ?_ resumes front action back split
  intro trace result given
  obtain ⟨polls, rfl, _⟩ := given
  exact flat_map_positions polls prepend each

structure BeaconProtocol (engine : OrchestrationEngine) (trace : Trace) (error : Option Stop) : Prop where
  rounds : ∃ rounds : List (Round engine), events trace <+: rounds.flatMap Round.events ∧
    (error = none → events trace = rounds.flatMap Round.events)
  proved : ∀ front action back, trace = front ++ action :: back → ProofCompletes front action
  aggregated : ∀ front action back, trace = front ++ action :: back → Aggregates engine front action
  completed : ∀ front action back, trace = front ++ action :: back → AggregationCompletes engine front action
  stops : FailsLast calls trace error

structure SentinelProtocol (engine : OrchestrationEngine) (trace : Trace) (error : Option Stop) : Prop where
  resolved : ∀ front action back, trace = front ++ action :: back → Resolves engine front action
  stops : FailsLast calls trace error

theorem failure_silent (action : Action) (reason : Stop) (failed : failure action = some reason) : eventOf action = none := by
  cases action with
  | event event => cases failed
  | _ => rfl

theorem beacon_protocol (fits : RangesFit engine) (rounds : Nat) :
    BeaconProtocol engine (traceOf (engine.runBeaconLoop rounds [])) (errorOf (engine.runBeaconLoop rounds [])) := by
  have ended := (beacon_loop_follows engine rounds).runs []
  refine ⟨?_, ?_, ?_, ?_, ?_⟩
  · obtain ⟨full, result, ⟨polls, rfl, _⟩, shown, whole⟩ := ended_prefix ended failure_silent
    have emitted := polls_events polls (fun poll _ => poll_planned fits poll)
    refine ⟨polls.flatMap Poll.rounds, ?_, ?_⟩
    · rw [← emitted]
      exact shown
    · intro running
      rw [← emitted, whole running]
  · exact loop_positions rounds proof_completes_prepend poll_proof_completes
      fun _ _ _ same _ _ _ equal => absurd equal (call_unemitted _ same)
  · exact loop_positions rounds aggregates_prepend
      (fun poll left action right => poll_aggregates poll left right action) aggregates_resume
  · exact loop_positions rounds aggregation_completes_prepend poll_aggregation_completes
      fun _ _ _ same _ _ _ equal => absurd equal (call_unemitted _ same)
  · apply ended_fails_last ?_ ended
    intro trace given
    obtain ⟨polls, _, finished⟩ := given
    cases finished.mpr (fun poll _ => poll_planned fits poll)

theorem sentinel_protocol (fits : DisputesFit engine) (rounds : Nat) :
    SentinelProtocol engine (traceOf (engine.runSentinelLoop rounds [])) (errorOf (engine.runSentinelLoop rounds [])) := by
  have ended := (sentinel_loop_follows engine rounds).runs []
  refine ⟨?_, ?_⟩
  · have resumes : ∀ front bad good, sameCall bad good → Resolves engine front good → Resolves engine front bad :=
      fun _ _ _ same _ _ _ equal => absurd equal (call_unemitted _ same)
    apply ended_positions ended ?_ resumes
    intro trace result given
    obtain ⟨watches, rfl, _⟩ := given
    exact flat_map_positions watches resolves_prepend fun watch left action right => watch_resolves watch left right action
  · apply ended_fails_last ?_ ended
    intro trace given
    obtain ⟨watches, _, finished⟩ := given
    cases finished.mpr (fun watch _ => watch_planned fits watch)

def PlansFit (engine : OrchestrationEngine) : Prop :=
  match engine.config.intent.proofMode with
  | .beacon => RangesFit engine
  | .sentinel => DisputesFit engine

def FollowsProtocol (engine : OrchestrationEngine) (trace : Trace) (error : Option Stop) : Prop :=
  match engine.config.intent.proofMode with
  | .beacon => BeaconProtocol engine trace error
  | .sentinel => SentinelProtocol engine trace error

theorem engine_protocol (engine : OrchestrationEngine) (rounds : Nat) (fits : PlansFit engine) :
    FollowsProtocol engine (traceOf (engine.run rounds [])) (errorOf (engine.run rounds [])) := by
  unfold FollowsProtocol OrchestrationEngine.run
  unfold PlansFit at fits
  cases mode : engine.config.intent.proofMode with
  | beacon =>
      rw [mode] at fits
      exact beacon_protocol fits rounds
  | sentinel =>
      rw [mode] at fits
      exact sentinel_protocol fits rounds

def mockMonitor (state : ChainState) : ChainMonitor := ⟨fun _ => .ok state, none, fun _ => none⟩

def mockDispatcher : ProofDispatcher where
  submit := fun request _ =>
    .ok ⟨"mock-" ++ toString request.l2StartBlock.toNat ++ "-" ++ toString request.l2EndBlock.toNat, request⟩
  wait := fun _ _ => .ok sampleArtifact
  submitAggregation := fun _ _ => .ok sampleHandle

def mockEngine (mode : ProofMode) (window : UInt64) (monitor : ChainMonitor) : OrchestrationEngine :=
  ⟨⟨⟨mode, .groth16, window⟩⟩, monitor, mockDispatcher⟩

theorem mock_reported (state : ChainState) (start stop : UInt64) (reported : Reported (mockMonitor state) start stop) :
    Planner.pendingRange state = .ok (some (start, stop)) := by
  obtain ⟨history, later, answered⟩ := reported
  obtain ⟨range, computed⟩ := Planner.pending_range_total state
  simp only [pendingRange, mockMonitor, bind, EStateM.bind, ask, computed] at answered
  cases answered
  exact computed

theorem engine_protocol_mock :
    FollowsProtocol (mockEngine .beacon 100 (mockMonitor ⟨zeroWord, 500, 750⟩))
        (traceOf ((mockEngine .beacon 100 (mockMonitor ⟨zeroWord, 500, 750⟩)).run 2 []))
        (errorOf ((mockEngine .beacon 100 (mockMonitor ⟨zeroWord, 500, 750⟩)).run 2 [])) ∧
      FollowsProtocol (mockEngine .sentinel 10 { mockMonitor ⟨zeroWord, 500, 750⟩ with activeDispute := fun _ => some ⟨42, 60⟩ })
        (traceOf ((mockEngine .sentinel 10
          { mockMonitor ⟨zeroWord, 500, 750⟩ with activeDispute := fun _ => some ⟨42, 60⟩ }).run 2 []))
        (errorOf ((mockEngine .sentinel 10
          { mockMonitor ⟨zeroWord, 500, 750⟩ with activeDispute := fun _ => some ⟨42, 60⟩ }).run 2 [])) := by
  refine ⟨engine_protocol _ 2 ⟨by decide, ?_⟩, engine_protocol _ 2 ⟨by decide, ?_⟩⟩
  · intro start stop state reported
    obtain ⟨_, last, _⟩ := Planner.pending_range_order _ _ _ (mock_reported _ _ _ reported)
    obtain ⟨requests, planned⟩ := Planner.plan_range_total 100 .groth16 state start stop (by decide) (by rw [last]; decide)
    rw [OrchestrationEngine.planRange, mockEngine, planned]
    exact nofun
  · intro history dispute state answered
    cases answered
    obtain ⟨requests, planned⟩ := Planner.plan_range_total 10 .groth16 state 42 60 (by decide) (by decide)
    rw [OrchestrationEngine.planRange, mockEngine, planned]
    exact nofun

end OpenZk.Engine
