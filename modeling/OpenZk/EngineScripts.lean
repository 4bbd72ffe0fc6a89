import OpenZk.Engine

set_option autoImplicit false

namespace OpenZk.Engine

open Words Traced

structure Job where
  request : ProofRequest
  handle : ProofJobHandle
  proof : ProofArtifact

namespace Job

variable (job : Job)

def calls : Trace := [.submitted job.request (.ok job.handle), .waited job.handle (.ok job.proof)]

def actions : Trace :=
  .event (.proofStarted job.request.l2StartBlock job.request.l2EndBlock) ::
    (job.calls ++ [.event (.proofCompleted job.request.l2StartBlock job.request.l2EndBlock)])

end Job

inductive Opening (monitor : ChainMonitor) : Action → Option (UInt64 × UInt64) → Prop where
  | polled (snapshot : ChainState) (range : Option (UInt64 × UInt64)) (inherited : monitor.ownRange = none)
      (computed : Planner.pendingRange snapshot = .ok range) : Opening monitor (.polled (.ok snapshot)) range
  | asked (range : Option (UInt64 × UInt64)) (defined : monitor.ownRange.isSome = true) :
      Opening monitor (.rangeAsked (.ok range)) range

def Reported (monitor : ChainMonitor) (start stop : UInt64) : Prop :=
  ∃ history later, pendingRange monitor history = .ok (some (start, stop)) later

theorem polled_logged : Logged calls Action.polled monitorError := ⟨fun _ => rfl, fun _ => rfl, fun _ _ => trivial⟩

theorem range_logged : Logged calls Action.rangeAsked monitorError := ⟨fun _ => rfl, fun _ => rfl, fun _ _ => trivial⟩

theorem state_logged : Logged calls Action.stateAsked monitorError := ⟨fun _ => rfl, fun _ => rfl, fun _ _ => trivial⟩

theorem submit_logged (request : ProofRequest) : Logged calls (Action.submitted request) dispatchError :=
  ⟨fun _ => rfl, fun _ => rfl, fun _ _ => rfl⟩

theorem wait_logged (handle : ProofJobHandle) : Logged calls (Action.waited handle) dispatchError :=
  ⟨fun _ => rfl, fun _ => rfl, fun _ _ => rfl⟩

theorem aggregation_logged (rangeProofs : List ProofArtifact) :
    Logged calls (Action.aggregationSubmitted rangeProofs) dispatchError :=
  ⟨fun _ => rfl, fun _ => rfl, fun _ _ => rfl⟩

def sampleState : ChainState := ⟨zeroWord, 0, 0⟩

def sampleRequest : ProofRequest := ⟨zeroWord, 0, 0, zeroWord, .groth16⟩

def sampleHandle : ProofJobHandle := ⟨"mock-aggregation", sampleRequest⟩

def sampleArtifact : ProofArtifact := ⟨.mock, .groth16, [0xde, 0xad], [], zeroWord, some 0⟩

theorem checked_follows {β : Type} (outcome : Except Planner.Fault β) :
    Follows calls (checked outcome) (fun trace result => trace = [] ∧
      ((∃ value, outcome = .ok value ∧ result = some value) ∨ ∃ fault, outcome = .error fault ∧ result = none)) := by
  cases outcome with
  | ok value => exact follows_lift _ (fun _ same => ⟨rfl, .inl ⟨_, by rw [Except.ok.inj same], rfl⟩⟩) (fun _ same => nomatch same)
  | error fault => exact follows_lift _ (fun _ same => nomatch same) (fun _ _ => ⟨rfl, .inr ⟨fault, rfl, rfl⟩⟩)

theorem pending_range_follows (monitor : ChainMonitor) :
    Follows calls (pendingRange monitor) (fun trace result => ∃ opening range, trace = [opening] ∧ result = some range ∧
      Opening monitor opening range ∧ ∀ start stop, range = some (start, stop) → Reported monitor start stop) := by
  cases defined : monitor.ownRange with
  | some own =>
      have program : pendingRange monitor = ask own .rangeAsked monitorError := by rw [pendingRange, defined]
      have isDefined : monitor.ownRange.isSome = true := by rw [defined]; rfl
      rw [program]
      apply follows_ask range_logged none
      · exact ⟨_, none, rfl, rfl, .asked none isDefined, by simp⟩
      · intro history range answered
        refine ⟨_, range, rfl, rfl, .asked range isDefined, ?_⟩
        intro start stop equal
        subst equal
        exact ⟨history, _, by simp only [program, ask, answered]; rfl⟩
  -- The inherited body reads the state and computes the range from it.
  | none =>
      have program : pendingRange monitor =
          ask monitor.getState .polled monitorError >>= fun state => checked (Planner.pendingRange state) := by
        rw [pendingRange, defined]
      have quiet : Planner.pendingRange sampleState = .ok none := by decide
      rw [program]
      have polled : Follows calls (ask monitor.getState .polled monitorError) (fun trace result => ∃ snapshot,
          trace = [.polled (.ok snapshot)] ∧ result = some snapshot ∧
          (snapshot = sampleState ∨ ∃ history, monitor.getState history = .ok snapshot)) := by
        apply follows_ask polled_logged sampleState
        · exact ⟨sampleState, rfl, rfl, .inl rfl⟩
        · intro history snapshot answered
          exact ⟨snapshot, rfl, rfl, .inr ⟨history, answered⟩⟩
      refine follows_bind polled ?_ ?_
      · intro front state given
        obtain ⟨snapshot, rfl, same, origin⟩ := given
        cases same
        obtain ⟨range, computed⟩ := Planner.pending_range_total state
        rw [computed]
        refine follows_pure range ⟨_, range, rfl, rfl, .polled state range defined computed, ?_⟩
        intro start stop equal
        subst equal
        rcases origin with rfl | ⟨history, answered⟩
        · rw [quiet] at computed
          cases computed
        · refine ⟨history, history ++ [.polled (.ok state)], ?_⟩
          simp only [program, bind, EStateM.bind, ask, answered, computed]
          rfl
      · intro trace given
        obtain ⟨snapshot, _, impossible, _⟩ := given
        cases impossible

def aggregationActions (jobs : List Job) (aggHandle : ProofJobHandle) (aggProof : ProofArtifact) (start stop : UInt64) : Trace :=
  if jobs.length > 1 then
    [.event (.aggregationStarted jobs.length), .aggregationSubmitted (jobs.map Job.proof) (.ok aggHandle),
      .waited aggHandle (.ok aggProof), .event (.aggregationCompleted start stop)]
  else []

variable (engine : OrchestrationEngine)

structure Round where
  opening : Action
  start : UInt64
  stop : UInt64
  state : ChainState
  jobs : List Job
  aggHandle : ProofJobHandle
  aggProof : ProofArtifact
  opened : Opening engine.monitor opening (some (start, stop))
  reported : Reported engine.monitor start stop
  planned : engine.planRange start stop state = .ok (jobs.map Job.request)

namespace Round

variable {engine} (round : Round engine)

def dispatch : Trace :=
  round.opening :: .event (.rangeDetected round.start round.stop) :: .stateAsked (.ok round.state) ::
    round.jobs.flatMap Job.actions

def actions : Trace :=
  round.dispatch ++ aggregationActions round.jobs round.aggHandle round.aggProof round.start round.stop

end Round

inductive Poll where
  | idle (opening : Action) (opened : Opening engine.monitor opening none)
  | round (proved : Round engine)
  | unplanned (opening : Action) (start stop : UInt64) (state : ChainState) (fault : Planner.Fault)
      (opened : Opening engine.monitor opening (some (start, stop))) (reported : Reported engine.monitor start stop)
      (failed : engine.planRange start stop state = .error fault)

namespace Poll

def actions {engine : OrchestrationEngine} : Poll engine → Trace
  | .idle opening _ => [opening]
  | .round proved => proved.actions
  | .unplanned opening start stop state _ _ _ _ =>
      [opening, .event (.rangeDetected start stop), .stateAsked (.ok state)]

def result {engine : OrchestrationEngine} : Poll engine → Option Unit
  | .idle _ _ => some ()
  | .round _ => some ()
  | .unplanned _ _ _ _ _ _ _ _ => none

end Poll

theorem jobs_of_iterations (requests : List ProofRequest) (proofs final : List ProofArtifact) (trace : Trace)
    (loop : Iterations (fun request before trace after => ∃ job : Job, job.request = request ∧ trace = job.actions ∧
      after = before ++ [job.proof]) requests proofs trace final) :
    ∃ jobs : List Job, jobs.map Job.request = requests ∧ trace = jobs.flatMap Job.actions ∧
      final = proofs ++ jobs.map Job.proof := by
  induction loop with
  | nil value => exact ⟨[], rfl, rfl, by simp⟩
  | cons head rest before between after front back first others ih =>
      obtain ⟨job, asked, did, kept⟩ := first
      obtain ⟨jobs, askedRest, didRest, keptRest⟩ := ih
      exact ⟨job :: jobs, by rw [List.map_cons, asked, askedRest], by rw [List.flatMap_cons, did, didRest],
        by rw [keptRest, kept, List.map_cons, List.append_assoc]; rfl⟩

theorem prove_follows (request : ProofRequest) (proofs : List ProofArtifact) :
    Follows calls (do
        send (.proofStarted request.l2StartBlock request.l2EndBlock)
        let handle ← submit engine.dispatcher request
        let proof ← wait engine.dispatcher handle
        send (.proofCompleted request.l2StartBlock request.l2EndBlock)
        pure (ForInStep.yield (proofs ++ [proof])))
      (fun trace step => ∃ next, step = some (.yield next) ∧ ∃ job : Job, job.request = request ∧ trace = job.actions ∧
        next = proofs ++ [job.proof]) := by
  apply follows_emit_bind _ rfl
  apply follows_ask_bind (submit_logged request) sampleHandle
  intro handle
  apply follows_ask_bind (wait_logged handle) sampleArtifact
  intro proof
  apply follows_emit_bind _ rfl
  exact follows_pure _ ⟨_, rfl, ⟨request, handle, proof⟩, rfl, rfl, rfl⟩

theorem aggregate_follows (jobs : List Job) (start stop : UInt64) :
    Follows calls (if (jobs.map Job.proof).length > 1 then do
        send (.aggregationStarted (jobs.map Job.proof).length)
        let aggHandle ← submitAggregation engine.dispatcher (jobs.map Job.proof)
        let _ ← wait engine.dispatcher aggHandle
        send (.aggregationCompleted start stop)
      else pure ())
      (fun trace result => result = some () ∧ ∃ aggHandle aggProof,
        trace = aggregationActions jobs aggHandle aggProof start stop) := by
  unfold aggregationActions
  rw [List.length_map]
  by_cases many : jobs.length > 1
  · rw [if_pos many]
    simp only [if_pos many]
    apply follows_emit_bind _ rfl
    apply follows_ask_bind (aggregation_logged _) sampleHandle
    intro aggHandle
    apply follows_ask_bind (wait_logged aggHandle) sampleArtifact
    intro aggProof
    exact follows_emit _ rfl ⟨rfl, aggHandle, aggProof, rfl⟩
  · rw [if_neg many]
    simp only [if_neg many]
    exact follows_pure () ⟨rfl, sampleHandle, sampleArtifact, rfl⟩

theorem beacon_round_follows :
    Follows calls engine.beaconRound (fun trace result => ∃ poll : Poll engine, trace = poll.actions ∧ result = poll.result) := by
  unfold OrchestrationEngine.beaconRound
  refine follows_bind (pending_range_follows engine.monitor) ?_ ?_
  · intro front range given
    obtain ⟨opening, _, rfl, same, opened, reported⟩ := given
    cases same
    cases range with
    | none => exact follows_pure () ⟨.idle opening opened, rfl, rfl⟩
    | some bounds =>
        obtain ⟨start, stop⟩ := bounds
        apply follows_emit_bind _ rfl
        apply follows_ask_bind state_logged sampleState
        intro state
        refine follows_bind (checked_follows (engine.planRange start stop state)) ?_ ?_
        · intro front requests given
          obtain ⟨rfl, ⟨_, planned, same⟩ | ⟨_, _, impossible⟩⟩ := given
          · cases same
            -- From here on only a failed call can end the round before its aggregation.
            refine follows_bind (follows_for (prove_follows engine) requests []) ?_ ?_
            · intro front rangeProofs given
              obtain ⟨_, same, loop⟩ := given
              cases same
              obtain ⟨jobs, asked, rfl, kept⟩ := jobs_of_iterations requests [] rangeProofs front loop
              rw [List.nil_append] at kept
              subst kept
              apply follows_mono (aggregate_follows engine jobs start stop)
              intro trace result given
              obtain ⟨rfl, aggHandle, aggProof, rfl⟩ := given
              have reports := reported start stop rfl
              rw [← asked] at planned
              exact ⟨.round ⟨opening, start, stop, state, jobs, aggHandle, aggProof, opened, reports, planned⟩, rfl, rfl⟩
            · intro trace given
              obtain ⟨_, impossible, _⟩ := given
              cases impossible
          · cases impossible
        · intro trace given
          obtain ⟨rfl, ⟨_, _, impossible⟩ | ⟨fault, failed, _⟩⟩ := given
          · cases impossible
          · exact ⟨.unplanned opening start stop state fault opened (reported start stop rfl) failed, rfl, rfl⟩
  · intro trace given
    obtain ⟨_, _, _, impossible, _⟩ := given
    cases impossible

theorem beacon_loop_follows (rounds : Nat) :
    Follows calls (engine.runBeaconLoop rounds) (fun trace result => ∃ polls : List (Poll engine),
      trace = polls.flatMap Poll.actions ∧ (result = some () ↔ ∀ poll ∈ polls, poll.result = some ())) :=
  follows_mono (follows_repeatedly (beacon_round_follows engine) rounds) (fun _ _ scripted => rounds_flat_map scripted)

structure DisputeRound where
  dispute : DisputeInfo
  state : ChainState
  jobs : List Job
  planned : engine.planRange dispute.startBlock dispute.endBlock state = .ok (jobs.map Job.request)

namespace DisputeRound

variable {engine} (round : DisputeRound engine)

def answer : Trace :=
  .disputeAsked (some round.dispute) :: .event (.disputeDetected round.dispute.startBlock round.dispute.endBlock) ::
    .stateAsked (.ok round.state) :: round.jobs.flatMap Job.calls

def actions : Trace :=
  round.answer ++ [.event (.disputeResolved round.dispute.startBlock round.dispute.endBlock)]

end DisputeRound

inductive Watch where
  | quiet
  | resolved (answered : DisputeRound engine)
  | unplanned (dispute : DisputeInfo) (state : ChainState) (fault : Planner.Fault)
      (reported : ∃ history, engine.monitor.activeDispute history = some dispute)
      (failed : engine.planRange dispute.startBlock dispute.endBlock state = .error fault)

namespace Watch

def actions {engine : OrchestrationEngine} : Watch engine → Trace
  | .quiet => [.disputeAsked none]
  | .resolved answered => answered.actions
  | .unplanned dispute state _ _ _ =>
      [.disputeAsked (some dispute), .event (.disputeDetected dispute.startBlock dispute.endBlock), .stateAsked (.ok state)]

def result {engine : OrchestrationEngine} : Watch engine → Option Unit
  | .quiet => some ()
  | .resolved _ => some ()
  | .unplanned _ _ _ _ _ => none

end Watch

theorem answer_follows (request : ProofRequest) :
    Follows calls (do
        let handle ← submit engine.dispatcher request
        let _ ← wait engine.dispatcher handle
        pure (ForInStep.yield PUnit.unit))
      (fun trace step => ∃ next, step = some (.yield next) ∧ ∃ job : Job, job.request = request ∧ trace = job.calls) := by
  apply follows_ask_bind (submit_logged request) sampleHandle
  intro handle
  apply follows_ask_bind (wait_logged handle) sampleArtifact
  intro proof
  exact follows_pure _ ⟨_, rfl, ⟨request, handle, proof⟩, rfl, rfl⟩

theorem calls_of_iterations (requests : List ProofRequest) (before after : PUnit) (trace : Trace)
    (loop : Iterations (fun request _ trace _ => ∃ job : Job, job.request = request ∧ trace = job.calls)
      requests before trace after) :
    ∃ jobs : List Job, jobs.map Job.request = requests ∧ trace = jobs.flatMap Job.calls := by
  induction loop with
  | nil value => exact ⟨[], rfl, rfl⟩
  | cons head rest before between after front back first others ih =>
      obtain ⟨job, asked, did⟩ := first
      obtain ⟨jobs, askedRest, didRest⟩ := ih
      exact ⟨job :: jobs, by rw [List.map_cons, asked, askedRest], by rw [List.flatMap_cons, did, didRest]⟩

theorem active_dispute_follows (monitor : ChainMonitor) :
    Follows calls (activeDispute monitor)
      (fun trace result => ∃ dispute, trace = [.disputeAsked dispute] ∧ result = some dispute ∧
        ∃ history, monitor.activeDispute history = dispute) :=
  follows_observe _ _ (fun _ => rfl) (fun history => ⟨_, rfl, rfl, history, rfl⟩)

theorem sentinel_round_follows :
    Follows calls engine.sentinelRound (fun trace result => ∃ watch : Watch engine, trace = watch.actions ∧ result = watch.result) := by
  unfold OrchestrationEngine.sentinelRound
  refine follows_bind (active_dispute_follows engine.monitor) ?_ ?_
  · intro front answer given
    obtain ⟨dispute, rfl, same, reported⟩ := given
    cases same
    cases answer with
    | none => exact follows_pure () ⟨.quiet, rfl, rfl⟩
    | some dispute =>
        apply follows_emit_bind _ rfl
        apply follows_ask_bind state_logged sampleState
        intro state
        refine follows_bind (checked_follows (engine.planRange dispute.startBlock dispute.endBlock state)) ?_ ?_
        · intro front requests given
          obtain ⟨rfl, ⟨_, planned, same⟩ | ⟨_, _, impossible⟩⟩ := given
          · cases same
            refine follows_bind (follows_for (fun request _ => answer_follows engine request) requests PUnit.unit) ?_ ?_
            · intro front finished given
              obtain ⟨_, _, loop⟩ := given
              obtain ⟨jobs, asked, rfl⟩ := calls_of_iterations requests _ _ front loop
              rw [← asked] at planned
              exact follows_emit _ rfl ⟨.resolved ⟨dispute, state, jobs, planned⟩, rfl, rfl⟩
            · intro trace given
              obtain ⟨_, impossible, _⟩ := given
              cases impossible
          · cases impossible
        · intro trace given
          obtain ⟨rfl, ⟨_, _, impossible⟩ | ⟨fault, failed, _⟩⟩ := given
          · cases impossible
          · exact ⟨.unplanned dispute state fault reported failed, rfl, rfl⟩
  · intro trace given
    obtain ⟨_, _, impossible, _⟩ := given
    cases impossible

theorem sentinel_loop_follows (rounds : Nat) :
    Follows calls (engine.runSentinelLoop rounds) (fun trace result => ∃ watches : List (Watch engine),
      trace = watches.flatMap Watch.actions ∧ (result = some () ↔ ∀ watch ∈ watches, watch.result = some ())) :=
  follows_mono (follows_repeatedly (sentinel_round_follows engine) rounds) (fun _ _ scripted => rounds_flat_map scripted)

end OpenZk.Engine
