import OpenZk.LiveEngine
import OpenZk.SentinelCoverage

set_option autoImplicit false

namespace OpenZk

open Words Engine Traced

namespace Engine

def sightingOf : Action → Option DisputeInfo
  | .disputeAsked answer => answer
  | _ => none

def sightings (trace : Trace) : List DisputeInfo := trace.filterMap sightingOf

def isAsk : Action → Bool
  | .disputeAsked _ => true
  | _ => false

def asks (trace : Trace) : List Trace := marks isAsk [] trace

def blockSpan (block : UInt64) : Nat × Nat := (block.toNat, block.toNat)

variable {engine : OrchestrationEngine}

theorem single_planned (dispute : DisputeInfo) (state : ChainState) (requests : List ProofRequest)
    (single : dispute.startBlock = dispute.endBlock)
    (planned : engine.planRange dispute.startBlock dispute.endBlock state = .ok requests) :
    requests.map Planner.span = [blockSpan dispute.endBlock] := by
  have ordered : dispute.startBlock ≤ dispute.endBlock := by
    rw [single]
    exact UInt64.le_refl _
  have window := Planner.plan_range_window _ _ _ _ _ _ ordered planned
  rw [Planner.plan_range_spans _ _ _ _ _ _ window ordered planned, single, Chunks.pieces_short _ _ _ (by omega) (by omega)]
  rfl

theorem calls_observed {β : Type} (observe : Action → Option β) (seen : Job → List β) (jobs : List Job)
    (each : ∀ job : Job, job.calls.filterMap observe = seen job) :
    (jobs.flatMap Job.calls).filterMap observe = jobs.flatMap seen := by
  rw [List.filterMap_flatMap]
  exact List.flatMap_congr fun job _ => each job

theorem calls_dispatched (jobs : List Job) : dispatched (jobs.flatMap Job.calls) = jobs.map Job.request := by
  rw [dispatched, calls_observed dispatchOf (fun job => [job.request]) jobs fun _ => rfl]
  exact List.flatMap_pure_eq_map Job.request jobs

theorem calls_unsighted (jobs : List Job) : sightings (jobs.flatMap Job.calls) = [] := by
  rw [sightings, calls_observed sightingOf (fun _ => []) jobs fun _ => rfl]
  exact List.flatMap_eq_nil_iff.mpr fun _ _ => rfl

theorem sightings_append (front back : Trace) : sightings (front ++ back) = sightings front ++ sightings back :=
  List.filterMap_append

theorem watch_observed (watch : Watch engine) (planned : watch.result = some ())
    (single : ∀ dispute ∈ sightings watch.actions, dispute.startBlock = dispute.endBlock) :
    (dispatched watch.actions).map Planner.span =
      (sightings watch.actions).map fun dispute => blockSpan dispute.endBlock := by
  cases watch with
  | quiet => rfl
  | resolved answered =>
      have sent := calls_dispatched answered.jobs
      have unsighted := calls_unsighted answered.jobs
      have sighted : sightings answered.actions = [answered.dispute] := by
        rw [DisputeRound.actions, sightings_append, DisputeRound.answer]
        exact congrArg (List.cons answered.dispute) (by rw [← unsighted]; exact List.append_nil _)
      have asked : dispatched answered.actions = answered.jobs.map Job.request := by
        rw [DisputeRound.actions, dispatched_append, ← sent]
        exact List.append_nil _
      rw [Watch.actions, sighted] at single
      rw [Watch.actions, asked, sighted, single_planned answered.dispute answered.state _ (single _ (by simp)) answered.planned]
      rfl
  | unplanned dispute state fault reported failed => cases planned

theorem watches_observed (watches : List (Watch engine)) (planned : ∀ watch ∈ watches, watch.result = some ())
    (single : ∀ dispute ∈ sightings (watches.flatMap Watch.actions), dispute.startBlock = dispute.endBlock) :
    (dispatched (watches.flatMap Watch.actions)).map Planner.span =
      (sightings (watches.flatMap Watch.actions)).map fun dispute => blockSpan dispute.endBlock := by
  induction watches with
  | nil => rfl
  | cons watch rest ih =>
      rw [List.flatMap_cons, sightings_append] at single
      have first := watch_observed watch (planned watch (by simp)) fun dispute member =>
        single dispute (List.mem_append_left _ member)
      have others := ih (fun other member => planned other (by simp [member])) fun dispute member =>
        single dispute (List.mem_append_right _ member)
      rw [List.flatMap_cons, dispatched_append, sightings_append, List.map_append, List.map_append, first, others]

theorem watch_asks (watch : Watch engine) (past : Trace) : marks isAsk past watch.actions = [past] := by
  cases watch with
  | quiet => rfl
  | unplanned dispute state fault reported failed => rfl
  | resolved answered =>
      have silent : ∀ other ∈ .event (.disputeDetected answered.dispute.startBlock answered.dispute.endBlock) ::
          .stateAsked (.ok answered.state) :: (answered.jobs.flatMap Job.calls ++
            [.event (.disputeResolved answered.dispute.startBlock answered.dispute.endBlock)]), isAsk other = false := by
        grind [isAsk, Job.calls]
      exact marks_opening isAsk past _ _ rfl silent

theorem sightings_asked (trace : Trace) (answered : Throughout (Answered engine) trace) :
    sightings trace = (asks trace).filterMap engine.monitor.activeDispute := by
  refine answered_observed sightingOf _ ?_ trace answered
  intro front action here
  cases action with
  | disputeAsked answer => exact here
  | _ => rfl

theorem returned_watches (rounds : Nat) (trace : Trace) (succeeded : engine.runSentinelLoop rounds [] = .ok () trace) :
    ∃ watches : List (Watch engine), watches.length = rounds ∧ trace = watches.flatMap Watch.actions ∧
      ∀ watch ∈ watches, watch.result = some () := by
  obtain ⟨traces, count, rfl, scripted⟩ := repeatedly_returned (sentinel_round_follows engine) rounds [] trace succeeded
  obtain ⟨watches, same, shape, finished⟩ := rounds_chosen traces scripted
  exact ⟨watches, same.trans count, shape, finished⟩

theorem sentinel_requests (single : ∀ past dispute, engine.monitor.activeDispute past = some dispute →
      dispute.startBlock = dispute.endBlock)
    (rounds : Nat) (trace : Trace) (succeeded : engine.runSentinelLoop rounds [] = .ok () trace) :
    (asks trace).length = rounds ∧ (dispatched trace).map Planner.span =
      ((asks trace).filterMap engine.monitor.activeDispute).map fun dispute => blockSpan dispute.endBlock := by
  have answers : Throughout (Answered engine) _ := sentinel_loop_answered rounds
  rw [succeeded] at answers
  have sighted := sightings_asked trace answers
  rw [← sighted]
  obtain ⟨watches, count, rfl, planned⟩ := returned_watches rounds trace succeeded
  have asked : (asks (watches.flatMap Watch.actions)).length = watches.length :=
    marks_each isAsk Watch.actions watches [] fun watch _ past => watch_asks watch past
  refine ⟨asked.trans count, watches_observed watches planned ?_⟩
  intro dispute member
  rw [sighted] at member
  obtain ⟨past, _, answered⟩ := List.mem_filterMap.mp member
  exact single past dispute answered

end Engine

namespace Live

def latestDisputed (s : System.State) : List Nat :=
  if DisputeGame.isDisputed s.game s.oracle.latestBlockNumber = true then [s.oracle.latestBlockNumber.toNat] else []

variable {v : Verifiers} {d : System.Deployment} {chains : Chains} {rpc : RpcMonitor.RpcChainMonitor}

theorem asked_disputes {disputeAddress : Address} (configured : rpc.disputeAddress = some disputeAddress)
    (serves : ∀ trace, RpcMonitor.Serves (chains.connect trace rpc.l1RpcUrl) rpc.oracleAddress disputeAddress
      (contracts v d chains trace)) (pasts : List Trace) :
    ((pasts.filterMap (monitor chains rpc).activeDispute).map fun dispute => blockSpan dispute.endBlock) =
      pasts.flatMap fun past => (latestDisputed (contracts v d chains past)).map fun block => (block, block) := by
  induction pasts with
  | nil => rfl
  | cons past rest ih =>
      have answered : (monitor chains rpc).activeDispute past = _ :=
        RpcMonitor.active_dispute_served (chains.connect past) rpc disputeAddress _ configured (serves past)
      rw [List.flatMap_cons, ← ih, List.filterMap_cons, answered, latestDisputed]
      by_cases underDispute : DisputeGame.isDisputed (contracts v d chains past).game
          (contracts v d chains past).oracle.latestBlockNumber = true
      · rw [if_pos underDispute, if_pos underDispute]
        rfl
      · rw [if_neg underDispute, if_neg underDispute]
        rfl

theorem served_requests {disputeAddress : Address} (configured : rpc.disputeAddress = some disputeAddress)
    (serves : ∀ trace, RpcMonitor.Serves (chains.connect trace rpc.l1RpcUrl) rpc.oracleAddress disputeAddress
      (contracts v d chains trace))
    (config : EngineConfig) (dispatcher : ProofDispatcher) (rounds : Nat) (trace : Trace)
    (succeeded : OrchestrationEngine.runSentinelLoop ⟨config, monitor chains rpc, dispatcher⟩ rounds [] = .ok () trace) :
    (asks trace).length = rounds ∧
      (dispatched trace).map Planner.span =
        ((asks trace).flatMap fun past => (latestDisputed (contracts v d chains past)).map fun block => (block, block)) ∧
      provenBlocks trace = (asks trace).flatMap fun past => latestDisputed (contracts v d chains past) := by
  have single : ∀ past dispute, (monitor chains rpc).activeDispute past = some dispute →
      dispute.startBlock = dispute.endBlock := by
    intro past dispute found
    have answered : (monitor chains rpc).activeDispute past = _ :=
      RpcMonitor.active_dispute_served (chains.connect past) rpc disputeAddress _ configured (serves past)
    rw [answered] at found
    split at found
    · rw [← Option.some.inj found]
    · cases found
  obtain ⟨count, spans⟩ := sentinel_requests single rounds trace succeeded
  rw [asked_disputes configured serves] at spans
  refine ⟨count, spans, ?_⟩
  have members (block : Nat) : Tiles.members (block, block) = [block] := by simp [Tiles.members]
  have blocks := congrArg (List.flatMap Tiles.members) spans
  rw [List.flatMap_map, List.flatMap_assoc] at blocks
  rw [provenBlocks]
  simpa only [List.flatMap_map, members, List.flatMap_pure_eq_map, List.flatMap_singleton'] using blocks

/-- Each round asks for the latest proven block when it is under dispute then, and for nothing else:
a dispute that nobody resolves is proved again in each round. -/
theorem live_sentinel_proofs (v : Verifiers) (d : System.Deployment) (chains : Chains) (rpc : RpcMonitor.RpcChainMonitor)
    (disputeAddress : Address) (configured : rpc.disputeAddress = some disputeAddress)
    (serves : ∀ trace, RpcMonitor.Serves (chains.connect trace rpc.l1RpcUrl) rpc.oracleAddress disputeAddress
      (contracts v d chains trace))
    (config : EngineConfig) (dispatcher : ProofDispatcher) (rounds : Nat) (trace : Trace)
    (succeeded : OrchestrationEngine.runSentinelLoop ⟨config, monitor chains rpc, dispatcher⟩ rounds [] = .ok () trace) :
    (asks trace).length = rounds ∧
      (dispatched trace).map Planner.span =
        ((asks trace).flatMap fun past => (latestDisputed (contracts v d chains past)).map fun block => (block, block)) ∧
      provenBlocks trace = (asks trace).flatMap fun past => latestDisputed (contracts v d chains past) :=
  served_requests configured serves config dispatcher rounds trace succeeded

def servedChains (s : System.State) (txs : List System.Tx) : Chains where
  connect := fun _ _ => { System.sampleNode s with blockByNumber := fun _ => .ok (some ⟨zeroWord, 60⟩) }
  mined := fun _ => txs

theorem served_monitor (s : System.State) (txs : List System.Tx) (latest : s.oracle.latestBlockNumber = 42)
    (underDispute : DisputeGame.isDisputed s.game 42 = true) : monitor (servedChains s txs) System.sampleMonitor =
      { mockMonitor ⟨zeroWord, 42, 60⟩ with activeDispute := fun _ => some ⟨42, 42⟩ } := by
  have serves : ∀ trace, RpcMonitor.Serves ((servedChains s txs).connect trace System.sampleMonitor.l1RpcUrl)
      System.sampleMonitor.oracleAddress 0xc2 s := fun _ => ⟨rfl, fun _ => rfl⟩
  have polls : ∀ trace, (monitor (servedChains s txs) System.sampleMonitor).getState trace = .ok ⟨zeroWord, 42, 60⟩ := by
    intro trace
    have served := RpcMonitor.get_state_served ((servedChains s txs).connect trace) System.sampleMonitor 0xc2 s ⟨zeroWord, 60⟩
      ⟨zeroWord, 60⟩ (serves trace) rfl rfl
    rw [latest] at served
    simp [monitor, served, Except.mapError]
  have disputes : ∀ trace, (monitor (servedChains s txs) System.sampleMonitor).activeDispute trace = some ⟨42, 42⟩ := by
    intro trace
    have served := RpcMonitor.active_dispute_served ((servedChains s txs).connect trace) System.sampleMonitor 0xc2 s rfl
      (serves trace)
    rw [latest, if_pos underDispute] at served
    simp only [monitor, served]
  exact monitor_eq _ _ polls disputes

def disputedChains : Chains :=
  servedChains (System.openedAfter (System.deploy System.sampleDeployment) 0xcc 42) (System.openingTxs 0xcc 42)

theorem disputed_contracts (trace : Trace) : contracts Oracle.mockVerifiers System.sampleDeployment disputedChains trace =
    System.openedAfter (System.deploy System.sampleDeployment) 0xcc 42 :=
  System.opening_run Oracle.mockVerifiers (System.deploy System.sampleDeployment) 0xcc 42
    (word_of_nat_ne_zero 0xcc (by decide) (by decide)) (System.deploy_unproven System.sampleDeployment 42) rfl fun _ => rfl

theorem disputed_serves (trace : Trace) : RpcMonitor.Serves (disputedChains.connect trace System.sampleMonitor.l1RpcUrl)
    System.sampleMonitor.oracleAddress 0xc2 (contracts Oracle.mockVerifiers System.sampleDeployment disputedChains trace) := by
  rw [disputed_contracts]
  exact ⟨rfl, fun _ => rfl⟩

theorem opened_latest (s : System.State) (latest : s.oracle.latestBlockNumber = 0) :
    (System.openedAfter s 0xcc 42).oracle.latestBlockNumber = 42 ∧
      DisputeGame.isDisputed (System.openedAfter s 0xcc 42).game 42 = true := by
  have held : (System.openedAfter s 0xcc 42).game.disputes 42 = ⟨0xa, 42, wordOfNat 0xcc, 200, false, false⟩ :=
    DisputeGame.store_dispute_here _ _ _
  refine ⟨System.record_latest_raised s.oracle 0xbb 0xcc 42 (by rw [latest]; decide), ?_⟩
  have underDispute : System.Disputed (System.openedAfter s 0xcc 42) 42 := (System.disputed_iff _ 42).mpr (by simp [held])
  exact underDispute

theorem live_sentinel_proofs_sample :
    ∃ trace, OrchestrationEngine.runSentinelLoop
      ⟨⟨⟨.sentinel, .groth16, 10⟩⟩, monitor disputedChains System.sampleMonitor, mockDispatcher⟩ 2 [] = .ok () trace ∧
      (dispatched trace).map Planner.span = ((asks trace).flatMap fun past =>
        (latestDisputed (contracts Oracle.mockVerifiers System.sampleDeployment disputedChains past)).map
          fun block => (block, block)) ∧
      provenBlocks trace = (asks trace).flatMap fun past =>
        latestDisputed (contracts Oracle.mockVerifiers System.sampleDeployment disputedChains past) := by
  obtain ⟨latest, underDispute⟩ := opened_latest (System.deploy System.sampleDeployment) rfl
  have returned : ∃ trace, OrchestrationEngine.runSentinelLoop
      ⟨⟨⟨.sentinel, .groth16, 10⟩⟩, monitor disputedChains System.sampleMonitor, mockDispatcher⟩ 2 [] = .ok () trace := by
    rw [disputedChains, served_monitor _ _ latest underDispute]
    exact ⟨_, rfl⟩
  obtain ⟨trace, succeeded⟩ := returned
  have proofs := live_sentinel_proofs Oracle.mockVerifiers System.sampleDeployment disputedChains System.sampleMonitor 0xc2 rfl
    disputed_serves _ mockDispatcher 2 trace succeeded
  exact ⟨trace, succeeded, proofs.2⟩

end Live

end OpenZk
