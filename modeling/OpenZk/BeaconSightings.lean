import OpenZk.LiveEngine

set_option autoImplicit false

namespace OpenZk

open Words Engine Traced

namespace Engine

def isPoll : Action → Bool
  | .polled _ => true
  | _ => false

def polls (trace : Trace) : List Trace := marks isPoll [] trace

def pendingBlocks (snapshot : ChainState) : List Nat :=
  List.range' (snapshot.l2ProvenBlock.toNat + 1) (snapshot.l2SafeBlock.toNat - snapshot.l2ProvenBlock.toNat)

variable {engine : OrchestrationEngine}

theorem round_pending_blocks (inherited : engine.monitor.ownRange = none) (round : Round engine) :
    round.blocks = pendingBlocks round.snapshot := by
  obtain ⟨first, last, _⟩ := Planner.pending_range_order _ _ _ (round_opening inherited round).2
  have count : round.stop.toNat + 1 - round.start.toNat =
      round.snapshot.l2SafeBlock.toNat - round.snapshot.l2ProvenBlock.toNat := by
    rw [first, last]
    omega
  rw [Round.blocks, pendingBlocks, count, first]

theorem idle_pending_blocks (snapshot : ChainState) (idle : pending snapshot = false) : pendingBlocks snapshot = [] := by
  rw [pending, decide_eq_false_iff_not, UInt64.lt_iff_toNat_lt] at idle
  have none : snapshot.l2SafeBlock.toNat - snapshot.l2ProvenBlock.toNat = 0 := by omega
  rw [pendingBlocks, none]
  rfl

theorem pending_blocks_filter (snapshots : List ChainState) :
    (snapshots.filter pending).flatMap pendingBlocks = snapshots.flatMap pendingBlocks := by
  induction snapshots with
  | nil => rfl
  | cons snapshot rest ih =>
      by_cases isPending : pending snapshot = true
      · rw [List.filter_cons_of_pos isPending, List.flatMap_cons, List.flatMap_cons, ih]
      · have nothing := idle_pending_blocks snapshot (Bool.eq_false_iff.mpr isPending)
        rw [List.filter_cons_of_neg isPending, List.flatMap_cons, nothing, List.nil_append, ih]

theorem polls_blocks (inherited : engine.monitor.ownRange = none) (done : List (Poll engine))
    (planned : ∀ poll ∈ done, poll.result = some ()) :
    provenBlocks (done.flatMap Poll.actions) = (polledStates (done.flatMap Poll.actions)).flatMap pendingBlocks := by
  obtain ⟨blocks, snapshots⟩ := polls_observed inherited done planned
  rw [blocks, ← pending_blocks_filter, snapshots, List.flatMap_map]
  exact List.flatMap_congr fun round _ => round_pending_blocks inherited round

theorem poll_opening (inherited : engine.monitor.ownRange = none) (poll : Poll engine) :
    ∃ snapshot rest, poll.actions = .polled (.ok snapshot) :: rest ∧ ∀ action ∈ rest, isPoll action = false := by
  have polled : ∀ opening range, Opening engine.monitor opening range → ∃ snapshot, opening = .polled (.ok snapshot) := by
    intro opening range opened
    cases opened with
    | polled snapshot _ _ _ => exact ⟨snapshot, rfl⟩
    | asked _ defined =>
        rw [inherited] at defined
        cases defined
  cases poll with
  | idle opening opened =>
      obtain ⟨snapshot, rfl⟩ := polled _ _ opened
      exact ⟨snapshot, [], rfl, by simp⟩
  | unplanned opening start stop state fault opened reported failed =>
      obtain ⟨snapshot, rfl⟩ := polled _ _ opened
      exact ⟨snapshot, _, rfl, by simp [isPoll]⟩
  | round proved =>
      obtain ⟨snapshot, opening⟩ := polled _ _ proved.opened
      refine ⟨snapshot, .event (.rangeDetected proved.start proved.stop) :: .stateAsked (.ok proved.state) :: afterAnchor proved,
        ?_, ?_⟩
      · rw [Poll.actions, Round.actions, Round.dispatch, opening]
        rfl
      · have unread := after_anchor_unread proved
        have unpolled (action : Action) (silent : readsChain action = false) : isPoll action = false := by
          cases action with
          | polled answer => cases silent
          | _ => rfl
        intro action member
        simp only [List.mem_cons] at member
        rcases member with rfl | rfl | later
        · rfl
        · rfl
        · exact unpolled action (unread action later)

theorem poll_marks (inherited : engine.monitor.ownRange = none) (poll : Poll engine) (past : Trace) :
    marks isPoll past poll.actions = [past] := by
  obtain ⟨snapshot, rest, shape, silent⟩ := poll_opening inherited poll
  rw [shape]
  exact marks_opening isPoll past rest _ rfl silent

theorem polled_answered (inherited : engine.monitor.ownRange = none) (poll : Poll engine) (action : Action)
    (member : action ∈ poll.actions) (isMarked : isPoll action = true) : ∃ snapshot, action = .polled (.ok snapshot) := by
  obtain ⟨snapshot, rest, shape, silent⟩ := poll_opening inherited poll
  rw [shape] at member
  rcases List.mem_cons.mp member with rfl | later
  · exact ⟨snapshot, rfl⟩
  · rw [silent action later] at isMarked
    cases isMarked

theorem states_polled (trace : Trace) (answered : Throughout (Answered engine) trace) :
    polledStates trace = (polls trace).filterMap fun past => (engine.monitor.getState past).toOption := by
  refine answered_observed polledOf _ ?_ trace answered
  intro front action here
  cases action with
  | polled answer =>
      have reply : answer = engine.monitor.getState front := here
      rw [← reply]
      cases answer <;> rfl
  | _ => rfl

theorem beacon_blocks (inherited : engine.monitor.ownRange = none) (rounds : Nat) (trace : Trace)
    (succeeded : engine.runBeaconLoop rounds [] = .ok () trace) :
    (polls trace).length = rounds ∧ (∀ past ∈ polls trace, ∃ snapshot, engine.monitor.getState past = .ok snapshot) ∧
      provenBlocks trace =
        ((polls trace).filterMap fun past => (engine.monitor.getState past).toOption).flatMap pendingBlocks := by
  have answers : Throughout (Answered engine) _ := beacon_loop_answered rounds
  rw [succeeded] at answers
  obtain ⟨traces, count, shape, scripted⟩ := repeatedly_returned (beacon_round_follows engine) rounds [] trace succeeded
  obtain ⟨done, same, flattened, planned⟩ := rounds_chosen traces scripted
  rw [List.nil_append, flattened] at shape
  have blocks := polls_blocks inherited done planned
  rw [← shape, states_polled trace answers] at blocks
  refine ⟨?_, ?_, blocks⟩
  · have polled : (polls (done.flatMap Poll.actions)).length = done.length :=
      marks_each isPoll Poll.actions done [] fun poll _ past => poll_marks inherited poll past
    rw [shape, polled, same, count]
  · intro past marked
    obtain ⟨front, action, back, split, rfl, isMarked⟩ := marks_split [] trace past marked
    have inTrace : action ∈ done.flatMap Poll.actions := by
      rw [← shape, split]
      simp
    obtain ⟨poll, _, member⟩ := List.mem_flatMap.mp inTrace
    obtain ⟨snapshot, rfl⟩ := polled_answered inherited poll action member isMarked
    have reply : .ok snapshot = engine.monitor.getState past := answers past _ back split
    exact ⟨snapshot, reply.symm⟩

end Engine

namespace Oracle

theorem run_latest_rises (v : Verifiers) (s : State) (txs : List Tx) :
    s.latestBlockNumber ≤ (run v s txs).latestBlockNumber := by
  have start : s.latestBlockNumber ≤ s.latestBlockNumber := UInt64.le_refl _
  apply (machine v).run_invariant (fun after => s.latestBlockNumber ≤ after.latestBlockNumber) (fun _ => True) s txs start
    (fun _ _ => trivial)
  intro before tx after event _ held committed
  cases execute_records v before after tx event committed with
  | submitted sub call length accepted free stored =>
      rw [stored]
      by_cases above : before.latestBlockNumber < l2BlockNumberOf sub.journal
      · rw [(record_latest_above tx.msg sub.journal before above).1]
        exact UInt64.le_trans held (UInt64.le_of_lt above)
      · rw [(record_latest_below tx.msg sub.journal before above).1]
        exact held
  | kept call proposals latest latestRoot =>
      rw [latest]
      exact held

end Oracle

namespace Live

variable {v : Verifiers} {d : System.Deployment} {chains : Chains} {rpc : RpcMonitor.RpcChainMonitor}

def latest (v : Verifiers) (d : System.Deployment) (chains : Chains) (past : Trace) : UInt64 :=
  (contracts v d chains past).oracle.latestBlockNumber

def safeHead (chains : Chains) (rpc : RpcMonitor.RpcChainMonitor) (past : Trace) : UInt64 :=
  match (chains.connect past rpc.l2RpcUrl).blockByNumber .safe with
  | .ok (some header) => header.number
  | _ => 0

def unprovenSafe (v : Verifiers) (d : System.Deployment) (chains : Chains) (rpc : RpcMonitor.RpcChainMonitor) (past : Trace) :
    List Nat :=
  List.range' ((latest v d chains past).toNat + 1) ((safeHead chains rpc past).toNat - (latest v d chains past).toNat)

theorem latest_rises (v : Verifiers) (d : System.Deployment)
    (grows : ∀ front back, chains.mined front <+: chains.mined (front ++ back)) (earlier later : Trace)
    (extended : earlier <+: later) : latest v d chains earlier ≤ latest v d chains later := by
  obtain ⟨rest, rfl⟩ := extended
  obtain ⟨txs, grown⟩ := grows earlier rest
  unfold latest contracts
  rw [← grown, System.run_append, System.oracle_run v (System.run v _ _) txs]
  exact Oracle.run_latest_rises v _ _

theorem unproven_safe_above (past : Trace) (block : Nat) (member : block ∈ unprovenSafe v d chains rpc past) :
    (latest v d chains past).toNat < block :=
  (List.mem_range'_1.mp member).1

theorem snapshot_blocks (truthful : Truthful v d chains rpc) (past : Trace) (snapshot : ChainState)
    (answered : (monitor chains rpc).getState past = .ok snapshot) :
    pendingBlocks snapshot = unprovenSafe v d chains rpc past := by
  obtain ⟨proven, header, served, safe⟩ := truthful_state truthful past snapshot answered
  simp only [unprovenSafe, latest, safeHead, served, pendingBlocks, proven, safe]

theorem snapshots_blocks (truthful : Truthful v d chains rpc) (pasts : List Trace)
    (answered : ∀ past ∈ pasts, ∃ snapshot, (monitor chains rpc).getState past = .ok snapshot) :
    (pasts.filterMap fun past => ((monitor chains rpc).getState past).toOption).flatMap pendingBlocks =
      pasts.flatMap (unprovenSafe v d chains rpc) := by
  induction pasts with
  | nil => rfl
  | cons past rest ih =>
      obtain ⟨snapshot, reply⟩ := answered past (by simp)
      have others := ih fun other member => answered other (by simp [member])
      rw [List.filterMap_cons, reply, List.flatMap_cons, ← others, ← snapshot_blocks truthful past snapshot reply]
      rfl

theorem returned_blocks (truthful : Truthful v d chains rpc) (config : EngineConfig) (dispatcher : ProofDispatcher)
    (rounds : Nat) (trace : Trace)
    (succeeded : OrchestrationEngine.runBeaconLoop ⟨config, monitor chains rpc, dispatcher⟩ rounds [] = .ok () trace) :
    (polls trace).length = rounds ∧ provenBlocks trace = (polls trace).flatMap (unprovenSafe v d chains rpc) := by
  obtain ⟨count, answered, blocks⟩ := beacon_blocks rfl rounds trace succeeded
  rw [blocks]
  exact ⟨count, snapshots_blocks truthful (polls trace) answered⟩

/-- The beacon over the chains: at every poll it asks for the proof of each safe block above the
latest proven one, and for no other. A block that the pointer has passed without it is never asked
for again. -/
theorem live_beacon_blocks (v : Verifiers) (d : System.Deployment) (chains : Chains) (rpc : RpcMonitor.RpcChainMonitor)
    (truthful : Truthful v d chains rpc) (config : EngineConfig) (dispatcher : ProofDispatcher) (rounds : Nat) (trace : Trace)
    (succeeded : OrchestrationEngine.runBeaconLoop ⟨config, monitor chains rpc, dispatcher⟩ rounds [] = .ok () trace) :
    (polls trace).length = rounds ∧ provenBlocks trace = (polls trace).flatMap (unprovenSafe v d chains rpc) ∧
      (polls trace).Pairwise fun earlier later => ∀ block ∈ unprovenSafe v d chains rpc later,
        (latest v d chains earlier).toNat < block := by
  obtain ⟨count, blocks⟩ := returned_blocks truthful config dispatcher rounds trace succeeded
  have ordered : (polls trace).Pairwise (· <+: ·) := marks_ordered [] trace
  refine ⟨count, blocks, ordered.imp ?_⟩
  intro earlier later extended block member
  have risen := UInt64.le_iff_toNat_le.mp (latest_rises v d truthful.grows earlier later extended)
  exact Nat.lt_of_le_of_lt risen (unproven_safe_above later block member)

theorem live_beacon_blocks_sample :
    ∃ trace, OrchestrationEngine.runBeaconLoop
      ⟨⟨⟨.beacon, .groth16, 10⟩⟩, monitor sampleChains sampleRpc, mockDispatcher⟩ 2 [] = .ok () trace ∧
      provenBlocks trace = (polls trace).flatMap
        (unprovenSafe Oracle.mockVerifiers System.sampleDeployment sampleChains sampleRpc) := by
  have returned : ∃ trace, OrchestrationEngine.runBeaconLoop
      ⟨⟨⟨.beacon, .groth16, 10⟩⟩, monitor sampleChains sampleRpc, mockDispatcher⟩ 2 [] = .ok () trace := by
    rw [sample_monitor]
    exact ⟨_, rfl⟩
  obtain ⟨trace, succeeded⟩ := returned
  have blocks := live_beacon_blocks Oracle.mockVerifiers System.sampleDeployment sampleChains sampleRpc sample_truthful _
    mockDispatcher 2 trace succeeded
  exact ⟨trace, succeeded, blocks.2.1⟩

end Live

end OpenZk
