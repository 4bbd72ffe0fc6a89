import OpenZk.BeaconSightings
import OpenZk.DisputeLifecycle
import OpenZk.SentinelSightings

set_option autoImplicit false

namespace OpenZk.Live

open Words Engine Traced

variable {v : Verifiers} {d : System.Deployment} {chains : Chains} {rpc : RpcMonitor.RpcChainMonitor}

def Settled (v : Verifiers) (d : System.Deployment) (chains : Chains) (earlier later : Trace) : Prop :=
  System.Disputed (contracts v d chains earlier) (latest v d chains earlier) →
    ((contracts v d chains later).game.disputes (latest v d chains earlier)).createdAt ≠ 0 ∧
      ((contracts v d chains later).game.disputes (latest v d chains earlier)).resolved = true

theorem settled_stays (grows : ∀ front back, chains.mined front <+: chains.mined (front ++ back)) (earlier later last : Trace)
    (settled : Settled v d chains earlier later) (extended : later <+: last) : Settled v d chains earlier last := by
  intro disputed
  obtain ⟨found, resolved⟩ := settled disputed
  obtain ⟨rest, rfl⟩ := extended
  obtain ⟨txs, grown⟩ := grows later rest
  have frozen := System.run_resolved_frozen v (contracts v d chains later) txs (latest v d chains earlier) found resolved
  have after : contracts v d chains (later ++ rest) = System.run v (contracts v d chains later) txs := by
    rw [contracts, ← grown, System.run_append, contracts]
  rw [after, frozen]
  exact ⟨found, resolved⟩

theorem latest_disputed_member (past : Trace) (block : Nat) (member : block ∈ latestDisputed (contracts v d chains past)) :
    System.Disputed (contracts v d chains past) (latest v d chains past) ∧ block = (latest v d chains past).toNat := by
  rw [latestDisputed] at member
  split at member
  · rename_i disputed
    exact ⟨disputed, List.mem_singleton.mp member⟩
  · cases member

theorem latest_disputed_single (s : System.State) {related : Nat → Nat → Prop} : (latestDisputed s).Pairwise related := by
  rw [latestDisputed]
  split <;> simp

/-- The sentinel never goes back to an older block, and where each dispute is resolved before the
next ask it asks for no block twice. -/
theorem live_sentinel_settles (v : Verifiers) (d : System.Deployment) (chains : Chains) (rpc : RpcMonitor.RpcChainMonitor)
    (disputeAddress : Address) (configured : rpc.disputeAddress = some disputeAddress)
    (serves : ∀ trace, RpcMonitor.Serves (chains.connect trace rpc.l1RpcUrl) rpc.oracleAddress disputeAddress
      (contracts v d chains trace))
    (grows : ∀ front back, chains.mined front <+: chains.mined (front ++ back))
    (config : EngineConfig) (dispatcher : ProofDispatcher) (rounds : Nat) (trace : Trace)
    (succeeded : OrchestrationEngine.runSentinelLoop ⟨config, monitor chains rpc, dispatcher⟩ rounds [] = .ok () trace) :
    (provenBlocks trace).Pairwise (· ≤ ·) ∧
      ((asks trace).IsChain (Settled v d chains) → (provenBlocks trace).Pairwise (· < ·)) := by
  have blocks := (served_requests configured serves config dispatcher rounds trace succeeded).2.2
  have ordered : (asks trace).Pairwise (· <+: ·) := marks_ordered [] trace
  rw [blocks, List.pairwise_flatMap, List.pairwise_flatMap]
  refine ⟨⟨fun _ _ => latest_disputed_single _, ordered.imp ?_⟩, ?_⟩
  · intro earlier later extended first inFirst second inSecond
    rw [(latest_disputed_member earlier first inFirst).2, (latest_disputed_member later second inSecond).2]
    exact UInt64.le_iff_toNat_le.mp (latest_rises v d grows earlier later extended)
  · intro linked
    have settled := linked_ordered (settled_stays grows) (asks trace) ordered linked
    refine ⟨fun _ _ => latest_disputed_single _, (ordered.and settled).imp ?_⟩
    intro earlier later ⟨extended, resolvedLater⟩ first inFirst second inSecond
    obtain ⟨disputed, rfl⟩ := latest_disputed_member earlier first inFirst
    obtain ⟨again, rfl⟩ := latest_disputed_member later second inSecond
    have risen := UInt64.le_iff_toNat_le.mp (latest_rises v d grows earlier later extended)
    -- The same block again would be under a dispute that has been resolved.
    have different : (latest v d chains earlier).toNat ≠ (latest v d chains later).toNat := by
      intro same
      obtain ⟨_, resolved⟩ := resolvedLater disputed
      rw [UInt64.toNat_inj.mp same] at resolved
      rw [System.disputed_iff, resolved] at again
      cases again.2
    omega

def resolvingTxs (trace : Trace) : List System.Tx :=
  if dispatched trace = [] then System.openingTxs 0xcc 42 else System.sampleTxs 0xcc 42 (Oracle.sampleJournal 0xbb 0xff 42)

def resolvingState (trace : Trace) : System.State :=
  System.run Oracle.mockVerifiers (System.deploy System.sampleDeployment) (resolvingTxs trace)

def resolvingChains : Chains where
  connect := fun trace _ => { System.sampleNode (resolvingState trace) with blockByNumber := fun _ => .ok (some ⟨zeroWord, 60⟩) }
  mined := resolvingTxs

theorem resolving_contracts (trace : Trace) :
    contracts Oracle.mockVerifiers System.sampleDeployment resolvingChains trace = resolvingState trace := rfl

theorem resolving_serves (trace : Trace) : RpcMonitor.Serves (resolvingChains.connect trace System.sampleMonitor.l1RpcUrl)
    System.sampleMonitor.oracleAddress 0xc2 (resolvingState trace) := ⟨rfl, fun _ => rfl⟩

theorem resolving_grows (front back : Trace) : resolvingChains.mined front <+: resolvingChains.mined (front ++ back) := by
  have prefixed : System.openingTxs 0xcc 42 <+: System.sampleTxs 0xcc 42 (Oracle.sampleJournal 0xbb 0xff 42) := ⟨_, rfl⟩
  by_cases before : dispatched front = []
  · by_cases between : dispatched back = []
    · simp [resolvingChains, resolvingTxs, dispatched_append, before, between]
    · simpa [resolvingChains, resolvingTxs, dispatched_append, before, between] using prefixed
  · simp [resolvingChains, resolvingTxs, dispatched_append, before]

theorem resolving_opened (trace : Trace) (before : dispatched trace = []) :
    resolvingState trace = System.openedAfter (System.deploy System.sampleDeployment) 0xcc 42 := by
  rw [resolvingState, resolvingTxs, if_pos before]
  exact disputed_contracts trace

theorem resolving_resolved (trace : Trace) (after : dispatched trace ≠ []) :
    resolvingState trace = System.resolvedAfter (System.openedAfter (System.deploy System.sampleDeployment) 0xcc 42) 42
      (Oracle.sampleJournal 0xbb 0xff 42) := by
  have split : System.sampleTxs 0xcc 42 (Oracle.sampleJournal 0xbb 0xff 42) = System.openingTxs 0xcc 42 ++
      [.game ⟨⟨0xb, 300⟩, .resolve 42 (Oracle.sampleJournal 0xbb 0xff 42) [0xde, 0xad] 0⟩] := rfl
  obtain ⟨event, settled⟩ := System.opened_resolve_commits Oracle.mockVerifiers (System.deploy System.sampleDeployment) 0xcc 42
    (Oracle.sampleJournal 0xbb 0xff 42) 300 (Oracle.sample_length _ _ _) fun _ => rfl
  have opened : System.run Oracle.mockVerifiers (System.deploy System.sampleDeployment) (System.openingTxs 0xcc 42) = _ :=
    disputed_contracts trace
  rw [resolvingState, resolvingTxs, if_neg after, split, System.run_append, opened, System.run_execute _ _ _ _ _ _ settled,
    System.run_empty]

theorem resolving_latest (trace : Trace) : (resolvingState trace).oracle.latestBlockNumber = 42 := by
  obtain ⟨latest, _⟩ := opened_latest (System.deploy System.sampleDeployment) rfl
  by_cases before : dispatched trace = []
  · rw [resolving_opened trace before]
    exact latest
  · rw [resolving_resolved trace before]
    exact latest

theorem resolving_disputed (trace : Trace) :
    DisputeGame.isDisputed (resolvingState trace).game 42 = true ↔ dispatched trace = [] := by
  by_cases before : dispatched trace = []
  · rw [resolving_opened trace before]
    exact iff_of_true (opened_latest (System.deploy System.sampleDeployment) rfl).2 before
  · rw [resolving_resolved trace before, DisputeGame.isDisputed, System.resolvedAfter, DisputeGame.store_dispute_here]
    simp [DisputeGame.resolvedDispute, before]

theorem resolving_monitor : monitor resolvingChains System.sampleMonitor =
    ⟨fun _ => .ok ⟨zeroWord, 42, 60⟩, none, fun trace => if dispatched trace = [] then some ⟨42, 42⟩ else none⟩ := by
  apply monitor_eq
  · intro trace
    have served := RpcMonitor.get_state_served (resolvingChains.connect trace) System.sampleMonitor 0xc2 (resolvingState trace)
      ⟨zeroWord, 60⟩ ⟨zeroWord, 60⟩ (resolving_serves trace) rfl rfl
    rw [resolving_latest] at served
    simp [monitor, served, Except.mapError]
  · intro trace
    have served := RpcMonitor.active_dispute_served (resolvingChains.connect trace) System.sampleMonitor 0xc2
      (resolvingState trace) rfl (resolving_serves trace)
    rw [resolving_latest] at served
    by_cases before : dispatched trace = []
    · rw [if_pos ((resolving_disputed trace).mpr before)] at served
      simp only [monitor, served, if_pos before]
    · rw [if_neg fun disputed => before ((resolving_disputed trace).mp disputed)] at served
      simp only [monitor, served, if_neg before]

def answeredRequest : ProofRequest := ⟨zeroWord, 42, 42, zeroWord, .groth16⟩

def answeredRound : Trace :=
  .disputeAsked (some ⟨42, 42⟩) :: .event (.disputeDetected 42 42) :: .stateAsked (.ok ⟨zeroWord, 42, 60⟩) ::
    (Job.calls ⟨answeredRequest, ⟨"mock-42-42", answeredRequest⟩, sampleArtifact⟩ ++ [.event (.disputeResolved 42 42)])

theorem answered_run : OrchestrationEngine.runSentinelLoop
    ⟨⟨⟨.sentinel, .groth16, 100⟩⟩, monitor resolvingChains System.sampleMonitor, mockDispatcher⟩ 2 [] =
      .ok () (answeredRound ++ [.disputeAsked none]) := by
  rw [resolving_monitor]
  rfl

theorem answered_settled : Settled Oracle.mockVerifiers System.sampleDeployment resolvingChains [] answeredRound := by
  intro _
  have number : latest Oracle.mockVerifiers System.sampleDeployment resolvingChains [] = 42 := by
    rw [latest, resolving_contracts, resolving_latest]
  have sent : dispatched answeredRound = [answeredRequest] := rfl
  have resolved := resolving_resolved answeredRound (by rw [sent]; exact List.cons_ne_nil _ _)
  have held : (System.openedAfter (System.deploy System.sampleDeployment) 0xcc 42).game.disputes 42 =
    ⟨0xa, 42, wordOfNat 0xcc, 200, false, false⟩ := DisputeGame.store_dispute_here _ _ _
  rw [number, resolving_contracts, resolved, System.resolvedAfter, DisputeGame.store_dispute_here, held]
  simp [DisputeGame.resolvedDispute]

theorem live_sentinel_settles_sample : (provenBlocks (answeredRound ++ [.disputeAsked none])).Pairwise (· < ·) := by
  have asked : asks (answeredRound ++ [.disputeAsked none]) = [[], answeredRound] := rfl
  have settles := live_sentinel_settles Oracle.mockVerifiers System.sampleDeployment resolvingChains System.sampleMonitor 0xc2 rfl
    resolving_serves resolving_grows ⟨⟨.sentinel, .groth16, 100⟩⟩ mockDispatcher 2 _ answered_run
  exact settles.2 (by simpa [asked] using answered_settled)

end OpenZk.Live
