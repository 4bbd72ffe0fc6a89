import OpenZk.BeaconSightings
import OpenZk.OraclePointer
import OpenZk.PlannedBlocks

set_option autoImplicit false

namespace OpenZk

open Words Engine

namespace Oracle

theorem run_latest_greatest (v : Verifiers) (s : State) (txs : List Tx) :
    IsGreatest (insert s.latestBlockNumber (acceptedNumbers (history v s txs))) (run v s txs).latestBlockNumber := by
  have none : acceptedNumbers [] = ∅ := by simp [acceptedNumbers]
  apply (machine v).history_invariant
    (fun past after => IsGreatest (insert s.latestBlockNumber (acceptedNumbers past)) after.latestBlockNumber) (fun _ => True)
    s txs (by rw [none]; exact ⟨.inl rfl, by simp [upperBounds]⟩) (fun _ _ => trivial)
  intro past before tx after event _ held committed
  cases execute_records v before after tx event committed with
  | submitted sub call length accepted free stored =>
      rw [accepted_numbers_append past ⟨before, tx, after, event⟩ sub call, Set.insert_comm, stored]
      by_cases above : before.latestBlockNumber < l2BlockNumberOf sub.journal
      · rw [(record_latest_above tx.msg sub.journal before above).1]
        refine ⟨.inl rfl, ?_⟩
        rintro number (rfl | earlier)
        · exact UInt64.le_refl _
        · exact UInt64.le_trans (held.2 earlier) (UInt64.le_of_lt above)
      · rw [(record_latest_below tx.msg sub.journal before above).1]
        refine ⟨.inr held.1, ?_⟩
        rintro number (rfl | earlier)
        · exact UInt64.not_lt.mp above
        · exact held.2 earlier
  | kept call proposals latest latestRoot =>
      rw [accepted_numbers_skip past ⟨before, tx, after, event⟩ call, latest]
      exact held

end Oracle

namespace Live

variable {v : Verifiers} {d : System.Deployment} {chains : Chains} {rpc : RpcMonitor.RpcChainMonitor}

structure Landed (v : Verifiers) (d : System.Deployment) (chains : Chains) (rpc : RpcMonitor.RpcChainMonitor)
    (earlier later : Trace) (txs : List System.Tx) : Prop where
  mined : chains.mined later = chains.mined earlier ++ txs
  within : ∀ number ∈ Oracle.acceptedNumbers
    (Oracle.history v (contracts v d chains earlier).oracle (txs.filterMap System.oracleCall)), number ≤ safeHead chains rpc earlier
  reached : latest v d chains earlier < safeHead chains rpc earlier → safeHead chains rpc earlier ∈ Oracle.acceptedNumbers
    (Oracle.history v (contracts v d chains earlier).oracle (txs.filterMap System.oracleCall))

theorem landed_latest (earlier later : Trace) (txs : List System.Tx) (landed : Landed v d chains rpc earlier later txs) :
    (latest v d chains later).toNat = max (latest v d chains earlier).toNat (safeHead chains rpc earlier).toNat := by
  have greatest := Oracle.run_latest_greatest v (contracts v d chains earlier).oracle (txs.filterMap System.oracleCall)
  have after : latest v d chains later =
      (Oracle.run v (contracts v d chains earlier).oracle (txs.filterMap System.oracleCall)).latestBlockNumber := by
    rw [latest, contracts, landed.mined, System.run_append, System.oracle_run v (System.run v _ _) txs]
    rfl
  rw [← after] at greatest
  have kept : (latest v d chains earlier).toNat ≤ (latest v d chains later).toNat :=
    UInt64.le_iff_toNat_le.mp (greatest.2 (.inl rfl))
  have bounded : latest v d chains later = latest v d chains earlier ∨
      (latest v d chains later).toNat ≤ (safeHead chains rpc earlier).toNat :=
    greatest.1.imp id fun accepted => UInt64.le_iff_toNat_le.mp (landed.within _ accepted)
  by_cases pending : latest v d chains earlier < safeHead chains rpc earlier
  · have reached := UInt64.le_iff_toNat_le.mp (greatest.2 (.inr (landed.reached pending)))
    have below := UInt64.lt_iff_toNat_lt.mp pending
    rcases bounded with same | high
    · rw [same] at reached
      omega
    · omega
  · have caughtUp := UInt64.le_iff_toNat_le.mp (UInt64.not_lt.mp pending)
    rcases bounded with same | high
    · rw [same]
      omega
    · omega

/-- As long as every range lands before the next poll, the beacon asks for each block above the
first pointer exactly once and in order, up to the last safe head that it has seen. -/
theorem live_beacon_catches_up (v : Verifiers) (d : System.Deployment) (chains : Chains) (rpc : RpcMonitor.RpcChainMonitor)
    (truthful : Truthful v d chains rpc) (config : EngineConfig) (dispatcher : ProofDispatcher) (rounds : Nat) (trace : Trace)
    (succeeded : OrchestrationEngine.runBeaconLoop ⟨config, monitor chains rpc, dispatcher⟩ rounds [] = .ok () trace)
    (first : Trace) (rest : List Trace) (polled : polls trace = first :: rest)
    (landed : (polls trace).IsChain fun earlier later => ∃ txs, Landed v d chains rpc earlier later txs) :
    provenBlocks trace = List.range' ((latest v d chains first).toNat + 1)
      (max (latest v d chains (rest.getLastD first)).toNat (safeHead chains rpc (rest.getLastD first)).toNat -
        (latest v d chains first).toNat) := by
  obtain ⟨_, blocks⟩ := returned_blocks truthful config dispatcher rounds trace succeeded
  rw [polled] at blocks landed
  have linked := landed.imp fun earlier later given => given.elim fun txs within => landed_latest earlier later txs within
  rw [blocks]
  exact (Tiles.rising_ranges _ _ first rest linked).2

def landingTxs : List System.Tx := [.oracle (Oracle.sampleTx 0xbb 0xcc 42)]

def landingChains : Chains where
  connect := fun trace _ =>
    ⟨fun _ => .ok (some ⟨zeroWord, 42⟩), fun _ _ => .ok (RpcMonitor.abiUint64 (if dispatched trace = [] then 0 else 42))⟩
  mined := fun trace => if dispatched trace = [] then [] else landingTxs

theorem landing_latest (trace : Trace) : latest Oracle.mockVerifiers System.sampleDeployment landingChains trace =
    if dispatched trace = [] then 0 else 42 := by
  by_cases before : dispatched trace = []
  · simp only [latest, contracts, landingChains, if_pos before]
    rfl
  · simp only [latest, contracts, landingChains, if_neg before]
    rw [System.oracle_run]
    exact Oracle.sample_latest

theorem landing_truthful : Truthful Oracle.mockVerifiers System.sampleDeployment landingChains sampleRpc := by
  refine ⟨?_, ?_⟩
  · intro trace response called
    have told := landing_latest trace
    rw [latest] at told
    rw [told]
    exact (Except.ok.inj called).symm
  · intro front back
    by_cases before : dispatched front = []
    · simp [landingChains, before]
    · simp [landingChains, before, dispatched_append]

theorem landing_monitor : monitor landingChains sampleRpc =
    ⟨fun trace => .ok ⟨zeroWord, if dispatched trace = [] then 0 else 42, 42⟩, none, fun _ => none⟩ := by
  apply monitor_eq
  · intro trace
    have long : (RpcMonitor.abiUint64 (if dispatched trace = [] then 0 else 42)).length ≥ 32 :=
      Nat.le_of_eq (RpcMonitor.abi_uint64_length _).symm
    simp only [monitor, RpcMonitor.getState, landingChains, Except.mapError, if_pos long, RpcMonitor.decode_abi_uint64]
  · intro trace
    rfl

def landedRequest : ProofRequest := ⟨zeroWord, 1, 42, zeroWord, .groth16⟩

def landedRound : Trace :=
  .polled (.ok ⟨zeroWord, 0, 42⟩) :: .event (.rangeDetected 1 42) :: .stateAsked (.ok ⟨zeroWord, 0, 42⟩) ::
    Job.actions ⟨landedRequest, ⟨"mock-1-42", landedRequest⟩, sampleArtifact⟩

theorem landed_run : OrchestrationEngine.runBeaconLoop
    ⟨⟨⟨.beacon, .groth16, 100⟩⟩, monitor landingChains sampleRpc, mockDispatcher⟩ 2 [] =
      .ok () (landedRound ++ [.polled (.ok ⟨zeroWord, 42, 42⟩)]) := by
  rw [landing_monitor]
  rfl

theorem landing_accepted : Oracle.acceptedNumbers (Oracle.history Oracle.mockVerifiers Oracle.mockDeployed
    [Oracle.sampleTx 0xbb 0xcc 42]) = {42} := by
  have committed := Oracle.sample_commits Oracle.mockDeployed 0xbb 0xcc 42 (Oracle.mock_deployed_unproven 42)
  have none : Oracle.acceptedNumbers [] = ∅ := by simp [Oracle.acceptedNumbers]
  have history := Oracle.history_execute _ _ _ _ _ [] committed
  change _ = [] ++ [_] at history
  rw [history, Oracle.accepted_numbers_append [] _ ⟨.sp1, Oracle.sampleJournal 0xbb 0xcc 42, [0xde, 0xad]⟩ rfl, none,
    Oracle.sample_number, insert_empty_eq]

theorem sample_landed :
    Landed Oracle.mockVerifiers System.sampleDeployment landingChains sampleRpc [] landedRound landingTxs := by
  have accepted : Oracle.acceptedNumbers (Oracle.history Oracle.mockVerifiers
      (contracts Oracle.mockVerifiers System.sampleDeployment landingChains []).oracle
        (landingTxs.filterMap System.oracleCall)) = {42} := landing_accepted
  refine ⟨rfl, ?_, ?_⟩
  · intro number member
    rw [accepted] at member
    rw [Set.mem_singleton_iff.mp member]
    exact UInt64.le_refl _
  · intro _
    rw [accepted]
    rfl

theorem live_beacon_catches_up_sample : provenBlocks (landedRound ++ [.polled (.ok ⟨zeroWord, 42, 42⟩)]) = List.range' 1 42 := by
  have polled : polls (landedRound ++ [.polled (.ok ⟨zeroWord, 42, 42⟩)]) = [[], landedRound] := rfl
  have blocks := live_beacon_catches_up Oracle.mockVerifiers System.sampleDeployment landingChains sampleRpc landing_truthful
    ⟨⟨.beacon, .groth16, 100⟩⟩ mockDispatcher 2 _ landed_run [] [landedRound] polled (by simpa [polled] using ⟨landingTxs, sample_landed⟩)
  rw [landing_latest, landing_latest] at blocks
  exact blocks

end Live

end OpenZk
