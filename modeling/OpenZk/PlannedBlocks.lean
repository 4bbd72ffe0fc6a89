import OpenZk.OracleRuns
import OpenZk.Planner

set_option autoImplicit false

namespace OpenZk.Oracle

open Words

def LatestBounds (s : State) : Prop := ∀ number, isBlockProven s number = true → number ≤ s.latestBlockNumber

theorem record_latest_bounds (msg : Msg) (journal : Bytes) (s : State) (bounds : LatestBounds s) :
    LatestBounds (record msg journal s) := by
  intro number proven
  have old : number ≠ l2BlockNumberOf journal → number ≤ s.latestBlockNumber := by
    intro different
    apply bounds number
    rwa [isBlockProven, record_elsewhere msg journal s number different, ← isBlockProven] at proven
  by_cases above : s.latestBlockNumber < l2BlockNumberOf journal
  · rw [(record_latest_above msg journal s above).1]
    by_cases same : number = l2BlockNumberOf journal
    · exact UInt64.le_of_eq same
    · exact UInt64.le_trans (old same) (UInt64.le_of_lt above)
  · rw [(record_latest_below msg journal s above).1]
    by_cases same : number = l2BlockNumberOf journal
    · rw [same]
      exact UInt64.not_lt.mp above
    · exact old same

theorem run_latest_bounds (v : Verifiers) (s : State) (txs : List Tx) (bounds : LatestBounds s) :
    LatestBounds (run v s txs) := by
  apply (machine v).run_invariant LatestBounds (fun _ => True) s txs bounds (fun _ _ => trivial)
  intro before tx after event _ held committed
  cases execute_records v before after tx event committed with
  | submitted sub call length accepted free stored =>
      rw [stored]
      exact record_latest_bounds tx.msg sub.journal before held
  | kept call proposals latest latestRoot =>
      intro number proven
      rw [latest]
      apply held number
      rwa [isBlockProven, proposals] at proven

theorem deploy_latest_bounds (deployer : Msg) (sp1 risc0 : Address) (vkey imageId : Bytes32) :
    LatestBounds (deploy deployer sp1 risc0 vkey imageId) := by
  intro number proven
  simp [isBlockProven, deploy, emptyProposal] at proven

theorem unproven_above_latest (s : State) (number : UInt64) (bounds : LatestBounds s)
    (above : s.latestBlockNumber < number) : isBlockProven s number = false := by
  by_cases proven : isBlockProven s number = true
  · exact absurd (bounds number proven) (UInt64.not_le.mpr above)
  · exact Bool.eq_false_iff.mpr proven

theorem free_submission (v : Verifiers) (s : State) (msg : Msg) (sub : Submission)
    (free : isBlockProven s (l2BlockNumberOf sub.journal) = false) :
    execute v s ⟨msg, submit sub⟩ ≠ .error .blockAlreadyProven := by
  rw [execute_submit, free]
  by_cases length : sub.journal.length ≠ 192
  · simp [length]
  · by_cases accepted : accepts v s sub = true <;> simp [length, accepted]

theorem planned_blocks_unproven (v : Verifiers) (deployer : Msg) (sp1 risc0 : Address) (vkey imageId : Bytes32)
    (txs : List Tx) (window : UInt64) (mode : ProvingMode) (state anchor : ChainState)
    (proven : state.l2ProvenBlock = (run v (deploy deployer sp1 risc0 vkey imageId) txs).latestBlockNumber)
    (positive : 1 ≤ window.toNat) (room : state.l2SafeBlock.toNat + window.toNat < 2 ^ 64) :
    ∃ range, Planner.pendingRange state = .ok range ∧ ∀ start stop, range = some (start, stop) →
      ∃ requests, Planner.planRange window mode anchor start stop = .ok requests ∧ ∀ request ∈ requests,
        isBlockProven (run v (deploy deployer sp1 risc0 vkey imageId) txs) request.l2EndBlock = false ∧
        ∀ msg sub, l2BlockNumberOf sub.journal = request.l2EndBlock →
          execute v (run v (deploy deployer sp1 risc0 vkey imageId) txs) ⟨msg, submit sub⟩ ≠ .error .blockAlreadyProven := by
  obtain ⟨range, pending⟩ := Planner.pending_range_total state
  refine ⟨range, pending, ?_⟩
  intro start stop found
  subst found
  obtain ⟨first, last, order⟩ := Planner.pending_range_order state start stop pending
  obtain ⟨requests, planned⟩ := Planner.plan_range_total window mode anchor start stop positive (by rw [last]; exact room)
  refine ⟨requests, planned, ?_⟩
  intro request member
  obtain ⟨low, ordered, _⟩ := Planner.plan_range_bounds window mode anchor start stop requests positive
    (UInt64.le_iff_toNat_le.mpr order) planned request member
  -- Nothing above the pointer is proven, and every planned block is above it.
  have above : (run v (deploy deployer sp1 risc0 vkey imageId) txs).latestBlockNumber < request.l2EndBlock := by
    rw [← proven]
    exact UInt64.lt_iff_toNat_lt.mpr (by omega)
  have free := unproven_above_latest _ request.l2EndBlock
    (run_latest_bounds v _ txs (deploy_latest_bounds deployer sp1 risc0 vkey imageId)) above
  refine ⟨free, ?_⟩
  intro msg sub number
  apply free_submission
  rw [number]
  exact free

theorem sample_latest :
    (run mockVerifiers mockDeployed [sampleTx 0xbb 0xcc 42]).latestBlockNumber = 42 := by
  rw [sample_run mockDeployed 0xbb 0xcc 42 (mock_deployed_unproven 42),
    (record_latest_above _ _ mockDeployed (by rw [sample_number]; decide)).1, sample_number]

theorem planned_blocks_unproven_behind :
    ∃ range, Planner.pendingRange ⟨zeroWord, 42, 60⟩ = .ok range ∧ ∀ start stop, range = some (start, stop) →
      ∃ requests, Planner.planRange 10 .groth16 ⟨zeroWord, 42, 60⟩ start stop = .ok requests ∧ ∀ request ∈ requests,
        isBlockProven (run mockVerifiers mockDeployed [sampleTx 0xbb 0xcc 42]) request.l2EndBlock = false ∧
        ∀ msg sub, l2BlockNumberOf sub.journal = request.l2EndBlock →
          execute mockVerifiers (run mockVerifiers mockDeployed [sampleTx 0xbb 0xcc 42]) ⟨msg, submit sub⟩ ≠
            .error .blockAlreadyProven :=
  planned_blocks_unproven mockVerifiers ⟨0x7, 1⟩ 0x51 0x52 (wordOfNat 0x1234) (wordOfNat 0x5678)
    [sampleTx 0xbb 0xcc 42] 10 .groth16 ⟨zeroWord, 42, 60⟩ ⟨zeroWord, 42, 60⟩ sample_latest.symm (by decide) (by decide)

end OpenZk.Oracle
