import OpenZk.DisputeSystem

set_option autoImplicit false

namespace OpenZk

open Words

theorem abi_bytes_inj (a b : StateTransitionJournal) (same : toAbiBytes a = toAbiBytes b) : a = b := by
  have decoded := congrArg fromAbiBytes same
  rw [abi_round_trip, abi_round_trip] at decoded
  exact Option.some.inj decoded

structure StoredAs (s : Oracle.State) (journal : StateTransitionJournal) : Prop where
  l1Head : (s.proposals journal.l2BlockNumber).l1Head = journal.l1Head
  outputRoot : (s.proposals journal.l2BlockNumber).outputRoot = journal.l2PostRoot
  l2BlockNumber : (s.proposals journal.l2BlockNumber).l2BlockNumber = journal.l2BlockNumber

theorem record_stored_as (msg : Msg) (journal : StateTransitionJournal) (s : Oracle.State) :
    StoredAs (Oracle.record msg (toAbiBytes journal) s) journal := by
  have here := Oracle.record_here msg (toAbiBytes journal) s
  rw [l2_block_number_of_abi_bytes] at here
  refine ⟨?_, ?_, ?_⟩
  · rw [here, Oracle.outputProposal, l1_head_of_abi_bytes]
  · rw [here, Oracle.outputProposal, l2_post_root_of_abi_bytes]
  · rw [here, Oracle.outputProposal, l2_block_number_of_abi_bytes]

theorem submitted_stored_as (v : Verifiers) (journal : StateTransitionJournal) (backend : Backend) (proof : Bytes)
    (msg : Msg) (before after : Oracle.State) (event : Oracle.Event)
    (committed : Oracle.execute v before ⟨msg, Oracle.submit ⟨backend, toAbiBytes journal, proof⟩⟩ = .ok (after, event)) :
    StoredAs after journal := by
  have named : Oracle.submission (Oracle.submit ⟨backend, toAbiBytes journal, proof⟩) =
      some ⟨backend, toAbiBytes journal, proof⟩ := by
    cases backend <;> rfl
  obtain ⟨_, _, _, stored, _⟩ := Oracle.execute_submitted v before after _ event _ named committed
  rw [stored]
  exact record_stored_as msg journal before

theorem resolved_against (v : Verifiers) (journal : StateTransitionJournal) (number : UInt64) (proof : Bytes)
    (backend : UInt8) (before after : DisputeGame.State) (event : DisputeGame.Event)
    (committed : DisputeGame.resolve v number (toAbiBytes journal) proof backend before = .ok (after, event)) :
    (after.disputes number).resolved = true ∧
      (after.disputes number).valid = decide (journal.l2PostRoot = (before.disputes number).disputedOutputRoot) := by
  obtain ⟨_, _, _, _, _, _, stored, _⟩ := DisputeGame.resolve_cases v number _ proof backend before after event committed
  rw [stored, DisputeGame.store_dispute_here, DisputeGame.resolvedDispute, l2_post_root_of_abi_bytes]
  exact ⟨rfl, rfl⟩

theorem submit_length_accepted (v : Verifiers) (journal : StateTransitionJournal) (backend : Backend) (proof : Bytes)
    (msg : Msg) (s : Oracle.State) :
    Oracle.execute v s ⟨msg, Oracle.submit ⟨backend, toAbiBytes journal, proof⟩⟩ ≠ .error .invalidJournalLength := by
  rw [Oracle.execute_submit, if_neg (not_not.mpr (abi_bytes_length journal))]
  by_cases accepted : Oracle.accepts v s ⟨backend, toAbiBytes journal, proof⟩ = true
  · rw [if_pos accepted]
    by_cases proven : Oracle.isBlockProven s (l2BlockNumberOf (toAbiBytes journal)) = true
    · rw [if_pos proven]
      simp
    · rw [if_neg proven]
      simp
  · rw [if_neg accepted]
    simp

theorem resolve_length_accepted (v : Verifiers) (journal : StateTransitionJournal) (number : UInt64) (proof : Bytes)
    (backend : UInt8) (s : DisputeGame.State) :
    DisputeGame.resolve v number (toAbiBytes journal) proof backend s ≠ .error .invalidJournalLength := by
  intro refused
  obtain ⟨_, refused⟩ := TxMachine.guard_failed refused (by simp)
  obtain ⟨_, refused⟩ := TxMachine.guard_failed refused (by simp)
  rw [if_neg (not_not.mpr (abi_bytes_length journal))] at refused
  cases named : DisputeGame.backendOf backend with
  | none =>
      rw [named] at refused
      cases refused
  | some chosen =>
      simp only [named] at refused
      by_cases accepted : DisputeGame.accepts v s chosen (toAbiBytes journal) proof = true
      · rw [if_pos accepted] at refused
        cases refused
      · rw [if_neg accepted] at refused
        cases refused

theorem journal_agreement (v : Verifiers) (journal : StateTransitionJournal) :
    (toAbiBytes journal).length = 192 ∧
      (∀ backend proof msg s, Oracle.execute v s ⟨msg, Oracle.submit ⟨backend, toAbiBytes journal, proof⟩⟩ ≠
        .error .invalidJournalLength) ∧
      (∀ number proof backend s,
        DisputeGame.resolve v number (toAbiBytes journal) proof backend s ≠ .error .invalidJournalLength) ∧
      fromAbiBytes (toAbiBytes journal) = some journal ∧
      (∀ backend proof msg before after event,
        Oracle.execute v before ⟨msg, Oracle.submit ⟨backend, toAbiBytes journal, proof⟩⟩ = .ok (after, event) →
        StoredAs after journal) ∧
      (∀ number proof backend before after event,
        DisputeGame.resolve v number (toAbiBytes journal) proof backend before = .ok (after, event) →
        (after.disputes number).resolved = true ∧
          (after.disputes number).valid = decide (journal.l2PostRoot = (before.disputes number).disputedOutputRoot)) ∧
      ∀ other, toAbiBytes journal = toAbiBytes other → journal = other :=
  ⟨abi_bytes_length journal, submit_length_accepted v journal, resolve_length_accepted v journal, abi_round_trip journal,
    fun backend proof msg before after event => submitted_stored_as v journal backend proof msg before after event,
    fun number proof backend before after event => resolved_against v journal number proof backend before after event,
    fun other => abi_bytes_inj journal other⟩

theorem journal_agreement_stored :
    StoredAs (Oracle.run Oracle.mockVerifiers Oracle.mockDeployed [Oracle.sampleTx 0xbb 0xcc 42])
      ⟨wordOfNat 0xaa, wordOfNat 0xbb, wordOfNat 0xcc, 42, wordOfNat 0xdd, wordOfNat 0xee⟩ := by
  have committed := Oracle.sample_commits Oracle.mockDeployed 0xbb 0xcc 42 (Oracle.mock_deployed_unproven 42)
  rw [Oracle.sample_run _ 0xbb 0xcc 42 (Oracle.mock_deployed_unproven 42)]
  exact (journal_agreement Oracle.mockVerifiers _).2.2.2.2.1 .sp1 [0xde, 0xad] ⟨0x9, 100⟩ _ _ _ committed

end OpenZk
