import OpenZk.OracleRuns

set_option autoImplicit false

namespace OpenZk.Oracle

open Words WriteOnce

def WriteOnceFrom (v : Verifiers) (s : State) (number : UInt64) : Prop :=
  ∀ txs, (run v s txs).proposals number = s.proposals number ∧
    ∀ msg sub, sub.journal.length = 192 → l2BlockNumberOf sub.journal = number →
      execute v (run v s txs) ⟨msg, submit sub⟩ =
        .error (if accepts v (run v s txs) sub then .blockAlreadyProven else .verifierReverted)

theorem proven_write_once (v : Verifiers) (s : State) (number : UInt64) (holds : isBlockProven s number = true) :
    WriteOnceFrom v s number := by
  intro txs
  obtain ⟨stays, same⟩ := proven_block_stays v s txs number holds
  refine ⟨same, ?_⟩
  intro msg sub length names
  rw [execute_submit, if_neg (not_not.mpr length), names, if_pos stays]
  split <;> rfl

theorem unproven_not_write_once (v : Verifiers) (before : State) (msg : Msg) (sub : Submission)
    (length : sub.journal.length = 192) (accepted : accepts v before sub = true)
    (root : l2PostRootOf sub.journal = zeroWord) :
    ¬ WriteOnceFrom v (record msg sub.journal before) (l2BlockNumberOf sub.journal) := by
  intro once
  have again := (once []).2 msg sub length rfl
  have free : isBlockProven (record msg sub.journal before) (l2BlockNumberOf sub.journal) = false := by
    rw [unproven_iff, record_here]
    exact root
  have acceptedAgain : accepts v (record msg sub.journal before) sub = true := by
    rw [record_accepts, accepted]
  simp [run, execute_submit, length, acceptedAgain, free] at again

theorem submission_write_once_iff (v : Verifiers) (deployer : Msg) (sp1 risc0 : Address) (vkey imageId : Bytes32)
    (earlier : List Tx) (tx : Tx) (sub : Submission) (after : State) (event : Event)
    (call : submission tx.call = some sub)
    (committed : execute v (run v (deploy deployer sp1 risc0 vkey imageId) earlier) tx = .ok (after, event)) :
    WriteOnceFrom v after (l2BlockNumberOf sub.journal) ↔ l2PostRootOf sub.journal ≠ zeroWord := by
  obtain ⟨length, accepted, _, stored, _⟩ := execute_submitted v _ after tx event sub call committed
  subst stored
  constructor
  · intro once root
    exact unproven_not_write_once v _ tx.msg sub length accepted root once
  · intro root
    exact proven_write_once v _ _ ((record_proven_here tx.msg sub.journal _).mpr root)

theorem submission_write_once_sample :
    WriteOnceFrom mockVerifiers (record ⟨0x9, 100⟩ (sampleJournal 0xbb 0xcc 42) mockDeployed)
        (l2BlockNumberOf (sampleJournal 0xbb 0xcc 42)) ↔ l2PostRootOf (sampleJournal 0xbb 0xcc 42) ≠ zeroWord :=
  submission_write_once_iff mockVerifiers ⟨0x7, 1⟩ 0x51 0x52 (wordOfNat 0x1234) (wordOfNat 0x5678) []
    (sampleTx 0xbb 0xcc 42) ⟨.sp1, sampleJournal 0xbb 0xcc 42, [0xde, 0xad]⟩ _ _ rfl
    (sample_commits mockDeployed 0xbb 0xcc 42 (mock_deployed_unproven 42))

theorem zero_root_overwritten :
    ∃ after event, execute mockVerifiers mockDeployed (sampleTx 0xbb 0 42) = .ok (after, event) ∧
      (run mockVerifiers after [sampleTx 0xbb 0xcc 42]).proposals 42 ≠ after.proposals 42 ∧
      ¬ WriteOnceFrom mockVerifiers after 42 := by
  refine ⟨_, _, sample_commits mockDeployed 0xbb 0 42 (mock_deployed_unproven 42), ?_⟩
  have free : isBlockProven (record ⟨0x9, 100⟩ (sampleJournal 0xbb 0 42) mockDeployed) 42 = false := by
    rw [unproven_iff, sample_recorded]
    rfl
  have overwritten : (run mockVerifiers (record ⟨0x9, 100⟩ (sampleJournal 0xbb 0 42) mockDeployed)
      [sampleTx 0xbb 0xcc 42]).proposals 42 ≠
        (record ⟨0x9, 100⟩ (sampleJournal 0xbb 0 42) mockDeployed).proposals 42 := by
    intro same
    have roots := congrArg OutputProposal.outputRoot same
    rw [sample_run _ 0xbb 0xcc 42 free, sample_recorded, sample_recorded] at roots
    exact absurd (word_of_nat_inj 0xcc 0 (by decide) (by decide) roots) (by decide)
  exact ⟨overwritten, fun once => overwritten (once [sampleTx 0xbb 0xcc 42]).1⟩

def keyInForce (backend : Backend) (s : State) : Bytes32 :=
  match backend with
  | .sp1 => s.sp1ProgramVKey
  | .riscZero => s.risc0ImageId

def setKey (backend : Backend) (key : Bytes32) : Call :=
  match backend with
  | .sp1 => .setSp1ProgramVKey key
  | .riscZero => .setRisc0ImageId key

def KeyOrigin (initial : State) (past : List Step) (backend : Backend) (key : Bytes32) : Prop :=
  key = keyInForce backend initial ∨
    ∃ step ∈ past, step.tx.call = setKey backend key ∧ step.tx.msg.sender = initial.owner

structure Custody (initial : State) (past : List Step) (s : State) : Prop where
  sp1Verifier : s.sp1Verifier = initial.sp1Verifier
  risc0Verifier : s.risc0Verifier = initial.risc0Verifier
  owner : s.owner = initial.owner
  keys : ∀ backend, KeyOrigin initial past backend (keyInForce backend s)

theorem key_origin_grows (initial : State) (past new : List Step) (backend : Backend) (key : Bytes32)
    (origin : KeyOrigin initial past backend key) : KeyOrigin initial (past ++ new) backend key := by
  rcases origin with constructed | ⟨step, member, call, sender⟩
  · exact .inl constructed
  · exact .inr ⟨step, by simp [member], call, sender⟩

theorem key_origin_set (initial : State) (past : List Step) (step : Step) (backend : Backend) (key : Bytes32)
    (call : step.tx.call = setKey backend key) (sender : step.tx.msg.sender = initial.owner) :
    KeyOrigin initial (past ++ [step]) backend key :=
  .inr ⟨step, by simp, call, sender⟩

theorem record_key (backend : Backend) (msg : Msg) (journal : Bytes) (s : State) :
    keyInForce backend (record msg journal s) = keyInForce backend s := by
  cases backend <;> simp [keyInForce]

theorem run_custody (v : Verifiers) (initial : State) (txs : List Tx) :
    Custody initial (history v initial txs) (run v initial txs) := by
  apply (machine v).history_invariant (Custody initial) (fun _ => True) initial txs
    ⟨rfl, rfl, rfl, fun _ => .inl rfl⟩ (fun _ _ => trivial)
  intro past before tx after event _ held committed
  cases execute_cases v before after tx event committed with
  | submitted sub call length accepted free stored emitted =>
      subst stored
      refine ⟨by simp [held.sp1Verifier], by simp [held.risc0Verifier], by simp [held.owner], fun backend => ?_⟩
      rw [record_key]
      exact key_origin_grows initial past _ backend _ (held.keys backend)
  | sp1Key vkey call owner stored emitted =>
      subst stored
      refine ⟨held.sp1Verifier, held.risc0Verifier, held.owner, fun backend => ?_⟩
      cases backend with
      | sp1 => exact key_origin_set initial past ⟨before, tx, _, event⟩ _ _ call (owner.trans held.owner)
      | riscZero => exact key_origin_grows initial past _ .riscZero _ (held.keys .riscZero)
  | risc0Key imageId call owner stored emitted =>
      subst stored
      refine ⟨held.sp1Verifier, held.risc0Verifier, held.owner, fun backend => ?_⟩
      cases backend with
      | sp1 => exact key_origin_grows initial past _ .sp1 _ (held.keys .sp1)
      | riscZero => exact key_origin_set initial past ⟨before, tx, _, event⟩ _ _ call (owner.trans held.owner)

def Wrote (step : Step) (number : UInt64) (proposal : OutputProposal) (sub : Submission) : Prop :=
  submission step.tx.call = some sub ∧ l2BlockNumberOf sub.journal = number ∧
    outputProposal step.tx.msg sub.journal = proposal

theorem registration_wrote (step : Step) (number : UInt64) (proposal : OutputProposal)
    (entry : registration step = some (number, proposal)) : ∃ sub, Wrote step number proposal sub := by
  unfold registration at entry
  split at entry
  · cases entry
  · rename_i sub call
    split at entry
    · cases entry
    · simp only [Option.some.injEq, Prod.mk.injEq] at entry
      exact ⟨sub, call, entry.1, entry.2⟩

theorem wrote_registration (step : Step) (number : UInt64) (proposal : OutputProposal) (sub : Submission)
    (wrote : Wrote step number proposal sub) (root : proposal.outputRoot ≠ zeroWord) :
    registration step = some (number, proposal) := by
  obtain ⟨call, rfl, rfl⟩ := wrote
  have nonzero : l2PostRootOf sub.journal ≠ zeroWord := root
  simp [registration, call, nonzero]

structure ProvenBy (v : Verifiers) (initial : State) (past : List Step) (step : Step) (sub : Submission)
    (number : UInt64) (stored : OutputProposal) : Prop where
  wrote : Wrote step number stored sub
  length : sub.journal.length = 192
  sp1 : sub.backend = .sp1 →
    v.verifyProof initial.sp1Verifier step.before.sp1ProgramVKey sub.journal sub.proof = true
  risc0 : sub.backend = .riscZero →
    v.verify initial.risc0Verifier sub.proof step.before.risc0ImageId (v.sha256 sub.journal) = true
  key : KeyOrigin initial past sub.backend (keyInForce sub.backend step.before)
  l1Head : stored.l1Head.data = slice sub.journal 0 32
  outputRoot : stored.outputRoot.data = slice sub.journal 64 96
  l2BlockNumber : stored.l2BlockNumber = number
  numberLow : number.toNat = bigEndian (slice sub.journal 96 128) % 2 ^ 64

theorem committed_proven_by (v : Verifiers) (initial : State) (txs : List Tx) (past future : List Step) (step : Step)
    (sub : Submission) (number : UInt64) (stored : OutputProposal) (wrote : Wrote step number stored sub)
    (split : history v initial txs = past ++ step :: future) :
    ProvenBy v initial past step sub number stored := by
  obtain ⟨front, back, _, beforeEq, pastEq, _, _⟩ := (machine v).history_split initial txs past future step split
  have member : step ∈ history v initial txs := by simp [split]
  have committed := (machine v).history_exec initial txs step member
  obtain ⟨call, names, same⟩ := id wrote
  obtain ⟨length, accepted, _, _, _⟩ := execute_submitted v step.before step.after step.tx step.output sub call committed
  have custody : Custody initial past step.before := by
    rw [beforeEq, pastEq]
    exact run_custody v initial front
  refine ⟨wrote, length, ?_, ?_, custody.keys sub.backend, ?_, ?_, ?_, ?_⟩
  · intro backend
    simpa only [accepts, backend, custody.sp1Verifier] using accepted
  · intro backend
    simpa only [accepts, backend, custody.risc0Verifier] using accepted
  · rw [← same]
    exact pack_slice sub.journal 0 32 rfl (by omega)
  · rw [← same]
    exact pack_slice sub.journal 64 96 rfl (by omega)
  · rw [← same]
    exact names
  · rw [← names]
    exact l2_block_number_low sub.journal length

theorem proven_output_provenance (v : Verifiers) (deployer : Msg) (sp1 risc0 : Address) (vkey imageId : Bytes32)
    (txs : List Tx) (number : UInt64)
    (holds : isBlockProven (run v (deploy deployer sp1 risc0 vkey imageId) txs) number = true) :
    ∃ past step future sub,
      history v (deploy deployer sp1 risc0 vkey imageId) txs = past ++ step :: future ∧
      ProvenBy v (deploy deployer sp1 risc0 vkey imageId) past step sub number
        ((run v (deploy deployer sp1 risc0 vkey imageId) txs).proposals number) ∧
      ∀ other ∈ past ++ future, ∀ otherSub, ¬ Wrote other number
        ((run v (deploy deployer sp1 risc0 vkey imageId) txs).proposals number) otherSub := by
  have described := run_describes v deployer sp1 risc0 vkey imageId txs
  generalize deploy deployer sp1 risc0 vkey imageId = initial at holds described ⊢
  obtain ⟨past, step, future, split, entry, unique⟩ := describes_writer registration _ _ number _ described
    (proven_lookup _ number holds)
  obtain ⟨sub, wrote⟩ := registration_wrote step number _ entry
  refine ⟨past, step, future, sub, split, committed_proven_by v initial txs past future step sub number _ wrote split, ?_⟩
  intro other elsewhere otherSub otherWrote
  exact unique other elsewhere _
    (wrote_registration other number _ otherSub otherWrote ((proven_iff _ number).mp holds))

theorem proven_output_provenance_sample :
    ∃ past step future sub,
      history mockVerifiers mockDeployed [sampleTx 0xbb 0xcc 42] = past ++ step :: future ∧
      ProvenBy mockVerifiers mockDeployed past step sub 42
        ((run mockVerifiers mockDeployed [sampleTx 0xbb 0xcc 42]).proposals 42) ∧
      ∀ other ∈ past ++ future, ∀ otherSub, ¬ Wrote other 42
        ((run mockVerifiers mockDeployed [sampleTx 0xbb 0xcc 42]).proposals 42) otherSub := by
  have holds : isBlockProven (run mockVerifiers mockDeployed [sampleTx 0xbb 0xcc 42]) 42 = true := by
    rw [sample_run mockDeployed 0xbb 0xcc 42 (mock_deployed_unproven 42), proven_iff, sample_recorded]
    exact word_of_nat_ne_zero 0xcc (by decide) (by decide)
  unfold mockDeployed at holds ⊢
  exact proven_output_provenance mockVerifiers ⟨0x7, 1⟩ 0x51 0x52 (wordOfNat 0x1234) (wordOfNat 0x5678)
    [sampleTx 0xbb 0xcc 42] 42 holds

end OpenZk.Oracle
