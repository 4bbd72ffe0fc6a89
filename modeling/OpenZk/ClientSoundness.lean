import OpenZk.DisputeVerdicts
import OpenZk.JournalAgreement
import OpenZk.RpcSubmitter

set_option autoImplicit false

namespace OpenZk.Oracle

open Words

theorem accepted_submission_stays (v : Verifiers) (s : State) (msg : Msg) (sub : Submission) (rest : List Tx)
    (length : sub.journal.length = 192) (accepted : accepts v s sub = true) (root : l2PostRootOf sub.journal ≠ zeroWord) :
    isBlockProven (run v s (⟨msg, submit sub⟩ :: rest)) (l2BlockNumberOf sub.journal) = true ∧
      (run v s (⟨msg, submit sub⟩ :: rest)).proposals (l2BlockNumberOf sub.journal) =
        if isBlockProven s (l2BlockNumberOf sub.journal) then s.proposals (l2BlockNumberOf sub.journal)
        else outputProposal msg sub.journal := by
  cases proven : isBlockProven s (l2BlockNumberOf sub.journal) with
  | true => exact proven_block_stays v s (⟨msg, submit sub⟩ :: rest) _ proven
  | false =>
      rw [run_execute v s _ _ _ rest (submit_commits v s msg sub length accepted proven)]
      have stays := proven_block_stays v (record msg sub.journal s) rest _ ((record_proven_here msg sub.journal s).mpr root)
      rw [record_here] at stays
      exact stays

end OpenZk.Oracle

namespace OpenZk.System

open Words RpcSubmitter

structure Contracts where
  oracle : Address
  game : Address

def mined (contracts : Contracts) (timestamp : BitVec 256) (request : TransactionRequest) : Option Tx :=
  match request.call with
  | .oracle call =>
      if request.recipient = contracts.oracle then some (.oracle ⟨⟨request.signer, timestamp⟩, call⟩) else none
  | .game call =>
      if request.recipient = contracts.game then some (.game ⟨⟨request.signer, timestamp⟩, call⟩) else none

def SentByClient (contracts : Contracts) (tx : Tx) : Prop :=
  ∃ net submitter operations request timestamp,
    request ∈ sends (session net submitter operations []) ∧ mined contracts timestamp request = some tx

def ClientsResolve (contracts : Contracts) (txs : List Tx) : Prop :=
  ∀ msg number publicValues proofBytes choice,
    .game ⟨msg, .resolve number publicValues proofBytes choice⟩ ∈ txs →
    SentByClient contracts (.game ⟨msg, .resolve number publicValues proofBytes choice⟩)

theorem mined_oracle (contracts : Contracts) (timestamp : BitVec 256) (signer recipient : Address) (call : Oracle.Call) (tx : Tx)
    (reached : mined contracts timestamp ⟨signer, recipient, .oracle call⟩ = some tx) :
    tx = .oracle ⟨⟨signer, timestamp⟩, call⟩ := by
  dsimp only [mined] at reached
  split at reached
  · exact (Option.some.inj reached).symm
  · cases reached

theorem mined_game (contracts : Contracts) (timestamp : BitVec 256) (signer recipient : Address) (call : DisputeGame.Call)
    (tx : Tx) (reached : mined contracts timestamp ⟨signer, recipient, .game call⟩ = some tx) :
    tx = .game ⟨⟨signer, timestamp⟩, call⟩ := by
  dsimp only [mined] at reached
  split at reached
  · exact (Option.some.inj reached).symm
  · cases reached

theorem client_resolve_matches (contracts : Contracts) (msg : Msg) (number : UInt64) (publicValues proofBytes : Bytes)
    (choice : UInt8) (sent : SentByClient contracts (.game ⟨msg, .resolve number publicValues proofBytes choice⟩)) :
    l2BlockNumberOf publicValues = number := by
  obtain ⟨net, submitter, operations, request, timestamp, member, reached⟩ := sent
  rcases session_sends operations [] request member with none | ⟨operation, _, requested⟩
  · cases none
  · cases requested with
    | submission journal proof signer backend chosen =>
        have shape := mined_oracle contracts timestamp _ _ _ _ reached
        cases shape
    | resolution journal proof signer disputeAddress choice backend configured chosen named =>
        have shape := mined_game contracts timestamp _ _ _ _ reached
        cases shape
        exact l2_block_number_of_abi_bytes journal

/-- What resolve does not check the client gets right: when every resolve comes from a client, no
dispute is lost by a true output. -/
theorem client_resolves_sound (v : Verifiers) (root : UInt64 → Bytes32) (sound : Sound v root) (d : Deployment)
    (contracts : Contracts) (txs : List Tx) (byClients : ClientsResolve contracts txs) (number : UInt64)
    (resolved : phase (run v (deploy d) txs) number = .resolved) :
    ((run v (deploy d) txs).game.disputes number).valid = true ∧
      ((run v (deploy d) txs).game.disputes number).disputedOutputRoot = root number := by
  have answered : ∀ step ∈ history v (deploy d) txs, AnswersDispute root step.tx := by
    intro step member msg disputed publicValues proofBytes choice call
    have inRun := (machine v).history_tx (deploy d) txs step member
    rw [call] at inRun
    rw [client_resolve_matches contracts msg disputed publicValues proofBytes choice (byClients _ _ _ _ _ inRun)]
  have found := phase_found _ (by rw [← phase, resolved]; exact Phase.noConfusion)
  have disputedTrue := disputed_root_true v root sound d txs number found
  have settled := answered_disputes_sound v root sound d txs answered number (phase_settled _ resolved)
  exact ⟨settled.mpr disputedTrue, disputedTrue⟩

def sampleNetwork (signer : Address) : Network where
  parseUrl := fun _ => .ok ()
  parseKey := fun _ => .ok signer
  send := fun _ past => .ok (wordOfNat past.length)
  getReceipt := fun txHash _ => .ok txHash

def sampleSubmitter : RpcProofSubmitter := withDisputeAddress (RpcSubmitter.new "http://localhost:8545" 0xc1 "0x01") 0xc2

def sampleTransition : StateTransitionJournal :=
  ⟨wordOfNat 0xaa, wordOfNat 0xbb, wordOfNat 43, 42, wordOfNat 0xdd, wordOfNat 0xee⟩

def sampleProof : ProofArtifact := ⟨.sp1, .groth16, [0xde, 0xad], [], zeroWord, none⟩

theorem sample_clients_resolve : ClientsResolve ⟨0xc1, 0xc2⟩ (sampleTxs 43 42 (toAbiBytes sampleTransition)) := by
  intro msg number publicValues proofBytes choice member
  simp only [sampleTxs, Oracle.sampleTx, List.mem_cons, List.not_mem_nil, reduceCtorEq, false_or, or_false, Tx.game.injEq,
    DisputeGame.Tx.mk.injEq, DisputeGame.Call.resolve.injEq, and_false] at member
  obtain ⟨rfl, rfl, rfl, rfl, rfl⟩ := member
  exact ⟨sampleNetwork 0xb, sampleSubmitter, [.resolve sampleTransition sampleProof], _, 300, List.mem_cons_self, rfl⟩

theorem client_resolves_sound_sample :
    ((run honestVerifiers (deploy sampleDeployment) (sampleTxs 43 42 (toAbiBytes sampleTransition))).game.disputes 42).valid =
        true ∧
      ((run honestVerifiers (deploy sampleDeployment)
        (sampleTxs 43 42 (toAbiBytes sampleTransition))).game.disputes 42).disputedOutputRoot = sampleRoot 42 := by
  apply client_resolves_sound honestVerifiers sampleRoot honest_verifiers_sound sampleDeployment ⟨0xc1, 0xc2⟩ _
    sample_clients_resolve
  rw [phase, sample_dispute honestVerifiers 43 42 (toAbiBytes sampleTransition)
    (word_of_nat_ne_zero 43 (by decide) (by decide)) (abi_bytes_length _)
    (fun _ => honest_accepts_sample 43 42 rfl) (fun _ => honest_accepts_sample 43 42 rfl)]
  exact phase_resolved _ (by exact (by decide : (200 : BitVec 128) ≠ 0)) rfl

theorem client_submission_request (contracts : Contracts) (net : Network) (submitter : RpcProofSubmitter)
    (journal : StateTransitionJournal) (proof : ProofArtifact) (request : TransactionRequest) (timestamp : BitVec 256) (tx : Tx)
    (sent : request ∈ sends (session net submitter [.submit journal proof] []))
    (reached : mined contracts timestamp request = some tx) :
    ∃ backend, contractBackend proof.backend = some backend ∧
      tx = .oracle ⟨⟨request.signer, timestamp⟩, Oracle.submit ⟨backend, toAbiBytes journal, proof.proofBytes⟩⟩ := by
  rcases session_sends _ [] request sent with none | ⟨operation, member, requested⟩
  · cases none
  · rw [List.mem_singleton] at member
    subst member
    cases requested with
    | submission journal proof signer backend chosen => exact ⟨backend, chosen, mined_oracle contracts timestamp _ _ _ _ reached⟩

theorem mined_submission_stays (v : Verifiers) (d : Deployment) (msg : Msg) (backend : Backend) (journal : StateTransitionJournal)
    (proofBytes : Bytes) (front back : List Tx)
    (accepted : Oracle.accepts v (run v (deploy d) front).oracle ⟨backend, toAbiBytes journal, proofBytes⟩ = true)
    (nonzero : journal.l2PostRoot ≠ zeroWord) :
    Oracle.isBlockProven (run v (deploy d)
        (front ++ .oracle ⟨msg, Oracle.submit ⟨backend, toAbiBytes journal, proofBytes⟩⟩ :: back)).oracle journal.l2BlockNumber =
          true ∧
      (run v (deploy d)
        (front ++ .oracle ⟨msg, Oracle.submit ⟨backend, toAbiBytes journal, proofBytes⟩⟩ :: back)).oracle.proposals
          journal.l2BlockNumber =
        if Oracle.isBlockProven (run v (deploy d) front).oracle journal.l2BlockNumber then
          (run v (deploy d) front).oracle.proposals journal.l2BlockNumber
        else Oracle.outputProposal msg (toAbiBytes journal) := by
  have stays := Oracle.accepted_submission_stays v (run v (deploy d) front).oracle msg
    ⟨backend, toAbiBytes journal, proofBytes⟩ (back.filterMap oracleCall) (abi_bytes_length journal) accepted
    (by rw [l2_post_root_of_abi_bytes]; exact nonzero)
  rw [← oracle_run_from, l2_block_number_of_abi_bytes] at stays
  exact stays

theorem stored_as_of_proposal (s : Oracle.State) (msg : Msg) (journal : StateTransitionJournal)
    (stored : s.proposals journal.l2BlockNumber = Oracle.outputProposal msg (toAbiBytes journal)) : StoredAs s journal := by
  refine ⟨?_, ?_, ?_⟩
  · rw [stored]
    exact l1_head_of_abi_bytes journal
  · rw [stored]
    exact l2_post_root_of_abi_bytes journal
  · rw [stored]
    exact l2_block_number_of_abi_bytes journal

/-- Whatever is mined before it and after it, a submission that its verifier accepts leaves the
journal's root proven: nobody can get ahead of it with another root. -/
theorem client_submission_lands (v : Verifiers) (root : UInt64 → Bytes32) (sound : Sound v root) (d : Deployment)
    (contracts : Contracts) (net : Network) (submitter : RpcProofSubmitter) (journal : StateTransitionJournal)
    (proof : ProofArtifact) (request : TransactionRequest) (timestamp : BitVec 256) (tx : Tx) (front back : List Tx)
    (sent : request ∈ sends (session net submitter [.submit journal proof] []))
    (reached : mined contracts timestamp request = some tx) (nonzero : journal.l2PostRoot ≠ zeroWord) :
    ∃ backend, contractBackend proof.backend = some backend ∧
      (Oracle.accepts v (run v (deploy d) front).oracle ⟨backend, toAbiBytes journal, proof.proofBytes⟩ = true →
        Oracle.isBlockProven (run v (deploy d) (front ++ tx :: back)).oracle journal.l2BlockNumber = true ∧
          ((run v (deploy d) (front ++ tx :: back)).oracle.proposals journal.l2BlockNumber).outputRoot = journal.l2PostRoot ∧
          (Oracle.isBlockProven (run v (deploy d) front).oracle journal.l2BlockNumber = false →
            StoredAs (run v (deploy d) (front ++ tx :: back)).oracle journal)) := by
  obtain ⟨backend, chosen, rfl⟩ := client_submission_request contracts net submitter journal proof request timestamp tx sent reached
  refine ⟨backend, chosen, fun accepted => ?_⟩
  have truth := run_true v root sound d front
  have journalTrue := sound_oracle_accepts v root sound _ _ (abi_bytes_length journal) accepted
  rw [l2_post_root_of_abi_bytes, l2_block_number_of_abi_bytes] at journalTrue
  obtain ⟨proven, stored⟩ := mined_submission_stays v d ⟨request.signer, timestamp⟩ backend journal proof.proofBytes front back
    accepted nonzero
  refine ⟨proven, ?_, ?_⟩
  · rw [stored]
    cases earlier : Oracle.isBlockProven (run v (deploy d) front).oracle journal.l2BlockNumber with
    | true => exact (truth journal.l2BlockNumber earlier).trans journalTrue.symm
    | false => exact l2_post_root_of_abi_bytes journal
  · intro free
    rw [free] at stored
    exact stored_as_of_proposal _ _ journal stored

theorem client_submission_lands_sample :
    Oracle.isBlockProven (run honestVerifiers (deploy sampleDeployment)
        ([] ++ .oracle (Oracle.sampleTx 0xbb 43 42) :: [.game ⟨⟨0xa, 200⟩, .challenge 42⟩])).oracle
          sampleTransition.l2BlockNumber = true ∧
      ((run honestVerifiers (deploy sampleDeployment)
        ([] ++ .oracle (Oracle.sampleTx 0xbb 43 42) :: [.game ⟨⟨0xa, 200⟩, .challenge 42⟩])).oracle.proposals
          sampleTransition.l2BlockNumber).outputRoot = sampleTransition.l2PostRoot := by
  obtain ⟨backend, chosen, lands⟩ := client_submission_lands honestVerifiers sampleRoot honest_verifiers_sound sampleDeployment
    ⟨0xc1, 0xc2⟩ (sampleNetwork 0x9) sampleSubmitter sampleTransition sampleProof _ 100 (.oracle (Oracle.sampleTx 0xbb 43 42))
    [] [.game ⟨⟨0xa, 200⟩, .challenge 42⟩] List.mem_cons_self rfl (word_of_nat_ne_zero 43 (by decide) (by decide))
  obtain rfl : Backend.sp1 = backend := Option.some.inj chosen
  have accepted : Oracle.accepts honestVerifiers (deploy sampleDeployment).oracle
      ⟨.sp1, Oracle.sampleJournal 0xbb 43 42, [0xde, 0xad]⟩ = true := honest_accepts_sample 43 42 rfl
  obtain ⟨proven, stored, _⟩ := lands accepted
  exact ⟨proven, stored⟩

end OpenZk.System
