import OpenZk.Journal
import OpenZk.TxMachine
import Mathlib.Logic.Function.Basic

set_option autoImplicit false

namespace OpenZk

open Words

structure Msg where
  sender : Address
  timestamp : BitVec 256
deriving DecidableEq

/-- The verifier contracts are view functions that either return or revert; true stands for returning. -/
structure Verifiers where
  verifyProof : Address → Bytes32 → Bytes → Bytes → Bool
  verify : Address → Bytes → Bytes32 → Bytes32 → Bool
  sha256 : Bytes → Bytes32

inductive Backend where
  | sp1
  | riscZero
deriving DecidableEq

namespace Oracle

structure OutputProposal where
  outputRoot : Bytes32
  l2BlockNumber : UInt64
  l1Head : Bytes32
  timestamp : BitVec 128
deriving DecidableEq

structure State where
  sp1Verifier : Address
  risc0Verifier : Address
  sp1ProgramVKey : Bytes32
  risc0ImageId : Bytes32
  owner : Address
  latestBlockNumber : UInt64
  latestOutputRoot : Bytes32
  proposals : UInt64 → OutputProposal

inductive Event where
  | outputRootSubmitted (outputRoot : Bytes32) (l2BlockNumber : UInt64) (l1Head : Bytes32) (backend : Backend)
  | programIdUpdated (backend : Backend) (programId : Bytes32)
deriving DecidableEq

inductive Revert where
  | unauthorized
  | blockAlreadyProven
  | invalidJournalLength
  -- Declared and raised nowhere: a failing verifier reverts with its own error.
  | verificationFailed
  | verifierReverted
deriving DecidableEq

def emptyProposal : OutputProposal := ⟨zeroWord, 0, zeroWord, 0⟩

def deploy (msg : Msg) (sp1Verifier risc0Verifier : Address) (sp1ProgramVKey risc0ImageId : Bytes32) : State where
  sp1Verifier := sp1Verifier
  risc0Verifier := risc0Verifier
  sp1ProgramVKey := sp1ProgramVKey
  risc0ImageId := risc0ImageId
  owner := msg.sender
  latestBlockNumber := 0
  latestOutputRoot := zeroWord
  proposals := fun _ => emptyProposal

def isBlockProven (s : State) (blockNumber : UInt64) : Bool := (s.proposals blockNumber).outputRoot ≠ zeroWord

def outputProposal (msg : Msg) (journal : Bytes) : OutputProposal where
  outputRoot := l2PostRootOf journal
  l2BlockNumber := l2BlockNumberOf journal
  l1Head := l1HeadOf journal
  timestamp := msg.timestamp.setWidth 128

def storeProposal (number : UInt64) (proposal : OutputProposal) (s : State) : State :=
  { s with proposals := Function.update s.proposals number proposal }

def updateLatest (number : UInt64) (root : Bytes32) (s : State) : State :=
  if number > s.latestBlockNumber then { s with latestBlockNumber := number, latestOutputRoot := root } else s

def processJournal (msg : Msg) (journal : Bytes) (backend : Backend) (s : State) : Except Revert (State × Event) :=
  let l1Head := l1HeadOf journal
  let l2PostRoot := l2PostRootOf journal
  let l2BlockNumber := l2BlockNumberOf journal
  if (s.proposals l2BlockNumber).outputRoot ≠ zeroWord then .error .blockAlreadyProven
  else
    .ok (updateLatest l2BlockNumber l2PostRoot (storeProposal l2BlockNumber (outputProposal msg journal) s),
      .outputRootSubmitted l2PostRoot l2BlockNumber l1Head backend)

def submitSp1Proof (v : Verifiers) (msg : Msg) (publicValues proofBytes : Bytes) (s : State) :
    Except Revert (State × Event) :=
  if publicValues.length ≠ 192 then .error .invalidJournalLength
  else if v.verifyProof s.sp1Verifier s.sp1ProgramVKey publicValues proofBytes then
    processJournal msg publicValues .sp1 s
  else .error .verifierReverted

def submitRisc0Proof (v : Verifiers) (msg : Msg) (journalBytes sealBytes : Bytes) (s : State) :
    Except Revert (State × Event) :=
  if journalBytes.length ≠ 192 then .error .invalidJournalLength
  else if v.verify s.risc0Verifier sealBytes s.risc0ImageId (v.sha256 journalBytes) then
    processJournal msg journalBytes .riscZero s
  else .error .verifierReverted

def setSp1ProgramVKey (msg : Msg) (vkey : Bytes32) (s : State) : Except Revert (State × Event) :=
  if msg.sender ≠ s.owner then .error .unauthorized
  else .ok ({ s with sp1ProgramVKey := vkey }, .programIdUpdated .sp1 vkey)

def setRisc0ImageId (msg : Msg) (imageId : Bytes32) (s : State) : Except Revert (State × Event) :=
  if msg.sender ≠ s.owner then .error .unauthorized
  else .ok ({ s with risc0ImageId := imageId }, .programIdUpdated .riscZero imageId)

inductive Call where
  | submitSp1Proof (publicValues proofBytes : Bytes)
  | submitRisc0Proof (journalBytes sealBytes : Bytes)
  | setSp1ProgramVKey (vkey : Bytes32)
  | setRisc0ImageId (imageId : Bytes32)
deriving DecidableEq

structure Tx where
  msg : Msg
  call : Call
deriving DecidableEq

def execute (v : Verifiers) (s : State) (tx : Tx) : Except Revert (State × Event) :=
  match tx.call with
  | .submitSp1Proof publicValues proofBytes => submitSp1Proof v tx.msg publicValues proofBytes s
  | .submitRisc0Proof journalBytes sealBytes => submitRisc0Proof v tx.msg journalBytes sealBytes s
  | .setSp1ProgramVKey vkey => setSp1ProgramVKey tx.msg vkey s
  | .setRisc0ImageId imageId => setRisc0ImageId tx.msg imageId s

def machine (v : Verifiers) : TxMachine State Tx Revert Event := ⟨execute v⟩

structure Submission where
  backend : Backend
  journal : Bytes
  proof : Bytes
deriving DecidableEq

def submission : Call → Option Submission
  | .submitSp1Proof publicValues proofBytes => some ⟨.sp1, publicValues, proofBytes⟩
  | .submitRisc0Proof journalBytes sealBytes => some ⟨.riscZero, journalBytes, sealBytes⟩
  | .setSp1ProgramVKey _ => none
  | .setRisc0ImageId _ => none

def submit (sub : Submission) : Call :=
  match sub.backend with
  | .sp1 => .submitSp1Proof sub.journal sub.proof
  | .riscZero => .submitRisc0Proof sub.journal sub.proof

def accepts (v : Verifiers) (s : State) (sub : Submission) : Bool :=
  match sub.backend with
  | .sp1 => v.verifyProof s.sp1Verifier s.sp1ProgramVKey sub.journal sub.proof
  | .riscZero => v.verify s.risc0Verifier sub.proof s.risc0ImageId (v.sha256 sub.journal)

def record (msg : Msg) (journal : Bytes) (s : State) : State :=
  updateLatest (l2BlockNumberOf journal) (l2PostRootOf journal)
    (storeProposal (l2BlockNumberOf journal) (outputProposal msg journal) s)

theorem submission_eq (call : Call) (sub : Submission) (same : submission call = some sub) : call = submit sub := by
  cases call <;> simp only [submission, Option.some.injEq, reduceCtorEq] at same <;> subst same <;> rfl

theorem execute_submit (v : Verifiers) (s : State) (msg : Msg) (sub : Submission) :
    execute v s ⟨msg, submit sub⟩ =
      if sub.journal.length ≠ 192 then .error .invalidJournalLength
      else if accepts v s sub then
        if isBlockProven s (l2BlockNumberOf sub.journal) then .error .blockAlreadyProven
        else .ok (record msg sub.journal s, .outputRootSubmitted (l2PostRootOf sub.journal)
          (l2BlockNumberOf sub.journal) (l1HeadOf sub.journal) sub.backend)
      else .error .verifierReverted := by
  cases sub with
  | mk backend journal proof =>
      cases backend <;>
        simp only [submit, execute, submitSp1Proof, submitRisc0Proof, processJournal, accepts, isBlockProven, record,
          decide_eq_true_eq]

@[simp] theorem record_sp1_verifier (msg : Msg) (journal : Bytes) (s : State) :
    (record msg journal s).sp1Verifier = s.sp1Verifier := by
  unfold record updateLatest storeProposal
  split <;> rfl

@[simp] theorem record_risc0_verifier (msg : Msg) (journal : Bytes) (s : State) :
    (record msg journal s).risc0Verifier = s.risc0Verifier := by
  unfold record updateLatest storeProposal
  split <;> rfl

@[simp] theorem record_sp1_key (msg : Msg) (journal : Bytes) (s : State) :
    (record msg journal s).sp1ProgramVKey = s.sp1ProgramVKey := by
  unfold record updateLatest storeProposal
  split <;> rfl

@[simp] theorem record_risc0_key (msg : Msg) (journal : Bytes) (s : State) :
    (record msg journal s).risc0ImageId = s.risc0ImageId := by
  unfold record updateLatest storeProposal
  split <;> rfl

@[simp] theorem record_owner (msg : Msg) (journal : Bytes) (s : State) :
    (record msg journal s).owner = s.owner := by
  unfold record updateLatest storeProposal
  split <;> rfl

theorem record_accepts (v : Verifiers) (msg : Msg) (journal : Bytes) (s : State) (sub : Submission) :
    accepts v (record msg journal s) sub = accepts v s sub := by
  cases sub with
  | mk backend bytes proof => cases backend <;> simp [accepts]

theorem record_proposals (msg : Msg) (journal : Bytes) (s : State) :
    (record msg journal s).proposals =
      Function.update s.proposals (l2BlockNumberOf journal) (outputProposal msg journal) := by
  unfold record updateLatest storeProposal
  split <;> rfl

theorem record_here (msg : Msg) (journal : Bytes) (s : State) :
    (record msg journal s).proposals (l2BlockNumberOf journal) = outputProposal msg journal := by
  rw [record_proposals, Function.update_self]

theorem record_elsewhere (msg : Msg) (journal : Bytes) (s : State) (number : UInt64)
    (different : number ≠ l2BlockNumberOf journal) :
    (record msg journal s).proposals number = s.proposals number := by
  rw [record_proposals, Function.update_of_ne different]

theorem record_latest_above (msg : Msg) (journal : Bytes) (s : State)
    (above : s.latestBlockNumber < l2BlockNumberOf journal) :
    (record msg journal s).latestBlockNumber = l2BlockNumberOf journal ∧
      (record msg journal s).latestOutputRoot = l2PostRootOf journal := by
  have greater : l2BlockNumberOf journal > (storeProposal (l2BlockNumberOf journal) (outputProposal msg journal) s).latestBlockNumber := above
  rw [record, updateLatest, if_pos greater]
  exact ⟨rfl, rfl⟩

theorem record_latest_below (msg : Msg) (journal : Bytes) (s : State)
    (below : ¬ s.latestBlockNumber < l2BlockNumberOf journal) :
    (record msg journal s).latestBlockNumber = s.latestBlockNumber ∧
      (record msg journal s).latestOutputRoot = s.latestOutputRoot := by
  have notGreater : ¬ l2BlockNumberOf journal > (storeProposal (l2BlockNumberOf journal) (outputProposal msg journal) s).latestBlockNumber := below
  rw [record, updateLatest, if_neg notGreater]
  exact ⟨rfl, rfl⟩

inductive StepKind (v : Verifiers) (before : State) (tx : Tx) (after : State) (event : Event) : Prop where
  | submitted (sub : Submission) (call : submission tx.call = some sub) (length : sub.journal.length = 192)
      (accepted : accepts v before sub = true) (free : isBlockProven before (l2BlockNumberOf sub.journal) = false)
      (stored : after = record tx.msg sub.journal before)
      (emitted : event = .outputRootSubmitted (l2PostRootOf sub.journal) (l2BlockNumberOf sub.journal)
        (l1HeadOf sub.journal) sub.backend)
  | sp1Key (vkey : Bytes32) (call : tx.call = .setSp1ProgramVKey vkey) (owner : tx.msg.sender = before.owner)
      (stored : after = { before with sp1ProgramVKey := vkey }) (emitted : event = .programIdUpdated .sp1 vkey)
  | risc0Key (imageId : Bytes32) (call : tx.call = .setRisc0ImageId imageId) (owner : tx.msg.sender = before.owner)
      (stored : after = { before with risc0ImageId := imageId }) (emitted : event = .programIdUpdated .riscZero imageId)

theorem execute_submitted (v : Verifiers) (before after : State) (tx : Tx) (event : Event) (sub : Submission)
    (call : submission tx.call = some sub) (committed : execute v before tx = .ok (after, event)) :
    sub.journal.length = 192 ∧ accepts v before sub = true ∧
      isBlockProven before (l2BlockNumberOf sub.journal) = false ∧ after = record tx.msg sub.journal before ∧
      event = .outputRootSubmitted (l2PostRootOf sub.journal) (l2BlockNumberOf sub.journal) (l1HeadOf sub.journal) sub.backend := by
  obtain ⟨msg, callData⟩ := tx
  have shape : callData = submit sub := submission_eq callData sub call
  subst shape
  rw [execute_submit] at committed
  obtain ⟨length, committed⟩ := TxMachine.guard_passed committed
  by_cases accepted : accepts v before sub = true
  · rw [if_pos accepted] at committed
    obtain ⟨free, committed⟩ := TxMachine.guard_passed committed
    simp only [Except.ok.injEq, Prod.mk.injEq] at committed
    exact ⟨not_not.mp length, accepted, by simpa using free, committed.1.symm, committed.2.symm⟩
  · rw [if_neg accepted] at committed
    cases committed

theorem execute_cases (v : Verifiers) (before after : State) (tx : Tx) (event : Event)
    (committed : execute v before tx = .ok (after, event)) : StepKind v before tx after event := by
  cases kind : submission tx.call with
  | some sub =>
      obtain ⟨length, accepted, free, stored, emitted⟩ := execute_submitted v before after tx event sub kind committed
      exact .submitted sub kind length accepted free stored emitted
  | none =>
      cases call : tx.call with
      | submitSp1Proof publicValues proofBytes => simp [call, submission] at kind
      | submitRisc0Proof journalBytes sealBytes => simp [call, submission] at kind
      | setSp1ProgramVKey vkey =>
          rw [execute, call] at committed
          obtain ⟨owner, committed⟩ := TxMachine.guard_passed committed
          simp only [Except.ok.injEq, Prod.mk.injEq] at committed
          exact .sp1Key vkey call (not_not.mp owner) committed.1.symm committed.2.symm
      | setRisc0ImageId imageId =>
          rw [execute, call] at committed
          obtain ⟨owner, committed⟩ := TxMachine.guard_passed committed
          simp only [Except.ok.injEq, Prod.mk.injEq] at committed
          exact .risc0Key imageId call (not_not.mp owner) committed.1.symm committed.2.symm

inductive RecordChange (v : Verifiers) (before : State) (tx : Tx) (after : State) : Prop where
  | submitted (sub : Submission) (call : submission tx.call = some sub) (length : sub.journal.length = 192)
      (accepted : accepts v before sub = true) (free : isBlockProven before (l2BlockNumberOf sub.journal) = false)
      (stored : after = record tx.msg sub.journal before)
  | kept (call : submission tx.call = none) (proposals : after.proposals = before.proposals)
      (latest : after.latestBlockNumber = before.latestBlockNumber)
      (latestRoot : after.latestOutputRoot = before.latestOutputRoot)

theorem execute_records (v : Verifiers) (before after : State) (tx : Tx) (event : Event)
    (committed : execute v before tx = .ok (after, event)) : RecordChange v before tx after := by
  cases execute_cases v before after tx event committed with
  | submitted sub call length accepted free stored emitted => exact .submitted sub call length accepted free stored
  | sp1Key vkey call owner stored emitted =>
      subst stored
      exact .kept (by rw [call]; rfl) rfl rfl rfl
  | risc0Key imageId call owner stored emitted =>
      subst stored
      exact .kept (by rw [call]; rfl) rfl rfl rfl

end Oracle

end OpenZk
