import OpenZk.OutputOracle

set_option autoImplicit false

namespace OpenZk.DisputeGame

open Words

structure Dispute where
  challenger : Address
  blockNumber : UInt64
  disputedOutputRoot : Bytes32
  createdAt : BitVec 128
  resolved : Bool
  valid : Bool
deriving DecidableEq

structure State where
  sp1Verifier : Address
  risc0Verifier : Address
  sp1ProgramVKey : Bytes32
  risc0ImageId : Bytes32
  owner : Address
  challengeTimeout : BitVec 256
  -- The oracle's state is the other half of the system's, and challenge reads it there.
  disputes : UInt64 → Dispute

inductive Event where
  | disputeCreated (blockNumber : UInt64) (challenger : Address) (disputedOutputRoot : Bytes32)
  | disputeResolved (blockNumber : UInt64) (valid : Bool) (backend : Backend)
  | programIdUpdated (backend : Backend) (programId : Bytes32)
deriving DecidableEq

inductive Revert where
  | unauthorized
  | blockNotProven
  | alreadyDisputed
  | disputeNotFound
  | alreadyResolved
  | invalidJournalLength
  | invalidBackend
  | verifierReverted
deriving DecidableEq

def emptyDispute : Dispute := ⟨0, 0, zeroWord, 0, false, false⟩

def deploy (msg : Msg) (sp1Verifier risc0Verifier : Address) (sp1ProgramVKey risc0ImageId : Bytes32)
    (challengeTimeout : BitVec 256) : State where
  sp1Verifier := sp1Verifier
  risc0Verifier := risc0Verifier
  sp1ProgramVKey := sp1ProgramVKey
  risc0ImageId := risc0ImageId
  owner := msg.sender
  challengeTimeout := challengeTimeout
  disputes := fun _ => emptyDispute

def storeDispute (blockNumber : UInt64) (dispute : Dispute) (s : State) : State :=
  { s with disputes := Function.update s.disputes blockNumber dispute }

def newDispute (oracle : Oracle.State) (msg : Msg) (blockNumber : UInt64) : Dispute where
  challenger := msg.sender
  blockNumber := blockNumber
  disputedOutputRoot := (oracle.proposals blockNumber).outputRoot
  createdAt := msg.timestamp.setWidth 128
  resolved := false
  valid := false

def challenge (oracle : Oracle.State) (msg : Msg) (blockNumber : UInt64) (s : State) : Except Revert (State × Event) :=
  if !Oracle.isBlockProven oracle blockNumber then .error .blockNotProven
  else if (s.disputes blockNumber).createdAt ≠ 0 then .error .alreadyDisputed
  else
    .ok (storeDispute blockNumber (newDispute oracle msg blockNumber) s,
      .disputeCreated blockNumber msg.sender (oracle.proposals blockNumber).outputRoot)

def backendOf (backend : UInt8) : Option Backend :=
  if backend = 0 then some .sp1 else if backend = 1 then some .riscZero else none

def accepts (v : Verifiers) (s : State) (backend : Backend) (publicValues proofBytes : Bytes) : Bool :=
  match backend with
  | .sp1 => v.verifyProof s.sp1Verifier s.sp1ProgramVKey publicValues proofBytes
  | .riscZero => v.verify s.risc0Verifier proofBytes s.risc0ImageId (v.sha256 publicValues)

def resolvedDispute (dispute : Dispute) (publicValues : Bytes) : Dispute :=
  { dispute with resolved := true, valid := decide (l2PostRootOf publicValues = dispute.disputedOutputRoot) }

def resolve (v : Verifiers) (blockNumber : UInt64) (publicValues proofBytes : Bytes) (backend : UInt8) (s : State) :
    Except Revert (State × Event) :=
  let dispute := s.disputes blockNumber
  if dispute.createdAt = 0 then .error .disputeNotFound
  else if dispute.resolved then .error .alreadyResolved
  else if publicValues.length ≠ 192 then .error .invalidJournalLength
  else
    match backendOf backend with
    | none => .error .invalidBackend
    | some chosen =>
        if accepts v s chosen publicValues proofBytes then
          let settled := resolvedDispute dispute publicValues
          .ok (storeDispute blockNumber settled s, .disputeResolved blockNumber settled.valid chosen)
        else .error .verifierReverted

def isDisputed (s : State) (blockNumber : UInt64) : Bool :=
  (s.disputes blockNumber).createdAt ≠ 0 && !(s.disputes blockNumber).resolved

def setSp1ProgramVKey (msg : Msg) (vkey : Bytes32) (s : State) : Except Revert (State × Event) :=
  if msg.sender ≠ s.owner then .error .unauthorized
  else .ok ({ s with sp1ProgramVKey := vkey }, .programIdUpdated .sp1 vkey)

def setRisc0ImageId (msg : Msg) (imageId : Bytes32) (s : State) : Except Revert (State × Event) :=
  if msg.sender ≠ s.owner then .error .unauthorized
  else .ok ({ s with risc0ImageId := imageId }, .programIdUpdated .riscZero imageId)

inductive Call where
  | challenge (blockNumber : UInt64)
  | resolve (blockNumber : UInt64) (publicValues proofBytes : Bytes) (backend : UInt8)
  | setSp1ProgramVKey (vkey : Bytes32)
  | setRisc0ImageId (imageId : Bytes32)
deriving DecidableEq

structure Tx where
  msg : Msg
  call : Call
deriving DecidableEq

def execute (v : Verifiers) (oracle : Oracle.State) (s : State) (tx : Tx) : Except Revert (State × Event) :=
  match tx.call with
  | .challenge blockNumber => challenge oracle tx.msg blockNumber s
  | .resolve blockNumber publicValues proofBytes backend => resolve v blockNumber publicValues proofBytes backend s
  | .setSp1ProgramVKey vkey => setSp1ProgramVKey tx.msg vkey s
  | .setRisc0ImageId imageId => setRisc0ImageId tx.msg imageId s

theorem store_dispute_here (blockNumber : UInt64) (dispute : Dispute) (s : State) :
    (storeDispute blockNumber dispute s).disputes blockNumber = dispute := Function.update_self ..

theorem store_dispute_elsewhere (blockNumber other : UInt64) (dispute : Dispute) (s : State)
    (different : other ≠ blockNumber) : (storeDispute blockNumber dispute s).disputes other = s.disputes other :=
  Function.update_of_ne different ..

theorem challenge_commits (v : Verifiers) (oracle : Oracle.State) (msg : Msg) (blockNumber : UInt64) (s : State)
    (proven : Oracle.isBlockProven oracle blockNumber = true) (absent : (s.disputes blockNumber).createdAt = 0) :
    execute v oracle s ⟨msg, .challenge blockNumber⟩ =
      .ok (storeDispute blockNumber (newDispute oracle msg blockNumber) s,
        .disputeCreated blockNumber msg.sender (oracle.proposals blockNumber).outputRoot) := by
  dsimp only [execute, challenge]
  rw [if_neg (by simp [proven]), if_neg (not_not.mpr absent)]

theorem resolve_commits (v : Verifiers) (oracle : Oracle.State) (msg : Msg) (blockNumber : UInt64)
    (publicValues proofBytes : Bytes) (number : UInt8) (backend : Backend) (s : State)
    (found : (s.disputes blockNumber).createdAt ≠ 0) (pending : (s.disputes blockNumber).resolved = false)
    (length : publicValues.length = 192) (named : backendOf number = some backend)
    (accepted : accepts v s backend publicValues proofBytes = true) :
    execute v oracle s ⟨msg, .resolve blockNumber publicValues proofBytes number⟩ =
      .ok (storeDispute blockNumber (resolvedDispute (s.disputes blockNumber) publicValues) s,
        .disputeResolved blockNumber (resolvedDispute (s.disputes blockNumber) publicValues).valid backend) := by
  dsimp only [execute, resolve]
  rw [if_neg found, if_neg (by simp [pending]), if_neg (not_not.mpr length), named]
  exact if_pos accepted

inductive StepKind (v : Verifiers) (oracle : Oracle.State) (before : State) (tx : Tx) (after : State) (event : Event) :
    Prop where
  | challenged (blockNumber : UInt64) (call : tx.call = .challenge blockNumber)
      (proven : Oracle.isBlockProven oracle blockNumber = true) (absent : (before.disputes blockNumber).createdAt = 0)
      (stored : after = storeDispute blockNumber (newDispute oracle tx.msg blockNumber) before)
      (emitted : event = .disputeCreated blockNumber tx.msg.sender (oracle.proposals blockNumber).outputRoot)
  | resolved (blockNumber : UInt64) (publicValues proofBytes : Bytes) (number : UInt8) (backend : Backend)
      (call : tx.call = .resolve blockNumber publicValues proofBytes number)
      (found : (before.disputes blockNumber).createdAt ≠ 0) (pending : (before.disputes blockNumber).resolved = false)
      (length : publicValues.length = 192) (named : backendOf number = some backend)
      (accepted : accepts v before backend publicValues proofBytes = true)
      (stored : after = storeDispute blockNumber (resolvedDispute (before.disputes blockNumber) publicValues) before)
      (emitted : event = .disputeResolved blockNumber
        (resolvedDispute (before.disputes blockNumber) publicValues).valid backend)
  | sp1Key (vkey : Bytes32) (call : tx.call = .setSp1ProgramVKey vkey) (owner : tx.msg.sender = before.owner)
      (stored : after = { before with sp1ProgramVKey := vkey }) (emitted : event = .programIdUpdated .sp1 vkey)
  | risc0Key (imageId : Bytes32) (call : tx.call = .setRisc0ImageId imageId) (owner : tx.msg.sender = before.owner)
      (stored : after = { before with risc0ImageId := imageId }) (emitted : event = .programIdUpdated .riscZero imageId)

theorem challenge_cases (oracle : Oracle.State) (msg : Msg) (blockNumber : UInt64) (before after : State) (event : Event)
    (committed : challenge oracle msg blockNumber before = .ok (after, event)) :
    Oracle.isBlockProven oracle blockNumber = true ∧ (before.disputes blockNumber).createdAt = 0 ∧
      after = storeDispute blockNumber (newDispute oracle msg blockNumber) before ∧
      event = .disputeCreated blockNumber msg.sender (oracle.proposals blockNumber).outputRoot := by
  obtain ⟨proven, committed⟩ := TxMachine.guard_passed committed
  obtain ⟨absent, committed⟩ := TxMachine.guard_passed committed
  simp only [Except.ok.injEq, Prod.mk.injEq] at committed
  exact ⟨by simpa using proven, not_not.mp absent, committed.1.symm, committed.2.symm⟩

theorem resolve_cases (v : Verifiers) (blockNumber : UInt64) (publicValues proofBytes : Bytes) (number : UInt8)
    (before after : State) (event : Event)
    (committed : resolve v blockNumber publicValues proofBytes number before = .ok (after, event)) :
    (before.disputes blockNumber).createdAt ≠ 0 ∧ (before.disputes blockNumber).resolved = false ∧
      publicValues.length = 192 ∧ ∃ backend, backendOf number = some backend ∧
        accepts v before backend publicValues proofBytes = true ∧
        after = storeDispute blockNumber (resolvedDispute (before.disputes blockNumber) publicValues) before ∧
        event = .disputeResolved blockNumber (resolvedDispute (before.disputes blockNumber) publicValues).valid
          backend := by
  obtain ⟨found, committed⟩ := TxMachine.guard_passed committed
  obtain ⟨pending, committed⟩ := TxMachine.guard_passed committed
  obtain ⟨length, committed⟩ := TxMachine.guard_passed committed
  cases named : backendOf number with
  | none =>
      rw [named] at committed
      cases committed
  | some backend =>
      simp only [named] at committed
      by_cases accepted : accepts v before backend publicValues proofBytes = true
      · simp only [accepted, if_true, Except.ok.injEq, Prod.mk.injEq] at committed
        exact ⟨found, by simpa using pending, not_not.mp length, backend, rfl, accepted, committed.1.symm,
          committed.2.symm⟩
      · rw [if_neg accepted] at committed
        cases committed

theorem execute_cases (v : Verifiers) (oracle : Oracle.State) (before after : State) (tx : Tx) (event : Event)
    (committed : execute v oracle before tx = .ok (after, event)) : StepKind v oracle before tx after event := by
  cases call : tx.call with
  | challenge blockNumber =>
      rw [execute, call] at committed
      obtain ⟨proven, absent, stored, emitted⟩ := challenge_cases oracle tx.msg blockNumber before after event committed
      exact .challenged blockNumber call proven absent stored emitted
  | resolve blockNumber publicValues proofBytes number =>
      rw [execute, call] at committed
      obtain ⟨found, pending, length, backend, named, accepted, stored, emitted⟩ :=
        resolve_cases v blockNumber publicValues proofBytes number before after event committed
      exact .resolved blockNumber publicValues proofBytes number backend call found pending length named accepted stored
        emitted
  | setSp1ProgramVKey vkey =>
      rw [execute, call] at committed
      obtain ⟨owner, committed⟩ := TxMachine.guard_passed committed
      simp only [Except.ok.injEq, Prod.mk.injEq] at committed
      exact .sp1Key vkey call (not_not.mp owner) committed.1.symm committed.2.symm
  | setRisc0ImageId imageId =>
      rw [execute, call] at committed
      obtain ⟨owner, committed⟩ := TxMachine.guard_passed committed
      simp only [Except.ok.injEq, Prod.mk.injEq] at committed
      exact .risc0Key imageId call (not_not.mp owner) committed.1.symm committed.2.symm

end OpenZk.DisputeGame
