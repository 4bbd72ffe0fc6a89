import OpenZk.DisputeSoundness
import OpenZk.Engine

set_option autoImplicit false

namespace OpenZk

open Words

inductive ContractCall where
  | oracle (call : Oracle.Call)
  | game (call : DisputeGame.Call)

structure TransactionRequest where
  signer : Address
  recipient : Address
  call : ContractCall

structure RpcProofSubmitter where
  rpcUrl : String
  oracleAddress : Address
  disputeAddress : Option Address
  privateKey : String

inductive RpcSubmitterError where
  | contractCall (message : String)
  | unsupportedBackend (backend : ZkvmBackend)
  | disputeAddressNotConfigured

namespace RpcSubmitter

inductive Action where
  | sent (tx : TransactionRequest) (answer : Except String Bytes32)
  | receiptAsked (txHash : Bytes32) (answer : Except String Bytes32)

structure Network where
  parseUrl : String → Except String Unit
  parseKey : String → Except String Address
  send : TransactionRequest → List Action → Except String Bytes32
  -- Asked by the hash of the pending transaction, answered whether or not it reverted.
  getReceipt : Bytes32 → List Action → Except String Bytes32

abbrev Program (β : Type) := Traced Action RpcSubmitterError β

def new (rpcUrl : String) (oracleAddress : Address) (privateKey : String) : RpcProofSubmitter :=
  ⟨rpcUrl, oracleAddress, none, privateKey⟩

def withDisputeAddress (submitter : RpcProofSubmitter) (address : Address) : RpcProofSubmitter :=
  { submitter with disputeAddress := some address }

variable (net : Network) (submitter : RpcProofSubmitter)

def buildProvider : Except RpcSubmitterError Address :=
  match net.parseUrl submitter.rpcUrl with
  | .error reason => .error (.contractCall s!"invalid url: {reason}")
  | .ok _ =>
      match net.parseKey submitter.privateKey with
      | .error reason => .error (.contractCall s!"invalid key: {reason}")
      | .ok signer => .ok signer

def confirm (tx : TransactionRequest) : Program Bytes32 := do
  let pending ← Traced.ask (net.send tx) (.sent tx) .contractCall
  Traced.ask (net.getReceipt pending) (.receiptAsked pending) .contractCall

def submitProof (journal : StateTransitionJournal) (proof : ProofArtifact) : Program Bytes32 := do
  let signer ← Traced.lift (buildProvider net submitter)
  let publicValues := toAbiBytes journal
  match proof.backend with
  | .sp1 => confirm net ⟨signer, submitter.oracleAddress, .oracle (.submitSp1Proof publicValues proof.proofBytes)⟩
  | .riscZero => confirm net ⟨signer, submitter.oracleAddress, .oracle (.submitRisc0Proof publicValues proof.proofBytes)⟩
  | other => throw (.unsupportedBackend other)

def resolveBackend : ZkvmBackend → Except RpcSubmitterError UInt8
  | .sp1 => .ok 0
  | .riscZero => .ok 1
  | other => .error (.unsupportedBackend other)

def resolveDispute (journal : StateTransitionJournal) (proof : ProofArtifact) : Program Bytes32 := do
  let disputeAddress ← Traced.lift (submitter.disputeAddress.elim (.error .disputeAddressNotConfigured) .ok)
  let signer ← Traced.lift (buildProvider net submitter)
  let publicValues := toAbiBytes journal
  let backend ← Traced.lift (resolveBackend proof.backend)
  confirm net
    ⟨signer, disputeAddress, .game (.resolve journal.l2BlockNumber publicValues proof.proofBytes backend)⟩

inductive Operation where
  | submit (journal : StateTransitionJournal) (proof : ProofArtifact)
  | resolve (journal : StateTransitionJournal) (proof : ProofArtifact)

def perform : Operation → Program Bytes32
  | .submit journal proof => submitProof net submitter journal proof
  | .resolve journal proof => resolveDispute net submitter journal proof

def session (operations : List Operation) (history : List Action) : List Action :=
  operations.foldl (fun past operation => Traced.traceOf (perform net submitter operation past)) history

def sentOf : Action → Option TransactionRequest
  | .sent tx _ => some tx
  | .receiptAsked _ _ => none

def sends (trace : List Action) : List TransactionRequest := trace.filterMap sentOf

def contractBackend : ZkvmBackend → Option Backend
  | .sp1 => some .sp1
  | .riscZero => some .riscZero
  | .auto => none
  | .mock => none

inductive Requests : Operation → TransactionRequest → Prop where
  | submission (journal : StateTransitionJournal) (proof : ProofArtifact) (signer : Address) (backend : Backend)
      (chosen : contractBackend proof.backend = some backend) :
      Requests (.submit journal proof)
        ⟨signer, submitter.oracleAddress, .oracle (Oracle.submit ⟨backend, toAbiBytes journal, proof.proofBytes⟩)⟩
  | resolution (journal : StateTransitionJournal) (proof : ProofArtifact) (signer disputeAddress : Address)
      (number : UInt8) (backend : Backend) (configured : submitter.disputeAddress = some disputeAddress)
      (chosen : contractBackend proof.backend = some backend) (named : DisputeGame.backendOf number = some backend) :
      Requests (.resolve journal proof)
        ⟨signer, disputeAddress, .game (.resolve journal.l2BlockNumber (toAbiBytes journal) proof.proofBytes number)⟩

variable {net submitter}

theorem sends_snoc (history : List Action) (action : Action) :
    sends (history ++ [action]) = sends history ++ (sentOf action).toList := by
  rw [sends, List.filterMap_append]
  cases action <;> rfl

theorem confirm_sends (tx : TransactionRequest) (history : List Action) :
    sends (Traced.traceOf (confirm net tx history)) = sends history ++ [tx] := by
  change sends (Traced.traceOf (EStateM.bind _ _ history)) = _
  unfold EStateM.bind Traced.ask
  cases net.send tx history with
  | error reason => exact sends_snoc history _
  | ok pending =>
      dsimp only
      cases net.getReceipt pending (history ++ [.sent tx (.ok pending)]) with
      | error reason =>
          rw [Traced.traceOf, sends_snoc, sends_snoc]
          exact List.append_nil _
      | ok txHash =>
          rw [Traced.traceOf, sends_snoc, sends_snoc]
          exact List.append_nil _

theorem sends_after_lift {β : Type} (outcome : Except RpcSubmitterError β) (next : β → Program Bytes32) (history : List Action)
    (tx : TransactionRequest)
    (member : tx ∈ sends (Traced.traceOf ((do let value ← Traced.lift outcome; next value : Program Bytes32) history))) :
    tx ∈ sends history ∨ ∃ value, outcome = .ok value ∧ tx ∈ sends (Traced.traceOf (next value history)) := by
  cases outcome with
  | error reason => exact .inl member
  | ok value => exact .inr ⟨value, rfl, member⟩

theorem submit_proof_sends (journal : StateTransitionJournal) (proof : ProofArtifact) (history : List Action)
    (tx : TransactionRequest) (member : tx ∈ sends (Traced.traceOf (submitProof net submitter journal proof history))) :
    tx ∈ sends history ∨ Requests submitter (.submit journal proof) tx := by
  rcases sends_after_lift _ _ history tx member with earlier | ⟨signer, _, later⟩
  · exact .inl earlier
  · cases backend : proof.backend with
    | sp1 =>
        simp only [backend, confirm_sends, List.mem_append, List.mem_singleton] at later
        rcases later with earlier | rfl
        · exact .inl earlier
        · exact .inr (.submission journal proof signer .sp1 (by rw [backend]; rfl))
    | riscZero =>
        simp only [backend, confirm_sends, List.mem_append, List.mem_singleton] at later
        rcases later with earlier | rfl
        · exact .inl earlier
        · exact .inr (.submission journal proof signer .riscZero (by rw [backend]; rfl))
    | auto =>
        rw [backend] at later
        exact .inl later
    | mock =>
        rw [backend] at later
        exact .inl later

theorem resolve_backend_ok (backend : ZkvmBackend) (number : UInt8) (chosen : resolveBackend backend = .ok number) :
    ∃ contract, contractBackend backend = some contract ∧ DisputeGame.backendOf number = some contract := by
  cases backend with
  | sp1 =>
      obtain rfl := Except.ok.inj chosen
      exact ⟨.sp1, rfl, rfl⟩
  | riscZero =>
      obtain rfl := Except.ok.inj chosen
      exact ⟨.riscZero, rfl, rfl⟩
  | auto => cases chosen
  | mock => cases chosen

theorem resolve_dispute_sends (journal : StateTransitionJournal) (proof : ProofArtifact) (history : List Action)
    (tx : TransactionRequest) (member : tx ∈ sends (Traced.traceOf (resolveDispute net submitter journal proof history))) :
    tx ∈ sends history ∨ Requests submitter (.resolve journal proof) tx := by
  rcases sends_after_lift _ _ history tx member with earlier | ⟨disputeAddress, address, afterAddress⟩
  · exact .inl earlier
  rcases sends_after_lift _ _ history tx afterAddress with earlier | ⟨signer, _, afterProvider⟩
  · exact .inl earlier
  rcases sends_after_lift _ _ history tx afterProvider with earlier | ⟨number, chosen, later⟩
  · exact .inl earlier
  obtain ⟨backend, supported, named⟩ := resolve_backend_ok proof.backend number chosen
  have configured : submitter.disputeAddress = some disputeAddress := by
    cases known : submitter.disputeAddress with
    | none =>
        rw [known] at address
        cases address
    | some configured =>
        rw [known] at address
        rw [Except.ok.inj address]
  rw [confirm_sends, List.mem_append, List.mem_singleton] at later
  rcases later with earlier | rfl
  · exact .inl earlier
  · exact .inr (.resolution journal proof signer disputeAddress number backend configured supported named)

theorem session_sends (operations : List Operation) (history : List Action) (tx : TransactionRequest)
    (member : tx ∈ sends (session net submitter operations history)) :
    tx ∈ sends history ∨ ∃ operation ∈ operations, Requests submitter operation tx := by
  induction operations generalizing history with
  | nil => exact .inl member
  | cons operation rest ih =>
      rcases ih _ member with performed | ⟨later, inRest, requested⟩
      · have sent : tx ∈ sends history ∨ Requests submitter operation tx := by
          cases operation with
          | submit journal proof => exact submit_proof_sends journal proof history tx performed
          | resolve journal proof => exact resolve_dispute_sends journal proof history tx performed
        exact sent.imp id fun requested => ⟨operation, List.mem_cons_self, requested⟩
      · exact .inr ⟨later, List.mem_cons_of_mem _ inRest, requested⟩

end RpcSubmitter

end OpenZk
