import OpenZk.Engine

set_option autoImplicit false

namespace OpenZk

open Words

/-- The two zkVM libraries and the bincode encoding of their proofs. A proof carries the public
values that its program committed. -/
structure Sp1Sdk where
  Proof : Type
  ProvingKey : Type
  VerifyingKey : Type
  Stdin : Type
  publicValues : Proof → Bytes
  serialize : Proof → Except String Bytes
  deserialize : Bytes → Except String Proof
  setup : Bytes → Except String ProvingKey
  verifyingKey : ProvingKey → VerifyingKey
  bytes32Raw : VerifyingKey → Bytes32
  execute : Bytes → Stdin → Except String (Bytes × UInt64)
  prove : ProvingKey → Stdin → ProvingMode → Except String Proof
  verify : Proof → VerifyingKey → Except String Unit

inductive ProverOpts where
  | default
  | succinct
  | groth16
deriving DecidableEq

structure RiscZeroZkvm where
  Receipt : Type
  ExecutorEnv : Type
  journal : Receipt → Bytes
  serialize : Receipt → Except String Bytes
  deserialize : Bytes → Except String Receipt
  write : Bytes → Except String ExecutorEnv
  build : ExecutorEnv → Except String ExecutorEnv
  proveWithOpts : ExecutorEnv → Bytes → ProverOpts → Except String (Receipt × UInt64)
  verify : Receipt → Vector UInt32 8 → Except String Unit

structure Sp1Program where
  elf : Bytes

structure RiscZeroProgram where
  imageId : Vector UInt32 8
  elf : Bytes

def imageIdToBytes (imageId : Vector UInt32 8) : Bytes32 where
  data := imageId.toList.flatMap fun word => toLittleEndian 4 word.toNat
  size := by simp [List.length_flatMap, to_little_endian_length]

inductive Sp1ProverError where
  | provingFailed (message : String)
  | verificationFailed (message : String)
deriving DecidableEq

inductive RiscZeroProverError where
  | provingFailed (message : String)
  | verificationFailed (message : String)
deriving DecidableEq

namespace Sp1ProverBackend

variable (sdk : Sp1Sdk)

def prove (program : Sp1Program) (stdin : sdk.Stdin) (mode : ProvingMode) : Except Sp1ProverError ProofArtifact :=
  match mode with
  | .execute =>
      match sdk.execute program.elf stdin with
      | .error reason => .error (.provingFailed reason)
      | .ok (publicValues, cycles) => .ok ⟨.sp1, mode, [], publicValues, zeroWord, some cycles⟩
  | .compressed | .groth16 =>
      match sdk.setup program.elf with
      | .error reason => .error (.provingFailed s!"setup: {reason}")
      | .ok pk =>
          match sdk.prove pk stdin mode with
          | .error reason => .error (.provingFailed reason)
          | .ok proof =>
              match sdk.serialize proof with
              | .error reason => .error (.provingFailed reason)
              | .ok proofBytes =>
                  .ok ⟨.sp1, mode, proofBytes, sdk.publicValues proof, sdk.bytes32Raw (sdk.verifyingKey pk), none⟩

def verify (program : Sp1Program) (proof : ProofArtifact) : Except Sp1ProverError Bool :=
  if proof.mode = .execute then .ok true
  else
    match sdk.deserialize proof.proofBytes with
    | .error reason => .error (.verificationFailed reason)
    | .ok sp1Proof =>
        match sdk.setup program.elf with
        | .error reason => .error (.verificationFailed s!"setup: {reason}")
        | .ok pk =>
            match sdk.verify sp1Proof (sdk.verifyingKey pk) with
            | .error reason => .error (.verificationFailed reason)
            | .ok _ => .ok true

def Accepts (program : Sp1Program) (proofBytes values : Bytes) : Prop :=
  ∃ proof pk, sdk.deserialize proofBytes = .ok proof ∧ sdk.setup program.elf = .ok pk ∧
    sdk.verify proof (sdk.verifyingKey pk) = .ok () ∧ sdk.publicValues proof = values

end Sp1ProverBackend

namespace RiscZeroProverBackend

variable (zkvm : RiscZeroZkvm)

def buildEnv (oracleData : Bytes) : Except RiscZeroProverError zkvm.ExecutorEnv :=
  match zkvm.write oracleData with
  | .error reason => .error (.provingFailed s!"write oracle_data: {reason}")
  | .ok builder =>
      match zkvm.build builder with
      | .error reason => .error (.provingFailed reason)
      | .ok env => .ok env

def opts : ProvingMode → ProverOpts
  | .execute => .default
  | .compressed => .succinct
  | .groth16 => .groth16

def prove (program : RiscZeroProgram) (oracleData : Bytes) (mode : ProvingMode) : Except RiscZeroProverError ProofArtifact :=
  match buildEnv zkvm oracleData with
  | .error failure => .error failure
  | .ok env =>
      match zkvm.proveWithOpts env program.elf (opts mode) with
      | .error reason => .error (.provingFailed reason)
      | .ok (receipt, totalCycles) =>
          if mode = .execute then
            .ok ⟨.riscZero, mode, [], zkvm.journal receipt, imageIdToBytes program.imageId, some totalCycles⟩
          else
            match zkvm.serialize receipt with
            | .error reason => .error (.provingFailed reason)
            | .ok receiptBytes =>
                .ok ⟨.riscZero, mode, receiptBytes, zkvm.journal receipt, imageIdToBytes program.imageId, some totalCycles⟩

def verify (program : RiscZeroProgram) (proof : ProofArtifact) : Except RiscZeroProverError Bool :=
  if proof.mode = .execute then .ok true
  else
    match zkvm.deserialize proof.proofBytes with
    | .error reason => .error (.verificationFailed reason)
    | .ok receipt =>
        match zkvm.verify receipt program.imageId with
        | .error reason => .error (.verificationFailed reason)
        | .ok _ => .ok true

def Accepts (program : RiscZeroProgram) (proofBytes values : Bytes) : Prop :=
  ∃ receipt, zkvm.deserialize proofBytes = .ok receipt ∧ zkvm.verify receipt program.imageId = .ok () ∧
    zkvm.journal receipt = values

end RiscZeroProverBackend

namespace Verification

variable {ε : Type}

def Covers (verify : ProofArtifact → Except ε Bool) (Accepts : Bytes → Bytes → Prop) (artifact : ProofArtifact) : Prop :=
  verify artifact = .ok true → Accepts artifact.proofBytes artifact.publicValues

structure ByProof (verify : ProofArtifact → Except ε Bool) (Accepts : Bytes → Bytes → Prop) : Prop where
  verdict : ∀ artifact, artifact.mode ≠ .execute →
    (verify artifact = .ok true ↔ ∃ values, Accepts artifact.proofBytes values)
  embedded : ∀ proofBytes values others, Accepts proofBytes values → Accepts proofBytes others → values = others

structure Verdict (verify : ProofArtifact → Except ε Bool) (Accepts : Bytes → Bytes → Prop) (artifact : ProofArtifact) :
    Prop where
  covers : Covers verify Accepts artifact ↔ ∀ values, Accepts artifact.proofBytes values → artifact.publicValues = values
  accepts : verify artifact = .ok true → ∃ values, Accepts artifact.proofBytes values
  altered : ∀ values, verify { artifact with publicValues := values } = .ok true ↔ verify artifact = .ok true

theorem verdict_by_proof (verify : ProofArtifact → Except ε Bool) (Accepts : Bytes → Bytes → Prop)
    (decides : ByProof verify Accepts) (artifact : ProofArtifact) (proved : artifact.mode ≠ .execute) :
    Verdict verify Accepts artifact := by
  refine ⟨⟨?_, ?_⟩, (decides.verdict artifact proved).mp, ?_⟩
  · intro covers values accepts
    have verified := (decides.verdict artifact proved).mpr ⟨values, accepts⟩
    exact decides.embedded _ _ _ (covers verified) accepts
  · intro embedded verified
    obtain ⟨values, accepts⟩ := (decides.verdict artifact proved).mp verified
    rw [embedded values accepts]
    exact accepts
  · intro values
    rw [decides.verdict artifact proved, decides.verdict { artifact with publicValues := values } proved]

end Verification

theorem sp1_by_proof (sdk : Sp1Sdk) (program : Sp1Program) :
    Verification.ByProof (Sp1ProverBackend.verify sdk program) (Sp1ProverBackend.Accepts sdk program) := by
  refine ⟨?_, ?_⟩
  · intro artifact proved
    rw [Sp1ProverBackend.verify, if_neg proved]
    refine ⟨?_, ?_⟩
    · intro verified
      split at verified
      · cases verified
      · rename_i proof decoded
        split at verified
        · cases verified
        · rename_i pk keyed
          split at verified
          · cases verified
          · rename_i accepted
            exact ⟨_, proof, pk, decoded, keyed, accepted, rfl⟩
    · intro accepts
      obtain ⟨_, proof, pk, decoded, keyed, accepted, _⟩ := accepts
      simp only [decoded, keyed, accepted]
  · intro proofBytes values others first second
    obtain ⟨proof, _, decoded, _, _, rfl⟩ := first
    obtain ⟨again, _, decodedAgain, _, _, rfl⟩ := second
    rw [Except.ok.inj (decoded.symm.trans decodedAgain)]

theorem risc_zero_by_proof (zkvm : RiscZeroZkvm) (program : RiscZeroProgram) :
    Verification.ByProof (RiscZeroProverBackend.verify zkvm program) (RiscZeroProverBackend.Accepts zkvm program) := by
  refine ⟨?_, ?_⟩
  · intro artifact proved
    rw [RiscZeroProverBackend.verify, if_neg proved]
    refine ⟨?_, ?_⟩
    · intro verified
      split at verified
      · cases verified
      · rename_i receipt decoded
        split at verified
        · cases verified
        · rename_i accepted
          exact ⟨_, receipt, decoded, accepted, rfl⟩
    · intro accepts
      obtain ⟨_, receipt, decoded, accepted, _⟩ := accepts
      simp only [decoded, accepted]
  · intro proofBytes values others first second
    obtain ⟨receipt, decoded, _, rfl⟩ := first
    obtain ⟨again, decodedAgain, _, rfl⟩ := second
    rw [Except.ok.inj (decoded.symm.trans decodedAgain)]

theorem verify_verdicts (sdk : Sp1Sdk) (zkvm : RiscZeroZkvm) (sp1Program : Sp1Program) (risc0Program : RiscZeroProgram)
    (artifact : ProofArtifact) (proved : artifact.mode ≠ .execute) :
    Verification.Verdict (Sp1ProverBackend.verify sdk sp1Program) (Sp1ProverBackend.Accepts sdk sp1Program) artifact ∧
      Verification.Verdict (RiscZeroProverBackend.verify zkvm risc0Program)
        (RiscZeroProverBackend.Accepts zkvm risc0Program) artifact :=
  ⟨Verification.verdict_by_proof _ _ (sp1_by_proof sdk sp1Program) artifact proved,
    Verification.verdict_by_proof _ _ (risc_zero_by_proof zkvm risc0Program) artifact proved⟩

def echoSdk : Sp1Sdk where
  Proof := Bytes
  ProvingKey := Bytes
  VerifyingKey := Bytes
  Stdin := Bytes
  publicValues := id
  serialize := .ok
  deserialize := .ok
  setup := .ok
  verifyingKey := id
  bytes32Raw := pack
  execute := fun _ stdin => .ok (stdin, 0)
  prove := fun _ stdin _ => .ok stdin
  verify := fun _ _ => .ok ()

def echoZkvm : RiscZeroZkvm where
  Receipt := Bytes
  ExecutorEnv := Bytes
  journal := id
  serialize := .ok
  deserialize := .ok
  write := .ok
  build := .ok
  proveWithOpts := fun env _ _ => .ok (env, 0)
  verify := fun _ _ => .ok ()

def echoSp1 : Sp1Program := ⟨[0x7f]⟩

def echoRisc0 : RiscZeroProgram := ⟨Vector.replicate 8 0, [0x7f]⟩

def echoArtifact (backend : ZkvmBackend) (programId : Bytes32) (publicValues : Bytes) (cycleCount : Option UInt64) :
    ProofArtifact := ⟨backend, .groth16, [7], publicValues, programId, cycleCount⟩

theorem verify_verdicts_sample :
    Verification.Verdict (Sp1ProverBackend.verify echoSdk echoSp1) (Sp1ProverBackend.Accepts echoSdk echoSp1)
        (echoArtifact .sp1 (pack [0x7f]) [7] none) ∧
      Verification.Verdict (RiscZeroProverBackend.verify echoZkvm echoRisc0)
        (RiscZeroProverBackend.Accepts echoZkvm echoRisc0) (echoArtifact .sp1 (pack [0x7f]) [7] none) :=
  verify_verdicts echoSdk echoZkvm echoSp1 echoRisc0 (echoArtifact .sp1 (pack [0x7f]) [7] none) (by decide)

theorem altered_values_verify :
    (Sp1ProverBackend.prove echoSdk echoSp1 [7] .groth16 = .ok (echoArtifact .sp1 (pack [0x7f]) [7] none) ∧
        Sp1ProverBackend.verify echoSdk echoSp1 (echoArtifact .sp1 (pack [0x7f]) [8] none) = .ok true ∧
        ¬ Verification.Covers (Sp1ProverBackend.verify echoSdk echoSp1) (Sp1ProverBackend.Accepts echoSdk echoSp1)
          (echoArtifact .sp1 (pack [0x7f]) [8] none)) ∧
      RiscZeroProverBackend.prove echoZkvm echoRisc0 [7] .groth16 =
          .ok (echoArtifact .riscZero (imageIdToBytes echoRisc0.imageId) [7] (some 0)) ∧
        RiscZeroProverBackend.verify echoZkvm echoRisc0
          (echoArtifact .riscZero (imageIdToBytes echoRisc0.imageId) [8] (some 0)) = .ok true ∧
        ¬ Verification.Covers (RiscZeroProverBackend.verify echoZkvm echoRisc0)
          (RiscZeroProverBackend.Accepts echoZkvm echoRisc0)
          (echoArtifact .riscZero (imageIdToBytes echoRisc0.imageId) [8] (some 0)) := by
  refine ⟨⟨rfl, rfl, ?_⟩, rfl, rfl, ?_⟩
  · intro covers
    obtain ⟨proof, _, decoded, _, _, embedded⟩ := covers rfl
    cases decoded
    cases embedded
  · intro covers
    obtain ⟨receipt, decoded, _, embedded⟩ := covers rfl
    cases decoded
    cases embedded

end OpenZk
