import OpenZk.BootAgreement
import OpenZk.ClientSoundness
import OpenZk.EstimateTotals

set_option autoImplicit false

namespace OpenZk

open Words

structure ProveArgs where
  startBlock : UInt64
  endBlock : UInt64
  config : String

namespace MockProverBackend

def prove (mode : ProvingMode) : ProofArtifact := ⟨.mock, mode, [0xde, 0xad], [], zeroWord, some 0⟩

end MockProverBackend

namespace Prove

section Command

variable (services : Services)

def runProver (intent : IntentResolver.ResolvedIntent) (witness : RawWitness) : Except CliError ProofArtifact :=
  match intent.backend with
  | .mock => .ok (MockProverBackend.prove intent.provingMode)
  | .sp1 =>
      if services.features.sp1 then
        (Sp1ProverBackend.prove services.sdk services.sp1Program (services.writeStdin witness.oracleData)
          intent.provingMode).mapError .sp1
      else .error (Estimate.notAvailable .sp1)
  | .riscZero =>
      if services.features.risc0 then
        (RiscZeroProverBackend.prove services.zkvm services.risc0Program witness.oracleData intent.provingMode).mapError .risc0
      else .error (Estimate.notAvailable .riscZero)
  | .auto => .error (Estimate.notAvailable .auto)

def prove (config : EstimateConfig) (intent : IntentResolver.ResolvedIntent) (args : ProveArgs) : Except CliError ProofArtifact :=
  if Estimate.isMockMode services config then .ok (MockProverBackend.prove intent.provingMode)
  else if services.features.kona then
    match Estimate.generateWitness services config args.startBlock args.endBlock with
    | .error failure => .error failure
    | .ok witness => runProver services intent witness
  else
    .error (.message ("real proving requires the `kona` feature — compile with: " ++
      "cargo build --bin open-zk --features kona"))

def execute (args : ProveArgs) : Except CliError ProofArtifact :=
  match services.fromFile args.config with
  | .error reason => .error (.message reason)
  | .ok config =>
      match config.toSdkConfig with
      | .error reason => .error (.message reason)
      | .ok sdkConfig => prove services config sdkConfig.resolve args

end Command

def opNodeUrl (config : EstimateConfig) : String := config.opNodeUrl.getD "http://127.0.0.1:7545"

structure Guest where
  decode : Bytes → Option PreimageMap
  kona : Kona
  factory : kona.DaSourceFactory

def Guest.Commits (guest : Guest) (oracleData values : Bytes) : Prop :=
  ∃ store, PreimageStore.fromRkyvBytes guest.decode oracleData = some store ∧
    RangeGuest.run guest.kona guest.factory store = some values

/-- What is assumed of the zkVM libraries: a program runs on the input written for it, and the
public values of a proof are what the run committed. -/
structure RunsGuest (services : Services) (guest : Guest) : Prop where
  sp1Executes : ∀ oracleData values cycles,
    services.sdk.execute services.sp1Program.elf (services.writeStdin oracleData) = .ok (values, cycles) →
    guest.Commits oracleData values
  sp1Proves : ∀ oracleData pk mode proof, services.sdk.setup services.sp1Program.elf = .ok pk →
    services.sdk.prove pk (services.writeStdin oracleData) mode = .ok proof →
    guest.Commits oracleData (services.sdk.publicValues proof)
  risc0Proves : ∀ oracleData builder env opts receipt cycles, services.zkvm.write oracleData = .ok builder →
    services.zkvm.build builder = .ok env →
    services.zkvm.proveWithOpts env services.risc0Program.elf opts = .ok (receipt, cycles) →
    guest.Commits oracleData (services.zkvm.journal receipt)

def world (services : Services) (config : EstimateConfig) (guest : Guest) (chain : Composition.L2Chain) : Composition.World where
  env := services.witness
  provider := Estimate.witnessProvider config (opNodeUrl config)
  decode := guest.decode
  kona := guest.kona
  factory := guest.factory
  chain := chain

structure Reports (services : Services) (config : EstimateConfig) (args : ProveArgs) (journal : StateTransitionJournal) :
    Prop where
  l1Head : services.latestBlock config.network.l1RpcUrl = .ok (some journal.l1Head)
  preRoot : services.outputRoot (opNodeUrl config) args.startBlock = .ok (some (.ok journal.l2PreRoot))
  postRoot : WitnessProvider.fetchOutputRoot services.witness (Estimate.witnessProvider config (opNodeUrl config))
    args.endBlock = .ok journal.l2PostRoot
  number : journal.l2BlockNumber = args.endBlock
  unnamed : journal.rollupConfigHash = zeroWord ∧ journal.programId = zeroWord

variable {services : Services} {guest : Guest}

theorem sp1_commits (runs : RunsGuest services guest) (oracleData : Bytes) (mode : ProvingMode) (artifact : ProofArtifact)
    (produced : Sp1ProverBackend.prove services.sdk services.sp1Program (services.writeStdin oracleData) mode = .ok artifact) :
    artifact.backend = .sp1 ∧ guest.Commits oracleData artifact.publicValues := by
  rw [Sp1ProverBackend.prove.eq_def] at produced
  split at produced
  · split at produced
    · cases produced
    · rename_i values cycles executed
      cases produced
      exact ⟨rfl, runs.sp1Executes oracleData values cycles executed⟩
  all_goals
    split at produced
    · cases produced
    · rename_i pk keyed
      split at produced
      · cases produced
      · rename_i proof proved
        split at produced
        · cases produced
        · cases produced
          exact ⟨rfl, runs.sp1Proves oracleData pk _ proof keyed proved⟩

theorem risc_zero_commits (runs : RunsGuest services guest) (oracleData : Bytes) (mode : ProvingMode) (artifact : ProofArtifact)
    (produced : RiscZeroProverBackend.prove services.zkvm services.risc0Program oracleData mode = .ok artifact) :
    artifact.backend = .riscZero ∧ guest.Commits oracleData artifact.publicValues := by
  rw [RiscZeroProverBackend.prove] at produced
  split at produced
  · cases produced
  · rename_i env built
    rw [RiscZeroProverBackend.buildEnv] at built
    split at built
    · cases built
    · rename_i builder written
      split at built
      · cases built
      · rename_i finished ready
        cases built
        split at produced
        · cases produced
        · rename_i receipt cycles proved
          have committed := runs.risc0Proves oracleData builder env _ receipt cycles written ready proved
          split at produced
          · cases produced
            exact ⟨rfl, committed⟩
          · split at produced
            · cases produced
            · cases produced
              exact ⟨rfl, committed⟩

theorem map_error_ok {ε ε' β : Type} (outcome : Except ε β) (raise : ε → ε') (value : β)
    (mapped : outcome.mapError raise = .ok value) : outcome = .ok value := by
  cases outcome with
  | error reason => cases mapped
  | ok found =>
      cases mapped
      rfl

theorem run_prover_commits (runs : RunsGuest services guest) (intent : IntentResolver.ResolvedIntent) (witness : RawWitness)
    (artifact : ProofArtifact) (real : intent.backend ≠ .mock) (produced : runProver services intent witness = .ok artifact) :
    artifact.backend = intent.backend ∧ guest.Commits witness.oracleData artifact.publicValues := by
  rw [runProver] at produced
  cases backend : intent.backend with
  | mock => exact absurd backend real
  | sp1 =>
      simp only [backend] at produced
      split at produced
      · exact sp1_commits runs _ _ artifact (map_error_ok _ _ _ produced)
      · cases produced
  | riscZero =>
      simp only [backend] at produced
      split at produced
      · exact risc_zero_commits runs _ _ artifact (map_error_ok _ _ _ produced)
      · cases produced
  | auto =>
      simp only [backend] at produced
      cases produced

theorem generate_witness_asked (config : EstimateConfig) (startBlock endBlock : UInt64) (witness : RawWitness)
    (generated : Estimate.generateWitness services config startBlock endBlock = .ok witness) :
    ∃ l1Head startRoot, services.latestBlock config.network.l1RpcUrl = .ok (some l1Head) ∧
      services.outputRoot (opNodeUrl config) startBlock = .ok (some (.ok startRoot)) ∧
      WitnessProvider.generateWitness services.witness (Estimate.witnessProvider config (opNodeUrl config))
        (Estimate.witnessRequest l1Head startBlock endBlock startRoot) = .ok witness := by
  rw [Estimate.generateWitness] at generated
  split at generated
  · cases generated
  · split at generated
    · cases generated
    · cases generated
    · rename_i l1Head latest
      dsimp only at generated
      split at generated
      · cases generated
      · split at generated
        · cases generated
        · cases generated
        · cases generated
        · rename_i startRoot answered
          split at generated
          · cases generated
          · rename_i made collected
            cases generated
            exact ⟨l1Head, startRoot, latest, answered, collected⟩

theorem prove_publishes (runs : RunsGuest services guest) (chain : Composition.L2Chain) (config : EstimateConfig)
    (loads : Composition.LoadsInjected (world services config guest chain)) (intent : IntentResolver.ResolvedIntent)
    (args : ProveArgs) (artifact : ProofArtifact) (unmocked : Estimate.isMockMode services config = false)
    (real : intent.backend ≠ .mock) (produced : prove services config intent args = .ok artifact) :
    artifact.backend = intent.backend ∧
      ∃ journal, artifact.publicValues = toAbiBytes journal ∧ Reports services config args journal := by
  rw [prove, unmocked, if_neg Bool.false_ne_true] at produced
  split at produced
  · split at produced
    · cases produced
    · rename_i witness generated
      obtain ⟨backend, store, decoded, ran⟩ := run_prover_commits runs intent witness artifact real produced
      obtain ⟨l1Head, startRoot, latest, root, collected⟩ := generate_witness_asked config _ _ witness generated
      obtain ⟨_, claimed, path, hash, _, _, configured, hashed, _, fetched, _, _⟩ :=
        WitnessProvider.generate_witness_ok _ _ _ witness collected
      let run : Composition.GuestRun (world services config guest chain)
          (Estimate.witnessRequest l1Head args.startBlock args.endBlock startRoot) :=
        ⟨path, hash, claimed, witness, store, artifact.publicValues, configured, hashed, fetched, collected, decoded, ran⟩
      exact ⟨backend, run.journal, (run.both_sides loads).2, latest, root, fetched, rfl, rfl, rfl⟩
  · cases produced

/-- From the nodes to the contract: the client mines the very bytes that the proof vouches for, and
once their verifier accepts them on a free block, what the nodes said is on the chain for good. -/
theorem prove_reaches_oracle (services : Services) (guest : Guest) (runs : RunsGuest services guest)
    (chain : Composition.L2Chain) (config : EstimateConfig)
    (loads : Composition.LoadsInjected (world services config guest chain)) (intent : IntentResolver.ResolvedIntent)
    (args : ProveArgs) (artifact : ProofArtifact) (unmocked : Estimate.isMockMode services config = false)
    (real : intent.backend ≠ .mock) (produced : prove services config intent args = .ok artifact)
    (v : Verifiers) (d : System.Deployment) (contracts : System.Contracts) (net : RpcSubmitter.Network)
    (submitter : RpcProofSubmitter) (timestamp : BitVec 256) (front back : List System.Tx) :
    ∃ journal, artifact.publicValues = toAbiBytes journal ∧ Reports services config args journal ∧
      ∀ request tx, request ∈ RpcSubmitter.sends (RpcSubmitter.session net submitter [.submit journal artifact] []) →
        System.mined contracts timestamp request = some tx →
        ∃ backend, RpcSubmitter.contractBackend intent.backend = some backend ∧
          tx = .oracle ⟨⟨request.signer, timestamp⟩, Oracle.submit ⟨backend, artifact.publicValues, artifact.proofBytes⟩⟩ ∧
          (Oracle.accepts v (System.run v (System.deploy d) front).oracle
              ⟨backend, artifact.publicValues, artifact.proofBytes⟩ = true →
            journal.l2PostRoot ≠ zeroWord →
            Oracle.isBlockProven (System.run v (System.deploy d) (front ++ tx :: back)).oracle args.endBlock = true ∧
              (Oracle.isBlockProven (System.run v (System.deploy d) front).oracle args.endBlock = false →
                StoredAs (System.run v (System.deploy d) (front ++ tx :: back)).oracle journal)) := by
  obtain ⟨chosen, journal, bytes, reports⟩ := prove_publishes runs chain config loads intent args artifact unmocked real produced
  refine ⟨journal, bytes, reports, ?_⟩
  intro request tx sent reached
  obtain ⟨backend, supported, rfl⟩ :=
    System.client_submission_request contracts net submitter journal artifact request timestamp tx sent reached
  rw [chosen] at supported
  rw [bytes]
  refine ⟨backend, supported, rfl, fun accepted nonzero => ?_⟩
  obtain ⟨proven, stored⟩ := System.mined_submission_stays v d ⟨request.signer, timestamp⟩ backend journal
    artifact.proofBytes front back accepted nonzero
  rw [← reports.number]
  refine ⟨proven, fun free => ?_⟩
  rw [free] at stored
  exact System.stored_as_of_proposal _ _ journal stored

def guestProve (oracleData : Bytes) : Except String Bytes :=
  match (PreimageStore.fromRkyvBytes PreimageStore.unarchive oracleData).bind
      (RangeGuest.run RangeGuest.sampleKona RangeGuest.sampleFactory) with
  | none => .error "the guest panicked"
  | some values => .ok values

def guestSdk : Sp1Sdk :=
  { echoSdk with
    execute := fun _ stdin => (guestProve stdin).map (·, 0)
    prove := fun _ stdin _ => guestProve stdin }

def guestZkvm : RiscZeroZkvm := { echoZkvm with proveWithOpts := fun env _ _ => (guestProve env).map (·, 0) }

def sampleServices : Services :=
  { Estimate.sampleServices with
    sdk := guestSdk
    writeStdin := id
    zkvm := guestZkvm }

def sampleGuest : Guest := ⟨PreimageStore.unarchive, RangeGuest.sampleKona, RangeGuest.sampleFactory⟩

theorem guest_prove_commits (oracleData values : Bytes) (proved : guestProve oracleData = .ok values) :
    sampleGuest.Commits oracleData values := by
  rw [guestProve] at proved
  split at proved
  · cases proved
  · rename_i committed ran
    cases proved
    obtain ⟨store, decoded, ran⟩ := Option.bind_eq_some_iff.mp ran
    exact ⟨store, decoded, ran⟩

theorem guest_map_commits (oracleData values : Bytes) (cycles : UInt64)
    (proved : (guestProve oracleData).map (·, (0 : UInt64)) = .ok (values, cycles)) : sampleGuest.Commits oracleData values := by
  cases outcome : guestProve oracleData with
  | error reason =>
      rw [outcome] at proved
      cases proved
  | ok committed =>
      rw [outcome] at proved
      cases proved
      exact guest_prove_commits _ _ outcome

theorem sample_runs : RunsGuest sampleServices sampleGuest := by
  refine ⟨?_, ?_, ?_⟩
  · exact guest_map_commits
  · intro oracleData pk mode proof _ proved
    exact guest_prove_commits oracleData proof proved
  · intro oracleData builder env opts receipt cycles written built proved
    cases written
    cases built
    exact guest_map_commits _ _ _ proved

theorem sample_loads : Composition.LoadsInjected (world sampleServices Estimate.sampleConfig sampleGuest Composition.sampleChain) :=
  fun host store boot collected loaded => Composition.sample_honest.boot host store boot collected loaded

def sampleJournal : StateTransitionJournal :=
  ⟨wordOfNat 0xaa, Composition.sampleChain.root 1, Composition.sampleChain.root 1, 1, zeroWord, zeroWord⟩

def sampleArtifact : ProofArtifact :=
  ⟨.sp1, .groth16, toAbiBytes sampleJournal, toAbiBytes sampleJournal, pack [0x7f], none⟩

theorem sample_guest_proves : guestProve (PreimageStore.archive (WitnessProvider.injectLocal
    (Composition.sampleLocalInputs (Estimate.sampleHost 1 1)) (Estimate.samplePreimages 1))) = .ok (toAbiBytes sampleJournal) := by
  have decoded := PreimageStore.archive_accepted (WitnessProvider.injectLocal
    (Composition.sampleLocalInputs (Estimate.sampleHost 1 1)) (Estimate.samplePreimages 1))
  have collected : Composition.Collected Composition.sampleWorld (Estimate.sampleHost 1 1) _ :=
    ⟨_, Estimate.sample_collected 1 1, decoded⟩
  obtain ⟨agreed, root, answers, _⟩ := Composition.sample_answers (Estimate.sampleHost 1 1) _ collected
  have same : 1 = agreed := Composition.sample_roots_distinct root
  subst same
  have ran := RangeGuest.sample_extension _ _ _ 1 1 answers (UInt64.le_refl 1)
  rw [guestProve, decoded, Option.bind_some, RangeGuest.run, ran]
  rfl

theorem sample_produced :
    prove sampleServices Estimate.sampleConfig Estimate.sampleIntent ⟨1, 1, "open-zk.toml"⟩ = .ok sampleArtifact := by
  obtain ⟨bootInfo, made⟩ := Estimate.sample_witness 1 1
  have unmocked : Estimate.isMockMode sampleServices Estimate.sampleConfig = false := rfl
  have kona : sampleServices.features.kona = true := rfl
  have witness : Estimate.generateWitness sampleServices Estimate.sampleConfig 1 1 = _ := made
  have backend (witness : RawWitness) : runProver sampleServices Estimate.sampleIntent witness =
      (Sp1ProverBackend.prove guestSdk echoSp1 witness.oracleData .groth16).mapError .sp1 := rfl
  have proof (stdin values : Bytes) (proved : guestProve stdin = .ok values) :
      Sp1ProverBackend.prove guestSdk echoSp1 stdin .groth16 = .ok ⟨.sp1, .groth16, values, values, pack [0x7f], none⟩ := by
    simp only [Sp1ProverBackend.prove, guestSdk, echoSdk, echoSp1, proved]
    rfl
  rw [prove, unmocked, if_neg Bool.false_ne_true, kona, if_pos rfl, witness]
  dsimp only
  rw [backend, proof _ _ sample_guest_proves]
  rfl

def sampleRequest : TransactionRequest :=
  ⟨0x9, 0xc1, .oracle (.submitSp1Proof (toAbiBytes sampleJournal) (toAbiBytes sampleJournal))⟩

def sampleTx : System.Tx :=
  .oracle ⟨⟨0x9, 100⟩, .submitSp1Proof (toAbiBytes sampleJournal) (toAbiBytes sampleJournal)⟩

theorem prove_reaches_oracle_sample :
    StoredAs (System.run Oracle.mockVerifiers (System.deploy System.sampleDeployment) ([] ++ sampleTx :: [])).oracle
      sampleJournal := by
  obtain ⟨journal, published, _, submission⟩ := prove_reaches_oracle sampleServices sampleGuest sample_runs
    Composition.sampleChain Estimate.sampleConfig sample_loads Estimate.sampleIntent ⟨1, 1, "open-zk.toml"⟩ sampleArtifact rfl
    (by decide) sample_produced Oracle.mockVerifiers System.sampleDeployment ⟨0xc1, 0xc2⟩ (System.sampleNetwork 0x9)
    System.sampleSubmitter 100 [] []
  obtain rfl : sampleJournal = journal := abi_bytes_inj _ _ published
  obtain ⟨backend, supported, _, lands⟩ := submission sampleRequest sampleTx List.mem_cons_self rfl
  obtain rfl : Backend.sp1 = backend := Option.some.inj supported
  exact (lands rfl (word_of_nat_ne_zero _ (by decide) (by decide))).2 (System.deploy_unproven System.sampleDeployment 1)

end Prove

end OpenZk
