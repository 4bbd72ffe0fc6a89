import OpenZk.Composition

set_option autoImplicit false

namespace OpenZk.WitnessProvider

open Words

structure Prepares (env : Env) (provider : RpcWitnessProvider) (request : ProofRequest) (startBlock : L2Block) : Prop where
  parsed : env.parseUrl provider.l2RpcUrl = .ok ()
  found : env.blockByNumber provider.l2RpcUrl request.l2StartBlock = .ok (some startBlock)
  claimed : ∃ root, fetchOutputRoot env provider request.l2EndBlock = .ok root
  configured : ∃ rollupConfigPath rollupConfigHash l1ChainId l1ConfigPath,
    env.ensureRollupConfig = .ok rollupConfigPath ∧ env.computeRollupConfigHash rollupConfigPath = .ok rollupConfigHash ∧
      env.l1ChainId rollupConfigPath = .ok l1ChainId ∧ env.ensureL1Config l1ChainId = .ok l1ConfigPath

theorem prepared_anchor (env : Env) (provider : RpcWitnessProvider) (request : ProofRequest) (host : SingleChainHost)
    (boot : BootInfo) (prepared : prepareHost env provider request = .ok (host, boot)) :
    ∃ startBlock, Prepares env provider request startBlock ∧ host.agreedL2HeadHash = startBlock.hash ∧
      host.agreedL2OutputRoot = request.l2StartOutputRoot ∧ boot.l2PreRoot = request.l2StartOutputRoot := by
  obtain ⟨startBlock, _, rollupConfigPath, rollupConfigHash, l1ChainId, l1ConfigPath, parsed, configured, hashed, found,
    claimed, chainId, l1, same⟩ := prepare_host_ok env provider request (host, boot) prepared
  cases same
  exact ⟨startBlock, ⟨parsed, found, ⟨_, claimed⟩, _, _, _, _, configured, hashed, chainId, l1⟩, rfl, rfl, rfl⟩

theorem prepares_host (env : Env) (provider : RpcWitnessProvider) (request : ProofRequest) (startBlock : L2Block)
    (prepares : Prepares env provider request startBlock) :
    ∃ host boot, prepareHost env provider request = .ok (host, boot) ∧ host.agreedL2HeadHash = startBlock.hash ∧
      host.agreedL2OutputRoot = request.l2StartOutputRoot := by
  obtain ⟨claimedL2OutputRoot, claimed⟩ := prepares.claimed
  obtain ⟨rollupConfigPath, rollupConfigHash, l1ChainId, l1ConfigPath, configured, hashed, chainId, l1⟩ := prepares.configured
  exact ⟨_, _, prepare_host_of env provider request rollupConfigPath l1ConfigPath rollupConfigHash claimedL2OutputRoot
    startBlock l1ChainId configured hashed prepares.parsed prepares.found claimed chainId l1, rfl, rfl⟩

structure Anchored (env : Env) (provider : RpcWitnessProvider) (outputRootOf : Bytes32 → Bytes32) (request : ProofRequest) :
    Prop where
  host : ∀ host boot, prepareHost env provider request = .ok (host, boot) →
    host.agreedL2OutputRoot = outputRootOf host.agreedL2HeadHash
  boot : ∀ host boot witness decoded, prepareHost env provider request = .ok (host, boot) →
    generateWitness env provider request = .ok witness → BootInfo.fromAbiBytes witness.bootInfo = some decoded →
      decoded.l2PreRoot = outputRootOf host.agreedL2HeadHash

theorem witness_boot_info (env : Env) (provider : RpcWitnessProvider) (request : ProofRequest) (host : SingleChainHost)
    (boot : BootInfo) (witness : RawWitness) (prepared : prepareHost env provider request = .ok (host, boot))
    (generated : generateWitness env provider request = .ok witness) :
    BootInfo.fromAbiBytes witness.bootInfo = some boot := by
  rw [generate_witness_prepared, prepared] at generated
  change finishWitness env (host, boot) = .ok witness at generated
  obtain ⟨store, _, finished⟩ := bind_ok _ _ _ generated
  rw [← Except.ok.inj finished, boot_info_round_trip]

theorem anchored_iff (env : Env) (provider : RpcWitnessProvider) (outputRootOf : Bytes32 → Bytes32) (request : ProofRequest) :
    Anchored env provider outputRootOf request ↔
      ∀ startBlock, Prepares env provider request startBlock → outputRootOf startBlock.hash = request.l2StartOutputRoot := by
  refine ⟨?_, ?_⟩
  · intro anchored startBlock prepares
    obtain ⟨host, boot, prepared, head, root⟩ := prepares_host env provider request startBlock prepares
    rw [← head, ← anchored.host host boot prepared, root]
  · intro filled
    refine ⟨?_, ?_⟩
    · intro host boot prepared
      obtain ⟨startBlock, prepares, head, root, _⟩ := prepared_anchor env provider request host boot prepared
      rw [root, head, filled startBlock prepares]
    · intro host boot witness decoded prepared generated encoded
      obtain ⟨startBlock, prepares, head, _, preRoot⟩ := prepared_anchor env provider request host boot prepared
      rw [witness_boot_info env provider request host boot witness prepared generated] at encoded
      rw [← Option.some.inj encoded, preRoot, head, filled startBlock prepares]

/-- Nothing on the way from the planner to the host fills the start root in. -/
theorem planned_anchor_iff (env : Env) (provider : RpcWitnessProvider) (outputRootOf : Bytes32 → Bytes32) (window : UInt64)
    (mode : ProvingMode) (state : ChainState) (start stop : UInt64) (requests : List ProofRequest)
    (planned : Planner.planRange window mode state start stop = .ok requests) (request : ProofRequest)
    (member : request ∈ requests) :
    Anchored env provider outputRootOf request ↔
      ∀ startBlock, Prepares env provider request startBlock → outputRootOf startBlock.hash = zeroWord := by
  obtain ⟨piece, rfl⟩ := Planner.plan_range_member window mode state start stop requests planned request member
  exact anchored_iff env provider outputRootOf (Planner.requestOf mode state piece)

def sampleRootOf (hash : Bytes32) : Bytes32 := Composition.sampleChain.root (wordToUInt64 hash)

theorem planned_anchor_sample :
    Anchored Composition.sampleEnv Composition.sampleWorld.provider sampleRootOf (Composition.sampleRequest 1) ↔
      ∀ startBlock, Prepares Composition.sampleEnv Composition.sampleWorld.provider (Composition.sampleRequest 1) startBlock →
        sampleRootOf startBlock.hash = zeroWord :=
  planned_anchor_iff Composition.sampleEnv Composition.sampleWorld.provider sampleRootOf 1 .groth16 Composition.sampleState 1 2
    [Composition.sampleRequest 1, Composition.sampleRequest 2] Composition.sample_plan (Composition.sampleRequest 1) (by simp)

theorem sample_prepares (number : UInt64) :
    Prepares Composition.sampleEnv Composition.sampleWorld.provider (Composition.sampleRequest number)
      ⟨Composition.sampleChain.hash number, zeroWord, none⟩ :=
  ⟨rfl, rfl, ⟨_, rfl⟩, ⟨_, _, _, _, rfl, rfl, rfl, rfl⟩⟩

theorem planned_root_stays_zero :
    Planner.planRange 1 .groth16 Composition.sampleState 1 2 = .ok [Composition.sampleRequest 1, Composition.sampleRequest 2] ∧
      ¬ Anchored Composition.sampleEnv Composition.sampleWorld.provider sampleRootOf (Composition.sampleRequest 1) := by
  refine ⟨Composition.sample_plan, ?_⟩
  intro anchored
  have filled := (anchored_iff _ _ _ _).mp anchored _ (sample_prepares 1)
  have number : wordToUInt64 (Composition.sampleChain.hash 1) = 1 := word_uint64 1
  rw [sampleRootOf, number] at filled
  exact word_of_nat_ne_zero 2 (by decide) (by decide) filled

end OpenZk.WitnessProvider
