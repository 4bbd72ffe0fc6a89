import OpenZk.Composition

set_option autoImplicit false

namespace OpenZk.Composition

open Words

def LoadsInjected (w : World) : Prop :=
  ∀ host store boot, Collected w host store → w.kona.load store = some boot →
    boot.l1Head = host.l1Head ∧ boot.agreedL2OutputRoot = host.agreedL2OutputRoot ∧
      boot.claimedL2OutputRoot = host.claimedL2OutputRoot ∧ boot.claimedL2BlockNumber = host.claimedL2BlockNumber

structure GuestRun (w : World) (request : ProofRequest) where
  rollupConfigPath : String
  rollupConfigHash : Bytes32
  claimedL2OutputRoot : Bytes32
  witness : RawWitness
  store : PreimageStore
  committed : Bytes
  configured : w.env.ensureRollupConfig = .ok rollupConfigPath
  hashed : w.env.computeRollupConfigHash rollupConfigPath = .ok rollupConfigHash
  claimed : WitnessProvider.fetchOutputRoot w.env w.provider request.l2EndBlock = .ok claimedL2OutputRoot
  generated : WitnessProvider.generateWitness w.env w.provider request = .ok witness
  decoded : PreimageStore.fromRkyvBytes w.decode witness.oracleData = some store
  ran : RangeGuest.run w.kona w.factory store = some committed

structure Matches (boot : BootInfo) (journal : StateTransitionJournal) : Prop where
  l1Head : journal.l1Head = boot.l1Head
  l2PreRoot : journal.l2PreRoot = boot.l2PreRoot
  l2PostRoot : journal.l2PostRoot = boot.l2Claim
  l2BlockNumber : journal.l2BlockNumber = boot.l2BlockNumber
  rollupConfigHash : journal.rollupConfigHash = boot.rollupConfigHash

namespace GuestRun

variable {w : World} {request : ProofRequest} (r : GuestRun w request)

def Agrees : Prop :=
  ∃ boot journal, BootInfo.fromAbiBytes r.witness.bootInfo = some boot ∧ fromAbiBytes r.committed = some journal ∧
    Matches boot journal

def boot : BootInfo :=
  ⟨request.l1Head, request.l2StartOutputRoot, r.claimedL2OutputRoot, request.l2EndBlock, r.rollupConfigHash⟩

def journal : StateTransitionJournal :=
  ⟨request.l1Head, request.l2StartOutputRoot, r.claimedL2OutputRoot, request.l2EndBlock, zeroWord, zeroWord⟩

theorem finished_output (loads : LoadsInjected w) (host : SingleChainHost) (store : PreimageStore) (finished : PipelineRun)
    (collected : Collected w host store) (completed : RangeGuest.runPipeline w.kona w.factory store = some finished) :
    finished.output =
      ⟨host.l1Head, host.agreedL2OutputRoot, host.claimedL2OutputRoot, host.claimedL2BlockNumber, zeroWord⟩ := by
  cases RangeGuest.run_pipeline_cases w.kona w.factory store finished completed with
  | extended boot safeHead started same shape =>
      obtain ⟨loaded, _, _, _⟩ := RangeGuest.prologue_cases w.kona store boot safeHead started
      obtain ⟨l1Head, agreed, claim, number⟩ := loads host store boot collected loaded
      rw [shape, RangeGuest.traceExtension, l1Head, agreed, claim, number]
  | derived boot safeHead reached started different advanced claimed shape =>
      obtain ⟨loaded, _, _, _⟩ := RangeGuest.prologue_cases w.kona store boot safeHead started
      obtain ⟨l1Head, agreed, claim, number⟩ := loads host store boot collected loaded
      rw [shape, claimed, l1Head, agreed, claim, number]

theorem both_sides (loads : LoadsInjected w) :
    r.witness.bootInfo = r.boot.toAbiBytes ∧ r.committed = toAbiBytes r.journal := by
  obtain ⟨path, hash, claimed, witness, store, committed, configured, hashed, fetched, generated, decoded, ran⟩ := r
  obtain ⟨startBlock, claimed', path', hash', l1Path, preimages, configured', hashed', _, fetched', collect, shape⟩ :=
    WitnessProvider.generate_witness_ok w.env w.provider request witness generated
  have samePath := Except.ok.inj (configured.symm.trans configured')
  subst samePath
  have sameHash := Except.ok.inj (hashed.symm.trans hashed')
  subst sameHash
  have sameClaim := Except.ok.inj (fetched.symm.trans fetched')
  subst sameClaim
  obtain ⟨finished, completed, bytes⟩ := RangeGuest.run_cases w.kona w.factory store committed ran
  subst shape
  have output := finished_output loads _ store finished ⟨preimages, collect, decoded⟩ completed
  refine ⟨rfl, bytes.trans ?_⟩
  rw [RangeGuest.journal, output]
  rfl

theorem agrees_iff (loads : LoadsInjected w) : r.Agrees ↔ r.rollupConfigHash = zeroWord := by
  obtain ⟨bootBytes, journalBytes⟩ := r.both_sides loads
  have decodedBoot := boot_info_round_trip r.boot
  have decodedJournal := abi_round_trip r.journal
  rw [← bootBytes] at decodedBoot
  rw [← journalBytes] at decodedJournal
  constructor
  · intro given
    obtain ⟨boot, journal, bootRead, journalRead, agree⟩ := given
    rw [decodedBoot] at bootRead
    rw [decodedJournal] at journalRead
    cases bootRead
    cases journalRead
    exact agree.rollupConfigHash.symm
  · intro zero
    exact ⟨_, _, decodedBoot, decodedJournal, rfl, rfl, rfl, rfl, zero.symm⟩

end GuestRun

def Distinguished {w other : World} {request otherRequest : ProofRequest} (r : GuestRun w request)
    (r' : GuestRun other otherRequest) : Prop :=
  r.rollupConfigHash ≠ r'.rollupConfigHash → r.committed ≠ r'.committed

theorem distinguished_iff {w other : World} {request otherRequest : ProofRequest} (r : GuestRun w request)
    (r' : GuestRun other otherRequest) (loads : LoadsInjected w) (otherLoads : LoadsInjected other) :
    Distinguished r r' ↔ r.rollupConfigHash = r'.rollupConfigHash ∨ request.l1Head ≠ otherRequest.l1Head ∨
      request.l2StartOutputRoot ≠ otherRequest.l2StartOutputRoot ∨ r.claimedL2OutputRoot ≠ r'.claimedL2OutputRoot ∨
      request.l2EndBlock ≠ otherRequest.l2EndBlock := by
  have same : r.committed = r'.committed ↔ r.journal = r'.journal := by
    rw [(r.both_sides loads).2, (r'.both_sides otherLoads).2]
    exact ⟨fun bytes => Option.some.inj (by rw [← abi_round_trip, ← abi_round_trip, bytes]), congrArg toAbiBytes⟩
  rw [Distinguished, Ne, Ne, same, GuestRun.journal, GuestRun.journal, StateTransitionJournal.mk.injEq]
  simp only [and_true]
  tauto

/-- The journal publishes no configuration, so it agrees with the boot info for the configuration hash zero only. -/
theorem boot_agreement_iff (w other : World) (request otherRequest : ProofRequest) (r : GuestRun w request)
    (r' : GuestRun other otherRequest) (loads : LoadsInjected w) (otherLoads : LoadsInjected other) :
    (r.Agrees ↔ r.rollupConfigHash = zeroWord) ∧
      (Distinguished r r' ↔ r.rollupConfigHash = r'.rollupConfigHash ∨ request.l1Head ≠ otherRequest.l1Head ∨
        request.l2StartOutputRoot ≠ otherRequest.l2StartOutputRoot ∨ r.claimedL2OutputRoot ≠ r'.claimedL2OutputRoot ∨
        request.l2EndBlock ≠ otherRequest.l2EndBlock) :=
  ⟨r.agrees_iff loads, distinguished_iff r r' loads otherLoads⟩

def configuredWorld (hash : Bytes32) : World :=
  { sampleWorld with env := { sampleEnv with computeRollupConfigHash := fun _ => .ok hash } }

theorem configured_collect_eq (hash : Bytes32) (host : SingleChainHost) :
    (configuredWorld hash).env.collectWitness host = sampleWorld.env.collectWitness host := rfl

theorem configured_loads (hash : Bytes32) : LoadsInjected (configuredWorld hash) :=
  fun host store boot collected loaded => sample_honest.boot host store boot collected loaded

def sampleGuestRun (hash : Bytes32) (number : UInt64) :
    GuestRun (configuredWorld hash) (documented sampleChain (sampleRequest number)) where
  rollupConfigPath := "rollup.json"
  rollupConfigHash := hash
  claimedL2OutputRoot := sampleChain.root number
  witness := _
  store := sampleStore number
  committed := toAbiBytes (RangeGuest.journal (sampleRun number).output)
  configured := rfl
  hashed := rfl
  claimed := rfl
  generated := WitnessProvider.generate_witness_of (configuredWorld hash).env (configuredWorld hash).provider
    (documented sampleChain (sampleRequest number)) "rollup.json" "l1.json" hash (sampleChain.root number)
    ⟨sampleChain.hash number, zeroWord, none⟩ 1 _ rfl rfl rfl rfl rfl rfl rfl
    ((configured_collect_eq hash _).trans (sample_collected number))
  decoded := sample_accepted _
  ran := congrArg (Option.map _) (sample_pipeline number)

theorem boot_agreement_sample :
    ((sampleGuestRun (wordOfNat 0xdd) 1).Agrees ↔ wordOfNat 0xdd = zeroWord) ∧
      (Distinguished (sampleGuestRun (wordOfNat 0xdd) 1) (sampleGuestRun (wordOfNat 0xde) 2) ↔
        wordOfNat 0xdd = wordOfNat 0xde ∨ (sampleRequest 1).l1Head ≠ (sampleRequest 2).l1Head ∨
        sampleChain.root 1 ≠ sampleChain.root 2 ∨ sampleChain.root 1 ≠ sampleChain.root 2 ∨ (1 : UInt64) ≠ 2) :=
  boot_agreement_iff _ _ _ _ (sampleGuestRun (wordOfNat 0xdd) 1) (sampleGuestRun (wordOfNat 0xde) 2)
    (configured_loads _) (configured_loads _)

theorem config_hash_dropped :
    ¬ (sampleGuestRun (wordOfNat 0xdd) 1).Agrees ∧
      ¬ Distinguished (sampleGuestRun (wordOfNat 0xdd) 1) (sampleGuestRun (wordOfNat 0xde) 1) := by
  have nonzero : wordOfNat 0xdd ≠ zeroWord := word_of_nat_ne_zero 0xdd (by decide) (by decide)
  have different : wordOfNat 0xdd ≠ wordOfNat 0xde := by
    intro same
    cases word_of_nat_inj 0xdd 0xde (by decide) (by decide) same
  refine ⟨?_, ?_⟩
  · rw [GuestRun.agrees_iff _ (configured_loads _)]
    exact nonzero
  · rw [distinguished_iff _ _ (configured_loads _) (configured_loads _)]
    intro either
    rcases either with same | head | root | claim | number
    · exact different same
    · exact head rfl
    · exact root rfl
    · exact claim rfl
    · exact number rfl

end OpenZk.Composition
