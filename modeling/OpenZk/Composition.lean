import OpenZk.Aggregation
import OpenZk.RangeGuest
import OpenZk.WitnessProvider

set_option autoImplicit false

namespace OpenZk.Composition

open Words

structure L2Chain where
  root : UInt64 → Bytes32
  hash : UInt64 → Bytes32

structure World where
  env : Env
  provider : RpcWitnessProvider
  decode : Bytes → Option PreimageMap
  kona : Kona
  factory : kona.DaSourceFactory
  chain : L2Chain

def Collected (w : World) (host : SingleChainHost) (store : PreimageStore) : Prop :=
  ∃ preimages, w.env.collectWitness host = .ok preimages ∧
    PreimageStore.fromRkyvBytes w.decode
      (w.env.serializePreimages (WitnessProvider.injectLocal (w.env.localInputs host) preimages)) = some store

/-- Endpoints that tell the truth, and a derivation library that loads the host's boot info, reads
authentic output preimages and executes the blocks after the safe head up to the head it returns. -/
structure Honest (w : World) : Prop where
  roots : ∀ number root, WitnessProvider.fetchOutputRoot w.env w.provider number = .ok root → root = w.chain.root number
  boot : ∀ host store boot, Collected w host store → w.kona.load store = some boot →
    boot.l1Head = host.l1Head ∧ boot.agreedL2OutputRoot = host.agreedL2OutputRoot ∧
      boot.claimedL2OutputRoot = host.claimedL2OutputRoot ∧ boot.claimedL2BlockNumber = host.claimedL2BlockNumber
  preimage : ∀ host store number hash, Collected w host store →
    RangeGuest.fetchSafeHeadHash store (w.chain.root number) = some hash → hash = w.chain.hash number
  header : ∀ host store config number found, Collected w host store →
    w.kona.headerByHash store config (w.chain.hash number) = some found → found = number
  driver : ∀ host store boot safeHead reached, Collected w host store →
    RangeGuest.advance w.kona w.factory store boot safeHead = some reached →
    reached.outputRoot = w.chain.root reached.head.number ∧
      reached.executed = List.range' (safeHead.number.toNat + 1) (reached.head.number.toNat - safeHead.number.toNat)

def documented (chain : L2Chain) (request : ProofRequest) : ProofRequest :=
  { request with l2StartOutputRoot := chain.root request.l2StartBlock }

def Proved (w : World) (request : ProofRequest) (finished : PipelineRun) : Prop :=
  ∃ witness store, WitnessProvider.generateWitness w.env w.provider request = .ok witness ∧
    PreimageStore.fromRkyvBytes w.decode witness.oracleData = some store ∧
    RangeGuest.runPipeline w.kona w.factory store = some finished

def journals (runs : List PipelineRun) : List StateTransitionJournal :=
  runs.map fun finished => RangeGuest.journal finished.output

structure Composes (chain : L2Chain) (start stop : UInt64) (runs : List PipelineRun) : Prop where
  executed : (runs.flatMap PipelineRun.executed).Perm (List.range' start.toNat (stop.toNat + 1 - start.toNat))
  spans : ∃ aggregated, Aggregation.aggregate (journals runs) = some aggregated ∧
    aggregated.l2PreRoot = chain.root (start - 1) ∧ aggregated.l2PostRoot = chain.root stop

structure Covers (chain : L2Chain) (request : ProofRequest) (finished : PipelineRun) : Prop where
  preRoot : finished.output.l2PreRoot = chain.root request.l2StartBlock
  postRoot : finished.output.l2PostRoot = chain.root request.l2EndBlock
  number : finished.output.l2BlockNumber = request.l2EndBlock
  executed : finished.executed =
    List.range' (request.l2StartBlock.toNat + 1) (request.l2EndBlock.toNat - request.l2StartBlock.toNat)

theorem witness_collected (w : World) (request : ProofRequest) (witness : RawWitness) (store : PreimageStore)
    (generated : WitnessProvider.generateWitness w.env w.provider request = .ok witness)
    (decoded : PreimageStore.fromRkyvBytes w.decode witness.oracleData = some store) :
    ∃ host claimed, WitnessProvider.fetchOutputRoot w.env w.provider request.l2EndBlock = .ok claimed ∧
      Collected w host store ∧ host.agreedL2OutputRoot = request.l2StartOutputRoot ∧
      host.claimedL2OutputRoot = claimed ∧ host.claimedL2BlockNumber = request.l2EndBlock := by
  obtain ⟨startBlock, claimed, rollupPath, _, l1Path, preimages, _, _, _, fetched, collected, shape⟩ :=
    WitnessProvider.generate_witness_ok w.env w.provider request witness generated
  rw [shape] at decoded
  exact ⟨_, claimed, fetched, ⟨preimages, collected, decoded⟩, rfl, rfl, rfl⟩

theorem proved_covers (w : World) (honest : Honest w) (distinct : Function.Injective w.chain.root)
    (request : ProofRequest) (finished : PipelineRun) (proved : Proved w (documented w.chain request) finished) :
    Covers w.chain request finished := by
  obtain ⟨witness, store, generated, decoded, completed⟩ := proved
  obtain ⟨host, claimed, fetched, collected, agreedEq, claimedEq, numberEq⟩ :=
    witness_collected w _ witness store generated decoded
  have claimedRoot := honest.roots _ _ fetched
  cases RangeGuest.run_pipeline_cases w.kona w.factory store finished completed with
  | extended boot safeHead started same shape =>
      obtain ⟨loaded, _, _, _⟩ := RangeGuest.prologue_cases w.kona store boot safeHead started
      obtain ⟨_, agreed, claim, number⟩ := honest.boot host store boot collected loaded
      have pre : boot.agreedL2OutputRoot = w.chain.root request.l2StartBlock := agreed.trans agreedEq
      have post : boot.claimedL2OutputRoot = w.chain.root request.l2EndBlock :=
        claim.trans (claimedEq.trans claimedRoot)
      -- Equal roots are roots of one block.
      have oneBlock : request.l2StartBlock = request.l2EndBlock := distinct (by rw [← pre, ← post, same])
      subst shape
      refine ⟨pre, post, number.trans numberEq, ?_⟩
      rw [oneBlock, Nat.sub_self]
      rfl
  | derived boot safeHead reached started different advanced claim shape =>
      obtain ⟨loaded, safeHash, header, _⟩ := RangeGuest.prologue_cases w.kona store boot safeHead started
      obtain ⟨_, agreed, claimBoot, number⟩ := honest.boot host store boot collected loaded
      obtain ⟨reachedRoot, executed⟩ := honest.driver host store boot safeHead reached collected advanced
      have pre : boot.agreedL2OutputRoot = w.chain.root request.l2StartBlock := agreed.trans agreedEq
      have post : reached.outputRoot = w.chain.root request.l2EndBlock :=
        claim.trans (claimBoot.trans (claimedEq.trans claimedRoot))
      -- The driver may stop anywhere, but only the end block has the claimed root.
      have reachedEnd : reached.head.number = request.l2EndBlock := distinct (by rw [← reachedRoot, post])
      have startHash : safeHead.hash = w.chain.hash request.l2StartBlock := by
        rw [pre] at safeHash
        exact honest.preimage host store request.l2StartBlock _ collected safeHash
      have startNumber : safeHead.number = request.l2StartBlock := by
        rw [startHash] at header
        exact honest.header host store _ _ _ collected header
      subst shape
      refine ⟨pre, post, number.trans numberEq, ?_⟩
      rw [executed, startNumber, reachedEnd]

theorem plan_covered (w : World) (honest : Honest w) (distinct : Function.Injective w.chain.root)
    (requests : List ProofRequest) (runs : List PipelineRun)
    (proved : List.Forall₂ (fun request finished => Proved w (documented w.chain request) finished) requests runs) :
    List.Forall₂ (Covers w.chain) requests runs := by
  induction proved with
  | nil => exact .nil
  | cons head tail ih => exact .cons (proved_covers w honest distinct _ _ head) ih

theorem covered_executed (chain : L2Chain) (requests : List ProofRequest) (runs : List PipelineRun)
    (covered : List.Forall₂ (Covers chain) requests runs) :
    runs.flatMap PipelineRun.executed = requests.flatMap fun request =>
      List.range' (request.l2StartBlock.toNat + 1) (request.l2EndBlock.toNat - request.l2StartBlock.toNat) := by
  induction covered with
  | nil => rfl
  | cons head tail ih => rw [List.flatMap_cons, List.flatMap_cons, ih, head.executed]

theorem start_not_executed (chain : L2Chain) (start stop : Nat) (requests : List ProofRequest) (runs : List PipelineRun)
    (tiling : Tiles start stop (requests.map Planner.span)) (covered : List.Forall₂ (Covers chain) requests runs) :
    start ∉ runs.flatMap PipelineRun.executed := by
  rw [covered_executed chain requests runs covered]
  intro executed
  obtain ⟨request, member, inside⟩ := List.mem_flatMap.mp executed
  obtain ⟨low, _, _⟩ := Tiles.tile_bounds start stop _ tiling (Planner.span request) (List.mem_map_of_mem member)
  rw [List.mem_range'_1] at inside
  have first : start ≤ request.l2StartBlock.toNat := low
  omega

theorem neighbours_discontinuous (chain : L2Chain) (distinct : Function.Injective chain.root) (a b : ProofRequest)
    (left right : PipelineRun) (coversA : Covers chain a left) (coversB : Covers chain b right)
    (next : b.l2StartBlock.toNat = a.l2EndBlock.toNat + 1) :
    ¬ Aggregation.Continues (RangeGuest.journal left.output) (RangeGuest.journal right.output) := by
  intro given
  obtain ⟨met, _⟩ := given
  have roots : chain.root a.l2EndBlock = chain.root b.l2StartBlock := by
    rw [← coversA.postRoot, ← coversB.preRoot]
    exact met
  have same := distinct roots
  rw [same] at next
  omega

theorem aggregate_passes_iff (chain : L2Chain) (distinct : Function.Injective chain.root) (start stop : Nat)
    (requests : List ProofRequest) (runs : List PipelineRun) (room : start < stop)
    (tiling : Tiles start stop (requests.map Planner.span)) (covered : List.Forall₂ (Covers chain) requests runs) :
    (∃ aggregated, Aggregation.aggregate (journals runs) = some aggregated) ↔ requests.length = 1 := by
  cases covered with
  | nil => exact absurd rfl (Tiles.nonempty start stop _ tiling room)
  | @cons a left requestsTail runsTail coversA tail =>
      cases tail with
      | nil =>
          refine ⟨fun _ => rfl, fun _ => ⟨_, (Aggregation.aggregate_some_iff _ [] _).mpr ⟨?_, rfl⟩⟩⟩
          exact List.isChain_singleton _
      | @cons b right _ _ coversB rest =>
          constructor
          · intro given
            obtain ⟨aggregated, committed⟩ := given
            obtain ⟨chained, _⟩ := (Aggregation.aggregate_some_iff _ _ _).mp committed
            have next := Tiles.adjacent start stop [] _ (Planner.span a) (Planner.span b) tiling
            exact absurd (List.isChain_cons_cons.mp chained).1
              (neighbours_discontinuous chain distinct a b left right coversA coversB next)
          · intro single
            simp at single

theorem aggregate_from_start (chain : L2Chain) (start stop : Nat) (requests : List ProofRequest)
    (runs : List PipelineRun) (tiling : Tiles start stop (requests.map Planner.span))
    (covered : List.Forall₂ (Covers chain) requests runs) (aggregated : StateTransitionJournal)
    (committed : Aggregation.aggregate (journals runs) = some aggregated) (first : UInt64) (names : first.toNat = start) :
    aggregated.l2PreRoot = chain.root first := by
  cases covered with
  | nil => cases committed
  | @cons a left _ _ coversA tail =>
      have begins := Tiles.head_start start stop (Planner.span a) _ tiling
      have same : a.l2StartBlock = first := UInt64.toNat_inj.mp (begins.trans names.symm)
      rw [Aggregation.aggregate_pre_root _ _ _ committed, ← same, ← coversA.preRoot]
      rfl

/-- The planner counts a range's start block in, and the provider and the guest count it out, so the
first transition of a plan is never executed and neighbouring sub-ranges do not meet. -/
theorem planned_ranges_do_not_compose (w : World) (honest : Honest w) (distinct : Function.Injective w.chain.root)
    (window : UInt64) (mode : ProvingMode) (state : ChainState) (start stop : UInt64) (requests : List ProofRequest)
    (runs : List PipelineRun) (positive : 1 ≤ start.toNat) (order : start ≤ stop) (inhabited : 1 ≤ window.toNat)
    (planned : Planner.planRange window mode state start stop = .ok requests)
    (proved : List.Forall₂ (fun request finished => Proved w (documented w.chain request) finished) requests runs) :
    ¬ Composes w.chain start stop runs ∧
      start.toNat ∉ runs.flatMap PipelineRun.executed ∧
      ((∃ aggregated, Aggregation.aggregate (journals runs) = some aggregated) ↔ requests.length = 1) ∧
      ∀ aggregated, Aggregation.aggregate (journals runs) = some aggregated →
        aggregated.l2PreRoot = w.chain.root start ∧ aggregated.l2PreRoot ≠ w.chain.root (start - 1) := by
  have tiling := Planner.plan_range_tiles window mode state start stop requests inhabited order planned
  have covered := plan_covered w honest distinct requests runs proved
  have bound := UInt64.le_iff_toNat_le.mp order
  have skipped := start_not_executed w.chain _ _ requests runs tiling covered
  refine ⟨?_, skipped, aggregate_passes_iff w.chain distinct _ _ requests runs (by omega) tiling covered, ?_⟩
  · intro composes
    apply skipped
    rw [composes.executed.mem_iff, List.mem_range'_1]
    omega
  · intro aggregated committed
    have begins := aggregate_from_start w.chain _ _ requests runs tiling covered aggregated committed start rfl
    refine ⟨begins, ?_⟩
    rw [begins]
    intro same
    have shifted := congrArg UInt64.toNat (distinct same)
    have one : (1 : UInt64) ≤ start := UInt64.le_iff_toNat_le.mpr positive
    rw [UInt64.toNat_sub_of_le _ _ one, show (1 : UInt64).toNat = 1 from rfl] at shifted
    omega

def sampleChain : L2Chain := ⟨fun number => wordOfNat (number.toNat + 1), fun number => wordOfNat number.toNat⟩

def sampleLocalInputs (host : SingleChainHost) (word : Bytes32) : Option Bytes :=
  if word = (PreimageKey.newLocal 1).toBytes then some host.l1Head.data
  else if word = (PreimageKey.newLocal 2).toBytes then some host.agreedL2OutputRoot.data
  else if word = (PreimageKey.newLocal 3).toBytes then some host.claimedL2OutputRoot.data
  else if word = (PreimageKey.newLocal 4).toBytes then some (toBigEndian 8 host.claimedL2BlockNumber.toNat)
  else none

def sampleCollect (host : SingleChainHost) : Except RpcWitnessError PreimageMap :=
  if host.agreedL2HeadHash = sampleChain.hash (wordToUInt64 host.agreedL2HeadHash) ∧
      host.agreedL2OutputRoot = sampleChain.root (wordToUInt64 host.agreedL2HeadHash) then
    .ok (Finmap.singleton (PreimageKey.new host.agreedL2OutputRoot .keccak256).toBytes
      (List.replicate 96 0 ++ host.agreedL2HeadHash.data))
  else .error (.konaClient "agreed output root does not match the agreed head")

def sampleEnv : Env where
  parseUrl := fun _ => .ok ()
  blockByNumber := fun _ number => .ok (some ⟨sampleChain.hash number, zeroWord, none⟩)
  outputAtBlock := fun _ number => some (sampleChain.root number)
  ensureRollupConfig := .ok "rollup.json"
  computeRollupConfigHash := fun _ => .ok zeroWord
  l1ChainId := fun _ => .ok 1
  ensureL1Config := fun _ => .ok "l1.json"
  collectWitness := sampleCollect
  localInputs := sampleLocalInputs
  serializePreimages := PreimageStore.archive
  keccak256 := fun _ => zeroWord

def sampleWorld : World where
  env := sampleEnv
  provider := ⟨"l1", "l2", "beacon", none, none, none⟩
  decode := PreimageStore.unarchive
  kona := RangeGuest.sampleKona
  factory := RangeGuest.sampleFactory
  chain := sampleChain

theorem sample_roots_distinct : Function.Injective sampleChain.root := by
  intro a b same
  have numbers := word_of_nat_inj _ _ (uint64_succ_lt a 32 (by omega)) (uint64_succ_lt b 32 (by omega)) same
  exact UInt64.toNat_inj.mp (by omega)

theorem sample_inputs (host : SingleChainHost) :
    sampleLocalInputs host (PreimageKey.newLocal 1).toBytes = some host.l1Head.data ∧
      sampleLocalInputs host (PreimageKey.newLocal 2).toBytes = some host.agreedL2OutputRoot.data ∧
      sampleLocalInputs host (PreimageKey.newLocal 3).toBytes = some host.claimedL2OutputRoot.data ∧
      sampleLocalInputs host (PreimageKey.newLocal 4).toBytes =
        some (toBigEndian 8 host.claimedL2BlockNumber.toNat) := by
  refine ⟨if_pos rfl, ?_, ?_, ?_⟩
  · rw [sampleLocalInputs, if_neg (by decide), if_pos rfl]
  · rw [sampleLocalInputs, if_neg (by decide), if_neg (by decide), if_pos rfl]
  · rw [sampleLocalInputs, if_neg (by decide), if_neg (by decide), if_neg (by decide), if_pos rfl]

theorem sample_collect_ok (host : SingleChainHost) (preimages : PreimageMap) (collected : sampleCollect host = .ok preimages) :
    ∃ number, host.agreedL2HeadHash = sampleChain.hash number ∧ host.agreedL2OutputRoot = sampleChain.root number ∧
      preimages = Finmap.singleton (PreimageKey.new host.agreedL2OutputRoot .keccak256).toBytes
        (List.replicate 96 0 ++ host.agreedL2HeadHash.data) := by
  rw [sampleCollect] at collected
  split at collected
  · rename_i agreed
    exact ⟨_, agreed.1, agreed.2, (Except.ok.inj collected).symm⟩
  · cases collected

theorem sample_answers (host : SingleChainHost) (store : PreimageStore) (collected : Collected sampleWorld host store) :
    ∃ number, host.agreedL2OutputRoot = sampleChain.root number ∧
      RangeGuest.Answers store.data host.l1Head host.agreedL2OutputRoot host.claimedL2OutputRoot
        (sampleChain.hash number) host.claimedL2BlockNumber ∧
      ∀ word, store.data.lookup (PreimageKey.new word .keccak256).toBytes ≠ none →
        PreimageKey.new word .keccak256 = PreimageKey.new host.agreedL2OutputRoot .keccak256 := by
  obtain ⟨preimages, collect, decoded⟩ := collected
  obtain ⟨number, hash, root, rfl⟩ := sample_collect_ok host preimages collect
  have stored := Option.some.inj ((PreimageStore.archive_accepted _).symm.trans decoded)
  subst stored
  obtain ⟨first, second, third, fourth⟩ := sample_inputs host
  refine ⟨number, root, ⟨?_, ?_, ?_, ?_, ?_⟩, ?_⟩
  · exact WitnessProvider.inject_local_here _ _ 1 _ (by decide) first
  · exact WitnessProvider.inject_local_here _ _ 2 _ (by decide) second
  · exact WitnessProvider.inject_local_here _ _ 3 _ (by decide) third
  · exact WitnessProvider.inject_local_here _ _ 4 _ (by decide) fourth
  · rw [← hash]
    exact (WitnessProvider.inject_local_other _ _ _ (by exact PreimageKeyType.noConfusion)).trans Finmap.lookup_singleton_eq
  · intro word held
    rw [WitnessProvider.inject_local_other _ _ _ (by exact PreimageKeyType.noConfusion)] at held
    by_contra different
    apply held
    rw [Finmap.lookup_eq_none, Finmap.mem_singleton]
    exact fun same => different (PreimageStore.key_bytes_inj _ _ same)

theorem sample_honest : Honest sampleWorld := by
  refine ⟨?_, ?_, ?_, ?_, ?_⟩
  · intro number root fetched
    exact (Except.ok.inj fetched).symm
  · intro host store boot collected loaded
    obtain ⟨number, _, answers, _⟩ := sample_answers host store collected
    have known := RangeGuest.sample_load store.data _ _ _ _ _ answers
    rw [← Option.some.inj (known.symm.trans loaded)]
    exact ⟨rfl, rfl, rfl, rfl⟩
  · intro host store number hash collected fetched
    obtain ⟨agreed, root, answers, only⟩ := sample_answers host store collected
    obtain ⟨preimage, held, _, _⟩ := RangeGuest.fetch_safe_head_hash_ok store _ _ fetched
    have present : store.data.lookup (PreimageKey.new (sampleChain.root number) .keccak256).toBytes ≠ none := by
      intro missing
      cases held.symm.trans missing
    have sameKey := only (sampleChain.root number) present
    rw [root] at sameKey
    have numbers := PreimageStore.new_of_nat_inj _ _ .keccak256 (uint64_succ_lt number 31 (by omega))
      (uint64_succ_lt agreed 31 (by omega)) sameKey
    have same : number = agreed := UInt64.toNat_inj.mp (by omega)
    subst same
    have known := RangeGuest.sample_fetch store.data _ _ _ _ _ answers
    rw [root] at known
    exact Option.some.inj (fetched.symm.trans known)
  · intro host store config number found _ header
    exact (Option.some.inj header).symm.trans (word_uint64 number)
  · intro host store boot safeHead reached _ advanced
    cases advanced

def sampleState : ChainState := ⟨wordOfNat 0xaa, 0, 2⟩

def sampleRequest (number : UInt64) : ProofRequest := Planner.requestFor .groth16 sampleState number number

def sampleHost (number : UInt64) : SingleChainHost :=
  WitnessProvider.buildHostConfig sampleWorld.provider (documented sampleChain (sampleRequest number))
    (sampleChain.hash number) (sampleChain.root number) "rollup.json" "l1.json"

def sampleRun (number : UInt64) : PipelineRun :=
  ⟨⟨wordOfNat 0xaa, sampleChain.root number, sampleChain.root number, number, zeroWord⟩,
    ⟨sampleChain.hash number, number⟩, []⟩

theorem sample_plan : Planner.planRange 1 .groth16 sampleState 1 2 = .ok [sampleRequest 1, sampleRequest 2] := by
  decide

theorem sample_accepted (data : PreimageMap) :
    PreimageStore.fromRkyvBytes sampleWorld.decode (sampleWorld.env.serializePreimages data) = some ⟨data⟩ :=
  PreimageStore.archive_accepted data

def samplePreimages (number : UInt64) : PreimageMap :=
  Finmap.singleton (PreimageKey.new (sampleHost number).agreedL2OutputRoot .keccak256).toBytes
    (List.replicate 96 0 ++ (sampleHost number).agreedL2HeadHash.data)

def sampleStore (number : UInt64) : PreimageStore :=
  ⟨WitnessProvider.injectLocal (sampleLocalInputs (sampleHost number)) (samplePreimages number)⟩

theorem sample_collect_eq (host : SingleChainHost) : sampleWorld.env.collectWitness host = sampleCollect host := rfl

theorem sample_collected (number : UInt64) :
    sampleWorld.env.collectWitness (sampleHost number) = .ok (samplePreimages number) := by
  have headNumber : wordToUInt64 (sampleHost number).agreedL2HeadHash = number := word_uint64 number
  rw [sample_collect_eq, sampleCollect, headNumber]
  exact if_pos ⟨rfl, rfl⟩

theorem sample_pipeline (number : UInt64) :
    RangeGuest.runPipeline RangeGuest.sampleKona RangeGuest.sampleFactory (sampleStore number) = some (sampleRun number) := by
  have collected : Collected sampleWorld (sampleHost number) (sampleStore number) :=
    ⟨_, sample_collected number, sample_accepted _⟩
  obtain ⟨agreed, root, answers, _⟩ := sample_answers (sampleHost number) _ collected
  have same : number = agreed := sample_roots_distinct root
  subst same
  exact RangeGuest.sample_extension _ _ _ number number answers (UInt64.le_refl number)

theorem sample_proved (number : UInt64) :
    Proved sampleWorld (documented sampleWorld.chain (sampleRequest number)) (sampleRun number) := by
  have generated := WitnessProvider.generate_witness_of sampleWorld.env sampleWorld.provider
    (documented sampleChain (sampleRequest number)) "rollup.json" "l1.json" zeroWord (sampleChain.root number)
    ⟨sampleChain.hash number, zeroWord, none⟩ 1 _ rfl rfl rfl rfl rfl rfl rfl (sample_collected number)
  exact ⟨_, sampleStore number, generated, sample_accepted _, sample_pipeline number⟩

theorem planned_ranges_sample :
    ¬ Composes sampleChain 1 2 [sampleRun 1, sampleRun 2] ∧
      (1 : UInt64).toNat ∉ [sampleRun 1, sampleRun 2].flatMap PipelineRun.executed ∧
      ((∃ aggregated, Aggregation.aggregate (journals [sampleRun 1, sampleRun 2]) = some aggregated) ↔
        [sampleRequest 1, sampleRequest 2].length = 1) ∧
      ∀ aggregated, Aggregation.aggregate (journals [sampleRun 1, sampleRun 2]) = some aggregated →
        aggregated.l2PreRoot = sampleChain.root 1 ∧ aggregated.l2PreRoot ≠ sampleChain.root (1 - 1) :=
  planned_ranges_do_not_compose sampleWorld sample_honest sample_roots_distinct 1 .groth16 sampleState 1 2
    [sampleRequest 1, sampleRequest 2] [sampleRun 1, sampleRun 2] (by decide) (by decide) (by decide) sample_plan
    (.cons (sample_proved 1) (.cons (sample_proved 2) .nil))

theorem two_block_plan_breaks :
    Planner.planRange 1 .groth16 sampleState 1 2 = .ok [sampleRequest 1, sampleRequest 2] ∧
      Proved sampleWorld (documented sampleChain (sampleRequest 1)) (sampleRun 1) ∧
      Proved sampleWorld (documented sampleChain (sampleRequest 2)) (sampleRun 2) ∧
      ¬ Composes sampleChain 1 2 [sampleRun 1, sampleRun 2] := by
  refine ⟨sample_plan, sample_proved 1, sample_proved 2, ?_⟩
  intro composes
  have lengths := composes.executed.length_eq
  simp [sampleRun] at lengths

end OpenZk.Composition
