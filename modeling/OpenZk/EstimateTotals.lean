import OpenZk.Composition
import OpenZk.Estimate

set_option autoImplicit false

namespace OpenZk.Estimate

open Words Pricing

variable (services : Services)

def blockCycles (cost : Nat → Nat) (start stop : UInt64) : Nat := ((Tiles.members (start.toNat, stop.toNat)).map cost).sum

def Additive (config : EstimateConfig) (backend : ZkvmBackend) (cost : Nat → Nat) (start stop : UInt64) : Prop :=
  ∀ a b, start ≤ a → a ≤ b → b ≤ stop →
    ∃ cycleEstimate, countCycles services config backend a b = .ok cycleEstimate ∧
      cycleEstimate.cycles.toNat = blockCycles cost a b

def Counted (config : EstimateConfig) (backend : ZkvmBackend) (request : ProofRequest) (cycleEstimate : CycleEstimate) : Prop :=
  countCycles services config backend request.l2StartBlock request.l2EndBlock = .ok cycleEstimate

def TotalIsSum (config : EstimateConfig) (intent : IntentResolver.ResolvedIntent) (args : EstimateArgs) (state : ChainState) :
    Prop :=
  ∃ requests counts report,
    Planner.planRange intent.aggregationWindow intent.provingMode state args.startBlock args.endBlock = .ok requests ∧
    List.Forall₂ (Counted services config intent.backend) requests counts ∧
    estimate services config intent args = .ok report ∧
    report.total.cycles.toNat = (counts.map fun cycleEstimate => cycleEstimate.cycles.toNat).sum

theorem price_duration (pricing : DynPricing) (cycleEstimate : CycleEstimate) (info : PricingInfo)
    (priced : price pricing cycleEstimate = .ok info) : info.durationSecs.toNat ≤ cycleEstimate.cycles.toNat := by
  cases pricing with
  | fixed pricing =>
      cases priced
      exact pricing.price_duration cycleEstimate
  | boundless pricing =>
      rw [price] at priced
      split at priced
      · cases priced
      · rename_i found
        cases priced
        exact pricing.price_duration cycleEstimate info found
  | succinct pricing =>
      rw [price] at priced
      split at priced
      · cases priced
      · cases priced
      · rename_i found
        cases priced
        exact pricing.price_duration cycleEstimate info found

theorem checked_mul_fits (a b : UInt64) (fits : a.toNat * b.toNat < 2 ^ 64) :
    ∃ product, checkedMul a b = .ok product ∧ product.toNat = a.toNat * b.toNat := by
  refine ⟨a * b, if_pos fits, ?_⟩
  rw [UInt64.toNat_mul, Nat.mod_eq_of_lt fits]

theorem checked_mul_ok (a b product : UInt64) (multiplied : checkedMul a b = .ok product) :
    product.toNat = a.toNat * b.toNat := by
  rw [checkedMul] at multiplied
  split at multiplied
  · rename_i fits
    cases multiplied
    rw [UInt64.toNat_mul, Nat.mod_eq_of_lt fits]
  · cases multiplied

def timesPrinted (numRanges : UInt64) (needsAggregation : Bool) : Nat := if needsAggregation then numRanges.toNat else 1

theorem print_estimate_cycles (perRange : CostEstimate) (numRanges : UInt64) (needsAggregation : Bool) (total : Total)
    (printed : printEstimate perRange numRanges needsAggregation = .ok total) :
    total.cycles.toNat = perRange.estimatedCycles.toNat * timesPrinted numRanges needsAggregation := by
  cases needsAggregation with
  | false =>
      cases printed
      exact (Nat.mul_one _).symm
  | true =>
      rw [printEstimate, if_pos rfl] at printed
      split at printed
      · cases printed
      · rename_i totalCycles multiplied
        split at printed
        · cases printed
        · cases printed
          exact checked_mul_ok _ _ _ multiplied

theorem print_estimate_fits (perRange : CostEstimate) (numRanges : UInt64) (needsAggregation : Bool)
    (shorter : perRange.estimatedDurationSecs.toNat ≤ perRange.estimatedCycles.toNat)
    (fits : perRange.estimatedCycles.toNat * timesPrinted numRanges needsAggregation < 2 ^ 64) :
    ∃ total, printEstimate perRange numRanges needsAggregation = .ok total := by
  cases needsAggregation with
  | false => exact ⟨_, rfl⟩
  | true =>
      have durationFits : perRange.estimatedDurationSecs.toNat * numRanges.toNat < 2 ^ 64 :=
        Nat.lt_of_le_of_lt (Nat.mul_le_mul_right _ shorter) fits
      obtain ⟨totalCycles, multiplied, _⟩ := checked_mul_fits _ _ fits
      obtain ⟨totalDuration, lasting, _⟩ := checked_mul_fits _ _ durationFits
      rw [printEstimate, if_pos rfl, multiplied]
      dsimp only
      rw [lasting]
      exact ⟨_, rfl⟩

theorem plan_cycles (cost : Nat → Nat) (window : UInt64) (mode : ProvingMode) (state : ChainState) (start stop : UInt64)
    (requests : List ProofRequest) (positive : 1 ≤ window.toNat) (order : start ≤ stop)
    (planned : Planner.planRange window mode state start stop = .ok requests) :
    (requests.map fun request => blockCycles cost request.l2StartBlock request.l2EndBlock).sum = blockCycles cost start stop := by
  have blocks := Planner.plan_range_blocks window mode state start stop requests positive order planned
  have whole : Tiles.members (start.toNat, stop.toNat) =
      requests.flatMap fun request => Tiles.members (Planner.span request) := blocks.symm
  rw [blockCycles, whole, List.map_flatMap, List.flatMap, List.sum_flatten, List.map_map]
  rfl

theorem counts_exist (config : EstimateConfig) (backend : ZkvmBackend) (requests : List ProofRequest)
    (counted : ∀ request ∈ requests, ∃ cycleEstimate, Counted services config backend request cycleEstimate) :
    ∃ counts, List.Forall₂ (Counted services config backend) requests counts := by
  induction requests with
  | nil => exact ⟨[], .nil⟩
  | cons request rest ih =>
      obtain ⟨first, found⟩ := counted request List.mem_cons_self
      obtain ⟨counts, others⟩ := ih fun other member => counted other (List.mem_cons_of_mem request member)
      exact ⟨first :: counts, .cons found others⟩

theorem counts_cycles (config : EstimateConfig) (backend : ZkvmBackend) (cost : Nat → Nat) (requests : List ProofRequest)
    (counts : List CycleEstimate) (counted : List.Forall₂ (Counted services config backend) requests counts)
    (takes : ∀ request ∈ requests, ∃ cycleEstimate, Counted services config backend request cycleEstimate ∧
      cycleEstimate.cycles.toNat = blockCycles cost request.l2StartBlock request.l2EndBlock) :
    counts.map (fun cycleEstimate => cycleEstimate.cycles.toNat) =
      requests.map fun request => blockCycles cost request.l2StartBlock request.l2EndBlock := by
  induction counted with
  | nil => rfl
  | cons found others ih =>
      obtain ⟨_, same, cycles⟩ := takes _ List.mem_cons_self
      rw [Counted, found] at same
      cases same
      rw [List.map_cons, List.map_cons, cycles, ih fun request member => takes request (List.mem_cons_of_mem _ member)]

theorem requests_additive (config : EstimateConfig) (backend : ZkvmBackend) (cost : Nat → Nat) (window : UInt64)
    (mode : ProvingMode) (state : ChainState) (start stop : UInt64) (requests : List ProofRequest)
    (positive : 1 ≤ window.toNat) (order : start ≤ stop) (additive : Additive services config backend cost start stop)
    (planned : Planner.planRange window mode state start stop = .ok requests) (request : ProofRequest)
    (member : request ∈ requests) :
    ∃ cycleEstimate, Counted services config backend request cycleEstimate ∧
      cycleEstimate.cycles.toNat = blockCycles cost request.l2StartBlock request.l2EndBlock := by
  obtain ⟨low, ordered, high⟩ :=
    Planner.plan_range_bounds window mode state start stop requests positive order planned request member
  exact additive _ _ (UInt64.le_iff_toNat_le.mpr low) (UInt64.le_iff_toNat_le.mpr ordered) (UInt64.le_iff_toNat_le.mpr high)

theorem times_printed_ranges (window start stop : UInt64) (count : RangeCount) (positive : 1 ≤ window.toNat)
    (fits : stop.toNat - start.toNat + 1 < 2 ^ 64) (counted : countRanges window start stop = .ok count) :
    timesPrinted count.numRanges count.needsAggregation = (stop.toNat - start.toNat + 1) ⌈/⌉ window.toNat := by
  obtain ⟨_, same, _, ranges, aggregates⟩ := count_ranges_ok window start stop positive fits
  rw [counted] at same
  cases same
  rw [timesPrinted, ← ranges]
  by_cases many : count.needsAggregation = true
  · rw [if_pos many]
  · have few := aggregates.not.mp many
    have one := Chunks.count_pos window.toNat (stop.toNat - start.toNat + 1) positive (by omega)
    rw [if_neg many]
    omega

theorem estimate_ok (config : EstimateConfig) (intent : IntentResolver.ResolvedIntent) (args : EstimateArgs) (report : Report)
    (estimated : estimate services config intent args = .ok report) :
    ∃ count cycleEstimate, countRanges intent.aggregationWindow args.startBlock args.endBlock = .ok count ∧
      countCycles services config intent.backend args.startBlock args.endBlock = .ok cycleEstimate ∧
      report.total.cycles.toNat =
        cycleEstimate.cycles.toNat * timesPrinted count.numRanges count.needsAggregation := by
  rw [estimate] at estimated
  split at estimated
  · cases estimated
  · rename_i count counted
    split at estimated
    · cases estimated
    · split at estimated
      · cases estimated
      · rename_i cycleEstimate executed
        split at estimated
        · cases estimated
        · dsimp only at estimated
          split at estimated
          · cases estimated
          · rename_i total printed
            cases estimated
            exact ⟨count, cycleEstimate, counted, executed, print_estimate_cycles _ _ _ total printed⟩

theorem estimate_succeeds (config : EstimateConfig) (intent : IntentResolver.ResolvedIntent) (args : EstimateArgs)
    (count : RangeCount) (pricing : DynPricing) (cycleEstimate : CycleEstimate) (info : PricingInfo)
    (counted : countRanges intent.aggregationWindow args.startBlock args.endBlock = .ok count)
    (resolved : resolvePricing services config args.pricing intent.backend = .ok pricing)
    (executed : countCycles services config intent.backend args.startBlock args.endBlock = .ok cycleEstimate)
    (priced : price pricing cycleEstimate = .ok info)
    (fits : cycleEstimate.cycles.toNat * timesPrinted count.numRanges count.needsAggregation < 2 ^ 64) :
    ∃ report, estimate services config intent args = .ok report := by
  obtain ⟨total, printed⟩ := print_estimate_fits (composeCostEstimate cycleEstimate info) count.numRanges
    count.needsAggregation (price_duration pricing cycleEstimate info priced) fits
  refine ⟨⟨count, composeCostEstimate cycleEstimate info, info, total⟩, ?_⟩
  simp only [estimate, counted, resolved, executed, priced, printed]

theorem room_blocks (window start stop : UInt64) (positive : 1 ≤ window.toNat) (room : Planner.Room window start stop) :
    stop.toNat - start.toNat + 1 < 2 ^ 64 := by
  have covered := (ceilDiv_le_iff_le_mul positive).mp (le_refl ((stop.toNat + 1 - start.toNat) ⌈/⌉ window.toNat))
  rw [Planner.Room] at room
  omega

theorem counts_sum (config : EstimateConfig) (backend : ZkvmBackend) (cost : Nat → Nat) (window : UInt64)
    (mode : ProvingMode) (state : ChainState) (start stop : UInt64) (requests : List ProofRequest)
    (counts : List CycleEstimate) (positive : 1 ≤ window.toNat) (order : start ≤ stop)
    (additive : Additive services config backend cost start stop)
    (planned : Planner.planRange window mode state start stop = .ok requests)
    (counted : List.Forall₂ (Counted services config backend) requests counts) :
    (counts.map fun cycleEstimate => cycleEstimate.cycles.toNat).sum = blockCycles cost start stop := by
  rw [counts_cycles services config backend cost requests counts counted
    (requests_additive services config backend cost window mode state start stop requests positive order additive planned),
    plan_cycles cost window mode state start stop requests positive order planned]

section Totals

variable (config : EstimateConfig) (intent : IntentResolver.ResolvedIntent) (args : EstimateArgs) (cost : Nat → Nat)
  (positive : 1 ≤ intent.aggregationWindow.toNat) (order : args.startBlock ≤ args.endBlock)
  (additive : Additive services config intent.backend cost args.startBlock args.endBlock)

include positive order additive

theorem report_cycles (report : Report) (fits : args.endBlock.toNat - args.startBlock.toNat + 1 < 2 ^ 64)
    (estimated : estimate services config intent args = .ok report) :
    report.total.cycles.toNat = blockCycles cost args.startBlock args.endBlock *
      ((args.endBlock.toNat - args.startBlock.toNat + 1) ⌈/⌉ intent.aggregationWindow.toNat) := by
  obtain ⟨whole, executed, cycles⟩ := additive args.startBlock args.endBlock (UInt64.le_refl _) order (UInt64.le_refl _)
  obtain ⟨count, cycleEstimate, ranges, again, printed⟩ := estimate_ok services config intent args report estimated
  rw [executed] at again
  cases again
  rw [printed, cycles, times_printed_ranges _ _ _ count positive fits ranges]

theorem estimate_reports (pricing : DynPricing) (fits : args.endBlock.toNat - args.startBlock.toNat + 1 < 2 ^ 64)
    (resolved : resolvePricing services config args.pricing intent.backend = .ok pricing)
    (priced : ∀ cycleEstimate, countCycles services config intent.backend args.startBlock args.endBlock = .ok cycleEstimate →
      ∃ info, price pricing cycleEstimate = .ok info)
    (totalFits : blockCycles cost args.startBlock args.endBlock *
      ((args.endBlock.toNat - args.startBlock.toNat + 1) ⌈/⌉ intent.aggregationWindow.toNat) < 2 ^ 64) :
    ∃ report, estimate services config intent args = .ok report := by
  obtain ⟨whole, executed, cycles⟩ := additive args.startBlock args.endBlock (UInt64.le_refl _) order (UInt64.le_refl _)
  obtain ⟨count, ranges, _⟩ := count_ranges_ok intent.aggregationWindow args.startBlock args.endBlock positive fits
  obtain ⟨info, hasPrice⟩ := priced whole executed
  rw [← cycles, ← times_printed_ranges _ _ _ count positive fits ranges] at totalFits
  exact estimate_succeeds services config intent args count pricing whole info ranges resolved executed hasPrice totalFits

/-- That is the sum of the plan for a single range, or when it is zero. -/
theorem total_is_sum_iff (state : ChainState) (pricing : DynPricing)
    (resolved : resolvePricing services config args.pricing intent.backend = .ok pricing)
    (priced : ∀ cycleEstimate, countCycles services config intent.backend args.startBlock args.endBlock = .ok cycleEstimate →
      ∃ info, price pricing cycleEstimate = .ok info) :
    TotalIsSum services config intent args state ↔
      Planner.Room intent.aggregationWindow args.startBlock args.endBlock ∧
        (args.endBlock.toNat + 1 - args.startBlock.toNat ≤ intent.aggregationWindow.toNat ∨
          blockCycles cost args.startBlock args.endBlock = 0) := by
  have within := UInt64.le_iff_toNat_le.mp order
  have blocks : args.endBlock.toNat + 1 - args.startBlock.toNat = args.endBlock.toNat - args.startBlock.toNat + 1 := by omega
  have plan := Planner.plan_range_eq intent.aggregationWindow intent.provingMode state args.startBlock args.endBlock positive
  have sums := counts_sum services config intent.backend cost intent.aggregationWindow intent.provingMode state
    args.startBlock args.endBlock
  have reports := report_cycles services config intent args cost positive order additive
  rw [blocks]
  refine ⟨?_, ?_⟩
  · rintro ⟨requests, counts, report, planned, counted, estimated, total⟩
    have room : Planner.Room intent.aggregationWindow args.startBlock args.endBlock := by
      by_contra full
      rw [plan, if_neg full] at planned
      cases planned
    refine ⟨room, ?_⟩
    rw [sums requests counts positive order additive planned counted,
      reports report (room_blocks _ _ _ positive room) estimated] at total
    by_cases zero : blockCycles cost args.startBlock args.endBlock = 0
    · exact .inr zero
    -- Both sides are multiples of the same cycles, so one range is left.
    · have one := (Nat.mul_eq_left zero).mp total
      exact .inl ((Chunks.count_one_iff _ _ positive (by omega)).mp one)
  · rintro ⟨room, single⟩
    have fits := room_blocks _ _ _ positive room
    have planned := plan.trans (if_pos room)
    obtain ⟨counts, counted⟩ := counts_exist services config intent.backend _ fun request member =>
      (requests_additive services config intent.backend cost _ _ state _ _ _ positive order additive planned request
        member).imp fun _ found => found.1
    -- One range, or nothing to multiply.
    have once : blockCycles cost args.startBlock args.endBlock *
        ((args.endBlock.toNat - args.startBlock.toNat + 1) ⌈/⌉ intent.aggregationWindow.toNat) =
          blockCycles cost args.startBlock args.endBlock := by
      rcases single with short | zero
      · rw [Chunks.count_short _ _ (by omega) short, Nat.mul_one]
      · rw [zero, Nat.zero_mul]
    obtain ⟨_, _, cycles⟩ := additive args.startBlock args.endBlock (UInt64.le_refl _) order (UInt64.le_refl _)
    obtain ⟨report, estimated⟩ := estimate_reports services config intent args cost positive order additive pricing fits
      resolved priced (by rw [once, ← cycles]; exact UInt64.toNat_lt _)
    refine ⟨_, counts, report, planned, counted, estimated, ?_⟩
    rw [sums _ counts positive order additive planned counted, reports report fits estimated, once]

end Totals

def sampleExecute (_elf stdin : Bytes) : Except String (Bytes × UInt64) :=
  match PreimageStore.unarchive stdin with
  | none => .error "the witness does not decode"
  | some data =>
      match data.lookup (PreimageKey.newLocal 2).toBytes, data.lookup (PreimageKey.newLocal 4).toBytes with
      | some root, some number => .ok ([], UInt64.ofNat (bigEndian number + 2 - bigEndian root))
      | _, _ => .error "a local input is missing"

def sampleSdk : Sp1Sdk := { echoSdk with execute := sampleExecute }

def sampleConfig : EstimateConfig where
  network := ⟨"l1", "l2", "beacon"⟩
  proving := ⟨"sp1", ["sp1", "risc0"], "maximum", 1800⟩
  opNodeUrl := none
  chainId := none
  pricing := ⟨"auto", none, none, "p50"⟩

def sampleServices : Services where
  features := ⟨true, true, true⟩
  fromFile := fun _ => .ok sampleConfig
  var := fun _ => none
  latestBlock := fun _ => .ok (some (wordOfNat 0xaa))
  outputRoot := fun _ number => .ok (some (.ok (Composition.sampleChain.root number)))
  witness := Composition.sampleEnv
  fetchTokenPrice := fun _ _ => .error "offline"
  get := fun _ => .error "offline"
  fromStr := fun _ => .error "offline"
  signIn := fun _ => .error "offline"
  sdk := sampleSdk
  writeStdin := id
  sp1Program := echoSp1
  zkvm := echoZkvm
  risc0Program := echoRisc0

def sampleIntent : IntentResolver.ResolvedIntent := IntentResolver.resolve .sp1 [.sp1, .riscZero] (Duration.fromSecs 1800) .maximum

def sampleArgs (endBlock : UInt64) : EstimateArgs := ⟨1, endBlock, "open-zk.toml", none⟩

def sampleHost (a b : UInt64) : SingleChainHost :=
  WitnessProvider.buildHostConfig (witnessProvider sampleConfig "http://127.0.0.1:7545")
    (witnessRequest (wordOfNat 0xaa) a b (Composition.sampleChain.root a)) (Composition.sampleChain.hash a)
    (Composition.sampleChain.root b) "rollup.json" "l1.json"

theorem sample_collect_eq (host : SingleChainHost) :
    sampleServices.witness.collectWitness host = Composition.sampleCollect host := rfl

def samplePreimages (a : UInt64) : PreimageMap :=
  Finmap.singleton (PreimageKey.new (Composition.sampleChain.root a) .keccak256).toBytes
    (List.replicate 96 0 ++ (Composition.sampleChain.hash a).data)

theorem sample_collected (a b : UInt64) :
    sampleServices.witness.collectWitness (sampleHost a b) = .ok (samplePreimages a) := by
  have headNumber : wordToUInt64 (sampleHost a b).agreedL2HeadHash = a := word_uint64 a
  rw [sample_collect_eq, Composition.sampleCollect, headNumber]
  exact if_pos ⟨rfl, rfl⟩

theorem sample_executed (a b : UInt64) (preimages : PreimageMap) :
    sampleExecute [0x7f] (PreimageStore.archive
        (WitnessProvider.injectLocal (Composition.sampleLocalInputs (sampleHost a b)) preimages)) =
      .ok ([], UInt64.ofNat (b.toNat + 1 - a.toNat)) := by
  obtain ⟨_, second, _, fourth⟩ := Composition.sample_inputs (sampleHost a b)
  have root : bigEndian (sampleHost a b).agreedL2OutputRoot.data = a.toNat + 1 :=
    word_to_nat_of_nat _ (uint64_succ_lt a 32 (by omega))
  have number : bigEndian (toBigEndian 8 (sampleHost a b).claimedL2BlockNumber.toNat) = b.toNat :=
    (big_endian_to_big_endian 8 b.toNat).trans (Nat.mod_eq_of_lt b.toNat_lt)
  rw [sampleExecute, PreimageStore.unarchive_archive]
  dsimp only
  rw [WitnessProvider.inject_local_here _ _ 2 _ (by decide) second,
    WitnessProvider.inject_local_here _ _ 4 _ (by decide) fourth]
  dsimp only
  have blocks : b.toNat + 2 - (a.toNat + 1) = b.toNat + 1 - a.toNat := by omega
  rw [root, number, blocks]

theorem sample_witness (a b : UInt64) :
    ∃ bootInfo, generateWitness sampleServices sampleConfig a b = .ok ⟨bootInfo, PreimageStore.archive
      (WitnessProvider.injectLocal (Composition.sampleLocalInputs (sampleHost a b)) (samplePreimages a)), []⟩ := by
  have generated := WitnessProvider.generate_witness_of sampleServices.witness
    (witnessProvider sampleConfig "http://127.0.0.1:7545") (witnessRequest (wordOfNat 0xaa) a b (Composition.sampleChain.root a))
    "rollup.json" "l1.json" zeroWord (Composition.sampleChain.root b) ⟨Composition.sampleChain.hash a, zeroWord, none⟩ 1 _
    rfl rfl rfl rfl rfl rfl rfl (sample_collected a b)
  refine ⟨BootInfo.toAbiBytes ⟨wordOfNat 0xaa, Composition.sampleChain.root a, Composition.sampleChain.root b, b, zeroWord⟩, ?_⟩
  rw [generateWitness]
  have parsed (url : String) : sampleServices.witness.parseUrl url = .ok () := rfl
  have head (url : String) : sampleServices.latestBlock url = .ok (some (wordOfNat 0xaa)) := rfl
  have root (url : String) : sampleServices.outputRoot url a = .ok (some (.ok (Composition.sampleChain.root a))) := rfl
  have url : sampleConfig.opNodeUrl.getD "http://127.0.0.1:7545" = "http://127.0.0.1:7545" := rfl
  simp only [parsed, head, root, url, generated]
  rfl

theorem sample_counts (a b : UInt64) :
    countCycles sampleServices sampleConfig .sp1 a b = .ok ⟨UInt64.ofNat (b.toNat + 1 - a.toNat), .sp1⟩ := by
  obtain ⟨bootInfo, made⟩ := sample_witness a b
  have mock : isMockMode sampleServices sampleConfig = false := rfl
  have kona : sampleServices.features.kona = true := rfl
  have sp1 : sampleServices.features.sp1 = true := rfl
  have execution (oracleData : Bytes) : sampleServices.sdk.execute sampleServices.sp1Program.elf
      (sampleServices.writeStdin oracleData) = sampleExecute [0x7f] oracleData := rfl
  rw [countCycles, mock, if_neg Bool.false_ne_true, kona, if_pos rfl, made]
  dsimp only
  rw [runCycleCount]
  dsimp only
  rw [sp1, if_pos rfl, Sp1ProverBackend.countCycles, execution, sample_executed a b (samplePreimages a)]
  rfl

theorem sample_additive (endBlock : UInt64) (small : endBlock ≤ 20) :
    Additive sampleServices sampleConfig .sp1 (fun _ => 1) 1 endBlock := by
  intro a b low order high
  refine ⟨_, sample_counts a b, ?_⟩
  have bound := UInt64.le_iff_toNat_le.mp (UInt64.le_trans high small)
  have twenty : (20 : UInt64).toNat = 20 := rfl
  have fits : b.toNat + 1 - a.toNat < 2 ^ 64 := by omega
  rw [UInt64.toNat_ofNat_of_lt' fits]
  simp [blockCycles, Tiles.members]

theorem sample_resolved (endBlock : UInt64) :
    resolvePricing sampleServices sampleConfig (sampleArgs endBlock).pricing sampleIntent.backend =
      .ok (.fixed FixedPricing.default) := rfl

example : execute sampleServices (sampleArgs 20) = estimate sampleServices sampleConfig sampleIntent (sampleArgs 20) := rfl

theorem total_is_sum_sample : TotalIsSum sampleServices sampleConfig sampleIntent (sampleArgs 10) Composition.sampleState :=
  (total_is_sum_iff sampleServices sampleConfig sampleIntent (sampleArgs 10) (fun _ => 1) (by decide) (by decide)
    (sample_additive 10 (by decide)) Composition.sampleState (.fixed FixedPricing.default) (sample_resolved 10)
    fun _ _ => ⟨_, rfl⟩).mpr ⟨by decide, .inl (by decide)⟩

theorem whole_range_multiplied :
    ¬ ∀ (services : Services) (config : EstimateConfig) (intent : IntentResolver.ResolvedIntent) (args : EstimateArgs)
      (state : ChainState) (cost : Nat → Nat) (pricing : DynPricing), 1 ≤ intent.aggregationWindow.toNat →
        args.startBlock ≤ args.endBlock →
        Additive services config intent.backend cost args.startBlock args.endBlock →
        resolvePricing services config args.pricing intent.backend = .ok pricing →
        (∀ cycleEstimate, countCycles services config intent.backend args.startBlock args.endBlock = .ok cycleEstimate →
          ∃ info, price pricing cycleEstimate = .ok info) →
          TotalIsSum services config intent args state := by
  intro exact_total
  have additive := sample_additive 20 (by decide)
  obtain ⟨requests, counts, report, planned, counted, estimated, total⟩ := exact_total sampleServices sampleConfig
    sampleIntent (sampleArgs 20) Composition.sampleState (fun _ => 1) (.fixed FixedPricing.default) (by decide) (by decide)
    additive (sample_resolved 20) fun _ _ => ⟨_, rfl⟩
  obtain ⟨count, whole, ranges, executed, printed⟩ := estimate_ok _ _ _ _ report estimated
  have two : countRanges 10 1 20 = .ok ⟨20, 2, true⟩ := rfl
  rw [show countRanges sampleIntent.aggregationWindow (sampleArgs 20).startBlock (sampleArgs 20).endBlock = _ from two] at ranges
  rw [show countCycles sampleServices sampleConfig sampleIntent.backend (sampleArgs 20).startBlock (sampleArgs 20).endBlock = _
    from sample_counts 1 20] at executed
  cases ranges
  cases executed
  rw [counts_sum sampleServices sampleConfig .sp1 (fun _ => 1) 10 .groth16 Composition.sampleState 1 20 requests counts
    (by decide) (by decide) additive planned counted, printed] at total
  exact absurd total (by decide)

end OpenZk.Estimate
