import OpenZk.BackendAllowlist
import OpenZk.ProverVerify
import OpenZk.RangeCount
import OpenZk.SuccinctPricing
import OpenZk.WitnessProvider

set_option autoImplicit false

namespace OpenZk

open Words Pricing

structure PricingConfig where
  provider : String
  ethUsdPrice : Option ℚ
  proveUsdPrice : Option ℚ
  boundlessPercentile : String

structure EstimateConfig extends CliConfig where
  opNodeUrl : Option String
  chainId : Option UInt64
  pricing : PricingConfig

structure EstimateArgs where
  startBlock : UInt64
  endBlock : UInt64
  config : String
  pricing : Option String

structure Features where
  kona : Bool
  sp1 : Bool
  risc0 : Bool

inductive CliError where
  | message (text : String)
  | witness (error : RpcWitnessError)
  | sp1 (error : Sp1ProverError)
  | risc0 (error : RiscZeroProverError)
  | boundless (error : BoundlessPricingError)
  | succinct (error : SuccinctPricingError)
deriving DecidableEq

inductive DynPricing where
  | fixed (pricing : FixedPricing)
  | boundless (pricing : BoundlessPricing)
  | succinct (pricing : SuccinctPricing)

structure Services where
  features : Features
  fromFile : String → Except String EstimateConfig
  var : String → Option String
  latestBlock : String → Except String (Option Bytes32)
  -- A failed call, no root, or the root as it parses.
  outputRoot : String → UInt64 → Except String (Option (Except String Bytes32))
  witness : Env
  fetchTokenPrice : String → String → Except String ℚ
  get : String → Except String String
  fromStr : String → Except String (List AggregateEntry)
  signIn : String → Except String (UInt32 → Except String GetFilteredProofRequestsResponse)
  sdk : Sp1Sdk
  writeStdin : Bytes → sdk.Stdin
  sp1Program : Sp1Program
  zkvm : RiscZeroZkvm
  risc0Program : RiscZeroProgram

namespace MockProverBackend

def countCycles : CycleEstimate := ⟨0, .mock⟩

end MockProverBackend

namespace Sp1ProverBackend

def countCycles (sdk : Sp1Sdk) (program : Sp1Program) (stdin : sdk.Stdin) : Except Sp1ProverError CycleEstimate :=
  match sdk.execute program.elf stdin with
  | .error reason => .error (.provingFailed reason)
  | .ok (_, cycles) => .ok ⟨cycles, .sp1⟩

end Sp1ProverBackend

namespace RiscZeroProverBackend

def countCycles (zkvm : RiscZeroZkvm) (program : RiscZeroProgram) (oracleData : Bytes) :
    Except RiscZeroProverError CycleEstimate :=
  match buildEnv zkvm oracleData with
  | .error failure => .error failure
  | .ok env =>
      match zkvm.proveWithOpts env program.elf .default with
      | .error reason => .error (.provingFailed reason)
      | .ok (_, totalCycles) => .ok ⟨totalCycles, .riscZero⟩

end RiscZeroProverBackend

namespace Estimate

variable (services : Services)

def fetchUsd (overridePrice : Option ℚ) (fetched : Except String ℚ) (fallback : ℚ) : ℚ :=
  match overridePrice with
  | some price => price
  | none =>
      match fetched with
      | .ok price => price
      | .error _ => fallback

def fetchEthUsd (overridePrice : Option ℚ) : ℚ :=
  fetchUsd overridePrice (services.fetchTokenPrice
    "https://api.coingecko.com/api/v3/simple/price?ids=ethereum&vs_currencies=usd" "ethereum") 2000

def fetchProveUsd (overridePrice : Option ℚ) : ℚ :=
  fetchUsd overridePrice (services.fetchTokenPrice
    "https://api.coingecko.com/api/v3/simple/price?ids=succinct&vs_currencies=usd" "succinct") (1 / 10)

def succinctFromEnv (proveUsd : ℚ) : Except SuccinctPricingError SuccinctPricing :=
  match (services.var "NETWORK_PRIVATE_KEY").or (services.var "SP1_PRIVATE_KEY") with
  | none => .error (.config "NETWORK_PRIVATE_KEY or SP1_PRIVATE_KEY env var required for Succinct pricing")
  | some privateKey =>
      match services.signIn privateKey with
      | .error reason => .error (.config s!"invalid private key: {reason}")
      | .ok client => .ok ⟨client, SuccinctPricing.defaultSampleSize, proveUsd⟩

def resolveBoundless (config : EstimateConfig) : DynPricing :=
  .boundless {
    get := services.get
    fromStr := services.fromStr
    indexerUrl := "https://d2mdvlnmyov1e1.cloudfront.net"
    percentile := (Percentile.parse config.pricing.boundlessPercentile).getD .p50
    ethUsd := fetchEthUsd services config.pricing.ethUsdPrice }

def resolveSuccinct (config : EstimateConfig) : Except CliError DynPricing :=
  match succinctFromEnv services (fetchProveUsd services config.pricing.proveUsdPrice) with
  | .error failure => .error (.succinct failure)
  | .ok pricing => .ok (.succinct pricing)

def resolvePricing (config : EstimateConfig) (pricingArg : Option String) (backend : ZkvmBackend) : Except CliError DynPricing :=
  let provider := pricingArg.getD config.pricing.provider
  if provider = "boundless" then .ok (resolveBoundless services config)
  else if provider = "succinct" then
    if services.features.sp1 then resolveSuccinct services config
    else
      .error (.message ("succinct pricing requires the `sp1` feature — compile with: " ++
        "cargo build --bin open-zk --features sp1"))
  else if provider = "fixed" then .ok (.fixed FixedPricing.default)
  else
    match backend with
    | .riscZero => .ok (resolveBoundless services config)
    | .sp1 =>
        if services.features.sp1 then
          match resolveSuccinct services config with
          | .error _ => .ok (.fixed FixedPricing.default)
          | .ok pricing => .ok pricing
        else .ok (.fixed FixedPricing.default)
    | .auto | .mock => .ok (.fixed FixedPricing.default)

def price (pricing : DynPricing) (estimate : CycleEstimate) : Except (Halt CliError) PricingInfo :=
  match pricing with
  | .fixed pricing => .ok (pricing.price estimate)
  | .boundless pricing =>
      match pricing.price estimate with
      | .error failure => .error (.returned (.boundless failure))
      | .ok info => .ok info
  | .succinct pricing =>
      match pricing.price estimate with
      | .error (.returned failure) => .error (.returned (.succinct failure))
      | .error (.panicked fault) => .error (.panicked fault)
      | .ok info => .ok info

def isMockMode (config : EstimateConfig) : Bool := config.proving.backend = "mock" || services.var "SP1_PROVER" = some "mock"

def witnessRequest (l1Head : Bytes32) (startBlock endBlock : UInt64) (l2StartOutputRoot : Bytes32) : ProofRequest where
  l1Head := l1Head
  l2StartBlock := startBlock
  l2EndBlock := endBlock
  l2StartOutputRoot := l2StartOutputRoot
  mode := .execute

def witnessProvider (config : EstimateConfig) (opNodeUrl : String) : RpcWitnessProvider where
  l1RpcUrl := config.network.l1RpcUrl
  l2RpcUrl := config.network.l2RpcUrl
  l1BeaconUrl := config.network.l1BeaconUrl
  opNodeUrl := some opNodeUrl
  rollupConfigPath := none
  l2ChainId := some (config.chainId.getD 901)

def generateWitness (config : EstimateConfig) (startBlock endBlock : UInt64) : Except CliError RawWitness :=
  match services.witness.parseUrl config.network.l1RpcUrl with
  | .error reason => .error (.message reason)
  | .ok _ =>
      match services.latestBlock config.network.l1RpcUrl with
      | .error reason => .error (.message reason)
      | .ok none => .error (.message "L1 latest block not found")
      | .ok (some l1Head) =>
          let opNodeUrl := config.opNodeUrl.getD "http://127.0.0.1:7545"
          match services.witness.parseUrl opNodeUrl with
          | .error reason => .error (.message reason)
          | .ok _ =>
              match services.outputRoot opNodeUrl startBlock with
              | .error reason => .error (.message reason)
              | .ok none => .error (.message "failed to get output root")
              | .ok (some (.error reason)) => .error (.message reason)
              | .ok (some (.ok l2StartOutputRoot)) =>
                  match WitnessProvider.generateWitness services.witness (witnessProvider config opNodeUrl)
                      (witnessRequest l1Head startBlock endBlock l2StartOutputRoot) with
                  | .error failure => .error (.witness failure)
                  | .ok witness => .ok witness

def debugName : ZkvmBackend → String
  | .sp1 => "Sp1"
  | .riscZero => "RiscZero"
  | .auto => "Auto"
  | .mock => "Mock"

def notAvailable (backend : ZkvmBackend) : CliError :=
  .message s!"backend {debugName backend} not available — compile with the corresponding feature flag"

def runCycleCount (backend : ZkvmBackend) (witness : RawWitness) : Except CliError CycleEstimate :=
  match backend with
  | .mock => .ok MockProverBackend.countCycles
  | .sp1 =>
      if services.features.sp1 then
        (Sp1ProverBackend.countCycles services.sdk services.sp1Program (services.writeStdin witness.oracleData)).mapError .sp1
      else .error (notAvailable backend)
  | .riscZero =>
      if services.features.risc0 then
        (RiscZeroProverBackend.countCycles services.zkvm services.risc0Program witness.oracleData).mapError .risc0
      else .error (notAvailable backend)
  | .auto => .error (notAvailable backend)

def countCycles (config : EstimateConfig) (backend : ZkvmBackend) (startBlock endBlock : UInt64) :
    Except CliError CycleEstimate :=
  if isMockMode services config then .ok MockProverBackend.countCycles
  else if services.features.kona then
    match generateWitness services config startBlock endBlock with
    | .error failure => .error failure
    | .ok witness => runCycleCount services backend witness
  else
    .error (.message ("cost estimation requires the `kona` feature — compile with: " ++
      "cargo build --bin open-zk --features kona"))

def composeCostEstimate (cycle : CycleEstimate) (pricing : PricingInfo) : CostEstimate where
  estimatedCycles := cycle.cycles
  estimatedCostUsd := pricing.costUsd
  estimatedDurationSecs := pricing.durationSecs

def checkedMul (a b : UInt64) : Except Fault UInt64 := if a.toNat * b.toNat < 2 ^ 64 then .ok (a * b) else .error .overflow

structure Total where
  cycles : UInt64
  costUsd : ℚ
  durationSecs : UInt64

def printEstimate (estimate : CostEstimate) (numRanges : UInt64) (needsAggregation : Bool) : Except Fault Total :=
  if needsAggregation then
    match checkedMul estimate.estimatedCycles numRanges with
    | .error fault => .error fault
    | .ok totalCycles =>
        match checkedMul estimate.estimatedDurationSecs numRanges with
        | .error fault => .error fault
        | .ok totalDuration => .ok ⟨totalCycles, estimate.estimatedCostUsd * numRanges.toNat, totalDuration⟩
  else .ok ⟨estimate.estimatedCycles, estimate.estimatedCostUsd, estimate.estimatedDurationSecs⟩

structure Report where
  count : RangeCount
  perRange : CostEstimate
  pricing : PricingInfo
  total : Total

def estimate (config : EstimateConfig) (intent : IntentResolver.ResolvedIntent) (args : EstimateArgs) :
    Except (Halt CliError) Report :=
  match countRanges intent.aggregationWindow args.startBlock args.endBlock with
  | .error fault => .error (.panicked fault)
  | .ok count =>
      match resolvePricing services config args.pricing intent.backend with
      | .error failure => .error (.returned failure)
      | .ok pricing =>
          match countCycles services config intent.backend args.startBlock args.endBlock with
          | .error failure => .error (.returned failure)
          | .ok cycleEstimate =>
              match price pricing cycleEstimate with
              | .error halt => .error halt
              | .ok pricingInfo =>
                  let costEstimate := composeCostEstimate cycleEstimate pricingInfo
                  match printEstimate costEstimate count.numRanges count.needsAggregation with
                  | .error fault => .error (.panicked fault)
                  | .ok total => .ok ⟨count, costEstimate, pricingInfo, total⟩

def execute (args : EstimateArgs) : Except (Halt CliError) Report :=
  match services.fromFile args.config with
  | .error reason => .error (.returned (.message reason))
  | .ok config =>
      match config.toSdkConfig with
      | .error reason => .error (.returned (.message reason))
      | .ok sdkConfig => estimate services config sdkConfig.resolve args

end Estimate

end OpenZk
