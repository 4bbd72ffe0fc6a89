import OpenZk.Engine

set_option autoImplicit false

namespace OpenZk

inductive SecurityLevel where
  | maximum
  | standard
  | economy
deriving DecidableEq

structure Duration where
  secs : UInt64
  nanos : UInt32
deriving DecidableEq

def Duration.fromSecs (secs : UInt64) : Duration := ⟨secs, 0⟩

namespace IntentResolver

structure ResolvedIntent extends OpenZk.ResolvedIntent where
  backend : ZkvmBackend

def defaultAllowedBackends : List ZkvmBackend := [.sp1, .riscZero]

def resolveProofMode (_targetFinality : Duration) (security : SecurityLevel) : ProofMode :=
  match security with
  | .maximum => .beacon
  | .standard | .economy => .sentinel

def resolveAuto (allowedBackends : List ZkvmBackend) : ZkvmBackend := allowedBackends.head?.getD .sp1

def resolve (backend : ZkvmBackend) (allowedBackends : List ZkvmBackend) (targetFinality : Duration)
    (security : SecurityLevel) : ResolvedIntent where
  proofMode := resolveProofMode targetFinality security
  provingMode := .groth16
  aggregationWindow :=
    match security with
    | .maximum => 10
    | .standard => 100
    | .economy => 1000
  backend := if backend = .auto then resolveAuto allowedBackends else backend

end IntentResolver

structure OpenZkConfig where
  backend : ZkvmBackend
  allowedBackends : List ZkvmBackend
  targetFinality : Duration
  security : SecurityLevel
  l1RpcUrl : String
  l2RpcUrl : String
  l1BeaconUrl : String
deriving DecidableEq

def OpenZkConfig.resolve (config : OpenZkConfig) : IntentResolver.ResolvedIntent :=
  IntentResolver.resolve config.backend config.allowedBackends config.targetFinality config.security

structure OpenZkConfigBuilder where
  backend : Option ZkvmBackend
  allowedBackends : Option (List ZkvmBackend)
  targetFinality : Option Duration
  security : Option SecurityLevel
  l1RpcUrl : Option String
  l2RpcUrl : Option String
  l1BeaconUrl : Option String

inductive ConfigError where
  | missingField (field : String)
deriving DecidableEq

def ConfigError.message : ConfigError → String
  | .missingField field => s!"missing required field: {field}"

def OpenZkConfigBuilder.build (builder : OpenZkConfigBuilder) : Except ConfigError OpenZkConfig :=
  match builder.l1RpcUrl with
  | none => .error (.missingField "l1_rpc_url")
  | some l1RpcUrl =>
      match builder.l2RpcUrl with
      | none => .error (.missingField "l2_rpc_url")
      | some l2RpcUrl =>
          match builder.l1BeaconUrl with
          | none => .error (.missingField "l1_beacon_url")
          | some l1BeaconUrl =>
              .ok {
                backend := builder.backend.getD .auto
                allowedBackends := builder.allowedBackends.getD IntentResolver.defaultAllowedBackends
                targetFinality := builder.targetFinality.getD (Duration.fromSecs (30 * 60))
                security := builder.security.getD .standard
                l1RpcUrl := l1RpcUrl
                l2RpcUrl := l2RpcUrl
                l1BeaconUrl := l1BeaconUrl }

structure NetworkConfig where
  l1RpcUrl : String
  l2RpcUrl : String
  l1BeaconUrl : String

structure ProvingConfig where
  backend : String
  allowedBackends : List String
  security : String
  targetFinalitySecs : UInt64

structure CliConfig where
  network : NetworkConfig
  proving : ProvingConfig

namespace CliConfig

def parseSecurity (security : String) : SecurityLevel :=
  if security = "maximum" then .maximum
  else if security = "economy" then .economy
  else .standard

def parseBackend (backend : String) : ZkvmBackend :=
  if backend = "sp1" then .sp1
  else if backend = "risc0" then .riscZero
  else if backend = "mock" then .mock
  else .auto

def parseAllowed (entry : String) : Option ZkvmBackend :=
  if entry = "sp1" then some .sp1
  else if entry = "risc0" then some .riscZero
  -- Anything else is dropped without a word.
  else none

def builder (config : CliConfig) : OpenZkConfigBuilder where
  backend := some (parseBackend config.proving.backend)
  allowedBackends := some (config.proving.allowedBackends.filterMap parseAllowed)
  targetFinality := some (Duration.fromSecs config.proving.targetFinalitySecs)
  security := some (parseSecurity config.proving.security)
  l1RpcUrl := some config.network.l1RpcUrl
  l2RpcUrl := some config.network.l2RpcUrl
  l1BeaconUrl := some config.network.l1BeaconUrl

def toSdkConfig (config : CliConfig) : Except String OpenZkConfig :=
  config.builder.build.mapError fun failure => s!"config error: {failure.message}"

end CliConfig

namespace Allowlist

def spelling : ZkvmBackend → String
  | .sp1 => "sp1"
  | .riscZero => "risc0"
  | .auto => "auto"
  | .mock => "mock"

def Named (entries : List String) (backend : ZkvmBackend) : Prop := backend ≠ .auto ∧ spelling backend ∈ entries

def Listed (allowed : List ZkvmBackend) (backend : ZkvmBackend) : Prop := backend ≠ .auto ∧ backend ∈ allowed

theorem parse_allowed_some (entry : String) (backend : ZkvmBackend) (parsed : CliConfig.parseAllowed entry = some backend) :
    entry = spelling backend ∧ backend ≠ .auto := by
  rw [CliConfig.parseAllowed] at parsed
  by_cases sp1 : entry = "sp1"
  · rw [if_pos sp1] at parsed
    rw [← Option.some.inj parsed]
    exact ⟨sp1, by decide⟩
  · rw [if_neg sp1] at parsed
    by_cases risc0 : entry = "risc0"
    · rw [if_pos risc0] at parsed
      rw [← Option.some.inj parsed]
      exact ⟨risc0, by decide⟩
    · rw [if_neg risc0] at parsed
      cases parsed

theorem parse_allowed_none_iff (entries : List String) :
    entries.filterMap CliConfig.parseAllowed = [] ↔ "sp1" ∉ entries ∧ "risc0" ∉ entries := by
  rw [List.filterMap_eq_nil_iff]
  refine ⟨?_, ?_⟩
  · intro dropped
    refine ⟨fun member => ?_, fun member => ?_⟩
    · have missing := dropped "sp1" member
      simp [CliConfig.parseAllowed] at missing
    · have missing := dropped "risc0" member
      simp [CliConfig.parseAllowed] at missing
  · intro unnamed entry member
    have sp1 : entry ≠ "sp1" := fun same => unnamed.1 (same ▸ member)
    have risc0 : entry ≠ "risc0" := fun same => unnamed.2 (same ▸ member)
    rw [CliConfig.parseAllowed, if_neg sp1, if_neg risc0]

theorem to_sdk_config_ok (config : CliConfig) :
    ∃ sdk, config.toSdkConfig = .ok sdk ∧ sdk.backend = CliConfig.parseBackend config.proving.backend ∧
      sdk.allowedBackends = config.proving.allowedBackends.filterMap CliConfig.parseAllowed :=
  ⟨_, rfl, rfl, rfl⟩

theorem resolve_auto_backend (config : OpenZkConfig) (auto : config.backend = .auto) :
    config.resolve.backend = IntentResolver.resolveAuto config.allowedBackends := if_pos auto

theorem cli_named_iff (entries : List String) :
    Named entries (IntentResolver.resolveAuto (entries.filterMap CliConfig.parseAllowed)) ↔
      "sp1" ∈ entries ∨ "risc0" ∈ entries := by
  have none_iff := parse_allowed_none_iff entries
  cases kept : entries.filterMap CliConfig.parseAllowed with
  | nil =>
      obtain ⟨sp1, risc0⟩ := none_iff.mp kept
      refine iff_of_false (fun named => sp1 named.2) ?_
      intro named
      rcases named with member | member
      · exact sp1 member
      · exact risc0 member
  | cons backend rest =>
      have first : backend ∈ entries.filterMap CliConfig.parseAllowed := kept ▸ List.mem_cons_self
      obtain ⟨entry, member, parsed⟩ := List.mem_filterMap.mp first
      obtain ⟨spelt, concrete⟩ := parse_allowed_some entry backend parsed
      refine iff_of_true ⟨concrete, spelt ▸ member⟩ ?_
      by_contra unnamed
      have dropped := none_iff.mpr (not_or.mp unnamed)
      rw [kept] at dropped
      cases dropped

theorem sdk_listed_iff (allowed : List ZkvmBackend) (nonempty : allowed ≠ []) :
    Listed allowed (IntentResolver.resolveAuto allowed) ↔ allowed.head? ≠ some .auto := by
  cases allowed with
  | nil => exact absurd rfl nonempty
  | cons first rest =>
      have chosen : IntentResolver.resolveAuto (first :: rest) = first := rfl
      rw [chosen, List.head?_cons, Listed, and_iff_left List.mem_cons_self]
      exact not_congr (Option.some_inj).symm

theorem allowlist_respected_iff (cli : CliConfig) (sdk : OpenZkConfig)
    (cliAuto : CliConfig.parseBackend cli.proving.backend = .auto) (sdkAuto : sdk.backend = .auto)
    (sdkNonempty : sdk.allowedBackends ≠ []) :
    ((∃ config, cli.toSdkConfig = .ok config ∧ Named cli.proving.allowedBackends config.resolve.backend) ↔
        "sp1" ∈ cli.proving.allowedBackends ∨ "risc0" ∈ cli.proving.allowedBackends) ∧
      (Listed sdk.allowedBackends sdk.resolve.backend ↔ sdk.allowedBackends.head? ≠ some .auto) := by
  refine ⟨?_, ?_⟩
  · obtain ⟨config, converted, backend, allowed⟩ := to_sdk_config_ok cli
    rw [← cli_named_iff, converted, ← allowed, ← resolve_auto_backend config (backend.trans cliAuto)]
    refine ⟨?_, ?_⟩
    · intro named
      obtain ⟨same, equal, named⟩ := named
      rw [Except.ok.inj equal]
      exact named
    · intro named
      exact ⟨config, rfl, named⟩
  · rw [resolve_auto_backend sdk sdkAuto]
    exact sdk_listed_iff sdk.allowedBackends sdkNonempty

def sampleCli (allowedBackends : List String) : CliConfig :=
  ⟨⟨"http://localhost:8545", "http://localhost:9545", "http://localhost:5052"⟩, ⟨"auto", allowedBackends, "standard", 1800⟩⟩

def sampleSdk (allowedBackends : List ZkvmBackend) : OpenZkConfig :=
  ⟨.auto, allowedBackends, Duration.fromSecs 1800, .standard, "http://localhost:8545", "http://localhost:9545",
    "http://localhost:5052"⟩

theorem sample_cli_auto (allowedBackends : List String) :
    CliConfig.parseBackend (sampleCli allowedBackends).proving.backend = .auto := by
  simp [sampleCli, CliConfig.parseBackend]

theorem allowlist_respected_sample :
    ((∃ config, (sampleCli ["risc0"]).toSdkConfig = .ok config ∧ Named ["risc0"] config.resolve.backend) ↔
        "sp1" ∈ ["risc0"] ∨ "risc0" ∈ ["risc0"]) ∧
      (Listed [.riscZero] (sampleSdk [.riscZero]).resolve.backend ↔ [ZkvmBackend.riscZero].head? ≠ some .auto) :=
  allowlist_respected_iff (sampleCli ["risc0"]) (sampleSdk [.riscZero]) (sample_cli_auto ["risc0"])
    rfl (List.cons_ne_nil _ _)

theorem misspelt_entry_allows_sp1 :
    (∃ config, (sampleCli ["risc-zero"]).toSdkConfig = .ok config ∧ config.resolve.backend = .sp1 ∧
        ¬ Named ["risc-zero"] config.resolve.backend) ∧
      (sampleSdk [.auto, .riscZero]).resolve.backend = .auto ∧
      ¬ Listed [.auto, .riscZero] (sampleSdk [.auto, .riscZero]).resolve.backend := by
  obtain ⟨config, converted, backend, allowed⟩ := to_sdk_config_ok (sampleCli ["risc-zero"])
  have auto := backend.trans (sample_cli_auto ["risc-zero"])
  have kept : (sampleCli ["risc-zero"]).proving.allowedBackends.filterMap CliConfig.parseAllowed = [] := by
    simp [sampleCli, CliConfig.parseAllowed]
  have chosen : config.resolve.backend = .sp1 := by
    rw [resolve_auto_backend config auto, allowed, kept]
    rfl
  refine ⟨⟨config, converted, chosen, ?_⟩, rfl, fun listed => listed.1 rfl⟩
  rw [chosen, Named, spelling]
  simp

end Allowlist

end OpenZk
