import OpenZk.BackendAllowlist
import OpenZk.EngineDispatch

set_option autoImplicit false

namespace OpenZk

open Words Engine

structure ServeArgs where
  config : String
  oracleAddress : Option String

namespace Serve

structure Environment where
  fromFile : String → Except String CliConfig
  var : String → Option String
  parseAddress : String → Except String Address

def isMockMode (env : Environment) (config : CliConfig) : Bool :=
  config.proving.backend = "mock" || env.var "SP1_PROVER" = some "mock"

def defaultState : ChainState := ⟨zeroWord, 0, 0⟩

def notAvailable : String := "L1 RPC error: RPC chain monitor not available — enable `rpc` feature"

/-- The command compiles against the monitor of a build without the rpc feature: it takes two
strings, and the other one an address as well. -/
def skeletonMonitor : ChainMonitor := ⟨fun _ => .error notAvailable, none, fun _ => none⟩

def mockMode (env : Environment) (args : ServeArgs) (config : CliConfig) : Bool :=
  isMockMode env config || args.oracleAddress.isNone

def engine (env : Environment) (args : ServeArgs) : Except String OrchestrationEngine :=
  match env.fromFile args.config with
  | .error reason => .error reason
  | .ok config =>
      match config.toSdkConfig with
      | .error reason => .error reason
      | .ok sdkConfig =>
          let engineConfig : EngineConfig := ⟨sdkConfig.resolve.toResolvedIntent⟩
          if mockMode env args config then .ok ⟨engineConfig, mockMonitor defaultState, mockDispatcher⟩
          else
            match env.parseAddress (args.oracleAddress.getD "") with
            | .error reason => .error reason
            | .ok _ => .ok ⟨engineConfig, skeletonMonitor, mockDispatcher⟩

theorem idle_beacon_round (config : EngineConfig) (dispatcher : ProofDispatcher) (history : Trace) :
    OrchestrationEngine.beaconRound ⟨config, mockMonitor defaultState, dispatcher⟩ history =
      .ok () (history ++ [.polled (.ok defaultState)]) := rfl

theorem failed_beacon_round (config : EngineConfig) (dispatcher : ProofDispatcher) (history : Trace) :
    OrchestrationEngine.beaconRound ⟨config, skeletonMonitor, dispatcher⟩ history =
      .error (monitorError notAvailable) (history ++ [.polled (.error notAvailable)]) := rfl

theorem idle_sentinel_round (config : EngineConfig) (monitor : ChainMonitor) (dispatcher : ProofDispatcher)
    (undisputed : monitor.activeDispute = fun _ => none) (history : Trace) :
    OrchestrationEngine.sentinelRound ⟨config, monitor, dispatcher⟩ history = .ok () (history ++ [.disputeAsked none]) := by
  obtain ⟨getState, ownRange, activeDispute⟩ := monitor
  dsimp only at undisputed
  subst undisputed
  rfl

inductive Idle : Action → Prop where
  | polled (answer : Except String ChainState) : Idle (.polled answer)
  | disputeAsked : Idle (.disputeAsked none)

theorem idle_silent (trace : Trace) (idle : ∀ action ∈ trace, Idle action) : events trace = [] ∧ dispatched trace = [] := by
  refine ⟨?_, ?_⟩
  · rw [events, List.filterMap_eq_nil_iff]
    intro action member
    cases idle action member <;> rfl
  · rw [dispatched, List.filterMap_eq_nil_iff]
    intro action member
    cases idle action member <;> rfl

inductive Ends (rounds : Nat) (fails : Prop) : EStateM.Result Stop Trace Unit → Prop where
  | interrupted (trace : Trace) (spared : ¬ fails) (idle : ∀ action ∈ trace, Idle action) (length : trace.length = rounds) :
      Ends rounds fails (.ok () trace)
  | failed (fatal : fails) :
      Ends rounds fails (.error (monitorError notAvailable) [.polled (.error notAvailable)])

theorem steady_ends (body : Program Unit) (action : Action) (rounds : Nat) (fails : Prop) (spared : ¬ fails)
    (idle : Idle action) (steady : ∀ history, body history = .ok () (history ++ [action])) :
    Ends rounds fails (Traced.repeatedly body rounds []) := by
  rw [Traced.repeatedly_steady body action steady, List.nil_append]
  refine .interrupted _ spared ?_ List.length_replicate
  intro other member
  rw [List.eq_of_mem_replicate member]
  exact idle

theorem mock_ends (config : EngineConfig) (rounds : Nat) (fails : Prop) (spared : ¬ fails) :
    Ends rounds fails (OrchestrationEngine.run ⟨config, mockMonitor defaultState, mockDispatcher⟩ rounds []) := by
  rw [OrchestrationEngine.run]
  cases config.intent.proofMode with
  | beacon => exact steady_ends _ _ rounds fails spared (.polled _) (idle_beacon_round config mockDispatcher)
  | sentinel =>
      exact steady_ends _ _ rounds fails spared .disputeAsked (idle_sentinel_round config _ mockDispatcher rfl)

theorem skeleton_ends (config : EngineConfig) (rounds : Nat) :
    Ends rounds (config.intent.proofMode = .beacon ∧ 0 < rounds)
      (OrchestrationEngine.run ⟨config, skeletonMonitor, mockDispatcher⟩ rounds []) := by
  rw [OrchestrationEngine.run]
  cases mode : config.intent.proofMode with
  | beacon =>
      cases rounds with
      | zero => exact .interrupted [] (by simp) (by simp) rfl
      | succ rounds =>
          have failing := Traced.repeatedly_failing _ _ _ (failed_beacon_round config mockDispatcher) rounds []
          dsimp only [OrchestrationEngine.runBeaconLoop]
          rw [failing]
          exact .failed ⟨rfl, Nat.succ_pos rounds⟩
  | sentinel =>
      exact steady_ends _ _ rounds _ (by simp) .disputeAsked (idle_sentinel_round config _ mockDispatcher rfl)

theorem engine_cases (env : Environment) (args : ServeArgs) (served : OrchestrationEngine) (built : engine env args = .ok served) :
    ∃ config sdkConfig, env.fromFile args.config = .ok config ∧ config.toSdkConfig = .ok sdkConfig ∧
      served = ⟨⟨sdkConfig.resolve.toResolvedIntent⟩,
        if mockMode env args config then mockMonitor defaultState else skeletonMonitor, mockDispatcher⟩ := by
  rw [engine] at built
  cases read : env.fromFile args.config with
  | error reason => simp [read] at built
  | ok config =>
      cases converted : config.toSdkConfig with
      | error reason => simp [read, converted] at built
      | ok sdkConfig =>
          refine ⟨config, sdkConfig, rfl, converted, ?_⟩
          simp only [read, converted] at built
          by_cases mock : mockMode env args config = true
          · rw [if_pos mock] at built
            rw [if_pos mock, Except.ok.inj built]
          · rw [if_neg mock] at built
            rw [if_neg mock]
            cases parsed : env.parseAddress (args.oracleAddress.getD "") with
            | error reason => simp [parsed] at built
            | ok address =>
                rw [parsed] at built
                exact (Except.ok.inj built).symm

theorem resolved_mode (config : CliConfig) (sdkConfig : OpenZkConfig) (converted : config.toSdkConfig = .ok sdkConfig) :
    sdkConfig.resolve.proofMode = .beacon ↔ config.proving.security = "maximum" := by
  obtain rfl := Except.ok.inj converted
  change IntentResolver.resolveProofMode (Duration.fromSecs config.proving.targetFinalitySecs)
    (CliConfig.parseSecurity config.proving.security) = .beacon ↔ _
  rw [CliConfig.parseSecurity]
  by_cases maximum : config.proving.security = "maximum"
  · simp [maximum, IntentResolver.resolveProofMode]
  · by_cases economy : config.proving.security = "economy"
    · simp [economy, IntentResolver.resolveProofMode]
    · simp [maximum, economy, IntentResolver.resolveProofMode]

theorem ends_silent (rounds : Nat) (fails : Prop) (outcome : EStateM.Result Stop Trace Unit) (ends : Ends rounds fails outcome) :
    events (Traced.traceOf outcome) = [] ∧ dispatched (Traced.traceOf outcome) = [] := by
  apply idle_silent
  cases ends with
  | interrupted trace spared idle length => exact idle
  | failed fatal =>
      intro action member
      rw [List.mem_singleton.mp member]
      exact .polled _

/-- As the command is wired the service proves nothing: over its own state it finds nothing to do,
over the nodes it fails at the first poll or waits for disputes that it cannot see. -/
theorem serve_never_proves (env : Environment) (args : ServeArgs) (served : OrchestrationEngine)
    (built : engine env args = .ok served) (rounds : Nat) :
    events (Traced.traceOf (served.run rounds [])) = [] ∧ dispatched (Traced.traceOf (served.run rounds [])) = [] ∧
      ∃ config, env.fromFile args.config = .ok config ∧
        Ends rounds (mockMode env args config = false ∧ config.proving.security = "maximum" ∧ 0 < rounds)
          (served.run rounds []) := by
  obtain ⟨config, sdkConfig, read, converted, rfl⟩ := engine_cases env args served built
  have ends : Ends rounds (mockMode env args config = false ∧ config.proving.security = "maximum" ∧ 0 < rounds)
      (OrchestrationEngine.run ⟨⟨sdkConfig.resolve.toResolvedIntent⟩,
        if mockMode env args config then mockMonitor defaultState else skeletonMonitor, mockDispatcher⟩ rounds []) := by
    cases mock : mockMode env args config with
    | true => exact mock_ends _ rounds _ (by simp)
    | false =>
        have skeleton := skeleton_ends ⟨sdkConfig.resolve.toResolvedIntent⟩ rounds
        rw [resolved_mode config sdkConfig converted] at skeleton
        simpa using skeleton
  obtain ⟨quiet, unpaid⟩ := ends_silent rounds _ _ ends
  exact ⟨quiet, unpaid, config, read, ends⟩

def sampleEnvironment : Environment where
  fromFile := fun _ => .ok ⟨⟨"l1", "l2", "beacon"⟩, ⟨"sp1", ["sp1"], "maximum", 1800⟩⟩
  var := fun _ => none
  parseAddress := fun _ => .ok 0xc1

theorem serve_never_proves_sample :
    dispatched (Traced.traceOf (OrchestrationEngine.run
      ⟨⟨⟨.beacon, .groth16, 10⟩⟩, skeletonMonitor, mockDispatcher⟩ 3 [])) = [] :=
  (serve_never_proves sampleEnvironment ⟨"open-zk.toml", some "0xc1"⟩
    ⟨⟨⟨.beacon, .groth16, 10⟩⟩, skeletonMonitor, mockDispatcher⟩ rfl 3).2.1

end Serve

end OpenZk
