import OpenZk.BackendAllowlist
import OpenZk.BeaconSightings

set_option autoImplicit false

namespace OpenZk

open Words Engine Traced

namespace RpcMonitor

theorem active_dispute_decoded (connect : String → Node) (monitor : RpcChainMonitor) (dispute : DisputeInfo)
    (reported : activeDispute connect monitor = some dispute) :
    ∃ response, (connect monitor.l1RpcUrl).call monitor.oracleAddress .latestBlockNumber = .ok response ∧
      dispute.endBlock = decodeUint64 response := by
  rw [activeDispute] at reported
  obtain ⟨disputeAddress, _, reported⟩ := Option.bind_eq_some_iff.mp reported
  split at reported
  · cases reported
  · rename_i response called
    split at reported
    · cases reported
    · dsimp only at reported
      split at reported
      · cases reported
      · split at reported
        · rw [← Option.some.inj reported]
          exact ⟨response, called, rfl⟩
        · cases reported

end RpcMonitor

namespace Engine

variable {engine : OrchestrationEngine}

theorem follows_stops (trace : Trace) (error : Option Stop) (follows : FollowsProtocol engine trace error) :
    FailsLast calls trace error := by
  rw [FollowsProtocol] at follows
  cases mode : engine.config.intent.proofMode with
  | beacon =>
      rw [mode] at follows
      exact BeaconProtocol.stops follows
  | sentinel =>
      rw [mode] at follows
      exact SentinelProtocol.stops follows

theorem failure_returned (action : Action) (reason : Stop) (failed : failure action = some reason) :
    ∃ error, reason = .returned error := by
  unfold failure at failed
  split at failed
  all_goals first
    | exact ⟨_, (Option.some.inj failed).symm⟩
    | cases failed

theorem stops_unpanicked (trace : Trace) (error : Option Stop) (stops : FailsLast calls trace error) (fault : Planner.Fault) :
    error ≠ some (.panicked fault) := by
  intro panicked
  obtain ⟨_, action, _, failed⟩ := stops.reported _ panicked
  obtain ⟨error, same⟩ := failure_returned action _ failed
  cases same

theorem reported_polled (inherited : engine.monitor.ownRange = none) (start stop : UInt64)
    (reported : Reported engine.monitor start stop) :
    ∃ past snapshot, engine.monitor.getState past = .ok snapshot ∧
      Planner.pendingRange snapshot = .ok (some (start, stop)) := by
  obtain ⟨past, later, ran⟩ := reported
  rw [pendingRange, inherited] at ran
  cases answered : engine.monitor.getState past with
  | error reason => simp [bind, EStateM.bind, ask, answered] at ran
  | ok snapshot =>
      obtain ⟨range, computed⟩ := Planner.pending_range_total snapshot
      simp only [bind, EStateM.bind, ask, answered, computed] at ran
      change EStateM.Result.ok range _ = EStateM.Result.ok _ later at ran
      cases ran
      exact ⟨past, snapshot, answered, computed⟩

end Engine

theorem resolved_window (sdkConfig : OpenZkConfig) : 1 ≤ sdkConfig.resolve.aggregationWindow.toNat := by
  unfold OpenZkConfig.resolve IntentResolver.resolve
  cases sdkConfig.security <;> simp

namespace Live

def configured (sdkConfig : OpenZkConfig) (chains : Chains) (rpc : RpcMonitor.RpcChainMonitor) (dispatcher : ProofDispatcher) :
    OrchestrationEngine :=
  ⟨⟨sdkConfig.resolve.toResolvedIntent⟩, monitor chains rpc, dispatcher⟩

def LeavesRoom (v : Verifiers) (d : System.Deployment) (chains : Chains) (rpc : RpcMonitor.RpcChainMonitor)
    (sdkConfig : OpenZkConfig) : Prop :=
  match sdkConfig.resolve.proofMode with
  | .beacon => ∀ past header, (chains.connect past rpc.l2RpcUrl).blockByNumber .safe = .ok (some header) →
      header.number.toNat + sdkConfig.resolve.aggregationWindow.toNat < 2 ^ 64
  | .sentinel => ∀ past, (latest v d chains past).toNat + sdkConfig.resolve.aggregationWindow.toNat < 2 ^ 64

variable {v : Verifiers} {d : System.Deployment} {chains : Chains} {rpc : RpcMonitor.RpcChainMonitor}

theorem dispute_latest (truthful : Truthful v d chains rpc) (past : Trace) (dispute : DisputeInfo)
    (answered : (monitor chains rpc).activeDispute past = some dispute) : dispute.endBlock = latest v d chains past := by
  obtain ⟨response, called, number⟩ := RpcMonitor.active_dispute_decoded (chains.connect past) rpc dispute answered
  rw [number, truthful.latest past response called, RpcMonitor.decode_abi_uint64, latest]

theorem plan_fits (sdkConfig : OpenZkConfig) (dispatcher : ProofDispatcher) (start stop : UInt64) (state : ChainState)
    (room : stop.toNat + sdkConfig.resolve.aggregationWindow.toNat < 2 ^ 64) :
    (configured sdkConfig chains rpc dispatcher).planRange start stop state ≠ .error .overflow := by
  obtain ⟨requests, planned⟩ := Planner.plan_range_total sdkConfig.resolve.aggregationWindow sdkConfig.resolve.provingMode
    state start stop (resolved_window sdkConfig) room
  rw [OrchestrationEngine.planRange, configured, planned]
  intro overflow
  cases overflow

theorem live_ranges_fit (truthful : Truthful v d chains rpc) (sdkConfig : OpenZkConfig) (dispatcher : ProofDispatcher)
    (room : ∀ past header, (chains.connect past rpc.l2RpcUrl).blockByNumber .safe = .ok (some header) →
      header.number.toNat + sdkConfig.resolve.aggregationWindow.toNat < 2 ^ 64) :
    RangesFit (configured sdkConfig chains rpc dispatcher) := by
  refine ⟨resolved_window sdkConfig, ?_⟩
  intro start stop state reported
  obtain ⟨past, snapshot, answered, computed⟩ := reported_polled rfl start stop reported
  obtain ⟨_, last, _⟩ := Planner.pending_range_order snapshot start stop computed
  obtain ⟨_, header, served, safe⟩ := truthful_state truthful past snapshot answered
  apply plan_fits
  rw [last, safe]
  exact room past header served

theorem live_disputes_fit (truthful : Truthful v d chains rpc) (sdkConfig : OpenZkConfig) (dispatcher : ProofDispatcher)
    (room : ∀ past, (latest v d chains past).toNat + sdkConfig.resolve.aggregationWindow.toNat < 2 ^ 64) :
    DisputesFit (configured sdkConfig chains rpc dispatcher) := by
  refine ⟨resolved_window sdkConfig, ?_⟩
  intro past dispute state answered
  apply plan_fits
  rw [dispute_latest truthful past dispute answered]
  exact room past

theorem configured_follows (truthful : Truthful v d chains rpc) (sdkConfig : OpenZkConfig) (dispatcher : ProofDispatcher)
    (room : LeavesRoom v d chains rpc sdkConfig) (rounds : Nat) :
    FollowsProtocol (configured sdkConfig chains rpc dispatcher)
      (traceOf ((configured sdkConfig chains rpc dispatcher).run rounds []))
      (errorOf ((configured sdkConfig chains rpc dispatcher).run rounds [])) := by
  have resolved : (configured sdkConfig chains rpc dispatcher).config.intent.proofMode = sdkConfig.resolve.proofMode := rfl
  rw [FollowsProtocol, OrchestrationEngine.run, resolved]
  rw [LeavesRoom] at room
  cases mode : sdkConfig.resolve.proofMode with
  | beacon =>
      rw [mode] at room
      exact beacon_protocol (live_ranges_fit truthful sdkConfig dispatcher room) rounds
  | sentinel =>
      rw [mode] at room
      exact sentinel_protocol (live_disputes_fit truthful sdkConfig dispatcher room) rounds

theorem configured_engine_stops (v : Verifiers) (d : System.Deployment) (chains : Chains) (rpc : RpcMonitor.RpcChainMonitor)
    (truthful : Truthful v d chains rpc) (sdkConfig : OpenZkConfig) (dispatcher : ProofDispatcher)
    (room : LeavesRoom v d chains rpc sdkConfig) (rounds : Nat) :
    FollowsProtocol (configured sdkConfig chains rpc dispatcher)
        (traceOf ((configured sdkConfig chains rpc dispatcher).run rounds []))
        (errorOf ((configured sdkConfig chains rpc dispatcher).run rounds [])) ∧
      ∀ fault, errorOf ((configured sdkConfig chains rpc dispatcher).run rounds []) ≠ some (.panicked fault) := by
  have follows := configured_follows truthful sdkConfig dispatcher room rounds
  exact ⟨follows, stops_unpanicked _ _ (follows_stops _ _ follows)⟩

def beaconConfig : OpenZkConfig :=
  ⟨.auto, [.sp1], Duration.fromSecs 1800, .maximum, "http://l1", "http://l2", "http://beacon"⟩

theorem beacon_room : LeavesRoom Oracle.mockVerifiers System.sampleDeployment sampleChains sampleRpc beaconConfig := by
  intro past header served
  obtain rfl := Option.some.inj (Except.ok.inj served)
  decide

theorem configured_engine_stops_sample : FollowsProtocol (configured beaconConfig sampleChains sampleRpc mockDispatcher)
    (traceOf ((configured beaconConfig sampleChains sampleRpc mockDispatcher).run 3 []))
    (errorOf ((configured beaconConfig sampleChains sampleRpc mockDispatcher).run 3 [])) :=
  (configured_engine_stops Oracle.mockVerifiers System.sampleDeployment sampleChains sampleRpc sample_truthful beaconConfig
    mockDispatcher beacon_room 3).1

end Live

end OpenZk
