import OpenZk.Planner
import OpenZk.Traced

set_option autoImplicit false

namespace OpenZk

open Words

inductive ZkvmBackend where
  | sp1
  | riscZero
  | auto
  | mock
deriving DecidableEq

inductive ProofMode where
  | beacon
  | sentinel
deriving DecidableEq

structure ProofArtifact where
  backend : ZkvmBackend
  mode : ProvingMode
  proofBytes : Bytes
  publicValues : Bytes
  programId : Bytes32
  cycleCount : Option UInt64
deriving DecidableEq

structure ProofJobHandle where
  id : String
  request : ProofRequest
deriving DecidableEq

structure DisputeInfo where
  startBlock : UInt64
  endBlock : UInt64
deriving DecidableEq

structure ResolvedIntent where
  proofMode : ProofMode
  provingMode : ProvingMode
  aggregationWindow : UInt64

structure EngineConfig where
  intent : ResolvedIntent

namespace Engine

inductive EngineEvent where
  | rangeDetected (start stop : UInt64)
  | proofStarted (start stop : UInt64)
  | proofCompleted (start stop : UInt64)
  | proofSubmitted (start stop : UInt64)
  | aggregationStarted (numProofs : Nat)
  | aggregationCompleted (start stop : UInt64)
  | disputeDetected (start stop : UInt64)
  | disputeResolved (start stop : UInt64)
  | error (message : String)
deriving DecidableEq

inductive EngineError where
  | monitor (message : String)
  | dispatch (message : String)
deriving DecidableEq

/-- A loop ends by returning an error, or by a panic when the planner's arithmetic overflows; it
never returns otherwise. -/
inductive Stop where
  | returned (error : EngineError)
  | panicked (fault : Planner.Fault)
deriving DecidableEq

inductive Action where
  | event (event : EngineEvent)
  -- get_state in the inherited body of pending_range.
  | polled (answer : Except String ChainState)
  -- A pending_range that the monitor defines itself.
  | rangeAsked (answer : Except String (Option (UInt64 × UInt64)))
  | stateAsked (answer : Except String ChainState)
  | disputeAsked (answer : Option DisputeInfo)
  | submitted (request : ProofRequest) (answer : Except String ProofJobHandle)
  | waited (handle : ProofJobHandle) (answer : Except String ProofArtifact)
  | aggregationSubmitted (rangeProofs : List ProofArtifact) (answer : Except String ProofJobHandle)

abbrev Trace := List Action

structure ChainMonitor where
  getState : Trace → Except String ChainState
  -- None where the default body of pending_range is inherited.
  ownRange : Option (Trace → Except String (Option (UInt64 × UInt64)))
  activeDispute : Trace → Option DisputeInfo

structure ProofDispatcher where
  submit : ProofRequest → Trace → Except String ProofJobHandle
  wait : ProofJobHandle → Trace → Except String ProofArtifact
  submitAggregation : List ProofArtifact → Trace → Except String ProofJobHandle

structure OrchestrationEngine where
  config : EngineConfig
  monitor : ChainMonitor
  dispatcher : ProofDispatcher

abbrev Program (β : Type) := Traced Action Stop β

def monitorError (message : String) : Stop := .returned (.monitor message)

def dispatchError (message : String) : Stop := .returned (.dispatch message)

def send (event : EngineEvent) : Program Unit := Traced.emit (.event event)

def checked {β : Type} (outcome : Except Planner.Fault β) : Program β := Traced.lift (outcome.mapError Stop.panicked)

def pendingRange (monitor : ChainMonitor) : Program (Option (UInt64 × UInt64)) :=
  match monitor.ownRange with
  | some range => Traced.ask range .rangeAsked monitorError
  | none => do
      let state ← Traced.ask monitor.getState .polled monitorError
      checked (Planner.pendingRange state)

def getState (monitor : ChainMonitor) : Program ChainState := Traced.ask monitor.getState .stateAsked monitorError

def activeDispute (monitor : ChainMonitor) : Program (Option DisputeInfo) :=
  Traced.observe monitor.activeDispute .disputeAsked

def submit (dispatcher : ProofDispatcher) (request : ProofRequest) : Program ProofJobHandle :=
  Traced.ask (dispatcher.submit request) (.submitted request) dispatchError

def wait (dispatcher : ProofDispatcher) (handle : ProofJobHandle) : Program ProofArtifact :=
  Traced.ask (dispatcher.wait handle) (.waited handle) dispatchError

def submitAggregation (dispatcher : ProofDispatcher) (rangeProofs : List ProofArtifact) : Program ProofJobHandle :=
  Traced.ask (dispatcher.submitAggregation rangeProofs) (.aggregationSubmitted rangeProofs) dispatchError

namespace OrchestrationEngine

variable (engine : OrchestrationEngine)

def planRange (start stop : UInt64) (state : ChainState) : Except Planner.Fault (List ProofRequest) :=
  Planner.planRange engine.config.intent.aggregationWindow engine.config.intent.provingMode state start stop

def beaconRound : Program Unit := do
  let range ← pendingRange engine.monitor
  match range with
  | some (start, stop) =>
      send (.rangeDetected start stop)
      let state ← getState engine.monitor
      let requests ← checked (engine.planRange start stop state)
      let mut rangeProofs := []
      for request in requests do
        send (.proofStarted request.l2StartBlock request.l2EndBlock)
        let handle ← submit engine.dispatcher request
        let proof ← wait engine.dispatcher handle
        send (.proofCompleted request.l2StartBlock request.l2EndBlock)
        rangeProofs := rangeProofs ++ [proof]
      if rangeProofs.length > 1 then
        send (.aggregationStarted rangeProofs.length)
        let aggHandle ← submitAggregation engine.dispatcher rangeProofs
        let _ ← wait engine.dispatcher aggHandle
        send (.aggregationCompleted start stop)
  | none => pure ()

def sentinelRound : Program Unit := do
  let dispute ← activeDispute engine.monitor
  match dispute with
  | some dispute =>
      send (.disputeDetected dispute.startBlock dispute.endBlock)
      let state ← getState engine.monitor
      let requests ← checked (engine.planRange dispute.startBlock dispute.endBlock state)
      for request in requests do
        let handle ← submit engine.dispatcher request
        let _ ← wait engine.dispatcher handle
      send (.disputeResolved dispute.startBlock dispute.endBlock)
  | none => pure ()

/-- The loops have no end: a run is watched for a number of rounds. -/
def runBeaconLoop (rounds : Nat) : Program Unit := Traced.repeatedly engine.beaconRound rounds

def runSentinelLoop (rounds : Nat) : Program Unit := Traced.repeatedly engine.sentinelRound rounds

def run (rounds : Nat) : Program Unit :=
  match engine.config.intent.proofMode with
  | .beacon => engine.runBeaconLoop rounds
  | .sentinel => engine.runSentinelLoop rounds

end OrchestrationEngine

def failure : Action → Option Stop
  | .polled (.error message) => some (monitorError message)
  | .rangeAsked (.error message) => some (monitorError message)
  | .stateAsked (.error message) => some (monitorError message)
  | .submitted _ (.error message) => some (dispatchError message)
  | .waited _ (.error message) => some (dispatchError message)
  | .aggregationSubmitted _ (.error message) => some (dispatchError message)
  | _ => none

def sameCall : Action → Action → Prop
  | .polled _, .polled _ => True
  | .rangeAsked _, .rangeAsked _ => True
  | .stateAsked _, .stateAsked _ => True
  | .submitted a _, .submitted b _ => a = b
  | .waited a _, .waited b _ => a = b
  | .aggregationSubmitted a _, .aggregationSubmitted b _ => a = b
  | _, _ => False

def calls : Calls Action Stop := ⟨failure, sameCall⟩

def eventOf : Action → Option EngineEvent
  | .event event => some event
  | _ => none

def events (trace : Trace) : List EngineEvent := trace.filterMap eventOf

end Engine

end OpenZk
