import OpenZk.DisputeVerdicts
import OpenZk.EngineRedispatch
import OpenZk.PlannedBlocks
import OpenZk.RpcMonitor

set_option autoImplicit false

namespace OpenZk

open Words Engine Traced

def RpcMonitor.RpcMonitorError.message : RpcMonitor.RpcMonitorError → String
  | .l1Rpc message => "L1 RPC error: " ++ message
  | .l2Rpc message => "L2 RPC error: " ++ message
  | .contract message => "contract call error: " ++ message
  | .urlParse message => "URL parse error: " ++ message

namespace Live

/-- The chains around an engine that has done what a trace tells: what the nodes answer then, and
the transactions the contracts have taken until then. -/
structure Chains where
  connect : Trace → String → RpcMonitor.Node
  mined : Trace → List System.Tx

def monitor (chains : Chains) (rpc : RpcMonitor.RpcChainMonitor) : ChainMonitor where
  getState := fun trace => (RpcMonitor.getState (chains.connect trace) rpc).mapError RpcMonitor.RpcMonitorError.message
  ownRange := none
  activeDispute := fun trace => RpcMonitor.activeDispute (chains.connect trace) rpc

def contracts (v : Verifiers) (d : System.Deployment) (chains : Chains) (trace : Trace) : System.State :=
  System.run v (System.deploy d) (chains.mined trace)

structure Truthful (v : Verifiers) (d : System.Deployment) (chains : Chains) (rpc : RpcMonitor.RpcChainMonitor) : Prop where
  latest : ∀ trace response, (chains.connect trace rpc.l1RpcUrl).call rpc.oracleAddress .latestBlockNumber = .ok response →
    response = RpcMonitor.abiUint64 (contracts v d chains trace).oracle.latestBlockNumber
  grows : ∀ front back, chains.mined front <+: chains.mined (front ++ back)

def proven (v : Verifiers) (d : System.Deployment) (chains : Chains) (trace : Trace) (number : UInt64) : Prop :=
  Oracle.isBlockProven (contracts v d chains trace).oracle number = true

structure Fresh (v : Verifiers) (d : System.Deployment) (chains : Chains) (rpc : RpcMonitor.RpcChainMonitor) (poll : Trace)
    (request : ProofRequest) : Prop where
  unproven : ∀ seen number, seen <+: poll → proven v d chains seen number → number < request.l2StartBlock
  safe : ∃ header, (chains.connect poll rpc.l2RpcUrl).blockByNumber .safe = .ok (some header) ∧
    request.l2EndBlock ≤ header.number

variable {v : Verifiers} {d : System.Deployment} {chains : Chains} {rpc : RpcMonitor.RpcChainMonitor}

theorem get_state_ok (trace : Trace) (state : ChainState) (answered : (monitor chains rpc).getState trace = .ok state) :
    ∃ finalized safe response,
      (chains.connect trace rpc.l1RpcUrl).blockByNumber .finalized = .ok (some finalized) ∧
      (chains.connect trace rpc.l2RpcUrl).blockByNumber .safe = .ok (some safe) ∧
      (chains.connect trace rpc.l1RpcUrl).call rpc.oracleAddress .latestBlockNumber = .ok response ∧
      state = ⟨finalized.hash, if response.length ≥ 32 then RpcMonitor.decodeUint64 response else 0, safe.number⟩ := by
  dsimp only [monitor, RpcMonitor.getState] at answered
  cases l1 : (chains.connect trace rpc.l1RpcUrl).blockByNumber .finalized with
  | error reason => simp [l1, Except.mapError] at answered
  | ok found =>
      cases found with
      | none => simp [l1, Except.mapError] at answered
      | some finalized =>
          cases l2 : (chains.connect trace rpc.l2RpcUrl).blockByNumber .safe with
          | error reason => simp [l1, l2, Except.mapError] at answered
          | ok found =>
              cases found with
              | none => simp [l1, l2, Except.mapError] at answered
              | some safe =>
                  cases called : (chains.connect trace rpc.l1RpcUrl).call rpc.oracleAddress .latestBlockNumber with
                  | error reason => simp [l1, l2, called, Except.mapError] at answered
                  | ok response =>
                      simp only [l1, l2, called, Except.mapError, Except.ok.injEq] at answered
                      exact ⟨finalized, safe, response, rfl, rfl, rfl, answered.symm⟩

theorem truthful_state (truthful : Truthful v d chains rpc) (trace : Trace) (state : ChainState)
    (answered : (monitor chains rpc).getState trace = .ok state) :
    state.l2ProvenBlock = (contracts v d chains trace).oracle.latestBlockNumber ∧
      ∃ header, (chains.connect trace rpc.l2RpcUrl).blockByNumber .safe = .ok (some header) ∧ state.l2SafeBlock = header.number := by
  obtain ⟨finalized, safe, response, _, l2, called, rfl⟩ := get_state_ok trace state answered
  have told := truthful.latest trace response called
  have long : response.length ≥ 32 := by rw [told, RpcMonitor.abi_uint64_length]
  refine ⟨?_, safe, l2, rfl⟩
  simp only [if_pos long]
  rw [told, RpcMonitor.decode_abi_uint64]

theorem proven_below_latest (trace : Trace) (number : UInt64) (holds : proven v d chains trace number) :
    number ≤ (contracts v d chains trace).oracle.latestBlockNumber := by
  rw [proven, contracts] at holds
  rw [contracts]
  rw [System.oracle_run] at holds ⊢
  exact Oracle.run_latest_bounds v _ _ (Oracle.deploy_latest_bounds _ _ _ _ _) number holds

theorem proven_stays (truthful : Truthful v d chains rpc) (seen later : Trace) (number : UInt64) (extended : seen <+: later)
    (holds : proven v d chains seen number) : proven v d chains later number := by
  obtain ⟨rest, rfl⟩ := extended
  obtain ⟨txs, grown⟩ := truthful.grows seen rest
  rw [proven, contracts] at holds ⊢
  rw [← grown, System.run_append, System.oracle_run]
  exact (Oracle.proven_block_stays v _ _ number holds).1

theorem placed_fresh (truthful : Truthful v d chains rpc) (config : EngineConfig) (dispatcher : ProofDispatcher)
    (front : Trace) (request : ProofRequest) (placed : Placed ⟨config, monitor chains rpc, dispatcher⟩ front request)
    (answered : (monitor chains rpc).getState placed.past = .ok placed.polled) :
    Fresh v d chains rpc placed.past request := by
  obtain ⟨latest, header, served, safe⟩ := truthful_state truthful placed.past placed.polled answered
  obtain ⟨low, _, high, _⟩ := placed_bounds placed
  refine ⟨?_, header, served, ?_⟩
  · intro seen number earlier holds
    have bound := proven_below_latest _ number (proven_stays truthful seen placed.past number earlier holds)
    rw [← latest] at bound
    exact UInt64.lt_of_le_of_lt bound low
  · rw [← safe]
    exact high

theorem anchor_finalized (config : EngineConfig) (dispatcher : ProofDispatcher) (front : Trace) (request : ProofRequest)
    (placed : Placed ⟨config, monitor chains rpc, dispatcher⟩ front request) (asked : Trace)
    (answered : (monitor chains rpc).getState asked = .ok placed.anchor) :
    ∃ header, (chains.connect asked rpc.l1RpcUrl).blockByNumber .finalized = .ok (some header) ∧
      request.l1Head = header.hash := by
  obtain ⟨finalized, _, _, l1, _, _, state⟩ := get_state_ok asked placed.anchor answered
  refine ⟨finalized, l1, ?_⟩
  rw [← (placed_bounds placed).2.2.2, state]

/-- A proof is asked for only above everything proven when its own round polled, and for a block
again only when a later poll finds neither the block nor any above it proven. -/
theorem live_beacon_fresh (v : Verifiers) (d : System.Deployment) (chains : Chains) (rpc : RpcMonitor.RpcChainMonitor)
    (truthful : Truthful v d chains rpc) (config : EngineConfig) (dispatcher : ProofDispatcher) (rounds : Nat)
    (front : Trace) (request : ProofRequest) (answer : Except String ProofJobHandle) (back : Trace)
    (split : traceOf (OrchestrationEngine.runBeaconLoop ⟨config, monitor chains rpc, dispatcher⟩ rounds []) =
      front ++ .submitted request answer :: back) :
    ∃ poll snapshot start stop state tail,
      front = poll ++ .polled (.ok snapshot) :: .event (.rangeDetected start stop) :: .stateAsked (.ok state) :: tail ∧
      (∀ action ∈ tail, readsChain action = false) ∧ Fresh v d chains rpc poll request ∧
      (∃ header, (chains.connect (poll ++ [.polled (.ok snapshot), .event (.rangeDetected start stop)])
          rpc.l1RpcUrl).blockByNumber .finalized = .ok (some header) ∧
        request.l1Head = header.hash) ∧
      ∀ before earlier reply middle block, front = before ++ .submitted earlier reply :: middle →
        block ∈ Tiles.members (Planner.span earlier) → block ∈ Tiles.members (Planner.span request) →
        before ++ [.submitted earlier reply] <+: poll ∧ ∀ number, proven v d chains poll number → number.toNat < block := by
  have places : Throughout (PlacedAt ⟨config, monitor chains rpc, dispatcher⟩) _ := loop_placed rfl rounds
  have answers : Throughout (Answered ⟨config, monitor chains rpc, dispatcher⟩) _ := beacon_loop_answered rounds
  obtain ⟨placed⟩ := places front _ back split request answer rfl
  have whole := split.trans (congrArg (· ++ .submitted request answer :: back) placed.shape)
  have polled := answers placed.past (.polled (.ok placed.polled)) _ (whole.trans (List.append_assoc _ _ _))
  have asked := answers (placed.past ++ [.polled (.ok placed.polled), .event (.rangeDetected placed.start placed.stop)])
    (.stateAsked (.ok placed.anchor)) (placed.tail ++ .submitted request answer :: back) (by rw [whole]; simp)
  have fresh := placed_fresh truthful config dispatcher front request placed polled.symm
  refine ⟨placed.past, placed.polled, placed.start, placed.stop, placed.anchor, placed.tail, placed.shape, placed.unread, fresh,
    anchor_finalized config dispatcher front request placed _ asked.symm, ?_⟩
  intro before earlier reply middle block inFront first second
  subst inFront
  refine ⟨placed_polled_between placed block first second, ?_⟩
  intro number holds
  have above := UInt64.lt_iff_toNat_lt.mp (fresh.unproven placed.past number (List.prefix_refl _) holds)
  rw [Tiles.members, List.mem_range'_1] at second
  exact Nat.lt_of_lt_of_le above second.1

def sampleChains : Chains where
  connect := fun _ _ => ⟨fun _ => .ok (some ⟨zeroWord, 1⟩), fun _ _ => .ok (RpcMonitor.abiUint64 0)⟩
  mined := fun _ => []

def sampleRpc : RpcMonitor.RpcChainMonitor := ⟨"http://l1", "http://l2", 0xc1, none⟩

theorem sample_truthful : Truthful Oracle.mockVerifiers System.sampleDeployment sampleChains sampleRpc := by
  refine ⟨?_, fun _ _ => List.prefix_refl _⟩
  intro trace response called
  exact (Except.ok.inj called).symm

def sampleFront : Trace :=
  [.polled (.ok ⟨zeroWord, 0, 1⟩), .event (.rangeDetected 1 1), .stateAsked (.ok ⟨zeroWord, 0, 1⟩), .event (.proofStarted 1 1)]

theorem sample_poll (trace : Trace) : (monitor sampleChains sampleRpc).getState trace = .ok ⟨zeroWord, 0, 1⟩ := by
  have long : (RpcMonitor.abiUint64 0).length ≥ 32 := Nat.le_of_eq (RpcMonitor.abi_uint64_length 0).symm
  simp [monitor, RpcMonitor.getState, sampleChains, Except.mapError, long, RpcMonitor.decode_abi_uint64]

theorem monitor_eq (polls : Trace → Except String ChainState) (disputes : Trace → Option DisputeInfo)
    (polled : ∀ trace, (monitor chains rpc).getState trace = polls trace)
    (disputed : ∀ trace, (monitor chains rpc).activeDispute trace = disputes trace) :
    monitor chains rpc = ⟨polls, none, disputes⟩ := by
  obtain rfl : (monitor chains rpc).getState = polls := funext polled
  obtain rfl : (monitor chains rpc).activeDispute = disputes := funext disputed
  rfl

theorem sample_monitor : monitor sampleChains sampleRpc = mockMonitor ⟨zeroWord, 0, 1⟩ :=
  monitor_eq _ _ sample_poll fun _ => rfl

theorem sample_split :
    traceOf (OrchestrationEngine.runBeaconLoop ⟨⟨⟨.beacon, .groth16, 10⟩⟩, monitor sampleChains sampleRpc, mockDispatcher⟩ 1 []) =
      sampleFront ++ .submitted ⟨zeroWord, 1, 1, zeroWord, .groth16⟩
          (.ok ⟨"mock-1-1", ⟨zeroWord, 1, 1, zeroWord, .groth16⟩⟩) ::
        [.waited ⟨"mock-1-1", ⟨zeroWord, 1, 1, zeroWord, .groth16⟩⟩ (.ok sampleArtifact), .event (.proofCompleted 1 1)] := by
  rw [sample_monitor]
  rfl

theorem live_beacon_fresh_sample :
    ∃ poll snapshot start stop state tail, sampleFront =
        poll ++ .polled (.ok snapshot) :: .event (.rangeDetected start stop) :: .stateAsked (.ok state) :: tail ∧
      (∀ action ∈ tail, readsChain action = false) ∧
      Fresh Oracle.mockVerifiers System.sampleDeployment sampleChains sampleRpc poll ⟨zeroWord, 1, 1, zeroWord, .groth16⟩ := by
  obtain ⟨poll, snapshot, start, stop, state, tail, shape, unread, fresh, _⟩ :=
    live_beacon_fresh Oracle.mockVerifiers System.sampleDeployment sampleChains sampleRpc sample_truthful
      ⟨⟨.beacon, .groth16, 10⟩⟩ mockDispatcher 1 sampleFront _ _ _ sample_split
  exact ⟨poll, snapshot, start, stop, state, tail, shape, unread, fresh⟩

end Live

end OpenZk
