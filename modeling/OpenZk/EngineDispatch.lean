import OpenZk.EngineProtocol
import Mathlib.Data.List.Nodup

set_option autoImplicit false

namespace OpenZk.Engine

open Words Traced

def polledOf : Action → Option ChainState
  | .polled (.ok snapshot) => some snapshot
  | _ => none

def dispatchOf : Action → Option ProofRequest
  | .submitted request _ => some request
  | _ => none

def polledStates (trace : Trace) : List ChainState := trace.filterMap polledOf

def dispatched (trace : Trace) : List ProofRequest := trace.filterMap dispatchOf

def provenBlocks (trace : Trace) : List Nat :=
  (dispatched trace).flatMap fun request => Tiles.members (Planner.span request)

def pending (snapshot : ChainState) : Bool := snapshot.l2ProvenBlock < snapshot.l2SafeBlock

variable {engine : OrchestrationEngine}

def Round.snapshot (round : Round engine) : ChainState := (polledOf round.opening).getD sampleState

theorem pending_range_pending (snapshot : ChainState) (start stop : UInt64)
    (computed : Planner.pendingRange snapshot = .ok (some (start, stop))) : pending snapshot = true := by
  obtain ⟨first, last, order⟩ := Planner.pending_range_order snapshot start stop computed
  rw [pending, decide_eq_true_eq, UInt64.lt_iff_toNat_lt, ← last]
  omega

theorem pending_range_idle (snapshot : ChainState) (computed : Planner.pendingRange snapshot = .ok none) :
    pending snapshot = false := by
  by_cases above : snapshot.l2SafeBlock > snapshot.l2ProvenBlock
  · rw [Planner.pendingRange, if_pos above] at computed
    split at computed <;> cases computed
  · rw [pending, decide_eq_false_iff_not]
    exact above

theorem round_opening (inherited : engine.monitor.ownRange = none) (round : Round engine) :
    round.opening = .polled (.ok round.snapshot) ∧
      Planner.pendingRange round.snapshot = .ok (some (round.start, round.stop)) := by
  have opened := round.opened
  unfold Round.snapshot
  generalize round.opening = opening at opened
  cases opened with
  | polled snapshot range _ computed => exact ⟨rfl, computed⟩
  | asked range defined =>
      rw [inherited] at defined
      cases defined

theorem dispatched_append (front back : Trace) : dispatched (front ++ back) = dispatched front ++ dispatched back :=
  List.filterMap_append

theorem polled_append (front back : Trace) : polledStates (front ++ back) = polledStates front ++ polledStates back :=
  List.filterMap_append

theorem jobs_dispatched (jobs : List Job) : dispatched (jobs.flatMap Job.actions) = jobs.map Job.request := by
  rw [dispatched, jobs_observed dispatchOf (fun job => [job.request]) jobs fun _ => rfl]
  exact List.flatMap_pure_eq_map Job.request jobs

theorem jobs_polled (jobs : List Job) : polledStates (jobs.flatMap Job.actions) = [] := by
  rw [polledStates, jobs_observed polledOf (fun _ => []) jobs fun _ => rfl]
  exact List.flatMap_eq_nil_iff.mpr fun _ _ => rfl

theorem aggregation_silent (jobs : List Job) (aggHandle : ProofJobHandle) (aggProof : ProofArtifact) (start stop : UInt64) :
    dispatched (aggregationActions jobs aggHandle aggProof start stop) = [] ∧
      polledStates (aggregationActions jobs aggHandle aggProof start stop) = [] :=
  ⟨aggregation_unseen dispatchOf _ _ _ _ _ rfl, aggregation_unseen polledOf _ _ _ _ _ rfl⟩

theorem round_dispatched (inherited : engine.monitor.ownRange = none) (round : Round engine) :
    dispatched round.actions = round.jobs.map Job.request ∧ polledStates round.actions = [round.snapshot] := by
  obtain ⟨shape, _⟩ := round_opening inherited round
  obtain ⟨noDispatch, noPoll⟩ := aggregation_silent round.jobs round.aggHandle round.aggProof round.start round.stop
  rw [Round.actions, dispatched_append, polled_append, noDispatch, noPoll, Round.dispatch, shape]
  refine ⟨?_, ?_⟩
  · have jobs := jobs_dispatched round.jobs
    rw [List.append_nil]
    exact jobs
  · have jobs := jobs_polled round.jobs
    rw [List.append_nil]
    exact congrArg (List.cons round.snapshot) jobs

def Round.blocks (round : Round engine) : List Nat := List.range' round.start.toNat (round.stop.toNat + 1 - round.start.toNat)

theorem round_blocks (inherited : engine.monitor.ownRange = none) (round : Round engine) :
    provenBlocks round.actions = round.blocks := by
  obtain ⟨_, computed⟩ := round_opening inherited round
  obtain ⟨_, _, order⟩ := Planner.pending_range_order _ _ _ computed
  have ordered := UInt64.le_iff_toNat_le.mpr order
  have window := Planner.plan_range_window _ _ _ _ _ _ ordered round.planned
  rw [provenBlocks, (round_dispatched inherited round).1]
  exact Planner.plan_range_blocks _ _ _ _ _ _ window ordered round.planned

theorem blocks_append (front back : Trace) : provenBlocks (front ++ back) = provenBlocks front ++ provenBlocks back := by
  rw [provenBlocks, dispatched_append, List.flatMap_append]
  rfl

theorem poll_observed (inherited : engine.monitor.ownRange = none) (poll : Poll engine) (planned : poll.result = some ()) :
    provenBlocks poll.actions = poll.rounds.flatMap Round.blocks ∧
      (polledStates poll.actions).filter pending = poll.rounds.map Round.snapshot := by
  cases poll with
  | idle opening opened =>
      cases opened with
      | polled snapshot range _ computed =>
          refine ⟨rfl, ?_⟩
          simp [Poll.actions, polledStates, polledOf, Poll.rounds, pending_range_idle snapshot computed]
      | asked range defined =>
          rw [inherited] at defined
          cases defined
  | round proved =>
      have isPending := pending_range_pending _ _ _ (round_opening inherited proved).2
      rw [Poll.actions, round_blocks inherited proved, (round_dispatched inherited proved).2]
      simp [Poll.rounds, isPending]
  | unplanned opening start stop state fault opened reported failed => cases planned

theorem polls_observed (inherited : engine.monitor.ownRange = none) (polls : List (Poll engine))
    (planned : ∀ poll ∈ polls, poll.result = some ()) :
    provenBlocks (polls.flatMap Poll.actions) = (polls.flatMap Poll.rounds).flatMap Round.blocks ∧
      (polledStates (polls.flatMap Poll.actions)).filter pending = (polls.flatMap Poll.rounds).map Round.snapshot := by
  induction polls with
  | nil => exact ⟨rfl, rfl⟩
  | cons poll rest ih =>
      obtain ⟨blocks, snapshots⟩ := poll_observed inherited poll (planned poll (by simp))
      obtain ⟨laterBlocks, laterSnapshots⟩ := ih (fun other member => planned other (by simp [member]))
      simp only [List.flatMap_cons, blocks_append, polled_append, List.filter_append, List.flatMap_append, List.map_append]
      rw [blocks, snapshots, laterBlocks, laterSnapshots]
      exact ⟨rfl, rfl⟩

theorem rounds_disjoint_iff (inherited : engine.monitor.ownRange = none) (earlier later : Round engine)
    (proven : earlier.snapshot.l2ProvenBlock ≤ later.snapshot.l2ProvenBlock) :
    List.Disjoint earlier.blocks later.blocks ↔ earlier.snapshot.l2SafeBlock ≤ later.snapshot.l2ProvenBlock := by
  obtain ⟨first, last, order⟩ := Planner.pending_range_order _ _ _ (round_opening inherited earlier).2
  obtain ⟨nextFirst, nextLast, nextOrder⟩ := Planner.pending_range_order _ _ _ (round_opening inherited later).2
  have risen := UInt64.le_iff_toNat_le.mp proven
  rw [← last, UInt64.le_iff_toNat_le]
  unfold Round.blocks
  constructor
  · intro disjoint
    by_cases apart : earlier.stop.toNat ≤ later.snapshot.l2ProvenBlock.toNat
    · exact apart
    · have inEarlier : later.start.toNat ∈ List.range' earlier.start.toNat (earlier.stop.toNat + 1 - earlier.start.toNat) := by
        rw [List.mem_range'_1]
        omega
      have inLater : later.start.toNat ∈ List.range' later.start.toNat (later.stop.toNat + 1 - later.start.toNat) := by
        rw [List.mem_range'_1]
        omega
      exact absurd inLater (disjoint inEarlier)
  · intro apart block inEarlier inLater
    rw [List.mem_range'_1] at inEarlier inLater
    omega

theorem returned_polls (rounds : Nat) (trace : Trace) (succeeded : engine.runBeaconLoop rounds [] = .ok () trace) :
    ∃ polls : List (Poll engine), trace = polls.flatMap Poll.actions ∧ ∀ poll ∈ polls, poll.result = some () := by
  obtain ⟨added, rfl, polls, shape, finished⟩ := follows_returned (beacon_loop_follows engine rounds) succeeded
  exact ⟨polls, shape, finished.mp rfl⟩

/-- A poll with something to prove has to start at or above the end of every earlier one: the loop
itself does not remember what it has dispatched. -/
theorem no_block_twice_iff (engine : OrchestrationEngine) (rounds : Nat) (trace : Trace)
    (inherited : engine.monitor.ownRange = none) (succeeded : engine.runBeaconLoop rounds [] = .ok () trace)
    (monotone : (polledStates trace).Pairwise fun earlier later =>
      earlier.l2ProvenBlock ≤ later.l2ProvenBlock ∧ earlier.l2SafeBlock ≤ later.l2SafeBlock) :
    (provenBlocks trace).Nodup ↔
      ((polledStates trace).filter pending).Pairwise fun earlier later => earlier.l2SafeBlock ≤ later.l2ProvenBlock := by
  obtain ⟨polls, rfl, planned⟩ := returned_polls rounds trace succeeded
  obtain ⟨blocks, snapshots⟩ := polls_observed inherited polls planned
  have ordered := monotone.filter pending
  rw [snapshots, List.pairwise_map] at ordered
  rw [blocks, snapshots, List.pairwise_map, List.nodup_flatMap]
  have each : ∀ round ∈ polls.flatMap Poll.rounds, round.blocks.Nodup := fun round _ => List.nodup_range'
  constructor
  · intro distinct
    apply (ordered.and distinct.2).imp
    intro earlier later ⟨⟨proven, _⟩, disjoint⟩
    exact (rounds_disjoint_iff inherited earlier later proven).mp disjoint
  · intro apart
    refine ⟨each, (ordered.and apart).imp ?_⟩
    intro earlier later ⟨⟨proven, _⟩, beyond⟩
    exact (rounds_disjoint_iff inherited earlier later proven).mpr beyond

def stalledEngine : OrchestrationEngine := mockEngine .beacon 10 (mockMonitor ⟨zeroWord, 0, 1⟩)

def stalledRound : Trace :=
  .polled (.ok ⟨zeroWord, 0, 1⟩) :: .event (.rangeDetected 1 1) :: .stateAsked (.ok ⟨zeroWord, 0, 1⟩) ::
    Job.actions ⟨⟨zeroWord, 1, 1, zeroWord, .groth16⟩, ⟨"mock-1-1", ⟨zeroWord, 1, 1, zeroWord, .groth16⟩⟩, sampleArtifact⟩

theorem stalled_run : stalledEngine.runBeaconLoop 2 [] = .ok () (stalledRound ++ stalledRound) := rfl

theorem stalled_monotone : (polledStates (stalledRound ++ stalledRound)).Pairwise fun earlier later =>
    earlier.l2ProvenBlock ≤ later.l2ProvenBlock ∧ earlier.l2SafeBlock ≤ later.l2SafeBlock := by
  have polled : polledStates (stalledRound ++ stalledRound) = [⟨zeroWord, 0, 1⟩, ⟨zeroWord, 0, 1⟩] := rfl
  rw [polled]
  simp

theorem no_block_twice_iff_stalled :
    (provenBlocks (stalledRound ++ stalledRound)).Nodup ↔
      ((polledStates (stalledRound ++ stalledRound)).filter pending).Pairwise fun earlier later =>
        earlier.l2SafeBlock ≤ later.l2ProvenBlock :=
  no_block_twice_iff stalledEngine 2 (stalledRound ++ stalledRound) rfl stalled_run stalled_monotone

theorem stalled_block_proved_twice :
    ¬ ∀ (engine : OrchestrationEngine) (rounds : Nat) (trace : Trace), engine.monitor.ownRange = none →
      engine.runBeaconLoop rounds [] = .ok () trace →
      ((polledStates trace).Pairwise fun earlier later =>
        earlier.l2ProvenBlock ≤ later.l2ProvenBlock ∧ earlier.l2SafeBlock ≤ later.l2SafeBlock) →
      (provenBlocks trace).Nodup := by
  intro once
  have twice : provenBlocks (stalledRound ++ stalledRound) = [1, 1] := rfl
  have distinct := once stalledEngine 2 _ rfl stalled_run stalled_monotone
  rw [twice] at distinct
  simp at distinct

end OpenZk.Engine
