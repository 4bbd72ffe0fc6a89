import OpenZk.PlanPartition
import OpenZk.Pricing

set_option autoImplicit false

namespace OpenZk.Estimate

open Words Pricing Engine

def checkedAdd (a b : UInt64) : Except Fault UInt64 := if a.toNat + b.toNat < 2 ^ 64 then .ok (a + b) else .error .overflow

def saturatingSub (a b : UInt64) : UInt64 := if b ≤ a then a - b else 0

def divCeil (a b : UInt64) : Except Fault UInt64 :=
  if b = 0 then .error .divisionByZero
  else if a % b > 0 then checkedAdd (a / b) 1
  else .ok (a / b)

structure RangeCount where
  numBlocks : UInt64
  numRanges : UInt64
  needsAggregation : Bool

def countRanges (window start stop : UInt64) : Except Fault RangeCount :=
  match checkedAdd (saturatingSub stop start) 1 with
  | .error fault => .error fault
  | .ok numBlocks =>
      match divCeil numBlocks window with
      | .error fault => .error fault
      | .ok numRanges => .ok ⟨numBlocks, numRanges, numRanges > 1⟩

theorem checked_add_fits (a b : UInt64) (fits : a.toNat + b.toNat < 2 ^ 64) :
    ∃ sum, checkedAdd a b = .ok sum ∧ sum.toNat = a.toNat + b.toNat := by
  refine ⟨a + b, if_pos fits, ?_⟩
  rw [UInt64.toNat_add, Nat.mod_eq_of_lt fits]

theorem saturating_sub_to_nat (a b : UInt64) : (saturatingSub a b).toNat = a.toNat - b.toNat := by
  rw [saturatingSub]
  by_cases order : b ≤ a
  · rw [if_pos order, UInt64.toNat_sub_of_le _ _ order]
  · have past := UInt64.lt_iff_toNat_lt.mp (UInt64.not_le.mp order)
    rw [if_neg order, Nat.sub_eq_zero_of_le (Nat.le_of_lt past)]
    rfl

theorem div_ceil_ok (a b : UInt64) (positive : 1 ≤ b.toNat) :
    ∃ quotient, divCeil a b = .ok quotient ∧ quotient.toNat = a.toNat ⌈/⌉ b.toNat := by
  have nonzero : b ≠ 0 := by
    rintro rfl
    exact absurd positive (by decide)
  have split := Nat.div_add_mod a.toNat b.toNat
  have left := Nat.mod_lt a.toNat positive
  rw [divCeil, if_neg nonzero]
  by_cases rest : a % b > 0
  · have some_left : 0 < a.toNat % b.toNat := by
      have above := UInt64.lt_iff_toNat_lt.mp rest
      rw [UInt64.toNat_mod] at above
      exact above
    have fits : (a / b).toNat + (1 : UInt64).toNat < 2 ^ 64 := by
      have one : (1 : UInt64).toNat = 1 := rfl
      have reach := Nat.le_mul_of_pos_left (a.toNat / b.toNat) positive
      have bound := a.toNat_lt
      rw [UInt64.toNat_div, one]
      omega
    obtain ⟨quotient, added, sum⟩ := checked_add_fits _ _ fits
    refine ⟨quotient, by rw [if_pos rest, added], ?_⟩
    rw [← split, Chunks.count_remainder _ _ _ some_left (Nat.le_of_lt left), sum, UInt64.toNat_div]
    rfl
  · have none_left : a.toNat % b.toNat = 0 := by
      have below := UInt64.le_iff_toNat_le.mp (UInt64.not_lt.mp rest)
      rw [UInt64.toNat_mod] at below
      exact Nat.le_zero.mp below
    refine ⟨a / b, by rw [if_neg rest], ?_⟩
    rw [none_left, Nat.add_zero] at split
    rw [← split, Chunks.count_exact _ _ positive, UInt64.toNat_div]

theorem count_ranges_ok (window start stop : UInt64) (positive : 1 ≤ window.toNat)
    (fits : stop.toNat - start.toNat + 1 < 2 ^ 64) :
    ∃ count, countRanges window start stop = .ok count ∧ count.numBlocks.toNat = stop.toNat - start.toNat + 1 ∧
      count.numRanges.toNat = (stop.toNat - start.toNat + 1) ⌈/⌉ window.toNat ∧
      (count.needsAggregation = true ↔ 1 < count.numRanges.toNat) := by
  have one : (1 : UInt64).toNat = 1 := rfl
  rw [← saturating_sub_to_nat, ← one] at fits
  obtain ⟨numBlocks, added, total⟩ := checked_add_fits _ _ fits
  rw [saturating_sub_to_nat, one] at total
  obtain ⟨numRanges, divided, quotient⟩ := div_ceil_ok numBlocks window positive
  refine ⟨⟨numBlocks, numRanges, numRanges > 1⟩, ?_, total, ?_, ?_⟩
  · simp only [countRanges, added, divided]
  · rw [quotient, total]
  · exact decide_eq_true_iff.trans UInt64.lt_iff_toNat_lt

def SubmitsAggregation (actions : Trace) : Prop := ∃ rangeProofs answer, .aggregationSubmitted rangeProofs answer ∈ actions

theorem aggregation_submitted_iff (jobs : List Job) (aggHandle : ProofJobHandle) (aggProof : ProofArtifact)
    (start stop : UInt64) :
    SubmitsAggregation (aggregationActions jobs aggHandle aggProof start stop) ↔ jobs.length > 1 := by
  rw [aggregationActions]
  by_cases many : jobs.length > 1
  · rw [if_pos many]
    exact iff_of_true ⟨jobs.map Job.proof, .ok aggHandle, by simp⟩ many
  · rw [if_neg many]
    refine iff_of_false ?_ many
    rintro ⟨_, _, member⟩
    cases member

theorem round_submits_iff {engine : OrchestrationEngine} (round : Round engine) :
    SubmitsAggregation round.actions ↔ round.jobs.length > 1 := by
  rw [← aggregation_submitted_iff round.jobs round.aggHandle round.aggProof round.start round.stop]
  refine exists_congr fun rangeProofs => exists_congr fun answer => ?_
  rw [Round.actions, List.mem_append, or_iff_right (not_aggregation_in_dispatch round rangeProofs answer)]

theorem round_detected {engine : OrchestrationEngine} (round : Round engine) (start stop : UInt64)
    (detected : .event (.rangeDetected start stop) ∈ round.actions) : round.start = start ∧ round.stop = stop := by
  have seen : EngineEvent.rangeDetected start stop ∈ events round.actions := List.mem_filterMap.mpr ⟨_, detected, rfl⟩
  rw [round_events, Round.events, roundEvents] at seen
  rcases List.mem_cons.mp seen with same | later
  · cases same
    exact ⟨rfl, rfl⟩
  · rcases List.mem_append.mp later with proving | closing
    · obtain ⟨_, _, member⟩ := List.mem_flatMap.mp proving
      simp at member
    · split at closing <;> simp at closing

theorem beacon_round_aggregates (engine : OrchestrationEngine) (history actions : Trace) (start stop : UInt64)
    (ran : engine.beaconRound history = .ok () (history ++ actions))
    (detected : .event (.rangeDetected start stop) ∈ actions) :
    ∃ state requests, engine.planRange start stop state = .ok requests ∧
      (SubmitsAggregation actions ↔ requests.length > 1) := by
  obtain ⟨added, same, poll, rfl, finished⟩ := Traced.follows_returned (beacon_round_follows engine) ran
  rw [List.append_cancel_left same] at detected ⊢
  cases poll with
  | idle opening opened =>
      rw [Poll.actions, List.mem_singleton] at detected
      rw [← detected] at opened
      cases opened
  | unplanned opening start stop state fault opened reported failed => cases finished
  | round proved =>
      obtain ⟨rfl, rfl⟩ := round_detected proved start stop detected
      refine ⟨proved.state, proved.jobs.map Job.request, proved.planned, ?_⟩
      rw [List.length_map]
      exact round_submits_iff proved

theorem engine_plan_count (engine : OrchestrationEngine) (start stop : UInt64) (state : ChainState)
    (positive : 1 ≤ engine.config.intent.aggregationWindow.toNat)
    (room : stop.toNat + engine.config.intent.aggregationWindow.toNat < 2 ^ 64) :
    ∃ requests, engine.planRange start stop state = .ok requests ∧
      requests.length = (stop.toNat + 1 - start.toNat) ⌈/⌉ engine.config.intent.aggregationWindow.toNat := by
  obtain ⟨requests, planned, partition⟩ := plan_range_partition engine start stop state positive room
  exact ⟨requests, planned, partition.count⟩

theorem aggregation_agrees (engine : OrchestrationEngine) (start stop : UInt64) (count : RangeCount)
    (positive : 1 ≤ engine.config.intent.aggregationWindow.toNat)
    (room : stop.toNat + engine.config.intent.aggregationWindow.toNat < 2 ^ 64)
    (counted : countRanges engine.config.intent.aggregationWindow start stop = .ok count) (history actions : Trace)
    (ran : engine.beaconRound history = .ok () (history ++ actions))
    (detected : .event (.rangeDetected start stop) ∈ actions) :
    count.needsAggregation = true ↔ SubmitsAggregation actions := by
  obtain ⟨state, requests, ok, submits⟩ := beacon_round_aggregates engine history actions start stop ran detected
  obtain ⟨_, same, length⟩ := engine_plan_count engine start stop state positive room
  rw [ok] at same
  cases same
  obtain ⟨_, same, _, ranges, aggregates⟩ := count_ranges_ok _ start stop positive (by omega)
  rw [counted] at same
  cases same
  rw [aggregates, submits, ranges, length]
  by_cases order : start.toNat ≤ stop.toNat
  · have blocks : stop.toNat - start.toNat + 1 = stop.toNat + 1 - start.toNat := by omega
    rw [blocks]
  · have one_block : stop.toNat - start.toNat + 1 = 1 := by omega
    have none_left : stop.toNat + 1 - start.toNat = 0 := by omega
    rw [one_block, none_left, Chunks.count_short _ 1 Nat.one_pos positive, zero_ceilDiv]
    decide

structure Agrees (engine : OrchestrationEngine) (start stop : UInt64) (count : RangeCount) : Prop where
  ranges : ∀ state, ∃ requests, engine.planRange start stop state = .ok requests ∧
    count.numRanges.toNat = requests.length
  aggregation : ∀ history actions, engine.beaconRound history = .ok () (history ++ actions) →
    .event (.rangeDetected start stop) ∈ actions → (count.needsAggregation = true ↔ SubmitsAggregation actions)

theorem estimate_agrees_iff (engine : OrchestrationEngine) (start stop : UInt64)
    (positive : 1 ≤ engine.config.intent.aggregationWindow.toNat)
    (room : stop.toNat + engine.config.intent.aggregationWindow.toNat < 2 ^ 64) :
    (∃ count, countRanges engine.config.intent.aggregationWindow start stop = .ok count ∧ Agrees engine start stop count) ↔
      start ≤ stop := by
  obtain ⟨count, counted, _, ranges, _⟩ :=
    count_ranges_ok engine.config.intent.aggregationWindow start stop positive (by omega)
  refine ⟨?_, ?_⟩
  · rintro ⟨_, same, agrees⟩
    rw [counted] at same
    cases same
    obtain ⟨requests, planned, length⟩ := agrees.ranges sampleState
    by_contra inverted
    rw [OrchestrationEngine.planRange, Planner.plan_range_empty _ _ _ _ _ (UInt64.not_le.mp inverted)] at planned
    rw [← Except.ok.inj planned, ranges] at length
    exact absurd length (Chunks.count_pos _ _ positive (by omega)).ne'
  · intro order
    have within := UInt64.le_iff_toNat_le.mp order
    have blocks : stop.toNat - start.toNat + 1 = stop.toNat + 1 - start.toNat := by omega
    refine ⟨count, counted, ?_, aggregation_agrees engine start stop count positive room counted⟩
    intro state
    obtain ⟨requests, planned, length⟩ := engine_plan_count engine start stop state positive room
    exact ⟨requests, planned, by rw [ranges, length, blocks]⟩

theorem estimate_agrees_sample :
    (∃ count, countRanges 3 10 16 = .ok count ∧ Agrees (mockEngine .beacon 3 (mockMonitor ⟨zeroWord, 9, 16⟩)) 10 16 count) ↔
      (10 : UInt64) ≤ 16 :=
  estimate_agrees_iff (mockEngine .beacon 3 (mockMonitor ⟨zeroWord, 9, 16⟩)) 10 16 (by decide) (by decide)

theorem inverted_range_counted :
    ¬ ∀ (engine : OrchestrationEngine) (start stop : UInt64), 1 ≤ engine.config.intent.aggregationWindow.toNat →
      stop.toNat + engine.config.intent.aggregationWindow.toNat < 2 ^ 64 →
        ∃ count, countRanges engine.config.intent.aggregationWindow start stop = .ok count ∧ Agrees engine start stop count := by
  intro agreement
  obtain ⟨count, counted, agrees⟩ := agreement (mockEngine .beacon 100 (mockMonitor sampleState)) 11 10 (by decide) (by decide)
  obtain ⟨requests, planned, length⟩ := agrees.ranges sampleState
  have one : countRanges 100 11 10 = .ok ⟨1, 1, false⟩ := rfl
  have empty : (mockEngine .beacon 100 (mockMonitor sampleState)).planRange 11 10 sampleState = .ok [] := rfl
  rw [planned] at empty
  rw [Except.ok.inj empty] at length
  have counted' := counted.symm.trans one
  rw [Except.ok.inj counted'] at length
  cases length

end OpenZk.Estimate
