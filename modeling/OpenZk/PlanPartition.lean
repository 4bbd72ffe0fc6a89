import OpenZk.EngineProtocol

set_option autoImplicit false

namespace OpenZk.Engine

open Words

def blockCount (request : ProofRequest) : Nat := request.l2EndBlock.toNat + 1 - request.l2StartBlock.toNat

structure Partition (intent : ResolvedIntent) (start stop : UInt64) (state : ChainState) (requests : List ProofRequest) :
    Prop where
  blocks : requests.flatMap (fun request => Tiles.members (Planner.span request)) =
    List.range' start.toNat (stop.toNat + 1 - start.toNat)
  empty : stop < start → requests = []
  first : start ≤ stop → ∃ request rest, requests = request :: rest ∧ request.l2StartBlock = start
  last : start ≤ stop → ∃ front request, requests = front ++ [request] ∧ request.l2EndBlock = stop
  adjacent : ∀ front a b back, requests = front ++ a :: b :: back → b.l2StartBlock.toNat = a.l2EndBlock.toNat + 1
  full : ∀ front request back, requests = front ++ request :: back → back ≠ [] →
    blockCount request = intent.aggregationWindow.toNat
  bounded : ∀ request ∈ requests, 1 ≤ blockCount request ∧ blockCount request ≤ intent.aggregationWindow.toNat
  count : requests.length = (stop.toNat + 1 - start.toNat) ⌈/⌉ intent.aggregationWindow.toNat
  l1Head : ∀ request ∈ requests, request.l1Head = state.l1Head
  mode : ∀ request ∈ requests, request.mode = intent.provingMode

theorem empty_partition (intent : ResolvedIntent) (start stop : UInt64) (state : ChainState) (past : stop < start) :
    Partition intent start stop state [] := by
  have none_left : stop.toNat + 1 - start.toNat = 0 := Nat.sub_eq_zero_of_le (UInt64.lt_iff_toNat_lt.mp past)
  constructor
  case blocks => simp [none_left]
  case empty => exact fun _ => rfl
  case first => exact fun order => absurd order (UInt64.not_le.mpr past)
  case last => exact fun order => absurd order (UInt64.not_le.mpr past)
  case adjacent => simp
  case full => simp
  case bounded => simp
  case count => simp [none_left]
  case l1Head => simp
  case mode => simp

theorem spans_partition (intent : ResolvedIntent) (start stop : UInt64) (state : ChainState) (requests : List ProofRequest)
    (positive : 1 ≤ intent.aggregationWindow.toNat) (order : start ≤ stop)
    (planned : Planner.planRange intent.aggregationWindow intent.provingMode state start stop = .ok requests) :
    Partition intent start stop state requests := by
  -- Every part is a fact about the pieces that the spans are, or about their tiling.
  have spans := Planner.plan_range_spans _ _ _ _ _ _ positive order planned
  have tiling := Planner.plan_range_tiles _ _ _ _ _ _ positive order planned
  constructor
  case blocks => exact Planner.plan_range_blocks _ _ _ _ _ _ positive order planned
  case empty => exact fun past => absurd order (UInt64.not_le.mpr past)
  case first =>
      intro _
      cases requests with
      | nil =>
          obtain ⟨_, member, _⟩ := Planner.plan_range_starts _ _ _ _ _ _ positive order planned
          cases member
      | cons request rest => exact ⟨request, rest, rfl, UInt64.toNat_inj.mp (Tiles.head_start _ _ _ _ tiling)⟩
  case last =>
      intro _
      rcases List.eq_nil_or_concat' requests with rfl | ⟨front, final, rfl⟩
      · obtain ⟨_, member, _⟩ := Planner.plan_range_starts _ _ _ _ _ _ positive order planned
        cases member
      · exact ⟨front, final, rfl, Planner.plan_range_ends _ _ _ _ _ _ _ positive order planned⟩
  case adjacent =>
      intro front a b back parted
      rw [parted, List.map_append, List.map_cons, List.map_cons] at tiling
      exact Tiles.adjacent _ _ _ _ _ _ tiling
  case full =>
      intro front request back parted later
      rw [parted, List.map_append, List.map_cons] at spans
      have width := Chunks.piece_full _ _ _ positive _ _ _ spans.symm (fun none_left => later (List.map_eq_nil_iff.mp none_left))
      simp only [Planner.span] at width
      simp only [blockCount]
      omega
  case bounded =>
      intro request member
      have piece : Planner.span request ∈ Chunks.pieces _ _ _ := spans ▸ List.mem_map_of_mem member
      have bounds := Chunks.piece_bounds _ _ _ positive _ piece
      simp only [Planner.span] at bounds
      simp only [blockCount]
      omega
  case count => rw [← Chunks.pieces_length, ← spans, List.length_map]
  case l1Head => exact Planner.plan_range_head _ _ _ _ _ _ planned
  case mode => exact Planner.plan_range_mode _ _ _ _ _ _ planned

theorem plan_range_partition (engine : OrchestrationEngine) (start stop : UInt64) (state : ChainState)
    (positive : 1 ≤ engine.config.intent.aggregationWindow.toNat)
    (room : stop.toNat + engine.config.intent.aggregationWindow.toNat < 2 ^ 64) :
    ∃ requests, engine.planRange start stop state = .ok requests ∧
      Partition engine.config.intent start stop state requests := by
  by_cases order : start ≤ stop
  · obtain ⟨requests, planned⟩ := Planner.plan_range_total engine.config.intent.aggregationWindow
      engine.config.intent.provingMode state start stop positive room
    exact ⟨requests, planned, spans_partition _ _ _ _ _ positive order planned⟩
  · have past := UInt64.not_le.mp order
    exact ⟨[], Planner.plan_range_empty _ _ _ _ _ past, empty_partition _ _ _ _ past⟩

theorem plan_range_partition_sample :
    ∃ requests, (mockEngine .beacon 3 (mockMonitor ⟨zeroWord, 9, 16⟩)).planRange 10 16 ⟨zeroWord, 9, 16⟩ = .ok requests ∧
      Partition ⟨.beacon, .groth16, 3⟩ 10 16 ⟨zeroWord, 9, 16⟩ requests :=
  plan_range_partition (mockEngine .beacon 3 (mockMonitor ⟨zeroWord, 9, 16⟩)) 10 16 ⟨zeroWord, 9, 16⟩ (by decide) (by decide)

end OpenZk.Engine
