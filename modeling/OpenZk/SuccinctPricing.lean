import OpenZk.Medians
import OpenZk.Pricing
import Mathlib.Tactic.Linarith

set_option autoImplicit false

namespace OpenZk

open Pricing

structure NetworkRequest where
  cycles : Option UInt64
  gasUsed : Option UInt64
  gasPrice : Option UInt64
  deductionAmount : Option String

inductive GetFilteredProofRequestsResponse where
  | auction (requests : List NetworkRequest)
  | base (requests : List NetworkRequest)

def GetFilteredProofRequestsResponse.requests : GetFilteredProofRequestsResponse → List NetworkRequest
  | .auction requests => requests
  | .base requests => requests

inductive SuccinctPricingError where
  | grpc (message : String)
  | noData
  | config (message : String)
  | unsupportedBackend (backend : ZkvmBackend)
deriving DecidableEq

structure SuccinctPricing where
  getFulfilled : UInt32 → Except String GetFilteredProofRequestsResponse
  sampleSize : UInt32
  proveUsd : ℚ

namespace SuccinctPricing

def cyclesPerSec : UInt64 := 1000000

def defaultSampleSize : UInt32 := 50

def costPair (request : NetworkRequest) : Except Fault (Option (ℚ × UInt64)) :=
  match request.cycles with
  -- A request without cycles or without a readable cost is passed over.
  | none => .ok none
  | some cycles =>
      match request.gasUsed, request.gasPrice with
      | some gasUsed, some gasPrice =>
          match product 128 gasUsed.toNat gasPrice.toNat with
          | .error fault => .error fault
          | .ok costWei => .ok (some ((costWei : ℚ) / 10 ^ 18, cycles))
      | _, _ =>
          match request.deductionAmount with
          | none => .ok none
          | some deduction =>
              match parseU128 deduction with
              | .error _ => .ok none
              | .ok costWei => .ok (some ((costWei : ℚ) / 10 ^ 18, cycles))

def extractCostPairs : List NetworkRequest → Except Fault (List (ℚ × UInt64))
  | [] => .ok []
  | request :: rest =>
      match costPair request with
      | .error fault => .error fault
      | .ok pair =>
          match extractCostPairs rest with
          | .error fault => .error fault
          | .ok pairs => .ok (pair.toList ++ pairs)

def extractCostPairsAuction (requests : List NetworkRequest) : Except Fault (List (ℚ × UInt64)) := extractCostPairs requests

def extractCostPairsBase (requests : List NetworkRequest) : Except Fault (List (ℚ × UInt64)) := extractCostPairs requests

def costPairs : GetFilteredProofRequestsResponse → Except Fault (List (ℚ × UInt64))
  | .auction requests => extractCostPairsAuction requests
  | .base requests => extractCostPairsBase requests

def pricesPerCycle : List (ℚ × UInt64) → Except Fault (List ℚ)
  | [] => .ok []
  | (costProve, cycles) :: rest =>
      if cycles > 0 then
        match quotient costProve cycles.toNat with
        | .error fault => .error fault
        | .ok price =>
            match pricesPerCycle rest with
            | .error fault => .error fault
            | .ok prices => .ok (price :: prices)
      else pricesPerCycle rest

def median (sorted : List ℚ) : Except Fault ℚ :=
  if sorted.length % 2 = 0 then
    match pred (sorted.length / 2) with
    | .error fault => .error fault
    | .ok before =>
        match elementAt sorted before with
        | .error fault => .error fault
        | .ok low =>
            match elementAt sorted (sorted.length / 2) with
            | .error fault => .error fault
            | .ok high => quotient (low + high) 2
  else elementAt sorted (sorted.length / 2)

def fetchMarketPrice (pricing : SuccinctPricing) : Except (Halt SuccinctPricingError) (ℚ × Nat) :=
  match pricing.getFulfilled pricing.sampleSize with
  | .error reason => .error (.returned (.grpc reason))
  | .ok response =>
      match costPairs response with
      | .error fault => .error (.panicked fault)
      | .ok pairs =>
          match pricesPerCycle pairs with
          | .error fault => .error (.panicked fault)
          | .ok prices =>
              if prices = [] then .error (.returned .noData)
              else
                match median (Median.ascending prices) with
                | .error fault => .error (.panicked fault)
                | .ok middle => .ok (middle, prices.length)

def price (pricing : SuccinctPricing) (estimate : CycleEstimate) : Except (Halt SuccinctPricingError) PricingInfo :=
  if estimate.backend = .sp1 then
    match pricing.fetchMarketPrice with
    | .error failure => .error failure
    | .ok (pricePerCycleProve, sampleCount) =>
        .ok {
          costUsd := pricePerCycleProve * estimate.cycles.toNat * pricing.proveUsd
          durationSecs := estimate.cycles / cyclesPerSec
          source := s!"succinct-market-p50-{sampleCount}"
          nativeCost := some (pricePerCycleProve * estimate.cycles.toNat)
          nativeSymbol := some "PROVE"
          tokenUsdRate := some pricing.proveUsd }
  else .error (.returned (.unsupportedBackend estimate.backend))

theorem price_duration (pricing : SuccinctPricing) (estimate : CycleEstimate) (info : PricingInfo)
    (priced : pricing.price estimate = .ok info) : info.durationSecs.toNat ≤ estimate.cycles.toNat := by
  rw [price] at priced
  split at priced
  · split at priced
    · cases priced
    · cases priced
      exact duration_le _ _
  · cases priced

def reportedWei (request : NetworkRequest) : Option Nat :=
  match request.gasUsed, request.gasPrice with
  | some gasUsed, some gasPrice => some (gasUsed.toNat * gasPrice.toNat)
  | _, _ => request.deductionAmount.bind fun deduction => (parseU128 deduction).toOption

def reportedPair (request : NetworkRequest) : Option (ℚ × UInt64) :=
  request.cycles.bind fun cycles => (reportedWei request).map fun (costWei : Nat) => ((costWei : ℚ) / 10 ^ 18, cycles)

def reportedPairs (response : GetFilteredProofRequestsResponse) : List (ℚ × UInt64) :=
  response.requests.filterMap reportedPair

def perCycle (pairs : List (ℚ × UInt64)) : List ℚ :=
  (pairs.filter fun pair => decide (0 < pair.2)).map fun pair => pair.1 / pair.2.toNat

theorem cycles_pos (cycles : UInt64) (positive : 0 < cycles) : (cycles.toNat : ℚ) ≠ 0 := by
  have above : 0 < cycles.toNat := UInt64.lt_iff_toNat_lt.mp positive
  exact_mod_cast above.ne'

theorem cost_pair_eq (request : NetworkRequest) : costPair request = .ok (reportedPair request) := by
  rw [costPair, reportedPair]
  cases request.cycles with
  | none => rfl
  | some cycles =>
      rw [reportedWei, Option.bind_some]
      dsimp only
      split
      · rename_i gasUsed gasPrice _ _
        have below : gasUsed.toNat * gasPrice.toNat < 2 ^ 64 * 2 ^ 64 :=
          Nat.mul_lt_mul'' gasUsed.toNat_lt gasPrice.toNat_lt
        have fits : gasUsed.toNat * gasPrice.toNat < 2 ^ 128 := by omega
        rw [product_fits 128 _ _ fits]
        rfl
      · cases request.deductionAmount with
        | none => rfl
        | some deduction =>
            dsimp only [Option.bind_some]
            cases parseU128 deduction with
            | error reason => rfl
            | ok costWei => rfl

theorem extract_eq (requests : List NetworkRequest) : extractCostPairs requests = .ok (requests.filterMap reportedPair) := by
  induction requests with
  | nil => rfl
  | cons request rest ih =>
      rw [extractCostPairs, cost_pair_eq request, ih]
      cases found : reportedPair request with
      | none => simp [found]
      | some pair => simp [found]

theorem cost_pairs_eq (response : GetFilteredProofRequestsResponse) : costPairs response = .ok (reportedPairs response) := by
  cases response with
  | auction requests => exact extract_eq requests
  | base requests => exact extract_eq requests

theorem prices_per_cycle_eq (pairs : List (ℚ × UInt64)) : pricesPerCycle pairs = .ok (perCycle pairs) := by
  induction pairs with
  | nil => rfl
  | cons pair rest ih =>
      obtain ⟨costProve, cycles⟩ := pair
      rw [pricesPerCycle, ih]
      by_cases positive : 0 < cycles
      · rw [if_pos positive, quotient_nonzero _ _ (cycles_pos cycles positive)]
        simp [perCycle, positive]
      · rw [if_neg positive]
        simp [perCycle, positive]

theorem per_cycle_empty_iff (pairs : List (ℚ × UInt64)) : perCycle pairs = [] ↔ ∀ pair ∈ pairs, pair.2 = 0 := by
  have zero_iff (cycles : UInt64) : ¬ 0 < cycles ↔ cycles = 0 := by
    rw [UInt64.lt_iff_toNat_lt, ← UInt64.toNat_inj]
    simp
  simp only [perCycle, List.map_eq_nil_iff, List.filter_eq_nil_iff, decide_eq_true_eq, zero_iff]

theorem median_sorted (sorted : List ℚ) (ordered : sorted.Pairwise (· ≤ ·)) (nonempty : sorted ≠ []) :
    ∃ middle, median sorted = .ok middle ∧ Median sorted middle := by
  have positive : 0 < sorted.length := List.length_pos_iff.mpr nonempty
  have inside : sorted.length / 2 < sorted.length := by omega
  rw [median]
  by_cases even : sorted.length % 2 = 0
  · have before : sorted.length / 2 - 1 < sorted.length := by omega
    have order : sorted[sorted.length / 2 - 1] ≤ sorted[sorted.length / 2] :=
      List.pairwise_iff_getElem.mp ordered _ _ before inside (by omega)
    rw [if_pos even, pred_succ _ (by omega)]
    dsimp only
    rw [element_at_inside sorted _ before, element_at_inside sorted _ inside]
    dsimp only
    rw [quotient_nonzero _ _ two_ne_zero]
    refine ⟨_, rfl, ?_⟩
    apply Median.between sorted ordered (sorted.length / 2 - 1) (sorted.length / 2) before inside
    · linarith
    · linarith
    · omega
    · omega
  · rw [if_neg even, element_at_inside sorted _ inside]
    refine ⟨_, rfl, ?_⟩
    apply Median.between sorted ordered (sorted.length / 2) (sorted.length / 2) inside inside
    · exact le_refl _
    · exact le_refl _
    · omega
    · omega

theorem fetch_market_price_cases (pricing : SuccinctPricing) (response : GetFilteredProofRequestsResponse)
    (answered : pricing.getFulfilled pricing.sampleSize = .ok response) :
    perCycle (reportedPairs response) = [] ∧ pricing.fetchMarketPrice = .error (.returned .noData) ∨
      ∃ price, perCycle (reportedPairs response) ≠ [] ∧ Median (perCycle (reportedPairs response)) price ∧
        median (Median.ascending (perCycle (reportedPairs response))) = .ok price ∧
        pricing.fetchMarketPrice = .ok (price, (perCycle (reportedPairs response)).length) := by
  have extracted := cost_pairs_eq response
  generalize reportedPairs response = pairs at extracted ⊢
  by_cases empty : perCycle pairs = []
  · refine .inl ⟨empty, ?_⟩
    simp only [fetchMarketPrice, answered, extracted, prices_per_cycle_eq, if_pos empty]
  · have some_left : Median.ascending (perCycle pairs) ≠ [] := by
      rw [← List.length_pos_iff, Median.ascending_length]
      exact List.length_pos_iff.mpr empty
    obtain ⟨middle, found, split⟩ := median_sorted _ (Median.ascending_ordered (perCycle pairs)) some_left
    refine .inr ⟨middle, empty, Median.of_perm _ _ _ (Median.ascending_perm _) split, found, ?_⟩
    simp only [fetchMarketPrice, answered, extracted, prices_per_cycle_eq, if_neg empty, found]

theorem fetch_market_price_perm (pricing other : SuccinctPricing) (response shuffled : GetFilteredProofRequestsResponse)
    (answered : pricing.getFulfilled pricing.sampleSize = .ok response)
    (otherwise : other.getFulfilled other.sampleSize = .ok shuffled)
    (perm : shuffled.requests.Perm response.requests) : other.fetchMarketPrice = pricing.fetchMarketPrice := by
  have samePrices : (perCycle (reportedPairs shuffled)).Perm (perCycle (reportedPairs response)) :=
    ((perm.filterMap reportedPair).filter _).map _
  have sameOrder := Median.ascending_congr _ _ samePrices
  rcases fetch_market_price_cases pricing response answered with ⟨empty, failed⟩ | ⟨price, nonempty, _, found, ok⟩
  · rcases fetch_market_price_cases other shuffled otherwise with ⟨_, failed'⟩ | ⟨_, nonempty', _, _, _⟩
    · rw [failed, failed']
    · rw [empty] at samePrices
      exact absurd (List.perm_nil.mp samePrices) nonempty'
  · rcases fetch_market_price_cases other shuffled otherwise with ⟨empty', _⟩ | ⟨price', _, _, found', ok'⟩
    · rw [empty'] at samePrices
      exact absurd (List.nil_perm.mp samePrices) nonempty
    · rw [sameOrder, found] at found'
      rw [ok, ok', Except.ok.inj found', samePrices.length_eq]

/-- What the price of a response is: whether there is one, that it is the median over the reported
pairs, and that the order of the requests does not matter. -/
structure MarketMedian (pricing : SuccinctPricing) (response : GetFilteredProofRequestsResponse) : Prop where
  extracted : costPairs response = .ok (reportedPairs response)
  noData : pricing.fetchMarketPrice = .error (.returned .noData) ↔ ∀ pair ∈ reportedPairs response, pair.2 = 0
  median : (∃ pair ∈ reportedPairs response, 0 < pair.2) → ∃ price,
    pricing.fetchMarketPrice = .ok (price, (perCycle (reportedPairs response)).length) ∧
      Median (perCycle (reportedPairs response)) price
  reordered : ∀ (other : SuccinctPricing) (shuffled : GetFilteredProofRequestsResponse),
    other.getFulfilled other.sampleSize = .ok shuffled → shuffled.requests.Perm response.requests →
      other.fetchMarketPrice = pricing.fetchMarketPrice

theorem market_price_median (pricing : SuccinctPricing) (response : GetFilteredProofRequestsResponse)
    (answered : pricing.getFulfilled pricing.sampleSize = .ok response) : MarketMedian pricing response := by
  have cases_of := fetch_market_price_cases pricing response answered
  refine ⟨cost_pairs_eq response, ?_, ?_, ?_⟩
  · rw [← per_cycle_empty_iff]
    rcases cases_of with ⟨empty, failed⟩ | ⟨price, nonempty, _, _, ok⟩
    · exact iff_of_true failed empty
    · refine iff_of_false (fun failed => ?_) nonempty
      rw [ok] at failed
      cases failed
  · rintro ⟨pair, member, positive⟩
    rcases cases_of with ⟨empty, _⟩ | ⟨price, _, split, _, ok⟩
    · have zero := (per_cycle_empty_iff _).mp empty pair member
      rw [zero] at positive
      exact absurd positive (by decide)
    · exact ⟨price, ok, split⟩
  · intro other shuffled otherwise perm
    exact fetch_market_price_perm pricing other response shuffled answered otherwise perm

def sampleResponse : GetFilteredProofRequestsResponse :=
  .auction [⟨some 4, some 3, some 8, some "7"⟩, ⟨some 250000000, some 1, none, some "500000000000000"⟩,
    ⟨some 0, some 1, some 1, none⟩, ⟨none, some 1, some 1, none⟩, ⟨some 9, none, none, some "1e6"⟩]

def samplePricing : SuccinctPricing := ⟨fun _ => .ok sampleResponse, defaultSampleSize, 3 / 2⟩

theorem market_price_median_sample : MarketMedian samplePricing sampleResponse ∧
    ∃ price, samplePricing.fetchMarketPrice = .ok (price, 2) ∧ Median [6 / 10 ^ 18, 2 / 10 ^ 12] price := by
  have prices := market_price_median samplePricing sampleResponse rfl
  have pairs : reportedPairs sampleResponse = [(24 / 10 ^ 18, 4), (500000000000000 / 10 ^ 18, 250000000), (1 / 10 ^ 18, 0)] := by
    rfl
  have found := prices.median ⟨_, by rw [pairs]; exact List.mem_cons_self, by decide⟩
  have perCycles : perCycle (reportedPairs sampleResponse) = [6 / 10 ^ 18, 2 / 10 ^ 12] := by
    have first : (4 : UInt64).toNat = 4 := rfl
    have second : (250000000 : UInt64).toNat = 250000000 := rfl
    have kept : (reportedPairs sampleResponse).filter (fun pair => decide (0 < pair.2)) =
        [(24 / 10 ^ 18, 4), (500000000000000 / 10 ^ 18, 250000000)] := by
      rw [pairs]
      rfl
    rw [perCycle, kept]
    norm_num [first, second]
  rw [perCycles] at found
  exact ⟨prices, found⟩

end SuccinctPricing

end OpenZk
