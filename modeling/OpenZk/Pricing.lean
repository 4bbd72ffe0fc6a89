import OpenZk.Engine
import Mathlib.Algebra.Order.Field.Rat

set_option autoImplicit false

namespace OpenZk

structure CycleEstimate where
  cycles : UInt64
  backend : ZkvmBackend

/-- An f64 is read as an exact rational throughout. -/
structure PricingInfo where
  costUsd : ℚ
  durationSecs : UInt64
  source : String
  nativeCost : Option ℚ
  nativeSymbol : Option String
  tokenUsdRate : Option ℚ

structure CostEstimate where
  estimatedCycles : UInt64
  estimatedCostUsd : ℚ
  estimatedDurationSecs : UInt64

namespace Pricing

inductive Fault where
  | overflow
  | underflow
  | outOfBounds
  | divisionByZero
deriving DecidableEq

inductive Halt (ε : Type) where
  | returned (error : ε)
  | panicked (fault : Fault)
deriving DecidableEq

def product (width a b : Nat) : Except Fault Nat := if a * b < 2 ^ width then .ok (a * b) else .error .overflow

def pred (number : Nat) : Except Fault Nat := if 1 ≤ number then .ok (number - 1) else .error .underflow

def quotient (a b : ℚ) : Except Fault ℚ := if b = 0 then .error .divisionByZero else .ok (a / b)

def elementAt (values : List ℚ) (index : Nat) : Except Fault ℚ :=
  match values[index]? with
  | some value => .ok value
  | none => .error .outOfBounds

theorem product_fits (width a b : Nat) (fits : a * b < 2 ^ width) : product width a b = .ok (a * b) := if_pos fits

theorem pred_succ (number : Nat) (positive : 1 ≤ number) : pred number = .ok (number - 1) := if_pos positive

theorem quotient_nonzero (a b : ℚ) (nonzero : b ≠ 0) : quotient a b = .ok (a / b) := if_neg nonzero

theorem element_at_inside (values : List ℚ) (index : Nat) (bound : index < values.length) :
    elementAt values index = .ok values[index] := by
  rw [elementAt, List.getElem?_eq_getElem bound]

theorem duration_le (cycles rate : UInt64) : (cycles / rate).toNat ≤ cycles.toNat := by
  rw [UInt64.toNat_div]
  exact Nat.div_le_self _ _

inductive ParseIntError where
  | empty
  | invalidDigit
  | posOverflow
deriving DecidableEq

def ParseIntError.message : ParseIntError → String
  | .empty => "cannot parse integer from empty string"
  | .invalidDigit => "invalid digit found in string"
  | .posOverflow => "number too large to fit in target type"

def toDigit (digit : Char) : Option Nat := if '0' ≤ digit ∧ digit ≤ '9' then some (digit.toNat - '0'.toNat) else none

def pushDigit (total : Nat) (digit : Char) : Except ParseIntError Nat :=
  match toDigit digit with
  | none => .error .invalidDigit
  | some value => if total * 10 + value < 2 ^ 128 then .ok (total * 10 + value) else .error .posOverflow

/-- A leading plus is skipped, unless it stands alone. -/
def parseU128 (text : String) : Except ParseIntError Nat :=
  match text.toList with
  | [] => .error .empty
  | first :: rest =>
      if first = '+' then
        if rest = [] then .error .invalidDigit else rest.foldlM pushDigit 0
      else (first :: rest).foldlM pushDigit 0

end Pricing

structure FixedPricing where
  sp1CostPer10m : ℚ
  sp1CyclesPerSec : UInt64
  risc0CostPer10m : ℚ
  risc0CyclesPerSec : UInt64
  sp1Divides : sp1CyclesPerSec ≠ 0
  risc0Divides : risc0CyclesPerSec ≠ 0

namespace FixedPricing

def default : FixedPricing where
  sp1CostPer10m := 1 / 100
  sp1CyclesPerSec := 1000000
  risc0CostPer10m := 8 / 1000
  risc0CyclesPerSec := 500000
  sp1Divides := by decide
  risc0Divides := by decide

def price (pricing : FixedPricing) (estimate : CycleEstimate) : PricingInfo :=
  let (costUsd, durationSecs) :=
    match estimate.backend with
    | .sp1 => ((estimate.cycles.toNat : ℚ) / 10000000 * pricing.sp1CostPer10m, estimate.cycles / pricing.sp1CyclesPerSec)
    | .riscZero =>
        ((estimate.cycles.toNat : ℚ) / 10000000 * pricing.risc0CostPer10m, estimate.cycles / pricing.risc0CyclesPerSec)
    | .mock | .auto => (0, 0)
  ⟨costUsd, durationSecs, "fixed", none, none, none⟩

theorem price_duration (pricing : FixedPricing) (estimate : CycleEstimate) :
    (pricing.price estimate).durationSecs.toNat ≤ estimate.cycles.toNat := by
  rw [price]
  cases estimate.backend with
  | sp1 => exact Pricing.duration_le _ _
  | riscZero => exact Pricing.duration_le _ _
  | auto => exact Nat.zero_le _
  | mock => exact Nat.zero_le _

end FixedPricing

inductive Percentile where
  | p5
  | p10
  | p25
  | p50
  | p75
  | p90
  | p95
  | p99
deriving DecidableEq

namespace Percentile

def fieldName : Percentile → String
  | .p5 => "p5"
  | .p10 => "p10"
  | .p25 => "p25"
  | .p50 => "p50"
  | .p75 => "p75"
  | .p90 => "p90"
  | .p95 => "p95"
  | .p99 => "p99"

def all : List Percentile := [.p5, .p10, .p25, .p50, .p75, .p90, .p95, .p99]

def parse (text : String) : Option Percentile := all.find? fun percentile => percentile.fieldName = text.toLower

end Percentile

structure AggregateEntry where
  lockPricePerCycle : Percentile → String

inductive BoundlessPricingError where
  | http (message : String)
  | noData
  | parseWei (text message : String)
  | unsupportedBackend (backend : ZkvmBackend)
deriving DecidableEq

structure BoundlessPricing where
  get : String → Except String String
  fromStr : String → Except String (List AggregateEntry)
  indexerUrl : String
  percentile : Percentile
  ethUsd : ℚ

namespace BoundlessPricing

def cyclesPerSec : UInt64 := 500000

def priceForPercentile (entry : AggregateEntry) (percentile : Percentile) : Except BoundlessPricingError Nat :=
  (Pricing.parseU128 (entry.lockPricePerCycle percentile)).mapError fun failure =>
    .parseWei (entry.lockPricePerCycle percentile) failure.message

def fetchPricePerCycle (pricing : BoundlessPricing) : Except BoundlessPricingError Nat :=
  match pricing.get s!"{pricing.indexerUrl}/v1/market/aggregates?aggregation=hourly&limit=1&sort=desc" with
  | .error reason => .error (.http reason)
  | .ok text =>
      match pricing.fromStr text with
      | .error reason => .error (.parseWei (String.ofList (text.toList.take 200)) reason)
      | .ok [] => .error .noData
      | .ok (entry :: _) => priceForPercentile entry pricing.percentile

def price (pricing : BoundlessPricing) (estimate : CycleEstimate) : Except BoundlessPricingError PricingInfo :=
  if estimate.backend = .riscZero then
    match pricing.fetchPricePerCycle with
    | .error failure => .error failure
    | .ok weiPerCycle =>
        let totalEth : ℚ := (weiPerCycle : ℚ) * estimate.cycles.toNat / 10 ^ 18
        .ok {
          costUsd := totalEth * pricing.ethUsd
          durationSecs := estimate.cycles / cyclesPerSec
          source := s!"boundless-market-{pricing.percentile.fieldName}"
          nativeCost := some totalEth
          nativeSymbol := some "ETH"
          tokenUsdRate := some pricing.ethUsd }
  else .error (.unsupportedBackend estimate.backend)

theorem price_duration (pricing : BoundlessPricing) (estimate : CycleEstimate) (info : PricingInfo)
    (priced : pricing.price estimate = .ok info) : info.durationSecs.toNat ≤ estimate.cycles.toNat := by
  rw [price] at priced
  split at priced
  · split at priced
    · cases priced
    · cases priced
      exact Pricing.duration_le _ _
  · cases priced

end BoundlessPricing

end OpenZk
