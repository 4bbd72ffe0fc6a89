import OpenZk.Journal
import Mathlib.Data.List.Chain

set_option autoImplicit false

namespace OpenZk.Aggregation

open Words

def Continues (a b : StateTransitionJournal) : Prop :=
  a.l2PostRoot = b.l2PreRoot ∧ a.rollupConfigHash = b.rollupConfigHash

instance (a b : StateTransitionJournal) : Decidable (Continues a b) := inferInstanceAs (Decidable (_ ∧ _))

def checkWindows : List StateTransitionJournal → Bool
  | a :: b :: rest => decide (Continues a b) && checkWindows (b :: rest)
  | [_] => true
  | [] => true

def combine (first last : StateTransitionJournal) : StateTransitionJournal where
  l1Head := first.l1Head
  l2PreRoot := first.l2PreRoot
  l2PostRoot := last.l2PostRoot
  l2BlockNumber := last.l2BlockNumber
  rollupConfigHash := first.rollupConfigHash
  programId := first.programId

def aggregate (journals : List StateTransitionJournal) : Option StateTransitionJournal :=
  match journals with
  -- A failed assertion aborts the guest and nothing is committed.
  | [] => none
  | first :: rest => if checkWindows journals then some (combine first (rest.getLastD first)) else none

variable {Vkey : Type}

def collectJournals (verifyInnerProof : Vkey → Bytes → Bool) (vkey : Vkey) :
    Nat → List Bytes → Option (List StateTransitionJournal)
  | 0, _ => some []
  | _ + 1, [] => none
  | count + 1, bytes :: input =>
      if verifyInnerProof vkey bytes then
        (fromAbiBytes bytes).bind fun journal =>
        (collectJournals verifyInnerProof vkey count input).map fun journals => journal :: journals
      else none

def main (verifyInnerProof : Vkey → Bytes → Bool) (numProofs : UInt32) (vkey : Vkey) (input : List Bytes) : Option Bytes :=
  (collectJournals verifyInnerProof vkey numProofs.toNat input).bind fun journals =>
  (aggregate journals).map toAbiBytes

theorem check_windows_iff (journals : List StateTransitionJournal) :
    checkWindows journals = true ↔ journals.IsChain Continues := by
  induction journals with
  | nil => simp [checkWindows]
  | cons a rest ih =>
      cases rest with
      | nil => simp [checkWindows]
      | cons b tail => rw [checkWindows, Bool.and_eq_true, decide_eq_true_eq, ih, List.isChain_cons_cons]

theorem aggregate_some_iff (first : StateTransitionJournal) (rest : List StateTransitionJournal)
    (aggregated : StateTransitionJournal) :
    aggregate (first :: rest) = some aggregated ↔
      (first :: rest).IsChain Continues ∧ aggregated = combine first (rest.getLastD first) := by
  rw [← check_windows_iff, aggregate]
  by_cases chained : checkWindows (first :: rest) = true
  · simp [chained, eq_comm]
  · simp [chained]

theorem aggregate_accepts_iff (journals : List StateTransitionJournal) :
    (∃ aggregated, aggregate journals = some aggregated) ↔ journals ≠ [] ∧ journals.IsChain Continues := by
  cases journals with
  | nil => simp [aggregate]
  | cons first rest => simp [aggregate_some_iff]

theorem aggregate_pre_root (first : StateTransitionJournal) (rest : List StateTransitionJournal)
    (aggregated : StateTransitionJournal) (committed : aggregate (first :: rest) = some aggregated) :
    aggregated.l2PreRoot = first.l2PreRoot := by
  obtain ⟨_, rfl⟩ := (aggregate_some_iff first rest aggregated).mp committed
  rfl

theorem main_some_iff (verifyInnerProof : Vkey → Bytes → Bool) (numProofs : UInt32) (vkey : Vkey) (input : List Bytes)
    (bytes : Bytes) :
    main verifyInnerProof numProofs vkey input = some bytes ↔
      ∃ journals aggregated, collectJournals verifyInnerProof vkey numProofs.toNat input = some journals ∧
        aggregate journals = some aggregated ∧ bytes = toAbiBytes aggregated := by
  rw [main, Option.bind_eq_some_iff]
  refine ⟨?_, ?_⟩
  · intro committed
    obtain ⟨journals, collected, finished⟩ := committed
    obtain ⟨aggregated, accepted, encoded⟩ := Option.map_eq_some_iff.mp finished
    exact ⟨journals, aggregated, collected, accepted, encoded.symm⟩
  · intro accepted
    obtain ⟨journals, aggregated, collected, accepted, encoded⟩ := accepted
    exact ⟨journals, collected, by rw [accepted, encoded, Option.map_some]⟩

theorem collect_encoded (verifyInnerProof : Vkey → Bytes → Bool) (vkey : Vkey) (journals : List StateTransitionJournal)
    (verified : ∀ journal ∈ journals, verifyInnerProof vkey (toAbiBytes journal) = true) :
    collectJournals verifyInnerProof vkey journals.length (journals.map toAbiBytes) = some journals := by
  induction journals with
  | nil => rfl
  | cons journal rest ih =>
      have head := verified journal List.mem_cons_self
      have tail := ih (fun other member => verified other (List.mem_cons_of_mem journal member))
      rw [List.length_cons, List.map_cons, collectJournals, if_pos head, abi_round_trip, Option.bind_some, tail]
      rfl

theorem main_encoded (verifyInnerProof : Vkey → Bytes → Bool) (numProofs : UInt32) (vkey : Vkey)
    (journals : List StateTransitionJournal) (count : numProofs.toNat = journals.length)
    (verified : ∀ journal ∈ journals, verifyInnerProof vkey (toAbiBytes journal) = true) :
    main verifyInnerProof numProofs vkey (journals.map toAbiBytes) = (aggregate journals).map toAbiBytes := by
  rw [main, count, collect_encoded verifyInnerProof vkey journals verified, Option.bind_some]

end OpenZk.Aggregation
