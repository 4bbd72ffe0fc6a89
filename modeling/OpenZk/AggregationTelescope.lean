import OpenZk.AggregationAnchor
import OpenZk.Joining

set_option autoImplicit false

namespace OpenZk.Aggregation

open Words

def joinPair (a b : StateTransitionJournal) : Option StateTransitionJournal :=
  if Continues a b then some (combine a b) else none

theorem join_pair_some (a b c : StateTransitionJournal) (joined : joinPair a b = some c) :
    Continues a b ∧ c = combine a b := by
  rw [joinPair] at joined
  split at joined
  · rename_i continues_
    exact ⟨continues_, (Option.some.inj joined).symm⟩
  · cases joined

theorem continues_combine_left (a b c : StateTransitionJournal) (front : Continues a b) :
    Continues (combine a b) c ↔ Continues b c := by
  rw [Continues, Continues, combine, front.2]

theorem continues_combine_right (a b c : StateTransitionJournal) : Continues a (combine b c) ↔ Continues a b := Iff.rfl

theorem join_pair_meets (a b : StateTransitionJournal) (meets : Continues a b) : joinPair a b = some (combine a b) :=
  if_pos meets

theorem join_pair_breaks (a b : StateTransitionJournal) (breaks : ¬ Continues a b) : joinPair a b = none := if_neg breaks

theorem join_pair_assoc (a b c : StateTransitionJournal) :
    (joinPair a b).bind (fun front => joinPair front c) = (joinPair b c).bind (fun back => joinPair a back) := by
  by_cases front : Continues a b
  · rw [join_pair_meets a b front, Option.bind_some]
    by_cases back : Continues b c
    · have left := (continues_combine_left a b c front).mpr back
      have right := (continues_combine_right a b c).mpr front
      rw [join_pair_meets b c back, Option.bind_some, join_pair_meets _ _ left, join_pair_meets _ _ right]
      rfl
    · have left : ¬ Continues (combine a b) c := fun meets => back ((continues_combine_left a b c front).mp meets)
      rw [join_pair_breaks b c back, join_pair_breaks _ _ left, Option.bind_none]
  · rw [join_pair_breaks a b front, Option.bind_none]
    by_cases back : Continues b c
    · have right : ¬ Continues a (combine b c) := fun meets => front ((continues_combine_right a b c).mp meets)
      rw [join_pair_meets b c back, Option.bind_some, join_pair_breaks _ _ right]
    · rw [join_pair_breaks b c back, Option.bind_none]

def joining : Joining StateTransitionJournal := ⟨joinPair, join_pair_assoc⟩

theorem aggregate_pair (a b : StateTransitionJournal) : aggregate [a, b] = joinPair a b := by
  simp [aggregate, checkWindows, joinPair]

theorem aggregate_cons_cons (a b : StateTransitionJournal) (rest : List StateTransitionJournal) :
    aggregate (a :: b :: rest) = (joinPair a b).bind fun front => aggregate (front :: rest) := by
  by_cases meets : Continues a b
  · have windows : checkWindows (combine a b :: rest) = checkWindows (b :: rest) := by
      cases rest with
      | nil => rfl
      | cons c tail => rw [checkWindows, checkWindows, decide_eq_decide.mpr (continues_combine_left a b c meets)]
    have last : combine a (rest.getLastD b) = combine (combine a b) (rest.getLastD (combine a b)) := by
      cases rest with
      | nil => rfl
      | cons c tail => rw [List.getLastD_cons, List.getLastD_cons]; rfl
    rw [join_pair_meets a b meets, Option.bind_some, aggregate, aggregate, checkWindows, windows, decide_eq_true meets, Bool.true_and,
      List.getLastD_cons, last]
  · rw [join_pair_breaks a b meets, Option.bind_none, aggregate, checkWindows, decide_eq_false meets, Bool.false_and]
    rfl

theorem aggregate_fold (journals : List StateTransitionJournal) : aggregate journals = joining.fold journals := by
  cases journals with
  | nil => rfl
  | cons first rest =>
      induction rest generalizing first with
      | nil => rfl
      | cons second tail ih =>
          rw [aggregate_cons_cons, joining.fold_cons_cons]
          congr 1
          funext front
          exact ih front

variable {Vkey : Type}

structure Accepted (verifyInnerProof : Vkey → Bytes → Bool) (vkey : Vkey) (inner : List Bytes) : Prop where
  nonempty : inner ≠ []
  verified : ∀ bytes ∈ inner, verifyInnerProof vkey bytes = true
  continuous : ∃ journals : List StateTransitionJournal, inner.map fromAbiBytes = journals.map some ∧ journals.IsChain Continues

structure Telescopes (inner : List Bytes) (bytes : Bytes) (aggregated : StateTransitionJournal) : Prop where
  decoded : fromAbiBytes bytes = some aggregated
  config : ∀ part ∈ inner, ∀ journal, fromAbiBytes part = some journal →
    journal.rollupConfigHash = aggregated.rollupConfigHash
  roots : ∀ r : Bytes32 → Bytes32 → Prop, (∀ x y z, r x y → r y z → r x z) →
    (∀ part ∈ inner, ∀ journal, fromAbiBytes part = some journal → r journal.l2PreRoot journal.l2PostRoot) →
      r aggregated.l2PreRoot aggregated.l2PostRoot

theorem collect_journals_iff (verifyInnerProof : Vkey → Bytes → Bool) (vkey : Vkey) (count : Nat) (input : List Bytes)
    (journals : List StateTransitionJournal) :
    collectJournals verifyInnerProof vkey count input = some journals ↔
      count ≤ input.length ∧ (∀ bytes ∈ input.take count, verifyInnerProof vkey bytes = true) ∧
        (input.take count).map fromAbiBytes = journals.map some := by
  induction count generalizing input journals with
  | zero =>
      cases journals with
      | nil => simp [collectJournals]
      | cons journal rest => simp [collectJournals]
  | succ count ih =>
      cases input with
      | nil => simp [collectJournals]
      | cons bytes input =>
          by_cases verified : verifyInnerProof vkey bytes = true
          · rw [collectJournals, if_pos verified, List.take_succ_cons, List.map_cons, List.length_cons]
            cases decoded : fromAbiBytes bytes with
            | none =>
                cases journals with
                | nil => simp
                | cons journal rest => simp
            | some journal =>
                cases journals with
                | nil => simp
                | cons head rest =>
                    have tail := ih input rest
                    simp only [Option.bind_some, Option.map_eq_some_iff, List.cons.injEq, List.map_cons, Option.some.injEq,
                      List.forall_mem_cons, verified, true_and, Nat.add_le_add_iff_right]
                    refine ⟨?_, ?_⟩
                    · intro collected
                      obtain ⟨others, later, same, rfl⟩ := collected
                      obtain ⟨enough, rest_verified, rest_decoded⟩ := tail.mp later
                      exact ⟨enough, rest_verified, same, rest_decoded⟩
                    · intro accepted
                      obtain ⟨enough, rest_verified, same, rest_decoded⟩ := accepted
                      exact ⟨rest, tail.mpr ⟨enough, rest_verified, rest_decoded⟩, same, rfl⟩
          · simp [collectJournals, verified]

theorem decoded_member (inner : List Bytes) (journals : List StateTransitionJournal)
    (decoded : inner.map fromAbiBytes = journals.map some) (part : Bytes) (member : part ∈ inner)
    (journal : StateTransitionJournal) (decodes : fromAbiBytes part = some journal) : journal ∈ journals := by
  have mapped := List.mem_map_of_mem (f := fromAbiBytes) member
  rw [decoded, decodes] at mapped
  obtain ⟨found, inside, same⟩ := List.mem_map.mp mapped
  exact Option.some.inj same ▸ inside

theorem aggregate_config (journals : List StateTransitionJournal) (aggregated : StateTransitionJournal)
    (accepted : aggregate journals = some aggregated) :
    ∀ journal ∈ journals, journal.rollupConfigHash = aggregated.rollupConfigHash := by
  cases journals with
  | nil => cases accepted
  | cons first rest =>
      obtain ⟨chained, rfl⟩ := (aggregate_some_iff first rest aggregated).mp accepted
      exact continues_config first rest chained

theorem aggregate_roots (r : Bytes32 → Bytes32 → Prop) (transitive : ∀ x y z, r x y → r y z → r x z)
    (journals : List StateTransitionJournal) (aggregated : StateTransitionJournal)
    (accepted : aggregate journals = some aggregated)
    (each : ∀ journal ∈ journals, r journal.l2PreRoot journal.l2PostRoot) : r aggregated.l2PreRoot aggregated.l2PostRoot := by
  rw [aggregate_fold] at accepted
  apply joining.fold_keeps (fun journal => r journal.l2PreRoot journal.l2PostRoot) _ journals aggregated each accepted
  intro a b c front back joined
  obtain ⟨meets, rfl⟩ := join_pair_some a b c joined
  rw [← meets.1] at back
  exact transitive _ _ _ front back

theorem aggregation_telescopes (verifyInnerProof : Vkey → Bytes → Bool) (numProofs : UInt32) (vkey : Vkey)
    (input : List Bytes) :
    ((∃ bytes, main verifyInnerProof numProofs vkey input = some bytes) ↔
        numProofs.toNat ≤ input.length ∧ Accepted verifyInnerProof vkey (input.take numProofs.toNat)) ∧
      ∀ bytes, main verifyInnerProof numProofs vkey input = some bytes →
        ∃ aggregated, Telescopes (input.take numProofs.toNat) bytes aggregated := by
  refine ⟨?_, ?_⟩
  · refine ⟨?_, ?_⟩
    · intro committed
      obtain ⟨bytes, committed⟩ := committed
      obtain ⟨journals, aggregated, collected, accepted, _⟩ := (main_some_iff _ _ _ _ _).mp committed
      obtain ⟨enough, verified, decoded⟩ := (collect_journals_iff _ _ _ _ _).mp collected
      obtain ⟨nonempty, chained⟩ := (aggregate_accepts_iff journals).mp ⟨aggregated, accepted⟩
      refine ⟨enough, ?_, verified, journals, decoded, chained⟩
      intro none_read
      rw [none_read, List.map_nil] at decoded
      exact nonempty (List.map_eq_nil_iff.mp decoded.symm)
    · intro accepted
      obtain ⟨enough, nonempty, verified, journals, decoded, chained⟩ := accepted
      -- An empty input is refused by the aggregation, not by the collection.
      have some_read : journals ≠ [] := by
        intro none_read
        rw [none_read, List.map_nil] at decoded
        exact nonempty (List.map_eq_nil_iff.mp decoded)
      obtain ⟨aggregated, combined⟩ := (aggregate_accepts_iff journals).mpr ⟨some_read, chained⟩
      have collected := (collect_journals_iff verifyInnerProof vkey _ input journals).mpr ⟨enough, verified, decoded⟩
      exact ⟨_, (main_some_iff _ _ _ _ _).mpr ⟨journals, aggregated, collected, combined, rfl⟩⟩
  · intro bytes committed
    obtain ⟨journals, aggregated, collected, accepted, rfl⟩ := (main_some_iff _ _ _ _ _).mp committed
    obtain ⟨_, _, decoded⟩ := (collect_journals_iff _ _ _ _ _).mp collected
    refine ⟨aggregated, abi_round_trip aggregated, ?_, ?_⟩
    · intro part member journal decodes
      exact aggregate_config journals aggregated accepted journal (decoded_member _ _ decoded part member journal decodes)
    · intro r transitive each
      apply aggregate_roots r transitive journals aggregated accepted
      intro journal member
      have mapped := List.mem_map_of_mem (f := some) member
      rw [← decoded] at mapped
      obtain ⟨part, inside, decodes⟩ := List.mem_map.mp mapped
      exact each part inside journal decodes

theorem aggregate_grouping (xs ys : List StateTransitionJournal) (xsNonempty : xs ≠ []) (ysNonempty : ys ≠ []) :
    ((∃ flat, aggregate (xs ++ ys) = some flat) ↔
        ∃ front back joined, aggregate xs = some front ∧ aggregate ys = some back ∧ aggregate [front, back] = some joined) ∧
      (∀ front back, aggregate xs = some front → aggregate ys = some back →
        aggregate (xs ++ ys) = aggregate [front, back]) ∧
      ∀ tree : Grouping StateTransitionJournal, tree.NoEmptyGroup → tree.eval aggregate = aggregate tree.items := by
  have split := joining.fold_append xs ys xsNonempty ysNonempty
  simp only [← aggregate_fold] at split
  have pairs : ∀ front back, joining.join front back = aggregate [front, back] := fun front back =>
    (aggregate_pair front back).symm
  simp only [pairs] at split
  refine ⟨?_, ?_, ?_⟩
  · rw [split]
    simp only [Option.bind_eq_some_iff]
    refine ⟨?_, ?_⟩
    · intro accepted
      obtain ⟨flat, front, frontAccepted, back, backAccepted, joined⟩ := accepted
      exact ⟨front, back, flat, frontAccepted, backAccepted, joined⟩
    · intro accepted
      obtain ⟨front, back, joined, frontAccepted, backAccepted, joinedAccepted⟩ := accepted
      exact ⟨joined, front, frontAccepted, back, backAccepted, joinedAccepted⟩
  · intro front back frontAccepted backAccepted
    rw [split, frontAccepted, backAccepted, Option.bind_some, Option.bind_some]
  · intro tree inhabited
    have combined : aggregate = joining.fold := funext aggregate_fold
    rw [combined]
    exact Grouping.eval_fold joining tree inhabited

theorem aggregate_grouping_sample :
    ((∃ flat, aggregate ([samplePart 0xaa 1 2 5 7, samplePart 0xaa 2 3 9 7] ++ [samplePart 0xbb 3 4 12 7]) = some flat) ↔
        ∃ front back joined, aggregate [samplePart 0xaa 1 2 5 7, samplePart 0xaa 2 3 9 7] = some front ∧
          aggregate [samplePart 0xbb 3 4 12 7] = some back ∧ aggregate [front, back] = some joined) ∧
      (∀ front back, aggregate [samplePart 0xaa 1 2 5 7, samplePart 0xaa 2 3 9 7] = some front →
        aggregate [samplePart 0xbb 3 4 12 7] = some back →
          aggregate ([samplePart 0xaa 1 2 5 7, samplePart 0xaa 2 3 9 7] ++ [samplePart 0xbb 3 4 12 7]) =
            aggregate [front, back]) ∧
      ∀ tree : Grouping StateTransitionJournal, tree.NoEmptyGroup → tree.eval aggregate = aggregate tree.items :=
  aggregate_grouping [samplePart 0xaa 1 2 5 7, samplePart 0xaa 2 3 9 7] [samplePart 0xbb 3 4 12 7] (by simp) (by simp)

end OpenZk.Aggregation
