import OpenZk.Aggregation

set_option autoImplicit false

namespace OpenZk.Aggregation

open Words

theorem chain_ends {α : Type} (r : α → α → Prop) (reflexive : ∀ x, r x x) (transitive : ∀ x y z, r x y → r y z → r x z)
    (first : α) (rest : List α) (chained : (first :: rest).IsChain r) :
    ∀ x ∈ first :: rest, r first x ∧ r x (rest.getLastD first) := by
  induction rest generalizing first with
  | nil =>
      intro x member
      rw [List.mem_singleton.mp member]
      exact ⟨reflexive first, reflexive first⟩
  | cons second tail ih =>
      obtain ⟨head, tailChained⟩ := List.isChain_cons_cons.mp chained
      have later := ih second tailChained
      intro x member
      rw [List.getLastD_cons]
      rcases List.mem_cons.mp member with same | member
      · rw [same]
        exact ⟨reflexive first, transitive _ _ _ head (later second List.mem_cons_self).2⟩
      · exact ⟨transitive _ _ _ head (later x member).1, (later x member).2⟩

structure SameAnchor (a b : StateTransitionJournal) : Prop where
  l1Head : a.l1Head = b.l1Head
  programId : a.programId = b.programId
  l2BlockNumber : a.l2BlockNumber ≤ b.l2BlockNumber

structure OneAnchor (journals : List StateTransitionJournal) (committed : StateTransitionJournal) : Prop where
  l1Head : ∀ journal ∈ journals, journal.l1Head = committed.l1Head
  programId : ∀ journal ∈ journals, journal.programId = committed.programId
  rising : journals.Pairwise fun a b => a.l2BlockNumber ≤ b.l2BlockNumber
  bounded : ∀ journal ∈ journals, journal.l2BlockNumber ≤ committed.l2BlockNumber

theorem same_anchor_refl (a : StateTransitionJournal) : SameAnchor a a := ⟨rfl, rfl, UInt64.le_refl _⟩

theorem same_anchor_trans (a b c : StateTransitionJournal) (front : SameAnchor a b) (back : SameAnchor b c) :
    SameAnchor a c :=
  ⟨front.l1Head.trans back.l1Head, front.programId.trans back.programId,
    UInt64.le_trans front.l2BlockNumber back.l2BlockNumber⟩

theorem same_anchor_pairwise (journals : List StateTransitionJournal) (chained : journals.IsChain SameAnchor) :
    journals.Pairwise SameAnchor := by
  have transitive : Trans SameAnchor SameAnchor SameAnchor := ⟨same_anchor_trans _ _ _⟩
  exact List.isChain_iff_pairwise.mp chained

variable {Vkey : Type}

theorem main_commits (verifyInnerProof : Vkey → Bytes → Bool) (numProofs : UInt32) (vkey : Vkey) (input : List Bytes)
    (journals : List StateTransitionJournal) (bytes : Bytes)
    (collected : collectJournals verifyInnerProof vkey numProofs.toNat input = some journals)
    (committed : main verifyInnerProof numProofs vkey input = some bytes) :
    ∃ first rest, journals = first :: rest ∧ (first :: rest).IsChain Continues ∧
      bytes = toAbiBytes (combine first (rest.getLastD first)) := by
  obtain ⟨read, aggregated, again, accepted, rfl⟩ := (main_some_iff _ _ _ _ _).mp committed
  rw [collected] at again
  cases again
  cases journals with
  | nil => cases accepted
  | cons first rest =>
      obtain ⟨chained, rfl⟩ := (aggregate_some_iff first rest aggregated).mp accepted
      exact ⟨first, rest, rfl, chained, rfl⟩

theorem continues_config (first : StateTransitionJournal) (rest : List StateTransitionJournal)
    (chained : (first :: rest).IsChain Continues) :
    ∀ journal ∈ first :: rest, journal.rollupConfigHash = first.rollupConfigHash := by
  have ends := chain_ends (fun a b => a.rollupConfigHash = b.rollupConfigHash) (fun _ => rfl)
    (fun _ _ _ => Eq.trans) first rest (chained.imp fun _ _ meets => meets.2)
  exact fun journal member => (ends journal member).1.symm

theorem combine_one_anchor_iff (first : StateTransitionJournal) (rest : List StateTransitionJournal) :
    OneAnchor (first :: rest) (combine first (rest.getLastD first)) ↔ (first :: rest).IsChain SameAnchor := by
  constructor
  · intro anchored
    apply List.Pairwise.isChain
    apply anchored.rising.imp_of_mem
    intro a b aMember bMember rises
    exact ⟨(anchored.l1Head a aMember).trans (anchored.l1Head b bMember).symm,
      (anchored.programId a aMember).trans (anchored.programId b bMember).symm, rises⟩
  · intro chained
    have ends := chain_ends SameAnchor same_anchor_refl same_anchor_trans first rest chained
    refine ⟨?_, ?_, ?_, ?_⟩
    · exact fun journal member => (ends journal member).1.l1Head.symm
    · exact fun journal member => (ends journal member).1.programId.symm
    · exact (same_anchor_pairwise (first :: rest) chained).imp fun agree => agree.l2BlockNumber
    · exact fun journal member => (ends journal member).2.l2BlockNumber

/-- One anchor, one program and rising numbers are properties of the parts that the loop over
adjacent pairs does not compare; the configuration hash it does. -/
theorem one_anchor_iff (verifyInnerProof : Vkey → Bytes → Bool) (numProofs : UInt32) (vkey : Vkey) (input : List Bytes)
    (journals : List StateTransitionJournal) (bytes : Bytes) (aggregated : StateTransitionJournal)
    (collected : collectJournals verifyInnerProof vkey numProofs.toNat input = some journals)
    (committed : main verifyInnerProof numProofs vkey input = some bytes)
    (decoded : fromAbiBytes bytes = some aggregated) :
    (∀ journal ∈ journals, journal.rollupConfigHash = aggregated.rollupConfigHash) ∧
      (OneAnchor journals aggregated ↔ journals.IsChain SameAnchor) := by
  obtain ⟨first, rest, rfl, chained, rfl⟩ :=
    main_commits verifyInnerProof numProofs vkey input journals bytes collected committed
  rw [abi_round_trip] at decoded
  obtain rfl := Option.some.inj decoded
  exact ⟨continues_config first rest chained, combine_one_anchor_iff first rest⟩

def samplePart (l1Head preRoot postRoot : Nat) (number : UInt64) (program : Nat) : StateTransitionJournal :=
  ⟨wordOfNat l1Head, wordOfNat preRoot, wordOfNat postRoot, number, zeroWord, wordOfNat program⟩

theorem pair_commits (verifyInnerProof : Vkey → Bytes → Bool) (vkey : Vkey) (a b : StateTransitionJournal)
    (verified : ∀ journal ∈ [a, b], verifyInnerProof vkey (toAbiBytes journal) = true) (continued : Continues a b) :
    main verifyInnerProof 2 vkey ([a, b].map toAbiBytes) = some (toAbiBytes (combine a b)) := by
  have accepted : aggregate [a, b] = some (combine a b) :=
    (aggregate_some_iff a [b] _).mpr ⟨.cons_cons continued (.singleton b), rfl⟩
  rw [main_encoded verifyInnerProof 2 vkey _ rfl verified, accepted]
  rfl

theorem pair_collected (a b : StateTransitionJournal) :
    collectJournals (fun (_ : Unit) _ => true) () (2 : UInt32).toNat ([a, b].map toAbiBytes) = some [a, b] :=
  collect_encoded _ () [a, b] fun _ _ => rfl

theorem one_anchor_sample :
    (∀ journal ∈ [samplePart 0xaa 1 2 5 7, samplePart 0xaa 2 3 9 7],
        journal.rollupConfigHash = (combine (samplePart 0xaa 1 2 5 7) (samplePart 0xaa 2 3 9 7)).rollupConfigHash) ∧
      (OneAnchor [samplePart 0xaa 1 2 5 7, samplePart 0xaa 2 3 9 7]
          (combine (samplePart 0xaa 1 2 5 7) (samplePart 0xaa 2 3 9 7)) ↔
        [samplePart 0xaa 1 2 5 7, samplePart 0xaa 2 3 9 7].IsChain SameAnchor) :=
  one_anchor_iff _ 2 () _ _ _ _ (pair_collected (samplePart 0xaa 1 2 5 7) (samplePart 0xaa 2 3 9 7))
    (pair_commits _ () _ _ (fun _ _ => rfl) ⟨rfl, rfl⟩)
    (abi_round_trip (combine (samplePart 0xaa 1 2 5 7) (samplePart 0xaa 2 3 9 7)))

theorem mixed_anchors_aggregated :
    main (fun (_ : Unit) _ => true) 2 () ([samplePart 0xaa 1 2 9 7, samplePart 0xbb 2 3 5 8].map toAbiBytes) =
        some (toAbiBytes (combine (samplePart 0xaa 1 2 9 7) (samplePart 0xbb 2 3 5 8))) ∧
      ¬ OneAnchor [samplePart 0xaa 1 2 9 7, samplePart 0xbb 2 3 5 8]
        (combine (samplePart 0xaa 1 2 9 7) (samplePart 0xbb 2 3 5 8)) := by
  refine ⟨pair_commits _ () _ _ (fun _ _ => rfl) ⟨rfl, rfl⟩, ?_⟩
  intro anchored
  have heads := anchored.l1Head (samplePart 0xbb 2 3 5 8) (by simp)
  cases word_of_nat_inj 0xbb 0xaa (by decide) (by decide) heads

end OpenZk.Aggregation
