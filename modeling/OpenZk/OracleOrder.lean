import OpenZk.OracleRuns

set_option autoImplicit false

namespace OpenZk.Oracle

open Words

structure Delivery where
  msg : Msg
  sub : Submission

def Delivery.tx (delivery : Delivery) : Tx := ⟨delivery.msg, submit delivery.sub⟩

def Delivery.number (delivery : Delivery) : UInt64 := l2BlockNumberOf delivery.sub.journal

def Delivery.store (s : State) (delivery : Delivery) : State := record delivery.msg delivery.sub.journal s

def Admissible (v : Verifiers) (s : State) (delivery : Delivery) : Prop :=
  delivery.sub.journal.length = 192 ∧ accepts v s delivery.sub = true

def eraseTime (proposal : OutputProposal) : OutputProposal := { proposal with timestamp := 0 }

def eraseTimes (s : State) : State := { s with proposals := fun number => eraseTime (s.proposals number) }

def timeless : Msg := ⟨0, 0⟩

theorem record_block_proven (msg : Msg) (journal : Bytes) (s : State) (number : UInt64)
    (different : number ≠ l2BlockNumberOf journal) :
    isBlockProven (record msg journal s) number = isBlockProven s number := by
  unfold isBlockProven
  rw [record_elsewhere msg journal s number different]

theorem update_latest_comm (a b : UInt64) (aRoot bRoot : Bytes32) (s : State) (different : a ≠ b) :
    updateLatest a aRoot (updateLatest b bRoot s) = updateLatest b bRoot (updateLatest a aRoot s) := by
  have order : a < b ∨ b < a := by
    rcases UInt64.lt_or_lt_of_ne different with less | greater
    · exact .inl less
    · exact .inr greater
  unfold updateLatest
  by_cases aAbove : a > s.latestBlockNumber
  · by_cases bAbove : b > s.latestBlockNumber
    · rcases order with less | greater
      · simp [aAbove, bAbove, less, UInt64.lt_asymm less]
      · simp [aAbove, bAbove, greater, UInt64.lt_asymm greater]
    · have lower : ¬ b > a := fun above => bAbove (UInt64.lt_trans aAbove above)
      simp [aAbove, bAbove, lower]
  · by_cases bAbove : b > s.latestBlockNumber
    · have lower : ¬ a > b := fun above => aAbove (UInt64.lt_trans bAbove above)
      simp [aAbove, bAbove, lower]
    · simp [aAbove, bAbove]

theorem store_proposal_comm (a b : UInt64) (aProposal bProposal : OutputProposal) (s : State) (different : a ≠ b) :
    storeProposal a aProposal (storeProposal b bProposal s) = storeProposal b bProposal (storeProposal a aProposal s) := by
  unfold storeProposal
  rw [Function.update_comm different.symm]

theorem store_update_comm (a b : UInt64) (proposal : OutputProposal) (root : Bytes32) (s : State) :
    storeProposal a proposal (updateLatest b root s) = updateLatest b root (storeProposal a proposal s) := by
  unfold storeProposal updateLatest
  by_cases above : b > s.latestBlockNumber <;> simp [above]

theorem record_comm (a b : Msg) (first second : Bytes) (s : State)
    (different : l2BlockNumberOf first ≠ l2BlockNumberOf second) :
    record a first (record b second s) = record b second (record a first s) := by
  unfold record
  rw [store_update_comm, store_proposal_comm _ _ _ _ _ different, update_latest_comm _ _ _ _ _ different,
    store_update_comm]

theorem erase_update_latest (number : UInt64) (root : Bytes32) (s : State) :
    eraseTimes (updateLatest number root s) = updateLatest number root (eraseTimes s) := by
  unfold updateLatest
  by_cases above : number > s.latestBlockNumber <;> simp [eraseTimes, above]

theorem erase_store_proposal (number : UInt64) (proposal : OutputProposal) (s : State) :
    eraseTimes (storeProposal number proposal s) = storeProposal number (eraseTime proposal) (eraseTimes s) := by
  unfold eraseTimes storeProposal
  congr 1
  funext other
  by_cases same : other = number
  · subst other
    simp only [Function.update_self]
  · simp only [Function.update_of_ne same]

theorem erase_record (msg : Msg) (journal : Bytes) (s : State) :
    eraseTimes (record msg journal s) = record timeless journal (eraseTimes s) := by
  unfold record
  rw [erase_update_latest, erase_store_proposal]
  rfl

theorem erase_stores (deliveries : List Delivery) (s : State) :
    eraseTimes (deliveries.foldl Delivery.store s) =
      (deliveries.map fun delivery => delivery.sub.journal).foldl (fun state journal => record timeless journal state)
        (eraseTimes s) := by
  induction deliveries generalizing s with
  | nil => rfl
  | cons delivery rest ih =>
      rw [List.foldl_cons, List.map_cons, List.foldl_cons, ih, Delivery.store, erase_record]

theorem deliveries_commit (v : Verifiers) (s : State) (deliveries : List Delivery)
    (admissible : ∀ delivery ∈ deliveries, Admissible v s delivery)
    (distinct : (deliveries.map Delivery.number).Nodup)
    (free : ∀ delivery ∈ deliveries, isBlockProven s delivery.number = false) :
    (history v s (deliveries.map Delivery.tx)).map Commit.tx = deliveries.map Delivery.tx ∧
      run v s (deliveries.map Delivery.tx) = deliveries.foldl Delivery.store s := by
  induction deliveries generalizing s with
  | nil => exact ⟨rfl, rfl⟩
  | cons delivery rest ih =>
      rw [List.map_cons, List.nodup_cons] at distinct
      obtain ⟨length, accepted⟩ := admissible delivery (by simp)
      have committed := submit_commits v s delivery.msg delivery.sub length accepted (free delivery (by simp))
      have later := ih (delivery.store s) ?_ distinct.2 ?_
      · rw [List.map_cons, Delivery.tx, history_execute _ _ _ _ _ _ committed, run_execute _ _ _ _ _ _ committed,
          List.map_cons]
        exact ⟨congrArg _ later.1, later.2⟩
      · intro other member
        obtain ⟨otherLength, otherAccepted⟩ := admissible other (by simp [member])
        exact ⟨otherLength, by rw [Delivery.store, record_accepts, otherAccepted]⟩
      · intro other member
        have different : other.number ≠ delivery.number := by
          intro same
          exact distinct.1 (List.mem_map.mpr ⟨other, member, same⟩)
        rw [Delivery.store, record_block_proven _ _ _ _ different]
        exact free other (by simp [member])

theorem stores_perm (first second : List Bytes) (s : State) (rearranged : first.Perm second)
    (distinct : (first.map l2BlockNumberOf).Nodup) :
    first.foldl (fun state journal => record timeless journal state) s =
      second.foldl (fun state journal => record timeless journal state) s := by
  apply rearranged.foldl_eq'
  intro a aMember b bMember state
  by_cases same : a = b
  · rw [same]
  · apply record_comm
    intro numbers
    exact same (List.inj_on_of_nodup_map distinct bMember aMember numbers).symm

theorem submission_order (v : Verifiers) (s : State) (first second : List Delivery)
    (rearranged : (first.map fun delivery => delivery.sub.journal).Perm
      (second.map fun delivery => delivery.sub.journal))
    (firstAdmissible : ∀ delivery ∈ first, Admissible v s delivery)
    (secondAdmissible : ∀ delivery ∈ second, Admissible v s delivery)
    (distinct : (first.map Delivery.number).Nodup)
    (free : ∀ delivery ∈ first, isBlockProven s delivery.number = false) :
    (history v s (first.map Delivery.tx)).map Commit.tx = first.map Delivery.tx ∧
      (history v s (second.map Delivery.tx)).map Commit.tx = second.map Delivery.tx ∧
      eraseTimes (run v s (first.map Delivery.tx)) = eraseTimes (run v s (second.map Delivery.tx)) := by
  have numbers : (first.map Delivery.number).Perm (second.map Delivery.number) := by
    have mapped := rearranged.map l2BlockNumberOf
    rwa [List.map_map, List.map_map] at mapped
  have secondFree : ∀ delivery ∈ second, isBlockProven s delivery.number = false := by
    intro delivery member
    have listed := numbers.mem_iff.mpr (List.mem_map_of_mem member)
    obtain ⟨other, otherMember, same⟩ := List.mem_map.mp listed
    rw [← same]
    exact free other otherMember
  obtain ⟨firstAll, firstState⟩ := deliveries_commit v s first firstAdmissible distinct free
  obtain ⟨secondAll, secondState⟩ := deliveries_commit v s second secondAdmissible (numbers.nodup_iff.mp distinct) secondFree
  refine ⟨firstAll, secondAll, ?_⟩
  rw [firstState, secondState, erase_stores, erase_stores]
  apply stores_perm _ _ _ rearranged
  rw [List.map_map]
  exact distinct

def sampleDelivery (backend : Backend) (number : UInt64) : Delivery :=
  ⟨⟨0x9, 100⟩, ⟨backend, sampleJournal 0xbb 0xcc number, [0xde, 0xad]⟩⟩

theorem sample_admissible (backend : Backend) (number : UInt64) :
    Admissible mockVerifiers mockDeployed (sampleDelivery backend number) := by
  refine ⟨sample_length _ _ _, ?_⟩
  cases backend <;> rfl

theorem sample_delivery_number (backend : Backend) (number : UInt64) : (sampleDelivery backend number).number = number :=
  sample_number _ _ _

theorem submission_order_swapped :
    (history mockVerifiers mockDeployed [(sampleDelivery .sp1 42).tx, (sampleDelivery .riscZero 50).tx]).map Commit.tx =
        [(sampleDelivery .sp1 42).tx, (sampleDelivery .riscZero 50).tx] ∧
      (history mockVerifiers mockDeployed [(sampleDelivery .sp1 50).tx, (sampleDelivery .sp1 42).tx]).map Commit.tx =
        [(sampleDelivery .sp1 50).tx, (sampleDelivery .sp1 42).tx] ∧
      eraseTimes (run mockVerifiers mockDeployed [(sampleDelivery .sp1 42).tx, (sampleDelivery .riscZero 50).tx]) =
        eraseTimes (run mockVerifiers mockDeployed [(sampleDelivery .sp1 50).tx, (sampleDelivery .sp1 42).tx]) := by
  refine submission_order mockVerifiers mockDeployed [sampleDelivery .sp1 42, sampleDelivery .riscZero 50]
    [sampleDelivery .sp1 50, sampleDelivery .sp1 42] (List.Perm.swap _ _ _) ?_ ?_ ?_ ?_
  · simp [sample_admissible]
  · simp [sample_admissible]
  · simp [sample_delivery_number]
  · simp [mock_deployed_unproven]

end OpenZk.Oracle
