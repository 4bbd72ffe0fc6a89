import OpenZk.OracleRuns

set_option autoImplicit false

namespace OpenZk.Oracle

open Words

def blockNumberDenoted (journal : Bytes) : Nat := bigEndian (slice journal 96 128)

structure Passes (v : Verifiers) (s : State) (sub : Submission) : Prop where
  length : sub.journal.length = 192
  accepted : accepts v s sub = true
  free : isBlockProven s (l2BlockNumberOf sub.journal) = false

def StoredExactly (step : Step) (journal : Bytes) : Prop :=
  ∃ slot : UInt64, slot.toNat = blockNumberDenoted journal ∧
    step.after.proposals = Function.update step.before.proposals slot (outputProposal step.tx.msg journal) ∧
    (outputProposal step.tx.msg journal).l2BlockNumber.toNat = blockNumberDenoted journal

structure NoAliasing (v : Verifiers) (s : State) (txs : List Tx) : Prop where
  stored : ∀ step ∈ history v s txs, ∀ sub, submission step.tx.call = some sub → StoredExactly step sub.journal
  rejected : ∀ front tx back sub, txs = front ++ tx :: back → submission tx.call = some sub →
    2 ^ 64 ≤ blockNumberDenoted sub.journal → ∃ reason, execute v (run v s front) tx = .error reason
  apart : ∀ a ∈ history v s txs, ∀ b ∈ history v s txs, ∀ subA subB, submission a.tx.call = some subA →
    submission b.tx.call = some subB → slice subA.journal 96 128 ≠ slice subB.journal 96 128 →
      l2BlockNumberOf subA.journal ≠ l2BlockNumberOf subB.journal

def NumbersFit (v : Verifiers) (s : State) (txs : List Tx) : Prop :=
  ∀ front tx back sub, txs = front ++ tx :: back → submission tx.call = some sub →
    Passes v (run v s front) sub → blockNumberDenoted sub.journal < 2 ^ 64

theorem block_number_cast (journal : Bytes) (length : journal.length = 192) :
    (l2BlockNumberOf journal).toNat = blockNumberDenoted journal % 2 ^ 64 :=
  l2_block_number_low journal length

theorem fitting_number (journal : Bytes) (length : journal.length = 192) (fits : blockNumberDenoted journal < 2 ^ 64) :
    (l2BlockNumberOf journal).toNat = blockNumberDenoted journal := by
  rw [block_number_cast journal length, Nat.mod_eq_of_lt fits]

theorem committed_passes (v : Verifiers) (before after : State) (tx : Tx) (event : Event) (sub : Submission)
    (call : submission tx.call = some sub) (committed : execute v before tx = .ok (after, event)) :
    Passes v before sub ∧ after = record tx.msg sub.journal before := by
  obtain ⟨length, accepted, free, stored, _⟩ := execute_submitted v before after tx event sub call committed
  exact ⟨⟨length, accepted, free⟩, stored⟩

theorem passes_commits (v : Verifiers) (s : State) (tx : Tx) (sub : Submission) (call : submission tx.call = some sub)
    (passes : Passes v s sub) : ∃ result, execute v s tx = .ok result := by
  have committed := submit_commits v s tx.msg sub passes.length passes.accepted passes.free
  rw [← submission_eq tx.call sub call] at committed
  exact ⟨_, committed⟩

theorem step_fits (v : Verifiers) (s : State) (txs : List Tx) (fit : NumbersFit v s txs) (step : Step)
    (member : step ∈ history v s txs) (sub : Submission) (call : submission step.tx.call = some sub) :
    (l2BlockNumberOf sub.journal).toNat = blockNumberDenoted sub.journal ∧ sub.journal.length = 192 ∧
      step.after = record step.tx.msg sub.journal step.before := by
  obtain ⟨front, back, shape, before, committed, _⟩ := (machine v).history_located s txs step member
  obtain ⟨passes, stored⟩ := committed_passes v step.before step.after step.tx step.output sub call committed
  rw [before] at passes
  exact ⟨fitting_number _ passes.length (fit front step.tx back sub shape call passes), passes.length, stored⟩

/-- The contract narrows the word without a check, so it is exact for the numbers that fit and for no others. -/
theorem no_aliasing_iff (v : Verifiers) (s : State) (txs : List Tx) : NoAliasing v s txs ↔ NumbersFit v s txs := by
  refine ⟨?_, ?_⟩
  · intro exact_numbers front tx back sub shape call passes
    by_contra wide
    obtain ⟨reason, refused⟩ := exact_numbers.rejected front tx back sub shape call (Nat.le_of_not_lt wide)
    obtain ⟨result, committed⟩ := passes_commits v _ tx sub call passes
    cases refused.symm.trans committed
  · intro fit
    refine ⟨?_, ?_, ?_⟩
    · intro step member sub call
      obtain ⟨slot, _, stored⟩ := step_fits v s txs fit step member sub call
      refine ⟨l2BlockNumberOf sub.journal, slot, ?_, slot⟩
      rw [stored, record_proposals]
    · intro front tx back sub shape call wide
      cases outcome : execute v (run v s front) tx with
      | error reason => exact ⟨reason, rfl⟩
      | ok result =>
          obtain ⟨passes, _⟩ := committed_passes v _ result.1 tx result.2 sub call outcome
          exact absurd (fit front tx back sub shape call passes) (Nat.not_lt.mpr wide)
    · intro a aMember b bMember subA subB aCall bCall words numbers
      obtain ⟨aSlot, aLength, _⟩ := step_fits v s txs fit a aMember subA aCall
      obtain ⟨bSlot, bLength, _⟩ := step_fits v s txs fit b bMember subB bCall
      apply words
      have slots := congrArg UInt64.toNat numbers
      rw [aSlot, bSlot] at slots
      exact big_endian_inj _ _ (by rw [slice_length _ _ _ (by omega), slice_length _ _ _ (by omega)]) slots

def wideJournal (postRoot number : Nat) : Bytes :=
  (wordOfNat 0xaa).data ++ ((wordOfNat 0xbb).data ++ ((wordOfNat postRoot).data ++ ((wordOfNat number).data ++
    ((wordOfNat 0xdd).data ++ (wordOfNat 0xee).data))))

def wideSubmission : Submission := ⟨.riscZero, wideJournal 0xcc (2 ^ 64 + 42), [0xde, 0xad]⟩

def wideTx : Tx := ⟨⟨0x9, 100⟩, submit wideSubmission⟩

theorem wide_number : blockNumberDenoted wideSubmission.journal = 2 ^ 64 + 42 := by decide

theorem wide_slot : l2BlockNumberOf wideSubmission.journal = 42 := by decide

theorem wide_admissible : Passes mockVerifiers mockDeployed wideSubmission :=
  ⟨by simp [wideSubmission, wideJournal, Bytes32.size], rfl, by rw [wide_slot]; exact mock_deployed_unproven 42⟩

theorem wide_number_stored_under_42 :
    (∃ after event, execute mockVerifiers mockDeployed wideTx = .ok (after, event) ∧
        after.proposals 42 = outputProposal ⟨0x9, 100⟩ wideSubmission.journal ∧ isBlockProven after 42 = true) ∧
      blockNumberDenoted wideSubmission.journal = 2 ^ 64 + 42 ∧ ¬ NoAliasing mockVerifiers mockDeployed [wideTx] := by
  have committed := submit_commits mockVerifiers mockDeployed ⟨0x9, 100⟩ wideSubmission wide_admissible.length
    wide_admissible.accepted wide_admissible.free
  have here := record_here ⟨0x9, 100⟩ wideSubmission.journal mockDeployed
  have proven := (record_proven_here ⟨0x9, 100⟩ wideSubmission.journal mockDeployed).mpr (by decide)
  rw [wide_slot] at here proven
  refine ⟨⟨_, _, committed, here, proven⟩, wide_number, ?_⟩
  intro exact_numbers
  obtain ⟨reason, refused⟩ := exact_numbers.rejected [] wideTx [] wideSubmission rfl rfl (by rw [wide_number]; decide)
  cases refused.symm.trans committed

end OpenZk.Oracle
