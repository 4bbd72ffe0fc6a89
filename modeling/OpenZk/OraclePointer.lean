import OpenZk.OracleRuns
import Mathlib.Order.Bounds.Basic

set_option autoImplicit false

namespace OpenZk.Oracle

open Words WriteOnce

def acceptedNumbers (steps : List Step) : Set UInt64 :=
  {number | ∃ step ∈ steps, ∃ sub, submission step.tx.call = some sub ∧ l2BlockNumberOf sub.journal = number}

structure PointerCoherent (steps : List Step) (s : State) : Prop where
  greatest : IsGreatest (acceptedNumbers steps) s.latestBlockNumber
  proven : isBlockProven s s.latestBlockNumber = true
  root : s.latestOutputRoot = (s.proposals s.latestBlockNumber).outputRoot

structure PointerFresh (steps : List Step) (s : State) : Prop where
  none : acceptedNumbers steps = ∅
  number : s.latestBlockNumber = 0
  root : s.latestOutputRoot = zeroWord

def AdvancesCleanly (before : State) (journal : Bytes) : Prop :=
  l2BlockNumberOf journal < before.latestBlockNumber ∨
    (before.latestBlockNumber < l2BlockNumberOf journal ∧ l2PostRootOf journal ≠ zeroWord)

theorem accepted_numbers_append (past : List Step) (step : Step) (sub : Submission)
    (call : submission step.tx.call = some sub) :
    acceptedNumbers (past ++ [step]) = insert (l2BlockNumberOf sub.journal) (acceptedNumbers past) := by
  ext number
  constructor
  · intro given
    obtain ⟨other, member, otherSub, otherCall, names⟩ := given
    rcases List.mem_append.mp member with old | new
    · exact .inr ⟨other, old, otherSub, otherCall, names⟩
    · rw [List.mem_singleton.mp new, call] at otherCall
      rw [Option.some.inj otherCall, names]
      exact .inl rfl
  · intro either
    rcases either with rfl | ⟨other, member, otherSub, otherCall, names⟩
    · exact ⟨step, by simp, sub, call, rfl⟩
    · exact ⟨other, by simp [member], otherSub, otherCall, names⟩

theorem accepted_numbers_skip (past : List Step) (step : Step) (call : submission step.tx.call = none) :
    acceptedNumbers (past ++ [step]) = acceptedNumbers past := by
  ext number
  constructor
  · intro given
    obtain ⟨other, member, otherSub, otherCall, names⟩ := given
    rcases List.mem_append.mp member with old | new
    · exact ⟨other, old, otherSub, otherCall, names⟩
    · rw [List.mem_singleton.mp new, call] at otherCall
      cases otherCall
  · intro given
    obtain ⟨other, member, otherSub, otherCall, names⟩ := given
    exact ⟨other, by simp [member], otherSub, otherCall, names⟩

theorem coherent_congr (past : List Step) (step : Step) (a b : State) (call : submission step.tx.call = none)
    (latest : a.latestBlockNumber = b.latestBlockNumber) (root : a.latestOutputRoot = b.latestOutputRoot)
    (proposals : a.proposals = b.proposals) :
    (PointerCoherent past a → PointerCoherent (past ++ [step]) b) ∧
      (PointerFresh past a → PointerFresh (past ++ [step]) b) := by
  refine ⟨fun coherent => ⟨?_, ?_, ?_⟩, fun fresh => ⟨?_, ?_, ?_⟩⟩
  · rw [accepted_numbers_skip past step call, ← latest]
    exact coherent.greatest
  · rw [proven_iff, ← latest, ← proposals]
    exact (proven_iff _ _).mp coherent.proven
  · rw [← root, ← latest, ← proposals]
    exact coherent.root
  · rw [accepted_numbers_skip past step call, fresh.none]
  · rw [← latest, fresh.number]
  · rw [← root, fresh.root]

theorem record_coherent (past : List Step) (step : Step) (sub : Submission) (msg : Msg) (before : State)
    (call : submission step.tx.call = some sub) (clean : AdvancesCleanly before sub.journal)
    (held : PointerFresh past before ∨ PointerCoherent past before) :
    PointerCoherent (past ++ [step]) (record msg sub.journal before) := by
  have grown := accepted_numbers_append past step sub call
  -- A submission below the pointer leaves it, one above takes it over with its root.
  rcases clean with below | ⟨above, root⟩
  · obtain ⟨latest, latestRoot⟩ := record_latest_below msg sub.journal before (UInt64.not_lt.mpr (UInt64.le_of_lt below))
    have different : before.latestBlockNumber ≠ l2BlockNumberOf sub.journal := (UInt64.ne_of_lt below).symm
    rcases held with fresh | coherent
    · rw [fresh.number] at below
      exact absurd below (by simp)
    · have same := record_elsewhere msg sub.journal before before.latestBlockNumber different
      refine ⟨?_, ?_, ?_⟩
      · rw [grown, latest]
        refine ⟨.inr coherent.greatest.1, ?_⟩
        intro number either
        rcases either with rfl | old
        · exact UInt64.le_of_lt below
        · exact coherent.greatest.2 old
      · rw [proven_iff, latest, same]
        exact (proven_iff _ _).mp coherent.proven
      · rw [latest, latestRoot, same]
        exact coherent.root
  · obtain ⟨latest, latestRoot⟩ := record_latest_above msg sub.journal before above
    refine ⟨?_, ?_, ?_⟩
    · rw [grown, latest]
      refine ⟨.inl rfl, ?_⟩
      intro number either
      rcases either with rfl | old
      · exact UInt64.le_refl _
      · rcases held with fresh | coherent
        · rw [fresh.none] at old
          cases old
        · exact UInt64.le_of_lt (UInt64.lt_of_le_of_lt (coherent.greatest.2 old) above)
    · rw [latest]
      exact (record_proven_here msg sub.journal before).mpr root
    · rw [latest, latestRoot, record_here]
      rfl

theorem run_pointer_clean (v : Verifiers) (deployer : Msg) (sp1 risc0 : Address) (vkey imageId : Bytes32)
    (txs : List Tx)
    (clean : ∀ step ∈ history v (deploy deployer sp1 risc0 vkey imageId) txs, ∀ sub,
      submission step.tx.call = some sub → AdvancesCleanly step.before sub.journal) :
    PointerFresh (history v (deploy deployer sp1 risc0 vkey imageId) txs)
        (run v (deploy deployer sp1 risc0 vkey imageId) txs) ∨
      PointerCoherent (history v (deploy deployer sp1 risc0 vkey imageId) txs)
        (run v (deploy deployer sp1 risc0 vkey imageId) txs) := by
  have general := (machine v).history_invariant
    (fun past s => (∀ step ∈ past, ∀ sub, submission step.tx.call = some sub → AdvancesCleanly step.before sub.journal) →
      PointerFresh past s ∨ PointerCoherent past s)
    (fun _ => True) (deploy deployer sp1 risc0 vkey imageId) txs
    (fun _ => .inl ⟨by simp [acceptedNumbers], rfl, rfl⟩) (fun _ _ => trivial) ?_
  · exact general clean
  · intro past before tx after event _ held committed cleanSteps
    have previous := held (fun step member => cleanSteps step (by simp [member]))
    cases execute_records v before after tx event committed with
    | submitted sub call length accepted free stored =>
        have step := cleanSteps ⟨before, tx, after, event⟩ (by simp) sub call
        subst stored
        exact .inr (record_coherent past _ sub tx.msg before call step previous)
    | kept call proposals latest latestRoot =>
        obtain ⟨coherent, fresh⟩ := coherent_congr past ⟨before, tx, after, event⟩ before after call
          latest.symm latestRoot.symm proposals.symm
        exact previous.imp fresh coherent

theorem run_pointer_fresh (v : Verifiers) (deployer : Msg) (sp1 risc0 : Address) (vkey imageId : Bytes32)
    (txs : List Tx) (nothing : acceptedNumbers (history v (deploy deployer sp1 risc0 vkey imageId) txs) = ∅) :
    PointerFresh (history v (deploy deployer sp1 risc0 vkey imageId) txs)
      (run v (deploy deployer sp1 risc0 vkey imageId) txs) := by
  have absent : ∀ step ∈ history v (deploy deployer sp1 risc0 vkey imageId) txs, ∀ sub,
      submission step.tx.call ≠ some sub := by
    intro step member sub call
    have present : l2BlockNumberOf sub.journal ∈ acceptedNumbers (history v (deploy deployer sp1 risc0 vkey imageId) txs) :=
      ⟨step, member, sub, call, rfl⟩
    rw [nothing] at present
    cases present
  rcases run_pointer_clean v deployer sp1 risc0 vkey imageId txs
    (fun step member sub call => absurd call (absent step member sub)) with fresh | coherent
  · exact fresh
  · have present := coherent.greatest.1
    rw [nothing] at present
    cases present

theorem coherent_step_clean (past : List Step) (step : Step) (sub : Submission)
    (free : isBlockProven step.before (l2BlockNumberOf sub.journal) = false)
    (stored : step.after = record step.tx.msg sub.journal step.before)
    (before : PointerFresh past step.before ∨ PointerCoherent past step.before)
    (after : PointerCoherent (past ++ [step]) step.after) : AdvancesCleanly step.before sub.journal := by
  rw [stored] at after
  by_cases above : step.before.latestBlockNumber < l2BlockNumberOf sub.journal
  · obtain ⟨latest, _⟩ := record_latest_above step.tx.msg sub.journal step.before above
    have proven := after.proven
    rw [latest] at proven
    exact .inr ⟨above, (record_proven_here step.tx.msg sub.journal step.before).mp proven⟩
  · obtain ⟨latest, latestRoot⟩ := record_latest_below step.tx.msg sub.journal step.before above
    rcases UInt64.lt_or_eq_of_le (UInt64.not_lt.mp above) with below | same
    · exact .inl below
    · rcases before with fresh | coherent
      · have root := after.root
        have proven := after.proven
        rw [latest, ← same, record_here, latestRoot, fresh.root] at root
        rw [latest, ← same, record_proven_here] at proven
        exact absurd root.symm proven
      · rw [same, coherent.proven] at free
        cases free

/-- An accepted first submission for block 0, and one with a zero root that raises the pointer, are
what breaks the pair. -/
theorem pointer_coherent_iff (v : Verifiers) (deployer : Msg) (sp1 risc0 : Address) (vkey imageId : Bytes32)
    (txs : List Tx) :
    (∀ front back, txs = front ++ back →
      (acceptedNumbers (history v (deploy deployer sp1 risc0 vkey imageId) front)).Nonempty →
      PointerCoherent (history v (deploy deployer sp1 risc0 vkey imageId) front)
        (run v (deploy deployer sp1 risc0 vkey imageId) front)) ↔
    ∀ step ∈ history v (deploy deployer sp1 risc0 vkey imageId) txs, ∀ sub,
      submission step.tx.call = some sub → AdvancesCleanly step.before sub.journal := by
  constructor
  · intro coherent step member sub call
    obtain ⟨past, future, split⟩ := List.append_of_mem member
    obtain ⟨front, back, shape, beforeEq, pastEq, _, _⟩ := (machine v).history_split _ txs past future step split
    have committed := (machine v).history_exec _ txs step member
    obtain ⟨_, _, free, stored, _⟩ := execute_submitted v step.before step.after step.tx step.output sub call committed
    -- The prefix that ends with this very commit.
    have reached : history v (deploy deployer sp1 risc0 vkey imageId) (front ++ [step.tx]) = past ++ [step] ∧
        run v (deploy deployer sp1 risc0 vkey imageId) (front ++ [step.tx]) = step.after := by
      rw [beforeEq] at committed
      refine ⟨?_, ?_⟩
      · rw [history, TxMachine.history_append, TxMachine.history_commit _ _ _ _ _ _ committed, ← beforeEq, pastEq]
        rfl
      · rw [run, TxMachine.run_append, TxMachine.run_commit _ _ _ _ _ _ committed]
        rfl
    have after := coherent (front ++ [step.tx]) back (by rw [shape, List.append_assoc]; rfl)
      (by rw [reached.1, accepted_numbers_append past step sub call]; exact ⟨_, .inl rfl⟩)
    rw [reached.1, reached.2] at after
    apply coherent_step_clean past step sub free stored ?_ after
    rw [beforeEq, pastEq]
    -- Before it the pointer is fresh, or coherent by the assumption.
    rcases Set.eq_empty_or_nonempty
      (acceptedNumbers (history v (deploy deployer sp1 risc0 vkey imageId) front)) with nothing | something
    · exact .inl (run_pointer_fresh v deployer sp1 risc0 vkey imageId front nothing)
    · exact .inr (coherent front (step.tx :: back) shape something)
  · intro clean front back shape something
    have cleanFront : ∀ step ∈ history v (deploy deployer sp1 risc0 vkey imageId) front, ∀ sub,
        submission step.tx.call = some sub → AdvancesCleanly step.before sub.journal := by
      intro step member
      apply clean step
      rw [shape, history, TxMachine.history_append]
      exact List.mem_append_left _ member
    rcases run_pointer_clean v deployer sp1 risc0 vkey imageId front cleanFront with fresh | coherent
    · rw [fresh.none] at something
      exact absurd something Set.not_nonempty_empty
    · exact coherent

theorem block_zero_leaves_root :
    (acceptedNumbers (history mockVerifiers mockDeployed [sampleTx 0xbb 0xcc 0])).Nonempty ∧
      ¬ PointerCoherent (history mockVerifiers mockDeployed [sampleTx 0xbb 0xcc 0])
        (run mockVerifiers mockDeployed [sampleTx 0xbb 0xcc 0]) := by
  have committed := sample_commits mockDeployed 0xbb 0xcc 0 (mock_deployed_unproven 0)
  refine ⟨?_, ?_⟩
  · rw [history_execute _ _ _ _ _ _ committed]
    exact ⟨_, _, List.mem_cons_self, _, rfl, rfl⟩
  · intro coherent
    obtain ⟨latest, latestRoot⟩ := record_latest_below ⟨0x9, 100⟩ (sampleJournal 0xbb 0xcc 0) mockDeployed
      (by rw [sample_number]; exact UInt64.lt_irrefl 0)
    have root := coherent.root
    rw [sample_run mockDeployed 0xbb 0xcc 0 (mock_deployed_unproven 0), latest, latestRoot,
      show mockDeployed.latestBlockNumber = 0 from rfl, sample_recorded] at root
    exact word_of_nat_ne_zero 0xcc (by decide) (by decide) root.symm

end OpenZk.Oracle
