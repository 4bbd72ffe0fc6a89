import OpenZk.DisputeLifecycle
import OpenZk.EventLog

set_option autoImplicit false

namespace OpenZk.System

open Words

def Stores (step : Step) (number : UInt64) (proposal : Oracle.OutputProposal) : Prop :=
  ∃ msg sub, step.tx = .oracle ⟨msg, Oracle.submit sub⟩ ∧ l2BlockNumberOf sub.journal = number ∧
    l2PostRootOf sub.journal ≠ zeroWord ∧ proposal = Oracle.outputProposal msg sub.journal

def Challenges (step : Step) (number : UInt64) (dispute : DisputeGame.Dispute) : Prop :=
  ∃ msg, step.tx = .game ⟨msg, .challenge number⟩ ∧ dispute.challenger = msg.sender ∧
    dispute.createdAt = msg.timestamp.setWidth 128

def Submitted (past : List Step) (s : State) (number : UInt64) : Prop :=
  ∃ front submitted back, past = front ++ submitted :: back ∧ Stores submitted number (s.oracle.proposals number)

def Grounded (past : List Step) (s : State) (number : UInt64) : Prop :=
  ∃ front submitted between challenged back,
    past = front ++ submitted :: (between ++ challenged :: back) ∧
      Stores submitted number (s.oracle.proposals number) ∧ Challenges challenged number (s.game.disputes number)

theorem stores_proven (step : Step) (s : State) (number : UInt64) (stores : Stores step number (s.oracle.proposals number)) :
    Oracle.isBlockProven s.oracle number = true := by
  obtain ⟨msg, sub, _, _, root, stored⟩ := stores
  rw [Oracle.proven_iff, stored]
  exact root

theorem oracle_step_submitted (v : Verifiers) (past : List Step) (before after : State) (tx : Oracle.Tx) (event : Event)
    (number : UInt64) (held : Oracle.isBlockProven before.oracle number = true → Submitted past before number)
    (committed : execute v before (.oracle tx) = .ok (after, event))
    (proven : Oracle.isBlockProven after.oracle number = true) :
    Submitted (past ++ [⟨before, .oracle tx, after, event⟩]) after number := by
  by_cases earlier : Oracle.isBlockProven before.oracle number = true
  · obtain ⟨front, submitted, back, shape, stores⟩ := held earlier
    refine ⟨front, submitted, back ++ [⟨before, .oracle tx, after, event⟩], by rw [shape]; simp, ?_⟩
    rw [execute_keeps_proven v before after _ event number committed earlier]
    exact stores
  · refine ⟨past, _, [], rfl, ?_⟩
    obtain ⟨emitted, outcome, _, _⟩ := execute_oracle v before after tx event committed
    rw [Oracle.proven_iff] at earlier proven
    cases Oracle.execute_records v before.oracle after.oracle tx emitted outcome with
    | submitted sub call length accepted free stored =>
        have here : number = l2BlockNumberOf sub.journal := by
          by_contra different
          rw [stored, Oracle.record_elsewhere _ _ _ _ different] at proven
          exact earlier proven
        subst here
        rw [stored, Oracle.record_here] at proven ⊢
        obtain ⟨msg, callData⟩ := tx
        have shape := Oracle.submission_eq callData sub call
        exact ⟨msg, sub, by rw [shape], rfl, proven, rfl⟩
    | kept call proposals latest latestRoot =>
        rw [proposals] at proven
        exact absurd proven earlier

theorem execute_submitted (v : Verifiers) (past : List Step) (before after : State) (tx : Tx) (event : Event)
    (held : ∀ number, Oracle.isBlockProven before.oracle number = true → Submitted past before number)
    (committed : execute v before tx = .ok (after, event)) (number : UInt64)
    (proven : Oracle.isBlockProven after.oracle number = true) :
    Submitted (past ++ [⟨before, tx, after, event⟩]) after number := by
  cases tx with
  | oracle tx => exact oracle_step_submitted v past before after tx event number (held number) committed proven
  | game tx =>
      obtain ⟨_, _, same, _⟩ := execute_game v before after tx event committed
      rw [same] at proven
      obtain ⟨front, submitted, back, shape, stores⟩ := held number proven
      refine ⟨front, submitted, back ++ [⟨before, .game tx, after, event⟩], by rw [shape]; simp, ?_⟩
      rw [same]
      exact stores

theorem grounded_extends (past : List Step) (step : Step) (before after : State) (number : UInt64)
    (proposals : Oracle.isBlockProven before.oracle number = true →
      after.oracle.proposals number = before.oracle.proposals number)
    (evidence : SameEvidence (after.game.disputes number) (before.game.disputes number))
    (grounded : Grounded past before number) : Grounded (past ++ [step]) after number := by
  obtain ⟨front, submitted, between, challenged, back, shape, stores, msg, call, challenger, created⟩ := grounded
  refine ⟨front, submitted, between, challenged, back ++ [step], by rw [shape]; simp, ?_, msg, call, ?_, ?_⟩
  · rw [proposals (stores_proven submitted before number stores)]
    exact stores
  · rw [evidence.1, challenger]
  · rw [evidence.2.2.2, created]

theorem execute_grounded (v : Verifiers) (past : List Step) (before after : State) (tx : Tx) (event : Event)
    (submitted : ∀ number, Oracle.isBlockProven before.oracle number = true → Submitted past before number)
    (held : ∀ number, (before.game.disputes number).createdAt ≠ 0 → Grounded past before number)
    (committed : execute v before tx = .ok (after, event)) (number : UInt64)
    (found : (after.game.disputes number).createdAt ≠ 0) :
    Grounded (past ++ [⟨before, tx, after, event⟩]) after number := by
  have proposals := execute_keeps_proven v before after tx event number committed
  cases execute_dispute v before after tx event number committed with
  | kept same =>
      rw [same] at found
      exact grounded_extends past _ before after number proposals (by rw [same]; exact ⟨rfl, rfl, rfl, rfl⟩)
        (held number found)
  | challenged msg call proven absent stored =>
      obtain ⟨front, first, back, shape, stores⟩ := submitted number proven
      refine ⟨front, first, back, ⟨before, tx, after, event⟩, [], by rw [shape]; simp, ?_, msg, call, ?_, ?_⟩
      · rw [proposals proven]
        exact stores
      · rw [stored]
        rfl
      · rw [stored]
        rfl
  | resolved msg publicValues proofBytes choice backend call present pending length accepted stored =>
      exact grounded_extends past _ before after number proposals (by rw [stored]; exact ⟨rfl, rfl, rfl, rfl⟩)
        (held number present)

theorem run_grounded (v : Verifiers) (d : Deployment) (txs : List Tx) (number : UInt64)
    (found : ((run v (deploy d) txs).game.disputes number).createdAt ≠ 0) :
    Grounded (history v (deploy d) txs) (run v (deploy d) txs) number := by
  have general := (machine v).history_invariant
    (fun past s => (∀ number, Oracle.isBlockProven s.oracle number = true → Submitted past s number) ∧
      ∀ number, (s.game.disputes number).createdAt ≠ 0 → Grounded past s number)
    (fun _ => True) (deploy d) txs ?_ (fun _ _ => trivial) ?_
  · exact general.2 number found
  · refine ⟨fun number proven => ?_, fun number present => absurd rfl present⟩
    rw [deploy_unproven] at proven
    cases proven
  · intro past before tx after event _ held committed
    exact ⟨execute_submitted v past before after tx event held.1 committed,
      execute_grounded v past before after tx event held.1 held.2 committed⟩

def InOrder (a b : Tx) : Prop := a.msg.timestamp.toNat ≤ b.msg.timestamp.toNat

theorem timed_width (tx : Tx) (timed : Timed tx) :
    (tx.msg.timestamp.setWidth 128 : BitVec 128).toNat = tx.msg.timestamp.toNat := by
  rw [BitVec.toNat_setWidth, Nat.mod_eq_of_lt timed.2]

theorem dispute_provenance (v : Verifiers) (d : Deployment) (txs : List Tx) (number : UInt64)
    (present : phase (run v (deploy d) txs) number ≠ .absent) :
    Grounded (history v (deploy d) txs) (run v (deploy d) txs) number ∧
      ((run v (deploy d) txs).game.disputes number).disputedOutputRoot =
        ((run v (deploy d) txs).oracle.proposals number).outputRoot ∧
      ((∀ tx ∈ txs, Timed tx) → txs.Pairwise InOrder →
        ((run v (deploy d) txs).oracle.proposals number).timestamp.toNat ≤
          ((run v (deploy d) txs).game.disputes number).createdAt.toNat) := by
  have found := phase_found _ present
  have grounded := run_grounded v d txs number found
  refine ⟨grounded, (run_mirrors v d txs number found).stored, ?_⟩
  intro timed sorted
  obtain ⟨front, submitted, between, challenged, back, shape, ⟨msg, sub, call, _, _, stored⟩, other, challenge, _, created⟩ :=
    grounded
  have ordered := (machine v).history_ordered InOrder (deploy d) txs front between back submitted challenged sorted shape
  have firstTimed := timed _ ((machine v).history_tx (deploy d) txs submitted (by rw [← history, shape]; simp))
  have secondTimed := timed _ ((machine v).history_tx (deploy d) txs challenged (by rw [← history, shape]; simp))
  rw [call] at firstTimed ordered
  rw [challenge] at secondTimed ordered
  have submittedAt := timed_width _ firstTimed
  have challengedAt := timed_width _ secondTimed
  rw [stored, created]
  calc (Oracle.outputProposal msg sub.journal).timestamp.toNat = msg.timestamp.toNat := submittedAt
    _ ≤ other.timestamp.toNat := ordered
    _ = (other.timestamp.setWidth 128 : BitVec 128).toNat := challengedAt.symm

theorem sample_disputed :
    phase (run Oracle.mockVerifiers (deploy sampleDeployment) (sampleTxs 0xcc 42 (Oracle.sampleJournal 0xbb 0xff 42))) 42 ≠
      .absent := by
  rw [phase, sample_dispute Oracle.mockVerifiers 0xcc 42 (Oracle.sampleJournal 0xbb 0xff 42)
    (word_of_nat_ne_zero 0xcc (by decide) (by decide)) (Oracle.sample_length _ _ _) (fun _ => rfl) (fun _ => rfl)]
  rw [phase_resolved _ (by exact (by decide : (200 : BitVec 128) ≠ 0)) rfl]
  exact Phase.noConfusion

theorem dispute_provenance_sample :
    Grounded (history Oracle.mockVerifiers (deploy sampleDeployment) (sampleTxs 0xcc 42 (Oracle.sampleJournal 0xbb 0xff 42)))
      (run Oracle.mockVerifiers (deploy sampleDeployment) (sampleTxs 0xcc 42 (Oracle.sampleJournal 0xbb 0xff 42))) 42 :=
  (dispute_provenance Oracle.mockVerifiers sampleDeployment _ 42 sample_disputed).1

end OpenZk.System
