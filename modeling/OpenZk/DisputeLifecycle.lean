import OpenZk.DisputeSystem

set_option autoImplicit false

namespace OpenZk.System

open Words WriteOnce

inductive Phase where
  | absent
  | opened
  | resolved
deriving DecidableEq

def phaseOf (dispute : DisputeGame.Dispute) : Phase :=
  if dispute.createdAt = 0 then .absent else if dispute.resolved then .resolved else .opened

def phase (s : State) (number : UInt64) : Phase := phaseOf (s.game.disputes number)

def Phase.rank : Phase → Nat
  | .absent => 0
  | .opened => 1
  | .resolved => 2

inductive Move : Phase → Phase → Prop where
  | stay (current : Phase) : Move current current
  | opening : Move .absent .opened
  | resolving : Move .opened .resolved

def Timed (tx : Tx) : Prop := 0 < tx.msg.timestamp.toNat ∧ tx.msg.timestamp.toNat < 2 ^ 128

instance (tx : Tx) : Decidable (Timed tx) := inferInstanceAs (Decidable (_ ∧ _))

def SameEvidence (a b : DisputeGame.Dispute) : Prop :=
  a.challenger = b.challenger ∧ a.blockNumber = b.blockNumber ∧ a.disputedOutputRoot = b.disputedOutputRoot ∧
    a.createdAt = b.createdAt

theorem timed_nonzero (tx : Tx) (timed : Timed tx) : (tx.msg.timestamp.setWidth 128 : BitVec 128) ≠ 0 := by
  intro zero
  have number := congrArg BitVec.toNat zero
  rw [BitVec.toNat_setWidth, Nat.mod_eq_of_lt timed.2] at number
  exact absurd number (Nat.ne_of_gt timed.1)

theorem phase_absent (dispute : DisputeGame.Dispute) (absent : dispute.createdAt = 0) : phaseOf dispute = .absent :=
  if_pos absent

theorem phase_opened (dispute : DisputeGame.Dispute) (found : dispute.createdAt ≠ 0) (pending : dispute.resolved = false) :
    phaseOf dispute = .opened := by
  rw [phaseOf, if_neg found, pending]
  rfl

theorem phase_resolved (dispute : DisputeGame.Dispute) (found : dispute.createdAt ≠ 0) (settled : dispute.resolved = true) :
    phaseOf dispute = .resolved := by
  rw [phaseOf, if_neg found, settled]
  rfl

theorem phase_found (dispute : DisputeGame.Dispute) (present : phaseOf dispute ≠ .absent) : dispute.createdAt ≠ 0 :=
  fun absent => present (phase_absent dispute absent)

theorem phase_settled (dispute : DisputeGame.Dispute) (resolved : phaseOf dispute = .resolved) : dispute.resolved = true := by
  have found := phase_found dispute (by rw [resolved]; decide)
  cases settled : dispute.resolved with
  | false => rw [phase_opened dispute found settled] at resolved; cases resolved
  | true => rfl

theorem is_disputed_iff (s : State) (number : UInt64) :
    DisputeGame.isDisputed s.game number = true ↔ phase s number = .opened := by
  rw [DisputeGame.isDisputed, phase, Bool.and_eq_true, decide_eq_true_eq, Bool.not_eq_true']
  constructor
  · intro given
    obtain ⟨found, pending⟩ := given
    exact phase_opened _ found pending
  · intro opened
    have found := phase_found _ (by rw [opened]; decide)
    cases settled : (s.game.disputes number).resolved with
    | false => exact ⟨found, rfl⟩
    | true => rw [phase_resolved _ found settled] at opened; cases opened

theorem execute_moves (v : Verifiers) (before after : State) (tx : Tx) (event : Event) (number : UInt64) (timed : Timed tx)
    (committed : execute v before tx = .ok (after, event)) : Move (phase before number) (phase after number) := by
  cases execute_dispute v before after tx event number committed with
  | kept same =>
      rw [phase, phase, same]
      exact .stay _
  | challenged msg call proven absent stored =>
      subst call
      rw [phase, phase, stored, phase_absent _ absent, phase_opened _ (timed_nonzero _ timed) rfl]
      exact .opening
  | resolved msg publicValues proofBytes choice backend call found pending length accepted stored =>
      have settled := phase_resolved (DisputeGame.resolvedDispute (before.game.disputes number) publicValues) found rfl
      rw [phase, phase, stored, phase_opened _ found pending, settled]
      exact .resolving

theorem move_rank (before after : Phase) (move : Move before after) : before.rank ≤ after.rank := by
  cases move with
  | stay => exact Nat.le_refl _
  | opening => decide
  | resolving => decide

theorem execute_evidence (v : Verifiers) (before after : State) (tx : Tx) (event : Event) (number : UInt64)
    (committed : execute v before tx = .ok (after, event)) (found : (before.game.disputes number).createdAt ≠ 0) :
    SameEvidence (after.game.disputes number) (before.game.disputes number) := by
  cases execute_dispute v before after tx event number committed with
  | kept same => rw [same]; exact ⟨rfl, rfl, rfl, rfl⟩
  | challenged msg call proven absent stored => exact absurd absent found
  | resolved msg publicValues proofBytes choice backend call found pending length accepted stored =>
      rw [stored]
      exact ⟨rfl, rfl, rfl, rfl⟩

theorem run_evidence (v : Verifiers) (s : State) (txs : List Tx) (number : UInt64)
    (found : (s.game.disputes number).createdAt ≠ 0) :
    SameEvidence ((run v s txs).game.disputes number) (s.game.disputes number) := by
  apply (machine v).run_invariant (fun state => SameEvidence (state.game.disputes number) (s.game.disputes number))
    (fun _ => True) s txs ⟨rfl, rfl, rfl, rfl⟩ (fun _ _ => trivial)
  intro before tx after event _ same committed
  have exists_before : (before.game.disputes number).createdAt ≠ 0 := by
    rw [same.2.2.2]
    exact found
  have step := execute_evidence v before after tx event number committed exists_before
  exact ⟨step.1.trans same.1, step.2.1.trans same.2.1, step.2.2.1.trans same.2.2.1, step.2.2.2.trans same.2.2.2⟩

structure Lifecycle (v : Verifiers) (s : State) (txs : List Tx) : Prop where
  moves : ∀ step ∈ history v s txs, ∀ number, Move (phase step.before number) (phase step.after number)
  opensOnce : ∀ number, (history v s txs).countP
    (fun step => phase step.before number = .absent ∧ phase step.after number = .opened) ≤ 1
  resolvesOnce : ∀ number, (history v s txs).countP
    (fun step => phase step.before number = .opened ∧ phase step.after number = .resolved) ≤ 1
  evidence : ∀ front back, txs = front ++ back → ∀ number, phase (run v s front) number ≠ .absent →
    SameEvidence ((run v s txs).game.disputes number) ((run v s front).game.disputes number)
  frozen : ∀ front back, txs = front ++ back → ∀ number, phase (run v s front) number = .resolved →
    (run v s txs).game.disputes number = (run v s front).game.disputes number
  mirrored : ∀ number, phase (run v s txs) number ≠ .absent →
    Mirrors (run v s txs).oracle number ((run v s txs).game.disputes number)

theorem opening_crosses (before after : Phase) (move : before = .absent ∧ after = .opened) :
    before.rank ≤ 0 ∧ 0 < after.rank := by
  rw [move.1, move.2]
  decide

theorem resolving_crosses (before after : Phase) (move : before = .opened ∧ after = .resolved) :
    before.rank ≤ 1 ∧ 1 < after.rank := by
  rw [move.1, move.2]
  decide

theorem rank_crossed_once (v : Verifiers) (s : State) (txs : List Tx) (timed : ∀ tx ∈ txs, Timed tx) (number : UInt64)
    (level : Nat) :
    (history v s txs).countP
      (fun step => (phase step.before number).rank ≤ level ∧ level < (phase step.after number).rank) ≤ 1 :=
  (machine v).crossings_le_one (fun state => (phase state number).rank) level Timed s txs timed
    (fun before tx after event timed committed =>
      move_rank _ _ (execute_moves v before after tx event number timed committed))

theorem dispute_lifecycle (v : Verifiers) (d : Deployment) (txs : List Tx) (timed : ∀ tx ∈ txs, Timed tx) :
    Lifecycle v (deploy d) txs := by
  refine ⟨?_, ?_, ?_, ?_, ?_, ?_⟩
  · intro step member number
    have committed := (machine v).history_exec (deploy d) txs step member
    exact execute_moves v step.before step.after step.tx step.output number
      (timed step.tx ((machine v).history_tx (deploy d) txs step member)) committed
  -- The phases are ranked and a run never descends, so each rank is crossed once.
  · intro number
    refine Nat.le_trans (List.countP_mono_left ?_) (rank_crossed_once v (deploy d) txs timed number 0)
    intro step _ move
    simpa using opening_crosses _ _ (by simpa using move)
  · intro number
    refine Nat.le_trans (List.countP_mono_left ?_) (rank_crossed_once v (deploy d) txs timed number 1)
    intro step _ move
    simpa using resolving_crosses _ _ (by simpa using move)
  · intro front back shape number present
    rw [shape, run_append]
    exact run_evidence v (run v (deploy d) front) back number (phase_found _ present)
  · intro front back shape number resolved
    rw [shape, run_append]
    exact run_resolved_frozen v (run v (deploy d) front) back number (phase_found _ (by rw [← phase, resolved]; decide))
      (phase_settled _ resolved)
  · intro number present
    exact run_mirrors v d txs number (phase_found _ present)

theorem dispute_lifecycle_sample :
    Lifecycle Oracle.mockVerifiers (deploy sampleDeployment) (sampleTxs 0xcc 42 (Oracle.sampleJournal 0xbb 0xff 42)) := by
  apply dispute_lifecycle
  intro tx member
  rcases List.mem_cons.mp member with rfl | member
  · decide
  · rcases List.mem_cons.mp member with rfl | member
    · decide
    · rw [List.mem_singleton.mp member]
      decide

end OpenZk.System
