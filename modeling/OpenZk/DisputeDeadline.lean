import OpenZk.DisputeSystem

set_option autoImplicit false

namespace OpenZk.DisputeGame

open Words

def withTimeout (timeout : BitVec 256) (s : State) : State := { s with challengeTimeout := timeout }

theorem execute_with_timeout (v : Verifiers) (oracle : Oracle.State) (timeout : BitVec 256) (s : State) (tx : Tx) :
    execute v oracle (withTimeout timeout s) tx =
      (execute v oracle s tx).map fun result => (withTimeout timeout result.1, result.2) := by
  obtain ⟨msg, call⟩ := tx
  cases call with
  | challenge blockNumber =>
      simp only [execute, challenge, TxMachine.guard_map]
      rfl
  | resolve blockNumber publicValues proofBytes backend =>
      simp only [execute, resolve, TxMachine.guard_map]
      cases backendOf backend with
      | none => rfl
      | some chosen =>
          have same : accepts v (withTimeout timeout s) chosen publicValues proofBytes =
              accepts v s chosen publicValues proofBytes := by
            cases chosen with
            | sp1 => rfl
            | riscZero => rfl
          by_cases accepted : accepts v s chosen publicValues proofBytes = true
          · simp only [same, if_pos accepted]
            rfl
          · simp only [same, if_neg accepted]
            rfl
  | setSp1ProgramVKey vkey =>
      simp only [execute, setSp1ProgramVKey, TxMachine.guard_map]
      rfl
  | setRisc0ImageId imageId =>
      simp only [execute, setRisc0ImageId, TxMachine.guard_map]
      rfl

structure Resolvable (v : Verifiers) (s : State) (blockNumber : UInt64) (publicValues proofBytes : Bytes)
    (number : UInt8) : Prop where
  found : (s.disputes blockNumber).createdAt ≠ 0
  pending : (s.disputes blockNumber).resolved = false
  length : publicValues.length = 192
  accepted : ∃ backend, backendOf number = some backend ∧ accepts v s backend publicValues proofBytes = true

end OpenZk.DisputeGame

namespace OpenZk.System

open Words

def withTimeout (timeout : BitVec 256) (s : State) : State := { s with game := DisputeGame.withTimeout timeout s.game }

theorem execute_with_timeout (v : Verifiers) (timeout : BitVec 256) (s : State) (tx : Tx) :
    execute v (withTimeout timeout s) tx =
      (execute v s tx).map fun result => (withTimeout timeout result.1, result.2) := by
  cases tx with
  | oracle tx =>
      simp only [execute, withTimeout]
      cases Oracle.execute v s.oracle tx with
      | error reason => rfl
      | ok result => rfl
  | game tx =>
      simp only [execute, withTimeout, DisputeGame.execute_with_timeout]
      cases DisputeGame.execute v s.oracle s.game tx with
      | error reason => rfl
      | ok result => rfl

theorem run_with_timeout (v : Verifiers) (d : Deployment) (timeout : BitVec 256) (txs : List Tx) :
    run v (deploy { d with challengeTimeout := timeout }) txs = withTimeout timeout (run v (deploy d) txs) :=
  (machine v).run_map (withTimeout timeout) (execute_with_timeout v timeout) (deploy d) txs

def BecomesResolved (step : Step) (number : UInt64) : Prop :=
  (step.before.game.disputes number).resolved = false ∧ (step.after.game.disputes number).resolved = true

def InTime (d : Deployment) (timestamp : BitVec 256) (dispute : DisputeGame.Dispute) : Prop :=
  timestamp.toNat ≤ dispute.createdAt.toNat + d.challengeTimeout.toNat

def DeadlineEnforced (v : Verifiers) (d : Deployment) (txs : List Tx) : Prop :=
  ∀ step ∈ history v (deploy d) txs, ∀ number, BecomesResolved step number →
    InTime d step.tx.msg.timestamp (step.before.game.disputes number)

def NoLateProof (v : Verifiers) (d : Deployment) (txs : List Tx) : Prop :=
  ∀ front back msg number publicValues proofBytes choice,
    txs = front ++ .game ⟨msg, .resolve number publicValues proofBytes choice⟩ :: back →
    DisputeGame.Resolvable v (run v (deploy d) front).game number publicValues proofBytes choice →
    InTime d msg.timestamp ((run v (deploy d) front).game.disputes number)

theorem resolvable_commits (v : Verifiers) (s : State) (msg : Msg) (number : UInt64) (publicValues proofBytes : Bytes)
    (choice : UInt8) (resolvable : DisputeGame.Resolvable v s.game number publicValues proofBytes choice) :
    ∃ event, execute v s (.game ⟨msg, .resolve number publicValues proofBytes choice⟩) =
      .ok (resolvedAfter s number publicValues, event) := by
  obtain ⟨backend, named, accepted⟩ := resolvable.accepted
  have settled := DisputeGame.resolve_commits v s.oracle msg number publicValues proofBytes choice backend s.game
    resolvable.found resolvable.pending resolvable.length named accepted
  exact ⟨_, game_commits v s _ _ _ settled⟩

theorem becomes_resolved (v : Verifiers) (before after : State) (tx : Tx) (event : Event) (number : UInt64)
    (committed : execute v before tx = .ok (after, event)) (becomes : BecomesResolved ⟨before, tx, after, event⟩ number) :
    ∃ msg publicValues proofBytes choice, tx = .game ⟨msg, .resolve number publicValues proofBytes choice⟩ ∧
      DisputeGame.Resolvable v before.game number publicValues proofBytes choice := by
  obtain ⟨pending, settled⟩ := becomes
  cases execute_dispute v before after tx event number committed with
  | kept same =>
      rw [same, pending] at settled
      cases settled
  | challenged msg call proven absent stored =>
      rw [stored] at settled
      cases settled
  | resolved msg publicValues proofBytes choice _ call _ _ _ _ _ =>
      subst call
      obtain ⟨emitted, outcome, _, _⟩ := execute_game v before after _ event committed
      obtain ⟨found, pending, length, backend, named, accepted, _⟩ :=
        DisputeGame.resolve_cases v number publicValues proofBytes choice before.game after.game emitted outcome
      exact ⟨msg, publicValues, proofBytes, choice, rfl, found, pending, length, backend, named, accepted⟩

theorem late_proof_resolves (v : Verifiers) (d : Deployment) (txs : List Tx) (enforced : DeadlineEnforced v d txs) :
    NoLateProof v d txs := by
  intro front back msg number publicValues proofBytes choice shape resolvable
  obtain ⟨event, committed⟩ := resolvable_commits v _ msg number publicValues proofBytes choice resolvable
  have member := history_reached v (deploy d) _ front back _ event committed
  have settled : ((resolvedAfter (run v (deploy d) front) number publicValues).game.disputes number).resolved = true := by
    rw [resolvedAfter, DisputeGame.store_dispute_here]
    rfl
  rw [DeadlineEnforced, shape] at enforced
  exact enforced _ member number ⟨resolvable.pending, settled⟩

theorem early_proofs_enforce (v : Verifiers) (d : Deployment) (txs : List Tx) (early : NoLateProof v d txs) :
    DeadlineEnforced v d txs := by
  intro step member number becomes
  obtain ⟨front, back, shape, before, committed, _⟩ := (machine v).history_located (deploy d) txs step member
  obtain ⟨msg, publicValues, proofBytes, choice, call, resolvable⟩ :=
    becomes_resolved v step.before step.after step.tx step.output number committed becomes
  rw [before] at resolvable
  have arrived := early front back msg number publicValues proofBytes choice (by rw [shape, call]) resolvable
  rw [call, before]
  exact arrived

/-- A dispute is resolved in time in all of a run exactly when no acceptable proof arrives late, and
every timeout gives the same run. -/
theorem deadline_enforced_iff (v : Verifiers) (d : Deployment) (txs : List Tx) :
    (DeadlineEnforced v d txs ↔ NoLateProof v d txs) ∧
      ∀ timeout, run v (deploy { d with challengeTimeout := timeout }) txs = withTimeout timeout (run v (deploy d) txs) :=
  ⟨⟨late_proof_resolves v d txs, early_proofs_enforce v d txs⟩, fun timeout => run_with_timeout v d timeout txs⟩

def lateTxs (postRoot : Nat) (number : UInt64) (answer : Bytes) : List Tx :=
  openingTxs postRoot number ++ [.game ⟨⟨0xb, 10000⟩, .resolve number answer [0xde, 0xad] 0⟩]

theorem late_resolve_accepted :
    (lateTxs 0xcc 42 (Oracle.sampleJournal 0xbb 0xcc 42)).Pairwise
        (fun a b => a.msg.timestamp.toNat ≤ b.msg.timestamp.toNat) ∧
      ¬ DeadlineEnforced Oracle.mockVerifiers sampleDeployment (lateTxs 0xcc 42 (Oracle.sampleJournal 0xbb 0xcc 42)) := by
  refine ⟨by simp [lateTxs, openingTxs, Tx.msg, Oracle.sampleTx], ?_⟩
  intro enforced
  have absent : ((deploy sampleDeployment).game.disputes 42).createdAt = 0 := rfl
  have timeout : sampleDeployment.challengeTimeout = 3600 := rfl
  have opened := opening_run Oracle.mockVerifiers (deploy sampleDeployment) 0xcc 42
    (word_of_nat_ne_zero 0xcc (by decide) (by decide)) (deploy_unproven _ _) absent (fun _ => rfl)
  have disputed : (openedAfter (deploy sampleDeployment) 0xcc 42).game.disputes 42 =
      ⟨0xa, 42, wordOfNat 0xcc, 200, false, false⟩ := DisputeGame.store_dispute_here _ _ _
  have length := Oracle.sample_length 0xbb 0xcc 42
  have early := late_proof_resolves _ _ _ enforced (openingTxs 0xcc 42) [] ⟨0xb, 10000⟩ 42
    (Oracle.sampleJournal 0xbb 0xcc 42) [0xde, 0xad] 0 rfl
  rw [opened] at early
  generalize openedAfter (deploy sampleDeployment) 0xcc 42 = state at early disputed
  generalize Oracle.sampleJournal 0xbb 0xcc 42 = answer at early length
  have resolvable : DisputeGame.Resolvable Oracle.mockVerifiers state.game 42 answer [0xde, 0xad] 0 :=
    ⟨by rw [disputed]; exact (by decide : (200 : BitVec 128) ≠ 0), by rw [disputed], length, .sp1, rfl, rfl⟩
  have arrived := early resolvable
  rw [InTime, disputed, timeout] at arrived
  exact absurd arrived (by decide)

end OpenZk.System
