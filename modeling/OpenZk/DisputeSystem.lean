import OpenZk.DisputeGame
import OpenZk.OracleRuns

set_option autoImplicit false

namespace OpenZk.System

open Words WriteOnce

structure State where
  oracle : Oracle.State
  game : DisputeGame.State

inductive Tx where
  | oracle (tx : Oracle.Tx)
  | game (tx : DisputeGame.Tx)
deriving DecidableEq

inductive Event where
  | oracle (event : Oracle.Event)
  | game (event : DisputeGame.Event)
deriving DecidableEq

inductive Revert where
  | oracle (reason : Oracle.Revert)
  | game (reason : DisputeGame.Revert)
deriving DecidableEq

def Tx.msg : Tx → Msg
  | .oracle tx => tx.msg
  | .game tx => tx.msg

def execute (v : Verifiers) (s : State) : Tx → Except Revert (State × Event)
  | .oracle tx =>
      match Oracle.execute v s.oracle tx with
      | .ok (next, event) => .ok ({ s with oracle := next }, .oracle event)
      | .error reason => .error (.oracle reason)
  | .game tx =>
      match DisputeGame.execute v s.oracle s.game tx with
      | .ok (next, event) => .ok ({ s with game := next }, .game event)
      | .error reason => .error (.game reason)

def machine (v : Verifiers) : TxMachine State Tx Revert Event := ⟨execute v⟩

abbrev Step := Commit State Tx Event

def run (v : Verifiers) (s : State) (txs : List Tx) : State := (machine v).run s txs

def history (v : Verifiers) (s : State) (txs : List Tx) : List Step := (machine v).history s txs

structure Deployment where
  oracleDeployer : Msg
  oracleSp1Verifier : Address
  oracleRisc0Verifier : Address
  oracleSp1ProgramVKey : Bytes32
  oracleRisc0ImageId : Bytes32
  gameDeployer : Msg
  gameSp1Verifier : Address
  gameRisc0Verifier : Address
  gameSp1ProgramVKey : Bytes32
  gameRisc0ImageId : Bytes32
  challengeTimeout : BitVec 256

def deploy (d : Deployment) : State where
  oracle := Oracle.deploy d.oracleDeployer d.oracleSp1Verifier d.oracleRisc0Verifier d.oracleSp1ProgramVKey
    d.oracleRisc0ImageId
  game := DisputeGame.deploy d.gameDeployer d.gameSp1Verifier d.gameRisc0Verifier d.gameSp1ProgramVKey
    d.gameRisc0ImageId d.challengeTimeout

theorem run_empty (v : Verifiers) (s : State) : run v s [] = s := rfl

theorem run_append (v : Verifiers) (s : State) (front back : List Tx) :
    run v s (front ++ back) = run v (run v s front) back :=
  (machine v).run_append s front back

theorem run_execute (v : Verifiers) (s after : State) (tx : Tx) (event : Event) (rest : List Tx)
    (committed : execute v s tx = .ok (after, event)) : run v s (tx :: rest) = run v after rest :=
  (machine v).run_commit s after tx event rest committed

theorem history_execute (v : Verifiers) (s after : State) (tx : Tx) (event : Event) (rest : List Tx)
    (committed : execute v s tx = .ok (after, event)) :
    history v s (tx :: rest) = ⟨s, tx, after, event⟩ :: history v after rest :=
  (machine v).history_commit s after tx event rest committed

theorem history_reached (v : Verifiers) (s after : State) (front back : List Tx) (tx : Tx) (event : Event)
    (committed : execute v (run v s front) tx = .ok (after, event)) :
    ⟨run v s front, tx, after, event⟩ ∈ history v s (front ++ tx :: back) :=
  (machine v).history_reached s after front back tx event committed

theorem execute_oracle (v : Verifiers) (before after : State) (tx : Oracle.Tx) (event : Event)
    (committed : execute v before (.oracle tx) = .ok (after, event)) :
    ∃ emitted, Oracle.execute v before.oracle tx = .ok (after.oracle, emitted) ∧ after.game = before.game ∧
      event = .oracle emitted := by
  rw [execute] at committed
  split at committed
  · rename_i next emitted outcome
    simp only [Except.ok.injEq, Prod.mk.injEq] at committed
    obtain ⟨rfl, rfl⟩ := committed
    exact ⟨emitted, outcome, rfl, rfl⟩
  · cases committed

theorem execute_game (v : Verifiers) (before after : State) (tx : DisputeGame.Tx) (event : Event)
    (committed : execute v before (.game tx) = .ok (after, event)) :
    ∃ emitted, DisputeGame.execute v before.oracle before.game tx = .ok (after.game, emitted) ∧
      after.oracle = before.oracle ∧ event = .game emitted := by
  rw [execute] at committed
  split at committed
  · rename_i next emitted outcome
    simp only [Except.ok.injEq, Prod.mk.injEq] at committed
    obtain ⟨rfl, rfl⟩ := committed
    exact ⟨emitted, outcome, rfl, rfl⟩
  · cases committed

theorem oracle_commits (v : Verifiers) (s : State) (tx : Oracle.Tx) (next : Oracle.State) (emitted : Oracle.Event)
    (outcome : Oracle.execute v s.oracle tx = .ok (next, emitted)) :
    execute v s (.oracle tx) = .ok ({ s with oracle := next }, .oracle emitted) := by
  rw [execute, outcome]

theorem game_commits (v : Verifiers) (s : State) (tx : DisputeGame.Tx) (next : DisputeGame.State)
    (emitted : DisputeGame.Event) (outcome : DisputeGame.execute v s.oracle s.game tx = .ok (next, emitted)) :
    execute v s (.game tx) = .ok ({ s with game := next }, .game emitted) := by
  rw [execute, outcome]

inductive DisputeChange (v : Verifiers) (before : State) (tx : Tx) (after : State) (number : UInt64) : Prop where
  | kept (same : after.game.disputes number = before.game.disputes number)
  | challenged (msg : Msg) (call : tx = .game ⟨msg, .challenge number⟩)
      (proven : Oracle.isBlockProven before.oracle number = true)
      (absent : (before.game.disputes number).createdAt = 0)
      (stored : after.game.disputes number = DisputeGame.newDispute before.oracle msg number)
  | resolved (msg : Msg) (publicValues proofBytes : Bytes) (choice : UInt8) (backend : Backend)
      (call : tx = .game ⟨msg, .resolve number publicValues proofBytes choice⟩)
      (found : (before.game.disputes number).createdAt ≠ 0)
      (pending : (before.game.disputes number).resolved = false) (length : publicValues.length = 192)
      (accepted : DisputeGame.accepts v before.game backend publicValues proofBytes = true)
      (stored : after.game.disputes number =
        DisputeGame.resolvedDispute (before.game.disputes number) publicValues)

theorem execute_dispute (v : Verifiers) (before after : State) (tx : Tx) (event : Event) (number : UInt64)
    (committed : execute v before tx = .ok (after, event)) : DisputeChange v before tx after number := by
  cases tx with
  | oracle tx =>
      obtain ⟨_, _, same, _⟩ := execute_oracle v before after tx event committed
      exact .kept (by rw [same])
  | game tx =>
      obtain ⟨msg, call⟩ := tx
      obtain ⟨emitted, outcome, _, _⟩ := execute_game v before after _ event committed
      cases DisputeGame.execute_cases v before.oracle before.game after.game _ emitted outcome with
      | challenged blockNumber callEq proven absent stored emitted =>
          by_cases same : number = blockNumber
          · subst same
            refine .challenged msg (congrArg (fun other => Tx.game ⟨msg, other⟩) callEq) proven absent ?_
            rw [stored, DisputeGame.store_dispute_here]
          · exact .kept (by rw [stored, DisputeGame.store_dispute_elsewhere _ _ _ _ same])
      | resolved blockNumber publicValues proofBytes choice backend callEq found pending length named accepted stored
          emitted =>
          by_cases same : number = blockNumber
          · subst same
            refine .resolved msg publicValues proofBytes choice backend
              (congrArg (fun other => Tx.game ⟨msg, other⟩) callEq) found pending length accepted ?_
            rw [stored, DisputeGame.store_dispute_here]
          · exact .kept (by rw [stored, DisputeGame.store_dispute_elsewhere _ _ _ _ same])
      | sp1Key vkey callEq owner stored emitted => exact .kept (by rw [stored])
      | risc0Key imageId callEq owner stored emitted => exact .kept (by rw [stored])

theorem execute_resolve (v : Verifiers) (before after : State) (msg : Msg) (number : UInt64)
    (publicValues proofBytes : Bytes) (choice : UInt8) (event : Event)
    (committed : execute v before (.game ⟨msg, .resolve number publicValues proofBytes choice⟩) = .ok (after, event)) :
    (before.game.disputes number).createdAt ≠ 0 ∧ publicValues.length = 192 ∧
      (∃ backend, DisputeGame.accepts v before.game backend publicValues proofBytes = true) ∧
      after.game.disputes number = DisputeGame.resolvedDispute (before.game.disputes number) publicValues := by
  obtain ⟨emitted, outcome, _, _⟩ := execute_game v before after _ event committed
  obtain ⟨found, _, length, backend, _, accepted, stored, _⟩ :=
    DisputeGame.resolve_cases v number publicValues proofBytes choice before.game after.game emitted outcome
  refine ⟨found, length, ⟨backend, accepted⟩, ?_⟩
  rw [stored, DisputeGame.store_dispute_here]

theorem execute_keeps_proven (v : Verifiers) (before after : State) (tx : Tx) (event : Event) (number : UInt64)
    (committed : execute v before tx = .ok (after, event))
    (proven : Oracle.isBlockProven before.oracle number = true) :
    after.oracle.proposals number = before.oracle.proposals number := by
  cases tx with
  | oracle tx =>
      obtain ⟨emitted, outcome, _, _⟩ := execute_oracle v before after tx event committed
      have kept := Oracle.execute_extends v before.oracle after.oracle tx emitted outcome number _
        (Oracle.proven_lookup before.oracle number proven)
      exact Oracle.proven_value after.oracle number _ kept
  | game tx =>
      obtain ⟨_, _, same, _⟩ := execute_game v before after tx event committed
      rw [same]

/-- The cross-contract invariant: a dispute is about a root that the oracle holds for the same block. -/
structure Mirrors (oracle : Oracle.State) (number : UInt64) (dispute : DisputeGame.Dispute) : Prop where
  blockNumber : dispute.blockNumber = number
  nonzero : dispute.disputedOutputRoot ≠ zeroWord
  stored : dispute.disputedOutputRoot = (oracle.proposals number).outputRoot

def DisputesMirror (s : State) : Prop :=
  ∀ number, (s.game.disputes number).createdAt ≠ 0 → Mirrors s.oracle number (s.game.disputes number)

theorem mirrors_congr (before after : Oracle.State) (number : UInt64) (dispute : DisputeGame.Dispute)
    (same : after.proposals number = before.proposals number) (mirrors : Mirrors before number dispute) :
    Mirrors after number dispute :=
  ⟨mirrors.blockNumber, mirrors.nonzero, by rw [same]; exact mirrors.stored⟩

theorem execute_mirrors (v : Verifiers) (before after : State) (tx : Tx) (event : Event)
    (held : DisputesMirror before) (committed : execute v before tx = .ok (after, event)) : DisputesMirror after := by
  -- A proven record is never written again, so a mirrored root stays.
  have carried : ∀ number, Mirrors before.oracle number (before.game.disputes number) →
      after.oracle.proposals number = before.oracle.proposals number := by
    intro number mirrors
    apply execute_keeps_proven v before after tx event number committed
    rw [Oracle.proven_iff, ← mirrors.stored]
    exact mirrors.nonzero
  intro number found
  cases execute_dispute v before after tx event number committed with
  | kept same =>
      rw [same] at found ⊢
      exact mirrors_congr _ _ _ _ (carried number (held number found)) (held number found)
  | challenged msg call proven absent stored =>
      rw [stored]
      have nonzero := (Oracle.proven_iff before.oracle number).mp proven
      exact mirrors_congr before.oracle after.oracle number _
        (execute_keeps_proven v before after tx event number committed proven) ⟨rfl, nonzero, rfl⟩
  | resolved msg publicValues proofBytes choice backend call present pending length accepted stored =>
      rw [stored]
      have mirrors := held number present
      exact mirrors_congr before.oracle after.oracle number _ (carried number mirrors)
        ⟨mirrors.blockNumber, mirrors.nonzero, mirrors.stored⟩

theorem run_mirrors (v : Verifiers) (d : Deployment) (txs : List Tx) : DisputesMirror (run v (deploy d) txs) := by
  apply (machine v).run_invariant DisputesMirror (fun _ => True) (deploy d) txs
  · intro number found
    exact absurd rfl found
  · exact fun _ _ => trivial
  · intro before tx after event _ held committed
    exact execute_mirrors v before after tx event held committed

theorem execute_resolved_frozen (v : Verifiers) (before after : State) (tx : Tx) (event : Event) (number : UInt64)
    (committed : execute v before tx = .ok (after, event)) (found : (before.game.disputes number).createdAt ≠ 0)
    (resolved : (before.game.disputes number).resolved = true) :
    after.game.disputes number = before.game.disputes number := by
  cases execute_dispute v before after tx event number committed with
  | kept same => exact same
  | challenged msg call proven absent stored => exact absurd absent found
  | resolved msg publicValues proofBytes choice backend call found pending length accepted stored =>
      rw [resolved] at pending
      cases pending

theorem run_resolved_frozen (v : Verifiers) (s : State) (txs : List Tx) (number : UInt64)
    (found : (s.game.disputes number).createdAt ≠ 0) (resolved : (s.game.disputes number).resolved = true) :
    (run v s txs).game.disputes number = s.game.disputes number := by
  apply (machine v).run_invariant (fun state => state.game.disputes number = s.game.disputes number) (fun _ => True) s txs
    rfl (fun _ _ => trivial)
  intro before tx after event _ same committed
  rw [← same] at found resolved
  rw [execute_resolved_frozen v before after tx event number committed found resolved, same]

def sampleDeployment : Deployment where
  oracleDeployer := ⟨0x7, 1⟩
  oracleSp1Verifier := 0x51
  oracleRisc0Verifier := 0x52
  oracleSp1ProgramVKey := wordOfNat 0x1234
  oracleRisc0ImageId := wordOfNat 0x5678
  gameDeployer := ⟨0x7, 2⟩
  gameSp1Verifier := 0x51
  gameRisc0Verifier := 0x52
  gameSp1ProgramVKey := wordOfNat 0x1234
  gameRisc0ImageId := wordOfNat 0x5678
  challengeTimeout := 3600

def sampleTxs (postRoot : Nat) (number : UInt64) (answer : Bytes) : List Tx :=
  [.oracle (Oracle.sampleTx 0xbb postRoot number), .game ⟨⟨0xa, 200⟩, .challenge number⟩,
    .game ⟨⟨0xb, 300⟩, .resolve number answer [0xde, 0xad] 0⟩]

def openingTxs (postRoot : Nat) (number : UInt64) : List Tx :=
  [.oracle (Oracle.sampleTx 0xbb postRoot number), .game ⟨⟨0xa, 200⟩, .challenge number⟩]

def openedAfter (s : State) (postRoot : Nat) (number : UInt64) : State where
  oracle := Oracle.record ⟨0x9, 100⟩ (Oracle.sampleJournal 0xbb postRoot number) s.oracle
  game := DisputeGame.storeDispute number ⟨0xa, number, wordOfNat postRoot, 200, false, false⟩ s.game

theorem sample_challenge (oracle : Oracle.State) (number : UInt64) (postRoot : Nat)
    (stored : (oracle.proposals number).outputRoot = wordOfNat postRoot) :
    DisputeGame.newDispute oracle ⟨0xa, 200⟩ number = ⟨0xa, number, wordOfNat postRoot, 200, false, false⟩ := by
  rw [DisputeGame.newDispute, stored]
  rfl

theorem deploy_unproven (d : Deployment) (number : UInt64) : Oracle.isBlockProven (deploy d).oracle number = false := by
  rw [Oracle.unproven_iff]
  rfl

theorem opening_run (v : Verifiers) (s : State) (postRoot : Nat) (number : UInt64) (root : wordOfNat postRoot ≠ zeroWord)
    (free : Oracle.isBlockProven s.oracle number = false) (absent : (s.game.disputes number).createdAt = 0)
    (submitted : ∀ s, Oracle.accepts v s ⟨.sp1, Oracle.sampleJournal 0xbb postRoot number, [0xde, 0xad]⟩ = true) :
    run v s (openingTxs postRoot number) = openedAfter s postRoot number := by
  have submittedTx := Oracle.submit_commits v s.oracle ⟨0x9, 100⟩
    ⟨.sp1, Oracle.sampleJournal 0xbb postRoot number, [0xde, 0xad]⟩ (Oracle.sample_length _ _ _) (submitted _)
    (by rw [Oracle.sample_number]; exact free)
  have stored := Oracle.sample_recorded ⟨0x9, 100⟩ 0xbb postRoot number s.oracle
  rw [openedAfter]
  generalize Oracle.record ⟨0x9, 100⟩ (Oracle.sampleJournal 0xbb postRoot number) s.oracle = oracle
    at submittedTx stored ⊢
  have proven : Oracle.isBlockProven oracle number = true := by
    rw [Oracle.proven_iff, stored]
    exact root
  have opened := DisputeGame.challenge_commits v oracle ⟨0xa, 200⟩ number s.game proven absent
  rw [sample_challenge oracle number postRoot stored] at opened
  rw [openingTxs, Oracle.sampleTx, run_execute _ _ _ _ _ _ (oracle_commits v s _ _ _ submittedTx),
    run_execute _ _ _ _ _ _ (game_commits v _ _ _ _ opened), run_empty]

def resolvedAfter (s : State) (number : UInt64) (answer : Bytes) : State where
  oracle := s.oracle
  game := DisputeGame.storeDispute number (DisputeGame.resolvedDispute (s.game.disputes number) answer) s.game

theorem opened_resolve_commits (v : Verifiers) (s : State) (postRoot : Nat) (number : UInt64) (answer : Bytes)
    (timestamp : BitVec 256) (length : answer.length = 192)
    (answered : ∀ s, DisputeGame.accepts v s .sp1 answer [0xde, 0xad] = true) :
    ∃ event, execute v (openedAfter s postRoot number) (.game ⟨⟨0xb, timestamp⟩, .resolve number answer [0xde, 0xad] 0⟩) =
      .ok (resolvedAfter (openedAfter s postRoot number) number answer, event) := by
  have disputed : (openedAfter s postRoot number).game.disputes number =
      ⟨0xa, number, wordOfNat postRoot, 200, false, false⟩ := DisputeGame.store_dispute_here _ _ _
  generalize openedAfter s postRoot number = state at disputed ⊢
  have settled := DisputeGame.resolve_commits v state.oracle ⟨0xb, timestamp⟩ number answer [0xde, 0xad] 0 .sp1 state.game
    (by rw [disputed]; exact (by decide : (200 : BitVec 128) ≠ 0)) (by rw [disputed]) length rfl (answered _)
  exact ⟨_, game_commits v state _ _ _ settled⟩

theorem sample_dispute (v : Verifiers) (postRoot : Nat) (number : UInt64) (answer : Bytes)
    (root : wordOfNat postRoot ≠ zeroWord) (length : answer.length = 192)
    (submitted : ∀ s, Oracle.accepts v s ⟨.sp1, Oracle.sampleJournal 0xbb postRoot number, [0xde, 0xad]⟩ = true)
    (answered : ∀ s, DisputeGame.accepts v s .sp1 answer [0xde, 0xad] = true) :
    (run v (deploy sampleDeployment) (sampleTxs postRoot number answer)).game.disputes number =
      DisputeGame.resolvedDispute ⟨0xa, number, wordOfNat postRoot, 200, false, false⟩ answer := by
  have split : sampleTxs postRoot number answer =
      openingTxs postRoot number ++ [.game ⟨⟨0xb, 300⟩, .resolve number answer [0xde, 0xad] 0⟩] := rfl
  have absent : ((deploy sampleDeployment).game.disputes number).createdAt = 0 := rfl
  have opened := opening_run v (deploy sampleDeployment) postRoot number root (deploy_unproven _ _) absent submitted
  obtain ⟨event, settled⟩ := opened_resolve_commits v (deploy sampleDeployment) postRoot number answer 300 length answered
  rw [split, run_append, opened, run_execute _ _ _ _ _ _ settled, run_empty,
    resolvedAfter, DisputeGame.store_dispute_here, openedAfter, DisputeGame.store_dispute_here]

end OpenZk.System
