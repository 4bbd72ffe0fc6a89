import OpenZk.SystemLog

set_option autoImplicit false

namespace OpenZk.System

open Words

def oracleCall : Tx → Option Oracle.Tx
  | .oracle tx => some tx
  | .game _ => none

def oracleEvent : Event → Option Oracle.Event
  | .oracle event => some event
  | .game _ => none

theorem system_contains_oracle (v : Verifiers) :
    TxMachine.Contains (machine v) (Oracle.machine v) State.oracle oracleCall oracleEvent := by
  refine ⟨?_, ?_, ?_⟩
  · intro before tx after event inner call committed
    cases tx with
    | oracle tx =>
        obtain rfl := Option.some.inj call
        obtain ⟨emitted, outcome, _, rfl⟩ := execute_oracle v before after _ event committed
        exact ⟨emitted, outcome, rfl⟩
    | game tx => cases call
  · intro before tx reason inner call reverted
    cases tx with
    | oracle tx =>
        obtain rfl := Option.some.inj call
        cases outcome : Oracle.execute v before.oracle tx with
        | error refusal => exact ⟨refusal, outcome⟩
        | ok result =>
            obtain ⟨next, emitted⟩ := result
            -- What the oracle would commit is not refused on the way to it.
            have committed := oracle_commits v before tx next emitted outcome
            cases committed.symm.trans reverted
    | game tx => cases call
  · intro before tx after event call committed
    cases tx with
    | oracle tx => cases call
    | game tx =>
        obtain ⟨emitted, _, same, rfl⟩ := execute_game v before after tx event committed
        exact ⟨same, rfl⟩

theorem oracle_run (v : Verifiers) (s : State) (txs : List Tx) :
    (run v s txs).oracle = Oracle.run v s.oracle (txs.filterMap oracleCall) :=
  (TxMachine.contained_run (system_contains_oracle v) s txs).1

theorem oracle_run_from (v : Verifiers) (s : State) (front back : List Tx) (tx : Oracle.Tx) :
    (run v s (front ++ .oracle tx :: back)).oracle =
      Oracle.run v (run v s front).oracle (tx :: back.filterMap oracleCall) := by
  rw [run_append, oracle_run]
  rfl

/-- The oracle runs as if the game did not exist. A disputed output stays proven, whatever the verdict. -/
theorem verdicts_advisory (v : Verifiers) (d : Deployment) (txs : List Tx) :
    (run v (deploy d) txs).oracle = Oracle.run v (deploy d).oracle (txs.filterMap oracleCall) ∧
      (events v (deploy d) txs).filterMap oracleEvent =
        (Oracle.machine v).log (deploy d).oracle (txs.filterMap oracleCall) ∧
      ∀ number, phase (run v (deploy d) txs) number ≠ .absent →
        Oracle.isBlockProven (Oracle.run v (deploy d).oracle (txs.filterMap oracleCall)) number = true ∧
          ((Oracle.run v (deploy d).oracle (txs.filterMap oracleCall)).proposals number).outputRoot =
            ((run v (deploy d) txs).game.disputes number).disputedOutputRoot := by
  have log := (TxMachine.contained_run (system_contains_oracle v) (deploy d) txs).2
  refine ⟨oracle_run v (deploy d) txs, log, ?_⟩
  intro number present
  have found := phase_found _ present
  have mirrors := run_mirrors v d txs number found
  rw [← oracle_run]
  refine ⟨?_, mirrors.stored.symm⟩
  rw [Oracle.proven_iff, ← mirrors.stored]
  exact mirrors.nonzero

end OpenZk.System
