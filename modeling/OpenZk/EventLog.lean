import OpenZk.TxMachine

set_option autoImplicit false

namespace TxMachine

variable {σ τ ε ω ρ : Type} (m : TxMachine σ τ ε ω)

def log (s : σ) (txs : List τ) : List ω := (m.history s txs).map Commit.output

theorem log_commit (s next : σ) (tx : τ) (output : ω) (rest : List τ)
    (committed : m.exec s tx = .ok (next, output)) : m.log s (tx :: rest) = output :: m.log next rest := by
  rw [log, history_commit m s next tx output rest committed, List.map_cons]
  rfl

theorem log_revert (s : σ) (tx : τ) (reason : ε) (rest : List τ)
    (reverted : m.exec s tx = .error reason) : m.log s (tx :: rest) = m.log s rest := by
  rw [log, history_revert m s tx reason rest reverted]
  rfl

theorem history_sublist (s : σ) (txs : List τ) : ((m.history s txs).map Commit.tx).Sublist txs := by
  induction txs generalizing s with
  | nil => exact List.Sublist.slnil
  | cons tx rest ih =>
      cases outcome : m.exec s tx with
      | error reason =>
          rw [history_revert m s tx reason rest outcome]
          exact (ih s).cons tx
      | ok result =>
          obtain ⟨next, output⟩ := result
          rw [history_commit m s next tx output rest outcome]
          exact (ih next).cons_cons tx

theorem history_ordered (R : τ → τ → Prop) (s : σ) (txs : List τ) (front between back : List (Commit σ τ ω))
    (first second : Commit σ τ ω) (ordered : txs.Pairwise R)
    (split : m.history s txs = front ++ first :: (between ++ second :: back)) : R first.tx second.tx := by
  have kept := ordered.sublist (m.history_sublist s txs)
  rw [split, List.map_append, List.map_cons, List.map_append, List.map_cons] at kept
  have after := (List.pairwise_append.mp kept).2.1
  exact (List.pairwise_cons.mp after).1 second.tx (by simp)

theorem listener_follows (view : σ → ρ) (absorb : ρ → ω → ρ) (background : σ → Prop) (allowed : τ → Prop) (s : σ)
    (txs : List τ) (start : background s) (admissible : ∀ tx ∈ txs, allowed tx)
    (tells : ∀ before tx after output, allowed tx → background before → m.exec before tx = .ok (after, output) →
      background after ∧ view after = absorb (view before) output) :
    view (m.run s txs) = (m.log s txs).foldl absorb (view s) := by
  have followed := m.history_invariant
    (fun past state => background state ∧ view state = (past.map Commit.output).foldl absorb (view s))
    allowed s txs ⟨start, rfl⟩ admissible ?_
  · exact followed.2
  · intro past before tx after output permitted held committed
    obtain ⟨kept, told⟩ := tells before tx after output permitted held.1 committed
    refine ⟨kept, ?_⟩
    rw [List.map_append, List.foldl_append, ← held.2, told]
    rfl

variable {σ' τ' ε' ω' : Type}

structure Contains (upper : TxMachine σ τ ε ω) (lower : TxMachine σ' τ' ε' ω') (part : σ → σ') (call : τ → Option τ')
    (told : ω → Option ω') : Prop where
  commits : ∀ before tx after output inner, call tx = some inner → upper.exec before tx = .ok (after, output) →
    ∃ emitted, lower.exec (part before) inner = .ok (part after, emitted) ∧ told output = some emitted
  reverts : ∀ before tx reason inner, call tx = some inner → upper.exec before tx = .error reason →
    ∃ refusal, lower.exec (part before) inner = .error refusal
  others : ∀ before tx after output, call tx = none → upper.exec before tx = .ok (after, output) →
    part after = part before ∧ told output = none

theorem contained_run {upper : TxMachine σ τ ε ω} {lower : TxMachine σ' τ' ε' ω'} {part : σ → σ'} {call : τ → Option τ'}
    {told : ω → Option ω'} (contains : Contains upper lower part call told) (s : σ) (txs : List τ) :
    part (upper.run s txs) = lower.run (part s) (txs.filterMap call) ∧
      (upper.log s txs).filterMap told = lower.log (part s) (txs.filterMap call) := by
  induction txs generalizing s with
  | nil => exact ⟨rfl, rfl⟩
  | cons tx rest ih =>
      cases outcome : upper.exec s tx with
      | error reason =>
          rw [run_revert upper s tx reason rest outcome, log_revert upper s tx reason rest outcome]
          cases passed : call tx with
          | none =>
              rw [List.filterMap_cons_none passed]
              exact ih s
          | some inner =>
              obtain ⟨refusal, refused⟩ := contains.reverts s tx reason inner passed outcome
              rw [List.filterMap_cons_some passed, run_revert lower _ inner refusal _ refused,
                log_revert lower _ inner refusal _ refused]
              exact ih s
      | ok result =>
          obtain ⟨next, output⟩ := result
          rw [run_commit upper s next tx output rest outcome, log_commit upper s next tx output rest outcome]
          cases passed : call tx with
          -- The upper machine keeps this one to itself.
          | none =>
              obtain ⟨same, silent⟩ := contains.others s tx next output passed outcome
              rw [List.filterMap_cons_none passed, List.filterMap_cons_none silent, ← same]
              exact ih next
          | some inner =>
              obtain ⟨emitted, committed, heard⟩ := contains.commits s tx next output inner passed outcome
              rw [List.filterMap_cons_some passed, List.filterMap_cons_some heard,
                run_commit lower _ _ inner emitted _ committed, log_commit lower _ _ inner emitted _ committed]
              refine ⟨(ih next).1, ?_⟩
              rw [(ih next).2]

end TxMachine
