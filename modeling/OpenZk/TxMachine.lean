import Mathlib.Data.List.Basic

set_option autoImplicit false

/-- A transaction either commits a next state with an output or reverts. A reverted transaction
leaves the state as it was. -/
structure TxMachine (σ τ ε ω : Type) where
  exec : σ → τ → Except ε (σ × ω)

structure Commit (σ τ ω : Type) where
  before : σ
  tx : τ
  after : σ
  output : ω

namespace TxMachine

theorem guard_passed {ε α : Type} {bad : Prop} [Decidable bad] {reason : ε} {rest : Except ε α} {outcome : α}
    (committed : (if bad then .error reason else rest) = .ok outcome) : ¬ bad ∧ rest = .ok outcome := by
  by_cases failed : bad
  · rw [if_pos failed] at committed
    cases committed
  · rw [if_neg failed] at committed
    exact ⟨failed, committed⟩

theorem guard_failed {ε α : Type} {bad : Prop} [Decidable bad] {reason refusal : ε} {rest : Except ε α}
    (refused : (if bad then .error reason else rest) = .error refusal) (other : reason ≠ refusal) :
    ¬ bad ∧ rest = .error refusal := by
  by_cases failed : bad
  · rw [if_pos failed] at refused
    exact absurd (Except.error.inj refused) other
  · rw [if_neg failed] at refused
    exact ⟨failed, refused⟩

theorem guard_map {ε α β : Type} {bad : Prop} [Decidable bad] (f : α → β) (reason : ε) (rest : Except ε α) :
    (if bad then .error reason else rest).map f = if bad then .error reason else rest.map f := by
  by_cases failed : bad
  · rw [if_pos failed, if_pos failed]
    rfl
  · rw [if_neg failed, if_neg failed]

variable {σ τ ε ω : Type} (m : TxMachine σ τ ε ω)

def apply (s : σ) (tx : τ) : σ :=
  match m.exec s tx with
  | .ok (next, _) => next
  | .error _ => s

def run (s : σ) (txs : List τ) : σ := txs.foldl m.apply s

def history (s : σ) : List τ → List (Commit σ τ ω)
  | [] => []
  | tx :: rest =>
      match m.exec s tx with
      | .ok (next, output) => ⟨s, tx, next, output⟩ :: history next rest
      | .error _ => history s rest

@[simp] theorem run_nil (s : σ) : m.run s [] = s := rfl

theorem run_append (s : σ) (front back : List τ) : m.run s (front ++ back) = m.run (m.run s front) back := by
  exact List.foldl_append

theorem run_commit (s next : σ) (tx : τ) (output : ω) (rest : List τ)
    (committed : m.exec s tx = .ok (next, output)) : m.run s (tx :: rest) = m.run next rest := by
  simp only [run, List.foldl_cons, apply, committed]

theorem run_revert (s : σ) (tx : τ) (reason : ε) (rest : List τ)
    (reverted : m.exec s tx = .error reason) : m.run s (tx :: rest) = m.run s rest := by
  simp only [run, List.foldl_cons, apply, reverted]

theorem history_commit (s next : σ) (tx : τ) (output : ω) (rest : List τ)
    (committed : m.exec s tx = .ok (next, output)) :
    m.history s (tx :: rest) = ⟨s, tx, next, output⟩ :: m.history next rest := by
  simp only [history, committed]

theorem history_revert (s : σ) (tx : τ) (reason : ε) (rest : List τ)
    (reverted : m.exec s tx = .error reason) : m.history s (tx :: rest) = m.history s rest := by
  simp only [history, reverted]

theorem history_append (s : σ) (front back : List τ) :
    m.history s (front ++ back) = m.history s front ++ m.history (m.run s front) back := by
  induction front generalizing s with
  | nil => rfl
  | cons tx rest ih =>
      cases outcome : m.exec s tx with
      | error reason =>
          rw [List.cons_append, history_revert m s tx reason _ outcome, history_revert m s tx reason _ outcome,
            run_revert m s tx reason _ outcome, ih]
      | ok result =>
          obtain ⟨next, output⟩ := result
          rw [List.cons_append, history_commit m s next tx output _ outcome,
            history_commit m s next tx output _ outcome, run_commit m s next tx output _ outcome, ih]
          rfl

theorem history_reached (s after : σ) (front back : List τ) (tx : τ) (output : ω)
    (committed : m.exec (m.run s front) tx = .ok (after, output)) :
    ⟨m.run s front, tx, after, output⟩ ∈ m.history s (front ++ tx :: back) := by
  rw [history_append, history_commit m _ after tx output back committed]
  exact List.mem_append_right _ List.mem_cons_self

theorem run_map (f : σ → σ)
    (carries : ∀ s tx, m.exec (f s) tx = (m.exec s tx).map fun result => (f result.1, result.2)) (s : σ) (txs : List τ) :
    m.run (f s) txs = f (m.run s txs) := by
  induction txs generalizing s with
  | nil => rfl
  | cons tx rest ih =>
      have carried := carries s tx
      cases outcome : m.exec s tx with
      | error reason =>
          rw [outcome] at carried
          rw [run_revert m s tx reason rest outcome, run_revert m (f s) tx reason rest carried, ih]
      | ok result =>
          obtain ⟨next, output⟩ := result
          rw [outcome] at carried
          rw [run_commit m s next tx output rest outcome, run_commit m (f s) (f next) tx output rest carried, ih]

/-- The rule for invariants that mention what has been committed so far: it is enough to keep the
invariant over one committing transaction. -/
theorem history_invariant (inv : List (Commit σ τ ω) → σ → Prop) (allowed : τ → Prop) (s : σ) (txs : List τ)
    (start : inv [] s) (admissible : ∀ tx ∈ txs, allowed tx)
    (keeps : ∀ past before tx after output, allowed tx → inv past before →
      m.exec before tx = .ok (after, output) → inv (past ++ [⟨before, tx, after, output⟩]) after) :
    inv (m.history s txs) (m.run s txs) := by
  have general : ∀ past, inv past s → inv (past ++ m.history s txs) (m.run s txs) := by
    -- The past has to vary in the induction.
    clear start
    induction txs generalizing s with
    | nil =>
        intro past holds
        simpa [history] using holds
    | cons tx rest ih =>
        intro past holds
        have restAdmissible : ∀ other ∈ rest, allowed other := fun other member => admissible other (by simp [member])
        cases outcome : m.exec s tx with
        | error reason =>
            rw [history_revert m s tx reason rest outcome, run_revert m s tx reason rest outcome]
            exact ih s restAdmissible past holds
        | ok result =>
            obtain ⟨next, output⟩ := result
            rw [history_commit m s next tx output rest outcome, run_commit m s next tx output rest outcome]
            have kept := keeps past s tx next output (admissible tx (by simp)) holds outcome
            rw [List.append_cons]
            exact ih next restAdmissible (past ++ [⟨s, tx, next, output⟩]) kept
  simpa using general [] start

theorem run_invariant (inv : σ → Prop) (allowed : τ → Prop) (s : σ) (txs : List τ)
    (start : inv s) (admissible : ∀ tx ∈ txs, allowed tx)
    (keeps : ∀ before tx after output, allowed tx → inv before → m.exec before tx = .ok (after, output) → inv after) :
    inv (m.run s txs) :=
  m.history_invariant (fun _ state => inv state) allowed s txs start admissible
    (fun _ before tx after output permitted holds committed => keeps before tx after output permitted holds committed)

theorem history_exec (s : σ) (txs : List τ) (step : Commit σ τ ω) (member : step ∈ m.history s txs) :
    m.exec step.before step.tx = .ok (step.after, step.output) := by
  have all : ∀ step ∈ m.history s txs, m.exec step.before step.tx = .ok (step.after, step.output) := by
    apply m.history_invariant (fun past _ => ∀ step ∈ past, m.exec step.before step.tx = .ok (step.after, step.output))
      (fun _ => True) s txs (by simp) (fun _ _ => trivial)
    intro past before tx after output _ holds committed step member
    rcases List.mem_append.mp member with old | new
    · exact holds step old
    · rw [List.mem_singleton.mp new]
      exact committed
  exact all step member

theorem history_split (s : σ) (txs : List τ) (past future : List (Commit σ τ ω)) (step : Commit σ τ ω)
    (split : m.history s txs = past ++ step :: future) :
    ∃ front back, txs = front ++ step.tx :: back ∧ step.before = m.run s front ∧ past = m.history s front ∧
      future = m.history step.after back ∧ m.run s txs = m.run step.after back := by
  induction txs generalizing s past with
  | nil => simp [history] at split
  | cons tx rest ih =>
      cases outcome : m.exec s tx with
      | error reason =>
          rw [history_revert m s tx reason rest outcome] at split
          obtain ⟨front, back, shape, before, earlier, later, final⟩ := ih s past split
          refine ⟨tx :: front, back, by rw [shape]; rfl, ?_, ?_, later, ?_⟩
          · rw [run_revert m s tx reason front outcome, before]
          · rw [history_revert m s tx reason front outcome, earlier]
          · rw [run_revert m s tx reason rest outcome, final]
      | ok result =>
          obtain ⟨next, output⟩ := result
          rw [history_commit m s next tx output rest outcome] at split
          cases past with
          | nil =>
              obtain ⟨rfl, rfl⟩ := List.cons.inj split
              exact ⟨[], rest, rfl, rfl, rfl, rfl, run_commit m s next tx output rest outcome⟩
          | cons head tail =>
              obtain ⟨sameHead, sameTail⟩ := List.cons.inj split
              subst sameHead
              obtain ⟨front, back, shape, before, earlier, later, final⟩ := ih next tail sameTail
              refine ⟨tx :: front, back, by rw [shape]; rfl, ?_, ?_, later, ?_⟩
              · rw [run_commit m s next tx output front outcome, before]
              · rw [history_commit m s next tx output front outcome, earlier]
              · rw [run_commit m s next tx output rest outcome, final]

theorem history_located (s : σ) (txs : List τ) (step : Commit σ τ ω) (member : step ∈ m.history s txs) :
    ∃ front back, txs = front ++ step.tx :: back ∧ step.before = m.run s front ∧
      m.exec step.before step.tx = .ok (step.after, step.output) ∧ m.run s txs = m.run step.after back := by
  obtain ⟨past, future, split⟩ := List.append_of_mem member
  obtain ⟨front, back, shape, before, _, _, final⟩ := m.history_split s txs past future step split
  exact ⟨front, back, shape, before, m.history_exec s txs step member, final⟩

theorem throughout_iff (inv background : σ → Prop) (condition : σ → τ → Prop) (s : σ) (txs : List τ)
    (start : inv s) (backgroundStart : background s)
    (backgroundKeeps : ∀ before tx after output, background before → m.exec before tx = .ok (after, output) →
      background after)
    (keeps : ∀ before tx after output, background before → inv before → m.exec before tx = .ok (after, output) →
      (inv after ↔ condition before tx)) :
    (∀ front back, txs = front ++ back → inv (m.run s front)) ↔
      ∀ step ∈ m.history s txs, condition step.before step.tx := by
  constructor
  · intro throughout step member
    obtain ⟨front, back, shape, before, committed, _⟩ := m.history_located s txs step member
    -- The step is the end of one prefix and follows another.
    have held := throughout front (step.tx :: back) shape
    have heldAfter := throughout (front ++ [step.tx]) back (by rw [shape, List.append_assoc]; rfl)
    rw [m.run_append, ← before, m.run_commit _ _ _ _ _ committed] at heldAfter
    rw [← before] at held
    have reached : background step.before := by
      rw [before]
      exact m.run_invariant background (fun _ => True) s front backgroundStart (fun _ _ => trivial)
        (fun before tx after output _ holds committed => backgroundKeeps before tx after output holds committed)
    exact (keeps step.before step.tx step.after step.output reached held committed).mp heldAfter
  · intro met front back shape
    have kept := m.history_invariant
      (fun past state => background state ∧ ((∀ step ∈ past, condition step.before step.tx) → inv state))
      (fun _ => True) s front ⟨backgroundStart, fun _ => start⟩ (fun _ _ => trivial) ?_
    · apply kept.2
      intro step member
      apply met step
      rw [shape, m.history_append]
      exact List.mem_append_left _ member
    · intro past before tx after output _ held committed
      refine ⟨backgroundKeeps before tx after output held.1 committed, ?_⟩
      intro all
      have earlier := held.2 fun step member => all step (List.mem_append_left _ member)
      exact (keeps before tx after output held.1 earlier committed).mpr (all ⟨before, tx, after, output⟩ (by simp))

theorem history_tx (s : σ) (txs : List τ) (step : Commit σ τ ω) (member : step ∈ m.history s txs) : step.tx ∈ txs := by
  obtain ⟨front, back, shape, _⟩ := m.history_located s txs step member
  simp [shape]

theorem crossings_le_one (rank : σ → Nat) (level : Nat) (allowed : τ → Prop) (s : σ) (txs : List τ)
    (admissible : ∀ tx ∈ txs, allowed tx)
    (rises : ∀ before tx after output, allowed tx → m.exec before tx = .ok (after, output) → rank before ≤ rank after) :
    (m.history s txs).countP (fun step => rank step.before ≤ level ∧ level < rank step.after) ≤ 1 := by
  have counted := m.history_invariant
    (fun past state => past.countP (fun step => rank step.before ≤ level ∧ level < rank step.after) ≤ 1 ∧
      (rank state ≤ level → past.countP (fun step => rank step.before ≤ level ∧ level < rank step.after) = 0))
    allowed s txs (by simp) admissible ?_
  · exact counted.1
  · intro past before tx after output permitted held committed
    have risen := rises before tx after output permitted committed
    rw [List.countP_append, List.countP_singleton]
    by_cases crosses : rank before ≤ level ∧ level < rank after
    · have none := held.2 crosses.1
      simp only [crosses, and_self, decide_true, if_true, none]
      omega
    · simp only [crosses, decide_false, Bool.false_eq_true, if_false, Nat.add_zero]
      refine ⟨held.1, fun below => held.2 (by omega)⟩

end TxMachine
