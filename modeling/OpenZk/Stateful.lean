import Mathlib.Logic.Basic

set_option autoImplicit false

abbrev Stateful (ε σ α : Type) := EStateM ε σ α

namespace Stateful

variable {ε σ α β : Type}

def left : EStateM.Result ε σ α → σ
  | .ok _ state => state
  | .error _ state => state

def outcome : EStateM.Result ε σ α → Except ε α
  | .ok value _ => .ok value
  | .error reason _ => .error reason

def outcomes : List (Stateful ε σ α) → σ → List (Except ε α)
  | [], _ => []
  | program :: rest, state => outcome (program state) :: outcomes rest (left (program state))

inductive Alike (returned : α → σ → σ → Prop) (stopped : σ → σ → Prop) :
    EStateM.Result ε σ α → EStateM.Result ε σ α → Prop where
  | ok (value : α) (state other : σ) (related : returned value state other) :
      Alike returned stopped (.ok value state) (.ok value other)
  | error (reason : ε) (state other : σ) (related : stopped state other) :
      Alike returned stopped (.error reason state) (.error reason other)

def Coupled (before : σ → σ → Prop) (program : Stateful ε σ α) (returned : α → σ → σ → Prop) (stopped : σ → σ → Prop) : Prop :=
  ∀ state other, before state other → Alike returned stopped (program state) (program other)

def Leaves (frame : σ → σ → Prop) (program : Stateful ε σ α) : Prop := ∀ state, frame state (left (program state))

theorem alike_outcome {returned : α → σ → σ → Prop} {stopped : σ → σ → Prop} {first second : EStateM.Result ε σ α}
    (alike : Alike returned stopped first second) : outcome first = outcome second := by
  cases alike <;> rfl

theorem coupled_bind {before : σ → σ → Prop} {middle : α → σ → σ → Prop} {returned : β → σ → σ → Prop}
    {stopped : σ → σ → Prop} {first : Stateful ε σ α} {next : α → Stateful ε σ β}
    (firstCoupled : Coupled before first middle stopped)
    (nextCoupled : ∀ value, Coupled (middle value) (next value) returned stopped) :
    Coupled before (first >>= next) returned stopped := by
  intro state other related
  change Alike returned stopped (EStateM.bind first next state) (EStateM.bind first next other)
  unfold EStateM.bind
  have alike := firstCoupled state other related
  generalize first state = one at alike ⊢
  generalize first other = two at alike ⊢
  cases alike with
  | ok value between beside kept => exact nextCoupled value between beside kept
  | error reason between beside kept => exact .error reason between beside kept

theorem leaves_bind {frame : σ → σ → Prop} (joined : ∀ state between last, frame state between → frame between last → frame state last)
    {first : Stateful ε σ α} {next : α → Stateful ε σ β} (firstLeaves : Leaves frame first)
    (nextLeaves : ∀ value, Leaves frame (next value)) : Leaves frame (first >>= next) := by
  intro state
  have done := firstLeaves state
  change frame state (left (EStateM.bind first next state))
  rw [EStateM.bind]
  cases result : first state with
  | ok value between =>
      rw [result] at done
      exact joined state between _ done (nextLeaves value between)
  | error reason between =>
      rw [result] at done
      exact done

theorem bind_returned {first : Stateful ε σ α} {next : α → Stateful ε σ β} {state last : σ} {value : β}
    (returned : (first >>= next) state = .ok value last) :
    ∃ middle between, first state = .ok middle between ∧ next middle between = .ok value last := by
  change EStateM.bind first next state = .ok value last at returned
  rw [EStateM.bind] at returned
  cases result : first state with
  | ok middle between =>
      rw [result] at returned
      exact ⟨middle, between, rfl, returned⟩
  | error reason between =>
      rw [result] at returned
      cases returned

theorem bind_continues {first : Stateful ε σ α} {next : α → Stateful ε σ β} {state between : σ} {middle : α}
    (returned : first state = .ok middle between) : (first >>= next) state = next middle between := by
  change EStateM.bind first next state = next middle between
  simp only [EStateM.bind, returned]

theorem bind_failed {first : Stateful ε σ α} {next : α → Stateful ε σ β} {state last : σ} {reason : ε} :
    (first >>= next) state = .error reason last ↔
      first state = .error reason last ∨
        ∃ middle between, first state = .ok middle between ∧ next middle between = .error reason last := by
  change EStateM.bind first next state = .error reason last ↔ _
  rw [EStateM.bind]
  cases first state with
  | ok middle between =>
      constructor
      · exact fun failed => .inr ⟨middle, between, rfl, failed⟩
      · rintro (failed | ⟨_, _, same, failed⟩)
        · cases failed
        · cases same
          exact failed
  | error earlier between => simp

/-- Programs that see only a part of the state that none of them changes do not see each other. -/
theorem outcomes_independent {frame : σ → σ → Prop} (joined : ∀ state between last, frame state between → frame between last → frame state last)
    (programs : List (Stateful ε σ α)) (start state : σ) (sees : frame start state)
    (leaves : ∀ program ∈ programs, Leaves frame program)
    (blind : ∀ program ∈ programs, ∀ other, frame start other → outcome (program start) = outcome (program other)) :
    outcomes programs state = programs.map fun program => outcome (program start) := by
  induction programs generalizing state with
  | nil => rfl
  | cons program rest ih =>
      have moved := joined start state _ sees (leaves program List.mem_cons_self state)
      rw [outcomes, List.map_cons, ← blind program List.mem_cons_self state sees]
      rw [ih _ moved (fun other later => leaves other (List.mem_cons_of_mem _ later))
        (fun other later => blind other (List.mem_cons_of_mem _ later))]

end Stateful
