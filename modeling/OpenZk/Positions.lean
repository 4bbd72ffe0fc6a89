import OpenZk.Traced

set_option autoImplicit false

namespace Traced

variable {α ε β γ δ φ ι : Type} {holds : List α → α → Prop}

def Throughout (holds : List α → α → Prop) (trace : List α) : Prop :=
  ∀ front action back, trace = front ++ action :: back → holds front action

def Maintains (holds : List α → α → Prop) (program : Traced α ε β) : Prop :=
  ∀ history, Throughout holds history → Throughout holds (traceOf (program history))

theorem throughout_nil : Throughout holds [] := by
  intro front action back split
  simp at split

theorem throughout_snoc {history : List α} {action : α} (before : Throughout holds history) (next : holds history action) :
    Throughout holds (history ++ [action]) := by
  intro front other back split
  rcases snoc_split split with ⟨_, rfl, rfl⟩ | ⟨rest, _, inHistory⟩
  · exact next
  · exact before front other rest inHistory

theorem maintains_pure (value : β) : Maintains (ε := ε) holds (pure value) := fun _ before => before

theorem maintains_bind {first : Traced α ε β} {next : β → Traced α ε γ} (firstMaintains : Maintains holds first)
    (nextMaintains : ∀ value, Maintains holds (next value)) : Maintains holds (first >>= next) := by
  intro history before
  have done := firstMaintains history before
  change Throughout holds (traceOf (EStateM.bind first next history))
  rw [EStateM.bind]
  cases outcome : first history with
  | ok value middle =>
      rw [outcome] at done
      exact nextMaintains value middle done
  | error reason middle =>
      rw [outcome] at done
      exact done

theorem maintains_observe (answer : List α → β) (log : β → α) (answered : ∀ history, holds history (log (answer history))) :
    Maintains (ε := ε) holds (observe answer log) :=
  fun history before => throughout_snoc before (answered history)

theorem maintains_emit (action : α) (emitted : ∀ history, holds history action) : Maintains (ε := ε) holds (emit action) :=
  maintains_observe _ _ emitted

theorem maintains_ask (answer : List α → Except φ β) (log : Except φ β → α) (raise : φ → ε)
    (answered : ∀ history, holds history (log (answer history))) : Maintains holds (ask answer log raise) := by
  intro history before
  have asked := throughout_snoc before (answered history)
  rw [ask]
  cases outcome : answer history with
  | ok value =>
      rw [outcome] at asked
      exact asked
  | error reason =>
      rw [outcome] at asked
      exact asked

theorem maintains_lift (outcome : Except ε β) : Maintains holds (lift (α := α) outcome) := by
  cases outcome with
  | ok value => exact maintains_pure value
  | error reason => exact fun _ before => before

theorem maintains_for {body : ι → δ → Traced α ε (ForInStep δ)} (iteration : ∀ element value, Maintains holds (body element value))
    (elements : List ι) (start : δ) : Maintains holds (forIn elements start body) := by
  induction elements generalizing start with
  | nil => exact maintains_pure start
  | cons element rest ih =>
      rw [List.forIn_cons]
      refine maintains_bind (iteration element start) ?_
      intro step
      cases step with
      | done value => exact maintains_pure value
      | yield value => exact ih value

theorem maintains_repeatedly {body : Traced α ε Unit} (round : Maintains holds body) (rounds : Nat) :
    Maintains holds (repeatedly body rounds) := by
  induction rounds with
  | zero => exact maintains_pure ()
  | succ rounds ih => exact maintains_bind round fun _ => ih

def marks (marked : α → Bool) : List α → List α → List (List α)
  | _, [] => []
  | past, action :: rest =>
      if marked action then past :: marks marked (past ++ [action]) rest else marks marked (past ++ [action]) rest

variable {marked : α → Bool}

theorem marks_append (past front back : List α) :
    marks marked past (front ++ back) = marks marked past front ++ marks marked (past ++ front) back := by
  induction front generalizing past with
  | nil => simp [marks]
  | cons action rest ih =>
      have next := ih (past ++ [action])
      rw [List.append_assoc, List.singleton_append] at next
      rw [List.cons_append, marks, marks, next]
      split <;> rfl

theorem marks_silent (past rest : List α) (silent : ∀ action ∈ rest, marked action = false) : marks marked past rest = [] := by
  induction rest generalizing past with
  | nil => rfl
  | cons action rest ih =>
      rw [marks, silent action (by simp), if_neg Bool.false_ne_true]
      exact ih _ fun other member => silent other (by simp [member])

theorem marks_opening (marked : α → Bool) (past rest : List α) (action : α) (isMarked : marked action = true)
    (silent : ∀ other ∈ rest, marked other = false) : marks marked past (action :: rest) = [past] := by
  rw [marks, if_pos isMarked, marks_silent _ _ silent]

theorem marks_each {π : Type} (marked : α → Bool) (actions : π → List α) (rounds : List π) (past : List α)
    (each : ∀ round ∈ rounds, ∀ past, marks marked past (actions round) = [past]) :
    (marks marked past (rounds.flatMap actions)).length = rounds.length := by
  induction rounds generalizing past with
  | nil => rfl
  | cons round rest ih =>
      have others := ih (past ++ actions round) fun other member => each other (by simp [member])
      rw [List.flatMap_cons, marks_append, each round (by simp), List.singleton_append, List.length_cons, others, List.length_cons]

theorem marks_split (past trace seen : List α) (member : seen ∈ marks marked past trace) :
    ∃ front action back, trace = front ++ action :: back ∧ seen = past ++ front ∧ marked action = true := by
  induction trace generalizing past with
  | nil => simp [marks] at member
  | cons action rest ih =>
      have later : seen ∈ marks marked (past ++ [action]) rest →
          ∃ front other back, action :: rest = front ++ other :: back ∧ seen = past ++ front ∧ marked other = true := by
        intro inRest
        obtain ⟨front, other, back, rfl, rfl, isMarked⟩ := ih _ inRest
        exact ⟨action :: front, other, back, rfl, by simp, isMarked⟩
      rw [marks] at member
      by_cases isMarked : marked action = true
      · rw [if_pos isMarked] at member
        rcases List.mem_cons.mp member with rfl | inRest
        · exact ⟨[], action, rest, rfl, by simp, isMarked⟩
        · exact later inRest
      · rw [if_neg isMarked] at member
        exact later member

theorem marks_ordered (past trace : List α) : (marks marked past trace).Pairwise (· <+: ·) := by
  induction trace generalizing past with
  | nil => exact List.Pairwise.nil
  | cons action rest ih =>
      have later := ih (past ++ [action])
      rw [marks]
      by_cases isMarked : marked action = true
      · rw [if_pos isMarked]
        refine List.pairwise_cons.mpr ⟨?_, later⟩
        intro seen member
        obtain ⟨front, _, _, _, rfl, _⟩ := marks_split _ _ seen member
        rw [List.append_assoc]
        exact List.prefix_append past _
      · rw [if_neg isMarked]
        exact later

theorem linked_ordered {related : List α → List α → Prop}
    (stays : ∀ earlier later last, related earlier later → later <+: last → related earlier last) (pasts : List (List α))
    (ordered : pasts.Pairwise (· <+: ·)) (linked : pasts.IsChain related) : pasts.Pairwise related := by
  induction pasts with
  | nil => exact List.Pairwise.nil
  | cons first rest ih =>
      obtain ⟨_, later⟩ := List.pairwise_cons.mp ordered
      cases rest with
      | nil => exact List.pairwise_singleton _ _
      | cons second rest =>
          obtain ⟨next, others⟩ := List.isChain_cons_cons.mp linked
          refine List.pairwise_cons.mpr ⟨?_, ih later others⟩
          intro last member
          rcases List.mem_cons.mp member with rfl | beyond
          · exact next
          · exact stays first second last next ((List.pairwise_cons.mp later).1 last beyond)

theorem marks_observed (observe : α → Option β) (answer : List α → Option β) (past trace : List α)
    (shown : ∀ front action back, trace = front ++ action :: back →
      observe action = if marked action then answer (past ++ front) else none) :
    trace.filterMap observe = (marks marked past trace).filterMap answer := by
  induction trace generalizing past with
  | nil => rfl
  | cons action rest ih =>
      have later := ih (past ++ [action]) fun front other back split => by
        have shifted := shown (action :: front) other back (by rw [split]; rfl)
        rw [List.append_assoc]
        exact shifted
      have here := shown [] action rest rfl
      rw [List.append_nil] at here
      rw [List.filterMap_cons, later, marks, here]
      by_cases isMarked : marked action = true
      · rw [if_pos isMarked, if_pos isMarked, List.filterMap_cons]
      · rw [if_neg isMarked, if_neg isMarked]

theorem rounds_chosen {π : Type} {actions : π → List α} {resultOf : π → Option Unit} (traces : List (List α))
    (scripted : ∀ trace ∈ traces, ∃ round, trace = actions round ∧ some () = resultOf round) :
    ∃ rounds : List π, rounds.length = traces.length ∧ traces.flatten = rounds.flatMap actions ∧
      ∀ round ∈ rounds, resultOf round = some () := by
  induction traces with
  | nil => exact ⟨[], rfl, rfl, by simp⟩
  | cons first rest ih =>
      obtain ⟨round, rfl, finished⟩ := scripted first (by simp)
      obtain ⟨rounds, count, shape, others⟩ := ih fun other member => scripted other (by simp [member])
      refine ⟨round :: rounds, by simp [count], by rw [List.flatten_cons, List.flatMap_cons, shape], ?_⟩
      intro other member
      rcases List.mem_cons.mp member with rfl | later
      · exact finished.symm
      · exact others other later

end Traced
