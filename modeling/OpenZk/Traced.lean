import Mathlib.Data.List.Basic

set_option autoImplicit false

/-- A program whose state is the list of the actions it has taken. Its surroundings answer each
call, and may do so by everything done before; a failed call stops it and leaves the actions up to
there. -/
abbrev Traced (α ε β : Type) := EStateM ε (List α) β

structure Calls (α ε : Type) where
  failure : α → Option ε
  same : α → α → Prop

namespace Traced

variable {α ε β γ δ φ ι : Type}

def observe (answer : List α → β) (log : β → α) : Traced α ε β :=
  fun history => .ok (answer history) (history ++ [log (answer history)])

def emit (action : α) : Traced α ε Unit := observe (fun _ => ()) (fun _ => action)

def ask (answer : List α → Except φ β) (log : Except φ β → α) (raise : φ → ε) : Traced α ε β := fun history =>
  match answer history with
  | .ok value => .ok value (history ++ [log (.ok value)])
  | .error reason => .error (raise reason) (history ++ [log (.error reason)])

def lift : Except ε β → Traced α ε β
  | .ok value => pure value
  | .error reason => throw reason

def repeatedly (body : Traced α ε Unit) : Nat → Traced α ε Unit
  | 0 => pure ()
  | rounds + 1 => do
      body
      repeatedly body rounds

variable (calls : Calls α ε)

def Clean (trace : List α) : Prop := ∀ action ∈ trace, calls.failure action = none

/-- A script says which traces a program can leave when every call succeeds, and with which result.
A program that fails has left a beginning of such a trace, and then the failed call. -/
inductive Ended (script : List α → Option β → Prop) (history : List α) : EStateM.Result ε (List α) β → Prop where
  | returned (trace : List α) (value : β) (clean : Clean calls trace) (scripted : script trace (some value)) :
      Ended script history (.ok value (history ++ trace))
  -- The script has the same call answered.
  | failed (front rest : List α) (bad good : α) (reason : ε) (result : Option β) (clean : Clean calls front)
      (failure : calls.failure bad = some reason) (same : calls.same bad good)
      (scripted : script (front ++ good :: rest) result) : Ended script history (.error reason (history ++ (front ++ [bad])))
  -- No result stands for a program that stops by itself.
  | stopped (trace : List α) (reason : ε) (clean : Clean calls trace) (scripted : script trace none) :
      Ended script history (.error reason (history ++ trace))

structure Follows (program : Traced α ε β) (script : List α → Option β → Prop) : Prop where
  possible : ∃ trace result, script trace result
  runs : ∀ history, Ended calls script history (program history)

structure Logged (log : Except φ β → α) (raise : φ → ε) : Prop where
  fails : ∀ reason, calls.failure (log (.error reason)) = some (raise reason)
  succeeds : ∀ value, calls.failure (log (.ok value)) = none
  same : ∀ reason value, calls.same (log (.error reason)) (log (.ok value))

def traceOf : EStateM.Result ε (List α) β → List α
  | .ok _ trace => trace
  | .error _ trace => trace

def errorOf : EStateM.Result ε (List α) β → Option ε
  | .ok _ _ => none
  | .error reason _ => some reason

structure FailsLast (trace : List α) (error : Option ε) : Prop where
  last : ∀ front action back reason, trace = front ++ action :: back → calls.failure action = some reason →
    back = [] ∧ error = some reason
  reported : ∀ reason, error = some reason → ∃ front action, trace = front ++ [action] ∧ calls.failure action = some reason

inductive Iterations (item : ι → δ → List α → δ → Prop) : List ι → δ → List α → δ → Prop where
  | nil (value : δ) : Iterations item [] value [] value
  | cons (head : ι) (rest : List ι) (before between after : δ) (front back : List α)
      (first : item head before front between) (others : Iterations item rest between back after) :
      Iterations item (head :: rest) before (front ++ back) after

inductive Rounds (round : List α → Option Unit → Prop) : List α → Option Unit → Prop where
  | none : Rounds round [] (some ())
  | next (front back : List α) (result : Option Unit) (first : round front (some ())) (others : Rounds round back result) :
      Rounds round (front ++ back) result
  | last (trace : List α) (stopped : round trace none) : Rounds round trace none

variable {calls}

theorem clean_append {front back : List α} (frontClean : Clean calls front) (backClean : Clean calls back) :
    Clean calls (front ++ back) := by
  intro action member
  rcases List.mem_append.mp member with inFront | inBack
  · exact frontClean action inFront
  · exact backClean action inBack

theorem clean_nil : Clean calls [] := by simp [Clean]

theorem clean_single {action : α} (succeeded : calls.failure action = none) : Clean calls [action] := by
  simp [Clean, succeeded]

theorem ended_mono {script weaker : List α → Option β → Prop} {history : List α} {outcome : EStateM.Result ε (List α) β}
    (implied : ∀ trace result, script trace result → weaker trace result) (ended : Ended calls script history outcome) :
    Ended calls weaker history outcome := by
  cases ended with
  | returned trace value clean scripted => exact .returned trace value clean (implied _ _ scripted)
  | failed front rest bad good reason result clean failure same scripted =>
      exact .failed front rest bad good reason result clean failure same (implied _ _ scripted)
  | stopped trace reason clean scripted => exact .stopped trace reason clean (implied _ _ scripted)

theorem follows_mono {program : Traced α ε β} {script weaker : List α → Option β → Prop}
    (follows : Follows calls program script) (implied : ∀ trace result, script trace result → weaker trace result) :
    Follows calls program weaker := by
  obtain ⟨trace, result, scripted⟩ := follows.possible
  exact ⟨⟨trace, result, implied trace result scripted⟩, fun history => ended_mono implied (follows.runs history)⟩

theorem follows_returned {program : Traced α ε β} {script : List α → Option β → Prop} (follows : Follows calls program script)
    {history final : List α} {value : β} (succeeded : program history = .ok value final) :
    ∃ trace, final = history ++ trace ∧ script trace (some value) := by
  have ended := follows.runs history
  rw [succeeded] at ended
  generalize outcome : EStateM.Result.ok value final = result at ended
  cases ended with
  | returned trace reached clean scripted =>
      cases outcome
      exact ⟨trace, rfl, scripted⟩
  | failed front rest bad good reason result clean failure same scripted => cases outcome
  | stopped trace reason clean scripted => cases outcome

theorem ended_prepend {script : List α → Option β → Prop} {history front : List α}
    {outcome : EStateM.Result ε (List α) β} (clean : Clean calls front)
    (ended : Ended calls (fun trace result => script (front ++ trace) result) (history ++ front) outcome) :
    Ended calls script history outcome := by
  cases ended with
  | returned trace value later scripted =>
      rw [List.append_assoc]
      exact .returned (front ++ trace) value (clean_append clean later) scripted
  | failed before rest bad good reason result later failure same scripted =>
      rw [List.append_assoc, ← List.append_assoc front]
      refine .failed (front ++ before) rest bad good reason result (clean_append clean later) failure same ?_
      rw [List.append_assoc]
      exact scripted
  | stopped trace reason later scripted =>
      rw [List.append_assoc]
      exact .stopped (front ++ trace) reason (clean_append clean later) scripted

theorem follows_pure {script : List α → Option β → Prop} (value : β) (scripted : script [] (some value)) :
    Follows calls (pure value) script := by
  refine ⟨⟨[], some value, scripted⟩, fun history => ?_⟩
  have returned : Ended calls script history (.ok value (history ++ [])) := .returned [] value clean_nil scripted
  rw [List.append_nil] at returned
  exact returned

theorem follows_bind {first : Traced α ε β} {next : β → Traced α ε γ} {opening : List α → Option β → Prop}
    {script : List α → Option γ → Prop} (firstFollows : Follows calls first opening)
    (nextFollows : ∀ front value, opening front (some value) →
      Follows calls (next value) (fun trace result => script (front ++ trace) result))
    (halts : ∀ trace, opening trace none → script trace none) :
    Follows calls (first >>= next) script := by
  -- A failed opening still needs a trace that the whole script could have gone on with.
  have completed : ∀ trace result, opening trace result → ∃ rest final, script (trace ++ rest) final := by
    intro trace result opened
    cases result with
    | none => exact ⟨[], none, by rw [List.append_nil]; exact halts trace opened⟩
    | some value => exact (nextFollows trace value opened).possible
  refine ⟨?_, fun history => ?_⟩
  · obtain ⟨trace, result, opened⟩ := firstFollows.possible
    obtain ⟨rest, final, scripted⟩ := completed trace result opened
    exact ⟨trace ++ rest, final, scripted⟩
  · have ended := firstFollows.runs history
    change Ended calls script history (EStateM.bind first next history)
    unfold EStateM.bind
    generalize first history = outcome at ended
    cases ended with
    | returned trace value clean opened => exact ended_prepend clean ((nextFollows trace value opened).runs (history ++ trace))
    | failed front rest bad good reason result clean failure same opened =>
        obtain ⟨others, final, scripted⟩ := completed _ result opened
        rw [List.append_assoc, List.cons_append] at scripted
        exact .failed front (rest ++ others) bad good reason final clean failure same scripted
    | stopped trace reason clean opened => exact .stopped trace reason clean (halts trace opened)

theorem follows_observe {script : List α → Option β → Prop} (answer : List α → β) (log : β → α)
    (succeeds : ∀ value, calls.failure (log value) = none)
    (answered : ∀ history, script [log (answer history)] (some (answer history))) :
    Follows calls (observe answer log) script :=
  ⟨⟨_, _, answered []⟩, fun history => .returned _ _ (clean_single (succeeds _)) (answered history)⟩

theorem follows_emit {script : List α → Option Unit → Prop} (action : α) (succeeds : calls.failure action = none)
    (scripted : script [action] (some ())) : Follows calls (emit action) script :=
  follows_observe _ _ (fun _ => succeeds) (fun _ => scripted)

theorem follows_ask {script : List α → Option β → Prop} {answer : List α → Except φ β} {log : Except φ β → α}
    {raise : φ → ε} (logged : Logged calls log raise) (sample : β) (sampled : script [log (.ok sample)] (some sample))
    (answered : ∀ history value, answer history = .ok value → script [log (.ok value)] (some value)) :
    Follows calls (ask answer log raise) script := by
  refine ⟨⟨_, _, sampled⟩, fun history => ?_⟩
  cases outcome : answer history with
  | ok value =>
      have returned : Ended calls script history (.ok value (history ++ [log (.ok value)])) :=
        .returned [log (.ok value)] value (clean_single (logged.succeeds value)) (answered history value outcome)
      simpa only [ask, outcome] using returned
  | error reason =>
      have failed : Ended calls script history (.error (raise reason) (history ++ ([] ++ [log (.error reason)]))) :=
        .failed [] [] (log (.error reason)) (log (.ok sample)) (raise reason) (some sample) clean_nil
          (logged.fails reason) (logged.same reason sample) sampled
      simpa only [ask, outcome, List.nil_append] using failed

theorem follows_ask_bind {script : List α → Option γ → Prop} {answer : List α → Except φ β} {log : Except φ β → α}
    {raise : φ → ε} {next : β → Traced α ε γ} (logged : Logged calls log raise) (sample : β)
    (nextFollows : ∀ value, Follows calls (next value) (fun trace result => script (log (.ok value) :: trace) result)) :
    Follows calls (ask answer log raise >>= next) script := by
  have asked : Follows calls (ask answer log raise)
      (fun trace result => ∃ value, result = some value ∧ trace = [log (.ok value)]) :=
    follows_ask logged sample ⟨sample, rfl, rfl⟩ (fun _ value _ => ⟨value, rfl, rfl⟩)
  refine follows_bind asked ?_ ?_
  · intro front value given
    obtain ⟨_, same, rfl⟩ := given
    cases same
    exact nextFollows value
  · intro trace given
    obtain ⟨_, impossible, _⟩ := given
    cases impossible

theorem follows_emit_bind {script : List α → Option γ → Prop} {next : Unit → Traced α ε γ} (action : α)
    (succeeds : calls.failure action = none)
    (nextFollows : Follows calls (next ()) (fun trace result => script (action :: trace) result)) :
    Follows calls (emit action >>= next) script := by
  have emitted : Follows calls (emit action) (fun trace result => result = some () ∧ trace = [action]) :=
    follows_emit action succeeds ⟨rfl, rfl⟩
  refine follows_bind emitted ?_ ?_
  · intro front value given
    obtain ⟨_, rfl⟩ := given
    exact nextFollows
  · intro trace given
    obtain ⟨impossible, _⟩ := given
    cases impossible

theorem follows_lift {script : List α → Option β → Prop} (outcome : Except ε β)
    (returns : ∀ value, outcome = .ok value → script [] (some value))
    (stops : ∀ reason, outcome = .error reason → script [] none) : Follows calls (lift outcome) script := by
  cases outcome with
  | ok value => exact follows_pure value (returns value rfl)
  | error reason =>
      refine ⟨⟨[], none, stops reason rfl⟩, fun history => ?_⟩
      have stopped : Ended calls script history (.error reason (history ++ [])) :=
        .stopped [] reason clean_nil (stops reason rfl)
      rw [List.append_nil] at stopped
      exact stopped

theorem follows_for {item : ι → δ → List α → δ → Prop} {body : ι → δ → Traced α ε (ForInStep δ)}
    (iteration : ∀ element value, Follows calls (body element value)
      (fun trace step => ∃ next, step = some (.yield next) ∧ item element value trace next))
    (elements : List ι) (start : δ) :
    Follows calls (forIn elements start body)
      (fun trace result => ∃ final, result = some final ∧ Iterations item elements start trace final) := by
  induction elements generalizing start with
  | nil => exact follows_pure start ⟨start, rfl, .nil start⟩
  | cons element rest ih =>
      rw [List.forIn_cons]
      refine follows_bind (iteration element start) ?_ ?_
      · intro front step given
        obtain ⟨next, yielded, first⟩ := given
        cases yielded
        apply follows_mono (ih next)
        intro trace result given
        obtain ⟨final, finished, others⟩ := given
        exact ⟨final, finished, .cons element rest start next final front trace first others⟩
      · intro trace given
        obtain ⟨next, yielded, _⟩ := given
        cases yielded

theorem follows_repeatedly {round : List α → Option Unit → Prop} {body : Traced α ε Unit}
    (bodyFollows : Follows calls body round) (rounds : Nat) : Follows calls (repeatedly body rounds) (Rounds round) := by
  induction rounds with
  | zero => exact follows_pure () .none
  | succ rounds ih =>
      refine follows_bind bodyFollows ?_ ?_
      · intro front value first
        apply follows_mono ih
        intro trace result others
        exact .next front trace result first others
      · intro trace stopped
        exact .last trace stopped

theorem rounds_flat_map {π : Type} {actions : π → List α} {resultOf : π → Option Unit} {trace : List α}
    {result : Option Unit}
    (rounds : Rounds (fun front final => ∃ entry, front = actions entry ∧ final = resultOf entry) trace result) :
    ∃ entries : List π, trace = entries.flatMap actions ∧ (result = some () ↔ ∀ entry ∈ entries, resultOf entry = some ()) := by
  induction rounds with
  | none => exact ⟨[], rfl, by simp⟩
  | next front back result first others ih =>
      obtain ⟨entry, did, finished⟩ := first
      obtain ⟨entries, didRest, finishedRest⟩ := ih
      refine ⟨entry :: entries, by rw [List.flatMap_cons, did, didRest], ?_⟩
      rw [List.forall_mem_cons, finishedRest, ← finished]
      simp
  | last trace stopped =>
      obtain ⟨entry, did, halted⟩ := stopped
      exact ⟨[entry], by simpa using did, by simp [← halted]⟩

theorem flat_map_split {π : Type} {actions : π → List α} (entries : List π) (front back : List α) (action : α)
    (split : entries.flatMap actions = front ++ action :: back) :
    ∃ (before after : List π) (entry : π) (left right : List α), entries = before ++ entry :: after ∧
      actions entry = left ++ action :: right ∧ front = before.flatMap actions ++ left ∧
      back = right ++ after.flatMap actions := by
  induction entries generalizing front with
  | nil => simp at split
  | cons entry rest ih =>
      have further : ∀ left, rest.flatMap actions = left ++ action :: back → front = actions entry ++ left →
          ∃ (before after : List π) (found : π) (inner right : List α), entry :: rest = before ++ found :: after ∧
            actions found = inner ++ action :: right ∧ front = before.flatMap actions ++ inner ∧
            back = right ++ after.flatMap actions := by
        intro left others shape
        obtain ⟨before, after, found, inner, right, listed, holds, begins, ends⟩ := ih left others
        exact ⟨entry :: before, after, found, inner, right, by rw [listed, List.cons_append], holds,
          by rw [shape, begins, List.flatMap_cons, List.append_assoc], ends⟩
      rw [List.flatMap_cons] at split
      rcases List.append_eq_append_iff.mp split with ⟨left, shape, others⟩ | ⟨right, shape, others⟩
      · exact further left others shape
      · cases right with
        | nil => exact further [] others.symm (by rw [shape, List.append_nil, List.append_nil])
        | cons head right =>
            obtain ⟨rfl, ends⟩ := List.cons.inj others
            exact ⟨[], rest, entry, front, right, rfl, shape, rfl, ends⟩

theorem flat_map_positions {π : Type} {actions : π → List α} {holds : List α → α → Prop} (entries : List π)
    (prepend : ∀ past front action, holds front action → holds (past ++ front) action)
    (each : ∀ entry left action right, actions entry = left ++ action :: right → holds left action)
    (front : List α) (action : α) (back : List α) (split : entries.flatMap actions = front ++ action :: back) :
    holds front action := by
  obtain ⟨before, after, entry, left, right, _, located, shape, _⟩ := flat_map_split entries front back action split
  rw [shape]
  exact prepend _ left action (each entry left action right located)

theorem append_positions {holds : List α → α → Prop} (init tail : List α)
    (first : ∀ left action right, init = left ++ action :: right → holds left action)
    (second : ∀ left action right, tail = left ++ action :: right → holds (init ++ left) action)
    (front : List α) (action : α) (back : List α) (split : init ++ tail = front ++ action :: back) : holds front action := by
  rcases List.append_eq_append_iff.mp split with ⟨left, rfl, inTail⟩ | ⟨right, shape, rest⟩
  · exact second left action back inTail
  · cases right with
    | nil =>
        have inTail : tail = [] ++ action :: back := rest.symm
        rw [List.append_nil] at shape
        rw [← shape, ← List.append_nil init]
        exact second [] action back inTail
    | cons head right =>
        obtain ⟨rfl, _⟩ := List.cons.inj rest
        exact first front action right shape

theorem clean_only {trace front back : List α} {action : α} (clean : Clean calls trace)
    (split : trace = front ++ action :: back) : calls.failure action = none := by
  apply clean
  simp [split]

theorem snoc_split {init front back : List α} {final action : α} (split : init ++ [final] = front ++ action :: back) :
    (back = [] ∧ front = init ∧ action = final) ∨ ∃ rest, back = rest ++ [final] ∧ init = front ++ action :: rest := by
  rcases List.eq_nil_or_concat' back with rfl | ⟨rest, last, rfl⟩
  · obtain ⟨same, last⟩ := List.append_inj' split rfl
    exact .inl ⟨rfl, same.symm, (List.singleton_inj.mp last).symm⟩
  · rw [← List.cons_append, ← List.append_assoc] at split
    obtain ⟨same, ends⟩ := List.append_inj' split rfl
    exact .inr ⟨rest, by rw [List.singleton_inj.mp ends], same⟩

theorem ended_fails_last {script : List α → Option β → Prop} {outcome : EStateM.Result ε (List α) β}
    (unstopped : ∀ trace, ¬ script trace none) (ended : Ended calls script [] outcome) :
    FailsLast calls (traceOf outcome) (errorOf outcome) := by
  cases ended with
  | returned trace value clean scripted =>
      refine ⟨?_, nofun⟩
      intro front action back reason split failed
      rw [clean_only clean split] at failed
      cases failed
  | failed front rest bad good reason result clean failure same scripted =>
      refine ⟨?_, ?_⟩
      · intro before action back other split failed
        rcases snoc_split split with ⟨nothing, _, rfl⟩ | ⟨between, _, inFront⟩
        · rw [failure] at failed
          exact ⟨nothing, failed⟩
        · rw [clean_only clean inFront] at failed
          cases failed
      · intro other same
        cases same
        exact ⟨front, bad, rfl, failure⟩
  | stopped trace reason clean scripted => exact absurd scripted (unstopped trace)

theorem ended_positions {script : List α → Option β → Prop} {outcome : EStateM.Result ε (List α) β}
    {holds : List α → α → Prop} (ended : Ended calls script [] outcome)
    (scripted : ∀ trace result, script trace result → ∀ front action back, trace = front ++ action :: back →
      holds front action)
    (resumes : ∀ front bad good, calls.same bad good → holds front good → holds front bad)
    (front : List α) (action : α) (back : List α) (split : traceOf outcome = front ++ action :: back) :
    holds front action := by
  cases ended with
  | returned trace value clean followed => exact scripted trace _ followed front action back split
  | failed before rest bad good reason result clean failure same followed =>
      rcases snoc_split split with ⟨_, rfl, rfl⟩ | ⟨between, _, inFront⟩
      · exact resumes front action good same (scripted _ _ followed front good rest rfl)
      · apply scripted _ _ followed front action (between ++ good :: rest)
        rw [inFront, List.append_assoc]
        rfl
  | stopped trace reason clean followed => exact scripted trace _ followed front action back split

theorem ended_prefix {κ : Type} {script : List α → Option β → Prop} {outcome : EStateM.Result ε (List α) β}
    {view : α → Option κ} (ended : Ended calls script [] outcome)
    (hidden : ∀ action reason, calls.failure action = some reason → view action = none) :
    ∃ full result, script full result ∧ (traceOf outcome).filterMap view <+: full.filterMap view ∧
      (errorOf outcome = none → traceOf outcome = full) := by
  cases ended with
  | returned trace value clean scripted => exact ⟨trace, some value, scripted, List.prefix_rfl, fun _ => rfl⟩
  | failed front rest bad good reason result clean failure same scripted =>
      refine ⟨front ++ good :: rest, result, scripted, ?_, nofun⟩
      have unseen : [bad].filterMap view = [] := by simp [hidden bad reason failure]
      change List.filterMap view (front ++ [bad]) <+: _
      rw [List.filterMap_append, unseen, List.append_nil, List.filterMap_append]
      exact List.prefix_append _ _
  | stopped trace reason clean scripted => exact ⟨trace, none, scripted, List.prefix_rfl, fun _ => rfl⟩

theorem repeatedly_steady (body : Traced α ε Unit) (action : α)
    (steady : ∀ history, body history = .ok () (history ++ [action])) (rounds : Nat) (history : List α) :
    repeatedly body rounds history = .ok () (history ++ List.replicate rounds action) := by
  induction rounds generalizing history with
  | zero => rw [List.replicate_zero, List.append_nil]; rfl
  | succ rounds ih =>
      change EStateM.bind body (fun _ => repeatedly body rounds) history = _
      unfold EStateM.bind
      rw [steady, List.replicate_succ]
      have later := ih (history ++ [action])
      rw [List.append_assoc] at later
      exact later

theorem repeatedly_failing (body : Traced α ε Unit) (action : α) (reason : ε)
    (failing : ∀ history, body history = .error reason (history ++ [action])) (rounds : Nat) (history : List α) :
    repeatedly body (rounds + 1) history = .error reason (history ++ [action]) := by
  change EStateM.bind body (fun _ => repeatedly body rounds) history = _
  unfold EStateM.bind
  rw [failing]

theorem repeatedly_returned {body : Traced α ε Unit} {script : List α → Option Unit → Prop} (follows : Follows calls body script)
    (rounds : Nat) (history final : List α) (returned : repeatedly body rounds history = .ok () final) :
    ∃ traces : List (List α), traces.length = rounds ∧ final = history ++ traces.flatten ∧
      ∀ trace ∈ traces, script trace (some ()) := by
  induction rounds generalizing history with
  | zero =>
      cases returned
      exact ⟨[], rfl, by simp, by simp⟩
  | succ rounds ih =>
      change EStateM.bind body (fun _ => repeatedly body rounds) history = .ok () final at returned
      unfold EStateM.bind at returned
      cases outcome : body history with
      | error reason middle => simp [outcome] at returned
      | ok value middle =>
          rw [outcome] at returned
          obtain ⟨trace, rfl, scripted⟩ := follows_returned follows outcome
          obtain ⟨traces, count, rfl, others⟩ := ih (history ++ trace) returned
          refine ⟨trace :: traces, by rw [List.length_cons, count], by simp, ?_⟩
          intro other member
          rcases List.mem_cons.mp member with rfl | later
          · exact scripted
          · exact others other later

end Traced
