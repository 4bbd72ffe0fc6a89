import Mathlib.Data.List.Basic

set_option autoImplicit false

/-- A partial operation whose two groupings of three items are defined together and agree. -/
structure Joining (α : Type) where
  join : α → α → Option α
  assoc : ∀ a b c, (join a b).bind (fun front => join front c) = (join b c).bind (fun back => join a back)

inductive Grouping (α : Type) where
  | item (value : α)
  | group (parts : List (Grouping α))

namespace Grouping

variable {α : Type}

mutual

def items : Grouping α → List α
  | item value => [value]
  | group parts => itemsOf parts

def itemsOf : List (Grouping α) → List α
  | [] => []
  | part :: rest => items part ++ itemsOf rest

end

mutual

def NoEmptyGroup : Grouping α → Prop
  | item _ => True
  | group parts => parts ≠ [] ∧ NoneEmpty parts

def NoneEmpty : List (Grouping α) → Prop
  | [] => True
  | part :: rest => NoEmptyGroup part ∧ NoneEmpty rest

end

mutual

def eval (combine : List α → Option α) : Grouping α → Option α
  | item value => some value
  | group parts => (evalOf combine parts).bind combine

def evalOf (combine : List α → Option α) : List (Grouping α) → Option (List α)
  | [] => some []
  | part :: rest => (eval combine part).bind fun value => (evalOf combine rest).map fun values => value :: values

end

end Grouping

namespace Joining

variable {α : Type} (j : Joining α)

def fold : List α → Option α
  | [] => none
  | first :: rest => rest.foldlM j.join first

theorem fold_singleton (a : α) : j.fold [a] = some a := rfl

theorem fold_pair (a b : α) : j.fold [a, b] = j.join a b := by
  simp [fold]

theorem fold_cons_cons (a b : α) (rest : List α) : j.fold (a :: b :: rest) = (j.join a b).bind fun front => j.fold (front :: rest) := rfl

theorem fold_cons (a b : α) (rest : List α) : j.fold (a :: b :: rest) = (j.fold (b :: rest)).bind (j.join a) := by
  induction rest generalizing b with
  | nil => rw [fold_pair, fold_singleton, Option.bind_some]
  | cons c tail ih =>
      calc j.fold (a :: b :: c :: tail)
          = (j.join a b).bind fun front => (j.join front c).bind fun front => j.fold (front :: tail) := rfl
        _ = (j.join b c).bind fun back => (j.join a back).bind fun front => j.fold (front :: tail) := by
            rw [← Option.bind_assoc, j.assoc, Option.bind_assoc]
        _ = (j.join b c).bind fun back => (j.fold (back :: tail)).bind (j.join a) := by
            congr 1
            funext back
            rw [← fold_cons_cons, ih]
        _ = (j.fold (b :: c :: tail)).bind (j.join a) := by
            rw [fold_cons_cons, Option.bind_assoc]

theorem fold_append (xs ys : List α) (xsNonempty : xs ≠ []) (ysNonempty : ys ≠ []) :
    j.fold (xs ++ ys) = (j.fold xs).bind fun front => (j.fold ys).bind fun back => j.join front back := by
  induction xs with
  | nil => exact absurd rfl xsNonempty
  | cons a rest ih =>
      cases rest with
      | nil =>
          cases ys with
          | nil => exact absurd rfl ysNonempty
          | cons b tail => rw [List.singleton_append, fold_cons, fold_singleton, Option.bind_some]
      | cons b tail =>
          have later := ih (List.cons_ne_nil b tail)
          rw [List.cons_append, List.cons_append, fold_cons, ← List.cons_append, later, fold_cons, Option.bind_assoc,
            Option.bind_assoc]
          congr 1
          funext front
          cases j.fold ys with
          | none => simp
          | some back => exact (j.assoc a front back).symm

theorem fold_keeps (P : α → Prop) (kept : ∀ a b c, P a → P b → j.join a b = some c → P c) (xs : List α) (y : α)
    (each : ∀ x ∈ xs, P x) (folded : j.fold xs = some y) : P y := by
  induction xs generalizing y with
  | nil => cases folded
  | cons a rest ih =>
      have head := each a List.mem_cons_self
      have tail := fun x member => each x (List.mem_cons_of_mem a member)
      cases rest with
      | nil =>
          rw [← Option.some.inj folded]
          exact head
      | cons b more =>
          rw [fold_cons] at folded
          obtain ⟨back, later, joined⟩ := Option.bind_eq_some_iff.mp folded
          exact kept a back y head (ih back tail later) joined

end Joining

namespace Grouping

variable {α : Type}

mutual

theorem items_nonempty (g : Grouping α) (inhabited : g.NoEmptyGroup) : g.items ≠ [] := by
  cases g with
  | item value => simp [items]
  | group parts =>
      obtain ⟨partsNonempty, rest⟩ := inhabited
      exact items_of_nonempty parts partsNonempty rest

theorem items_of_nonempty (parts : List (Grouping α)) (partsNonempty : parts ≠ []) (inhabited : NoneEmpty parts) :
    itemsOf parts ≠ [] := by
  cases parts with
  | nil => exact absurd rfl partsNonempty
  | cons part rest =>
      have head := items_nonempty part inhabited.1
      simp [itemsOf, head]

end

theorem eval_of_nonempty (combine : List α → Option α) (part : Grouping α) (rest : List (Grouping α)) (values : List α)
    (evaluated : evalOf combine (part :: rest) = some values) : values ≠ [] := by
  rw [evalOf] at evaluated
  obtain ⟨value, _, later⟩ := Option.bind_eq_some_iff.mp evaluated
  obtain ⟨others, _, rfl⟩ := Option.map_eq_some_iff.mp later
  exact List.cons_ne_nil value others

variable (j : Joining α)

mutual

theorem eval_fold (g : Grouping α) (inhabited : g.NoEmptyGroup) : g.eval j.fold = j.fold g.items := by
  cases g with
  | item value => rfl
  | group parts =>
      obtain ⟨partsNonempty, rest⟩ := inhabited
      rw [eval, items, eval_of_fold parts partsNonempty rest]

theorem eval_of_fold (parts : List (Grouping α)) (partsNonempty : parts ≠ []) (inhabited : NoneEmpty parts) :
    (evalOf j.fold parts).bind j.fold = j.fold (itemsOf parts) := by
  cases parts with
  | nil => exact absurd rfl partsNonempty
  | cons part rest =>
      have head := eval_fold part inhabited.1
      cases rest with
      | nil =>
          rw [itemsOf, itemsOf, List.append_nil, ← head]
          cases evaluated : eval j.fold part with
          | none => simp [evalOf, evaluated]
          | some value => simp [evalOf, evaluated, Joining.fold_singleton]
      | cons second more =>
          have tail := eval_of_fold (second :: more) (List.cons_ne_nil second more) inhabited.2
          have step : ∀ value, ((evalOf j.fold (second :: more)).map fun values => value :: values).bind j.fold =
              ((evalOf j.fold (second :: more)).bind j.fold).bind (j.join value) := by
            intro value
            cases evaluated : evalOf j.fold (second :: more) with
            | none => rfl
            | some values =>
                obtain ⟨first, others, rfl⟩ := List.exists_cons_of_ne_nil (eval_of_nonempty j.fold second more values evaluated)
                rw [Option.map_some, Option.bind_some, Option.bind_some, j.fold_cons]
          rw [evalOf, Option.bind_assoc, itemsOf, j.fold_append _ _ (items_nonempty part inhabited.1)
            (items_of_nonempty (second :: more) (List.cons_ne_nil second more) inhabited.2), ← head, ← tail]
          congr 1
          funext value
          rw [step]

end

end Grouping
