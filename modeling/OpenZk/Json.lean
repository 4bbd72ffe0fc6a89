import Mathlib.Data.List.Induction

set_option autoImplicit false

inductive JsonNumber where
  | posInt (value : UInt64)
  | negInt (value : Int64)
  | float (text : String)
deriving DecidableEq

inductive Json where
  | null
  | bool (value : Bool)
  | number (value : JsonNumber)
  | string (text : String)
  | array (items : List Json)
  | object (members : List (String × Json))

namespace Json

def isNull : Json → Bool
  | null => true
  | _ => false

def asU64 : Json → Option UInt64
  | number (.posInt value) => some value
  | _ => none

def member (key : String) : List (String × Json) → Option Json
  | [] => none
  | (name, value) :: rest => if name = key then some value else member key rest

def get (json : Json) (key : String) : Option Json :=
  match json with
  | object members => member key members
  | _ => none

def putMember (key : String) (value : Json) : List (String × Json) → List (String × Json)
  | [] => [(key, value)]
  | (name, old) :: rest =>
      if name = key then (key, value) :: rest
      else if key < name then (key, value) :: (name, old) :: rest
      else (name, old) :: putMember key value rest

def set (json : Json) (key : String) (value : Json) : Option Json :=
  match json with
  | object members => some (object (putMember key value members))
  -- An index into null makes an object of it.
  | null => some (object [(key, value)])
  -- Any other value has no members to assign to: the index panics.
  | _ => none

def build (entries : List (String × Json)) : Json :=
  object (entries.foldl (fun members entry => putMember entry.1 entry.2 members) [])

theorem member_put (key : String) (value : Json) (members : List (String × Json)) :
    member key (putMember key value members) = some value := by
  induction members with
  | nil => simp [putMember, member]
  | cons entry rest ih =>
      obtain ⟨name, old⟩ := entry
      by_cases same : name = key
      · simp [putMember, member, same]
      · by_cases before : key < name
        · simp [putMember, member, same, before]
        · simp [putMember, member, same, before, ih]

theorem member_put_other (key other : String) (value : Json) (different : other ≠ key) (members : List (String × Json)) :
    member other (putMember key value members) = member other members := by
  induction members with
  | nil => simp [putMember, member, different.symm]
  | cons entry rest ih =>
      obtain ⟨name, old⟩ := entry
      by_cases same : name = key
      · simp [putMember, member, same, different.symm]
      · by_cases before : key < name
        · simp [putMember, member, same, before, different.symm]
        · simp [putMember, member, same, before, ih]

theorem get_build (entries : List (String × Json)) (key : String) :
    (build entries).get key = (entries.reverse.find? fun entry => entry.1 = key).map Prod.snd := by
  rw [build, get]
  induction entries using List.reverseRecOn with
  | nil => rfl
  | append_singleton front last ih =>
      rw [List.foldl_append, List.foldl_cons, List.foldl_nil, List.reverse_append, List.reverse_singleton,
        List.singleton_append, List.find?_cons]
      by_cases same : last.1 = key
      · simp only [same, member_put, decide_true, Option.map_some]
      · simp only [same, decide_false]
        rw [member_put_other _ _ _ (Ne.symm same)]
        exact ih

theorem get_set (json updated : Json) (key : String) (value : Json) (assigned : json.set key value = some updated) :
    updated.get key = some value := by
  cases json with
  | null =>
      cases assigned
      simp [get, member]
  | object members =>
      cases assigned
      exact member_put key value members
  | bool _ => cases assigned
  | number _ => cases assigned
  | string _ => cases assigned
  | array _ => cases assigned

theorem get_set_other (json updated : Json) (key other : String) (value : Json) (different : other ≠ key)
    (assigned : json.set key value = some updated) : updated.get other = json.get other := by
  cases json with
  | null =>
      cases assigned
      simp [get, member, different.symm]
  | object members =>
      cases assigned
      exact member_put_other key other value different members
  | bool _ => cases assigned
  | number _ => cases assigned
  | string _ => cases assigned
  | array _ => cases assigned

def offered (source : Json) (key : String) : Option Json := (source.get key).filter fun value => !value.isNull

def fill (source : Json) : List (String × String) → Json → Option Json
  | [], target => some target
  | (origin, key) :: rest, target =>
      match target.get key, source.offered origin with
      | none, some value => (target.set key value).bind (fill source rest)
      | _, _ => fill source rest target

section Fill

variable {source : Json}

def offer (source : Json) (key : String) (mappings : List (String × String)) : Option Json :=
  mappings.findSome? fun mapping => if mapping.2 = key then source.offered mapping.1 else none

theorem fill_taken (origin key : String) (rest : List (String × String)) (target value : Json)
    (missing : target.get key = none) (holds : source.offered origin = some value) :
    fill source ((origin, key) :: rest) target = (target.set key value).bind (fill source rest) := by
  simp only [fill, missing, holds]

theorem fill_passed (origin key : String) (rest : List (String × String)) (target : Json)
    (kept : ¬ (target.get key = none ∧ ∃ value, source.offered origin = some value)) :
    fill source ((origin, key) :: rest) target = fill source rest target := by
  cases held : target.get key with
  | some old => simp only [fill, held]
  | none =>
      cases given : source.offered origin with
      | none => simp only [fill, held, given]
      | some value => exact absurd ⟨held, value, given⟩ kept

theorem offer_skipped (origin name key : String) (rest : List (String × String)) (held : Option Json)
    (kept : ¬ (held = none ∧ ∃ value, source.offered origin = some value)) (same : name = key) :
    held.or (source.offer key ((origin, name) :: rest)) = held.or (source.offer key rest) := by
  cases held with
  | some old => rfl
  | none =>
      have nothing : source.offered origin = none := by
        cases given : source.offered origin with
        | none => rfl
        | some value => exact absurd ⟨rfl, value, given⟩ kept
      simp [offer, same, nothing]

theorem fill_get (mappings : List (String × String)) (target merged : Json) (filled : fill source mappings target = some merged)
    (key : String) : merged.get key = (target.get key).or (source.offer key mappings) := by
  induction mappings generalizing target with
  | nil =>
      cases filled
      simp [offer]
  | cons mapping rest ih =>
      obtain ⟨origin, name⟩ := mapping
      by_cases takes : target.get name = none ∧ ∃ value, source.offered origin = some value
      · obtain ⟨missing, value, holds⟩ := takes
        rw [fill_taken origin name rest target value missing holds, Option.bind_eq_some_iff] at filled
        obtain ⟨updated, assigned, filled⟩ := filled
        rw [ih updated filled]
        by_cases same : name = key
        · subst same
          rw [get_set target updated name value assigned, missing]
          simp [offer, holds]
        · rw [get_set_other target updated name key value (Ne.symm same) assigned]
          simp [offer, same]
      · rw [fill_passed origin name rest target takes] at filled
        rw [ih target filled]
        by_cases same : name = key
        · subst same
          exact (offer_skipped origin name name rest _ takes rfl).symm
        · simp [offer, same]

end Fill

end Json
