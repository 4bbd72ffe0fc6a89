import Mathlib.Data.List.Nodup
import Mathlib.Logic.Function.Basic

set_option autoImplicit false

namespace WriteOnce

variable {κ ν α : Type} [DecidableEq κ]

abbrev Registry (κ ν : Type) := κ → Option ν

def emptyRegistry : Registry κ ν := fun _ => none

def register (key : κ) (value : ν) (registry : Registry κ ν) : Registry κ ν :=
  Function.update registry key (some value)

def Extends (old new : Registry κ ν) : Prop := ∀ key value, old key = some value → new key = some value

omit [DecidableEq κ] in
theorem extends_refl (registry : Registry κ ν) : Extends registry registry := fun _ _ found => found

omit [DecidableEq κ] in
theorem extends_trans (a b c : Registry κ ν) (ab : Extends a b) (bc : Extends b c) : Extends a c :=
  fun key value found => bc key value (ab key value found)

theorem register_extends (key : κ) (value : ν) (registry : Registry κ ν) (free : registry key = none) :
    Extends registry (register key value registry) := by
  intro other found taken
  have different : other ≠ key := by
    intro same
    rw [same, free] at taken
    cases taken
  rw [register, Function.update_of_ne different, taken]

/-- A list of entries tells the whole story of a registry: no key is written twice and the registry
holds exactly what was written. -/
structure Describes (entries : List (κ × ν)) (registry : Registry κ ν) : Prop where
  distinct : (entries.map Prod.fst).Nodup
  lookup : ∀ key value, registry key = some value ↔ (key, value) ∈ entries

omit [DecidableEq κ] in
theorem describes_empty : Describes ([] : List (κ × ν)) emptyRegistry :=
  ⟨List.nodup_nil, by simp [emptyRegistry]⟩

theorem describes_register (entries : List (κ × ν)) (registry : Registry κ ν) (key : κ) (value : ν)
    (described : Describes entries registry) (free : registry key = none) :
    Describes (entries ++ [(key, value)]) (register key value registry) := by
  have unwritten : ∀ entry ∈ entries, entry.1 ≠ key := by
    intro entry member same
    have found := (described.lookup entry.1 entry.2).mpr member
    rw [same, free] at found
    cases found
  refine ⟨?_, ?_⟩
  · rw [List.map_append, List.nodup_append]
    refine ⟨described.distinct, by simp, ?_⟩
    intro old member new fresh equal
    subst equal
    obtain ⟨entry, present, rfl⟩ := List.mem_map.mp member
    exact unwritten entry present (by simpa using fresh)
  · intro other found
    by_cases same : other = key
    · subst other
      have absent : (key, found) ∉ entries := fun member => unwritten (key, found) member rfl
      simp [register, absent, eq_comm]
    · simp [register, described.lookup, same]

omit [DecidableEq κ] in
theorem describes_writer (write : α → Option (κ × ν)) (items : List α) (registry : Registry κ ν) (key : κ) (value : ν)
    (described : Describes (items.filterMap write) registry) (held : registry key = some value) :
    ∃ past item future, items = past ++ item :: future ∧ write item = some (key, value) ∧
      ∀ other ∈ past ++ future, ∀ found, write other ≠ some (key, found) := by
  have member := (described.lookup key value).mp held
  obtain ⟨item, present, wrote⟩ := List.mem_filterMap.mp member
  obtain ⟨past, future, shape⟩ := List.append_of_mem present
  refine ⟨past, item, future, shape, wrote, ?_⟩
  have distinct := described.distinct
  rw [shape, List.filterMap_append, List.filterMap_cons_some wrote, List.map_append, List.map_cons,
    List.nodup_middle, List.nodup_cons] at distinct
  intro other elsewhere found again
  apply distinct.1
  rw [← List.map_append, ← List.filterMap_append]
  exact List.mem_map.mpr ⟨(key, found), List.mem_filterMap.mpr ⟨other, elsewhere, again⟩, rfl⟩

end WriteOnce
