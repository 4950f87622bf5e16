import Mathlib.Data.List.Nodup
import TapeDebugger.NameMap

/-!
# Looking names up

Looking a name up sees through every operation on a map. As the entries are in order, a name has
one entry at most, so the entries of a map are just what is found in it.
-/

namespace TapeDebugger.NameMap

variable {α β : Type} {map : NameMap α} {name : String} {value : α}

/-- The names are listed in increasing order. -/
theorem pairwise_names (map : NameMap α) : map.names.Pairwise (· < ·) :=
  List.pairwise_map.mpr map.sorted

/-- A name has one entry at most. -/
theorem nodup_names (map : NameMap α) : map.names.Nodup := by
  refine List.Pairwise.imp ?_ map.pairwise_names
  intro left right less same
  exact String.lt_irrefl right (same ▸ less)

/-- The entries are those that are found under their names. -/
theorem get?_eq_some_iff : map.get? name = some value ↔ (name, value) ∈ map.entries := by
  constructor
  · intro found
    obtain ⟨entry, first, rfl⟩ := Option.map_eq_some_iff.mp found
    have same : entry.1 = name := by simpa using List.find?_some first
    exact same ▸ List.mem_of_find?_eq_some first
  · intro member
    obtain ⟨entry, first⟩ : ∃ entry, map.entries.find? (·.1 == name) = some entry := by
      rw [← Option.isSome_iff_exists, List.find?_isSome]
      exact ⟨_, member, beq_self_eq_true name⟩
    have named : entry.1 = name := by simpa using List.find?_some first
    have same : entry = (name, value) :=
      List.inj_on_of_nodup_map map.nodup_names (List.mem_of_find?_eq_some first) member named
    rw [get?, first, same, Option.map_some]

/-- The names that are listed are those under which something is found. -/
theorem mem_names_iff : name ∈ map.names ↔ ∃ value, map.get? name = some value := by
  simp [names, get?_eq_some_iff]

/-- A name that is not listed has no value. -/
theorem get?_eq_none_of_not_mem (absent : name ∉ map.names) : map.get? name = none :=
  Option.eq_none_iff_forall_ne_some.mpr fun value found => absent (mem_names_iff.mpr ⟨value, found⟩)

/-- Erasing a name removes its value and no other. -/
theorem get?_erase (map : NameMap α) (name other : String) :
    (map.erase name).get? other = if name = other then none else map.get? other := by
  simp only [get?, erase, List.find?_filter]
  by_cases same : name = other
  · subst same
    simp
  · rw [if_neg same]
    congr 2
    funext entry
    by_cases found : entry.1 = other
    · simp [found, Ne.symm same]
    · simp [found]

/-- Replacing every value replaces the one that is found. -/
theorem get?_mapValues (map : NameMap α) (f : String → α → β) (name : String) :
    (map.mapValues f).get? name = (map.get? name).map (f name) := by
  have named : ((fun entry : String × β => entry.1 == name) ∘
      fun entry : String × α => (entry.1, f entry.1 entry.2)) = fun entry => entry.1 == name := rfl
  rw [get?, mapValues, List.find?_map, named, get?, Option.map_map, Option.map_map]
  cases found : map.entries.find? fun entry => entry.1 == name with
  | none => rfl
  | some entry =>
      have same : entry.1 = name := by simpa using List.find?_some found
      simp [same]

end TapeDebugger.NameMap
