import Mathlib.Data.List.Induction
import TapeDebugger.Backend.Local
import TapeDebugger.Proofs.NameMap
import TapeDebugger.Proofs.Text.ByteOrder

/-!
# What a local backend lists

A local backend finds a definition under the key that it was registered with, and lists its tool
under the name that the definition gives. A definition without a name takes its key for one, but
one with a name may be registered under another key. What is found is told by the latest change
under a key (`describe?_changed_iff`), and the tools of all that is found are listed in the order of
their names. The tools that are listed are those that are found under their names if and only if
every definition that is held has its key for a name (`listsWhatItDescribes_iff`).
-/

namespace TapeDebugger

/-- A definition as it is held under a key. -/
def ToolDefinition.named {σ : Type} (definition : ToolDefinition σ) (key : String) :
    ToolDefinition σ :=
  if definition.name.isEmpty then { definition with name := key } else definition

/-- A definition is held under its own name if it was given that name or none. -/
theorem ToolDefinition.name_named_iff {σ : Type} {definition : ToolDefinition σ} {key : String} :
    (definition.named key).name = key ↔ definition.name = "" ∨ definition.name = key := by
  rw [named]
  cases unnamed : definition.name.isEmpty <;> simp_all

namespace LocalBackend

variable {σ : Type}

/-- A change to the definitions of a backend. -/
inductive Change (σ : Type) where
  | register (key : String) (definition : ToolDefinition σ)
  | unregister (key : String)

namespace Change

/-- The key whose definition is changed. -/
def key : Change σ → String
  | register key _ | unregister key => key

/-- The definition that a change leaves under its key. -/
def left? : Change σ → Option (ToolDefinition σ)
  | register key definition => some (definition.named key)
  | unregister _ => none

/-- Make a change. -/
def apply (backend : LocalBackend σ) : Change σ → LocalBackend σ
  | register key definition => backend.register key definition
  | unregister key => backend.unregister key

end Change

/-- A new backend after a number of changes, made one after another. -/
def changed (name : String) (changes : List (Change σ)) : LocalBackend σ :=
  changes.foldl Change.apply (.new name)

/-- A definition is registered under a key, and no later change has that key. -/
def RegistersLast (changes : List (Change σ)) (key : String) (definition : ToolDefinition σ) :
    Prop :=
  ∃ earlier later, changes = earlier ++ .register key definition :: later ∧
    ∀ change ∈ later, change.key ≠ key

section Changes

variable {backend : LocalBackend σ} {name key : String} {changes : List (Change σ)}

/-- A change is seen under its key and under no other. -/
theorem describe?_apply (change : Change σ) :
    (change.apply backend).describe? key =
      if change.key = key then change.left? else backend.describe? key := by
  cases change with
  | register other definition => exact NameMap.get?_insert ..
  | unregister other => exact NameMap.get?_erase ..

/-- One change more. -/
theorem changed_concat (change : Change σ) :
    changed name (changes ++ [change]) = change.apply (changed name changes) := by
  rw [changed, List.foldl_append]
  rfl

/-- The latest change under a key counts. -/
theorem describe?_changed :
    (changed name changes).describe? key =
      (changes.reverse.find? (·.key == key)).bind Change.left? := by
  induction changes using List.reverseRecOn with
  | nil => rfl
  | append_singleton changes change inductionHypothesis =>
      rw [changed_concat, describe?_apply, inductionHypothesis, List.reverse_concat]
      by_cases same : change.key = key <;> simp [same]

/-- The latest change under a key is found from the end. -/
theorem find?_reverse_iff {change : Change σ} :
    changes.reverse.find? (·.key == key) = some change ↔
      change.key = key ∧ ∃ earlier later, changes = earlier ++ change :: later ∧
        ∀ other ∈ later, other.key ≠ key := by
  rw [List.find?_eq_some_iff_append, beq_iff_eq, and_congr_right_iff]
  intro _
  constructor
  · rintro ⟨later, earlier, split, others⟩
    refine ⟨earlier.reverse, later.reverse, ?_, by simpa using others⟩
    simpa using congrArg List.reverse split
  · rintro ⟨earlier, later, rfl, others⟩
    exact ⟨later.reverse, earlier.reverse, by simp, by simpa using others⟩

/-- What is found under a key is the definition that was registered last, under that key and with a
name. -/
theorem describe?_changed_iff {definition : ToolDefinition σ} :
    (changed name changes).describe? key = some definition ↔
      ∃ given, RegistersLast changes key given ∧ definition = given.named key := by
  rw [describe?_changed, Option.bind_eq_some_iff]
  constructor
  · rintro ⟨change, found, left⟩
    obtain ⟨same, latest⟩ := find?_reverse_iff.mp found
    cases change with
    | register other given =>
        cases same
        exact ⟨given, latest, (Option.some.inj left).symm⟩
    | unregister other => cases left
  · rintro ⟨given, latest, rfl⟩
    exact ⟨.register key given, find?_reverse_iff.mpr ⟨rfl, latest⟩, rfl⟩

end Changes

/-- One tool is listed for each key that a definition is found under, in the order of the names. -/
structure ListsOncePerKey (backend : LocalBackend σ) : Prop where
  ordered : (backend.tools.map (·.name)).Pairwise fun left right => ¬ Text.Precedes right left
  listed : ∃ keys : List String, keys.Nodup ∧
    (∀ key, key ∈ keys ↔ (backend.describe? key).isSome = true) ∧
    backend.tools.Perm
      (keys.filterMap fun key => (backend.describe? key).map (·.tool backend.name))

/-- The tools that are listed are those that are found, each under its own name. -/
structure ListsWhatItDescribes (backend : LocalBackend σ) : Prop where
  increasing : (backend.tools.map (·.name)).Pairwise Text.Precedes
  listed_iff : ∀ name, name ∈ backend.tools.map (·.name) ↔ (backend.describe? name).isSome = true
  made : ∀ tool ∈ backend.tools, ∃ definition,
    backend.describe? tool.name = some definition ∧ tool = definition.tool backend.name

section Listing

variable {backend : LocalBackend σ}

/-- The tools are those of the definitions that are held. -/
theorem tools_perm :
    backend.tools.Perm (backend.registered.values.map (·.tool backend.name)) :=
  (List.mergeSort_perm _ _).map _

/-- No tool is listed behind one of a greater name. -/
theorem pairwise_names_tools :
    (backend.tools.map (·.name)).Pairwise fun left right => ¬ Text.Precedes right left := by
  have ordered : backend.definitions.Pairwise fun left right =>
      (!decide (right.name < left.name)) = true := by
    refine List.pairwise_mergeSort ?_ ?_ _
    · intro first second third
      simp only [Bool.not_eq_true', decide_eq_false_iff_not, String.not_lt]
      exact String.le_trans
    · intro left right
      simp only [Bool.or_eq_true, Bool.not_eq_true', decide_eq_false_iff_not, String.not_lt]
      exact String.le_total left.name right.name
  rw [tools, List.map_map, List.pairwise_map]
  refine ordered.imp fun {left right} notLess less => ?_
  have smaller : right.name < left.name := Text.precedes_iff.mp less
  simp [smaller] at notLess

/-- The keys are those that a definition is found under. -/
theorem mem_names_iff {key : String} :
    key ∈ backend.registered.names ↔ (backend.describe? key).isSome = true := by
  rw [NameMap.mem_names_iff, describe?, Option.isSome_iff_exists]

/-- The tools are made from the definitions that are found. -/
theorem mem_tools_iff {tool : Tool} :
    tool ∈ backend.tools ↔
      ∃ key definition, backend.describe? key = some definition ∧
        tool = definition.tool backend.name := by
  rw [tools_perm.mem_iff]
  simp only [NameMap.values, List.map_map, List.mem_map, describe?, NameMap.get?_eq_some_iff]
  constructor
  · rintro ⟨entry, member, rfl⟩
    exact ⟨entry.1, entry.2, member, rfl⟩
  · rintro ⟨key, definition, member, rfl⟩
    exact ⟨(key, definition), member, rfl⟩

/-- Every backend lists one tool for each key. -/
theorem listsOncePerKey : backend.ListsOncePerKey where
  ordered := pairwise_names_tools
  listed := by
    refine ⟨backend.registered.names, backend.registered.nodup_names, fun _ => mem_names_iff, ?_⟩
    have found : backend.registered.names.filterMap
        (fun key => (backend.describe? key).map (·.tool backend.name)) =
          backend.registered.values.map (·.tool backend.name) := by
      rw [NameMap.names, NameMap.values, List.filterMap_map, List.map_map, ← List.filterMap_eq_map]
      refine List.filterMap_congr fun entry member => ?_
      simp [describe?, NameMap.get?_eq_some_iff.mpr member]
    exact found ▸ tools_perm

/-- Key and name have to agree for the tools that are listed to be those that are found. -/
theorem listsWhatItDescribes_iff :
    backend.ListsWhatItDescribes ↔
      ∀ key definition, backend.describe? key = some definition → definition.name = key := by
  constructor
  · intro lists key definition found
    have listed := (lists.listed_iff key).mpr (by rw [found]; rfl)
    obtain ⟨tool, member, rfl⟩ := List.mem_map.mp listed
    obtain ⟨same, foundToo, made⟩ := lists.made tool member
    cases found.symm.trans foundToo
    exact (congrArg Tool.name made).symm
  · intro named
    have made : ∀ tool ∈ backend.tools, ∃ definition,
        backend.describe? tool.name = some definition ∧ tool = definition.tool backend.name := by
      intro tool member
      obtain ⟨key, definition, found, rfl⟩ := mem_tools_iff.mp member
      have same : (definition.tool backend.name).name = key := named key definition found
      exact ⟨definition, same ▸ found, rfl⟩
    have keys : (backend.registered.values.map (·.tool backend.name)).map (·.name) =
        backend.registered.names := by
      simp only [NameMap.values, NameMap.names, List.map_map]
      refine List.map_congr_left fun entry member => ?_
      exact named entry.1 entry.2 (NameMap.get?_eq_some_iff.mpr member)
    have distinct : (backend.tools.map (·.name)).Nodup :=
      (tools_perm.map _).nodup_iff.mpr (keys ▸ backend.registered.nodup_names)
    constructor
    case increasing =>
      refine (pairwise_names_tools.and distinct).imp fun ordered => ?_
      exact Text.precedes_of_not_precedes ordered.1 (Ne.symm ordered.2)
    case listed_iff =>
      intro name
      rw [← mem_names_iff, ← keys]
      exact (tools_perm.map _).mem_iff
    case made => exact made

end Listing

/-- After any changes to its definitions, a backend finds under a key what was registered last
there, and lists one tool for each key. It lists what it finds under the same names just if no
definition is held under another key than its name. -/
theorem listing_after_changes (name : String) (changes : List (Change σ)) :
    (∀ key definition, (changed name changes).describe? key = some definition ↔
      ∃ given, RegistersLast changes key given ∧ definition = given.named key) ∧
    (changed name changes).ListsOncePerKey ∧
    ((changed name changes).ListsWhatItDescribes ↔
      ∀ key given, RegistersLast changes key given → given.name = "" ∨ given.name = key) := by
  refine ⟨fun key definition => describe?_changed_iff, listsOncePerKey, ?_⟩
  rw [listsWhatItDescribes_iff]
  simp only [describe?_changed_iff]
  constructor
  · intro named key given latest
    exact ToolDefinition.name_named_iff.mp (named key _ ⟨given, latest, rfl⟩)
  · rintro named key _ ⟨given, latest, rfl⟩
    exact ToolDefinition.name_named_iff.mpr (named key given latest)

/-- Under a key other than its name, a tool is listed that is not found, and found where none is
listed. -/
theorem listed_name_not_described :
    let definition : ToolDefinition Unit :=
      { name := "run", title := "", description := "", inputSchema := none, outputSchema := none,
        readOnly := false, tags := none, summary := "", notes := "", examples := none,
        handler := none }
    let backend := changed "tape" [.register "step" definition]
    backend.tools.map (·.name) = ["run"] ∧ backend.describe? "run" = none ∧
      backend.describe? "step" = some definition ∧ ¬ backend.ListsWhatItDescribes := by
  intro definition backend
  have found : backend.describe? "step" = some definition := rfl
  have lists : backend.ListsWhatItDescribes ↔ _ := listsWhatItDescribes_iff
  have named : definition.name ≠ "step" := by decide
  refine ⟨?_, rfl, found, fun listed => named (lists.mp listed _ _ found)⟩
  exact congrArg (List.map Tool.name ∘ List.map (·.tool "tape"))
    (List.mergeSort_singleton definition)

end LocalBackend

end TapeDebugger
