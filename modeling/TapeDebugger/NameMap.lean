/-!
# Maps by name

Finite maps from names to values, held as a list in increasing order of name.
Whatever is listed by name in this library is listed in that order.
-/

namespace TapeDebugger

/-- Entries in increasing order of name, at most one to a name. -/
structure NameMap (α : Type) where
  entries : List (String × α)
  /-- The order of the entries, by which no two of them have one name. -/
  sorted : entries.Pairwise fun left right => left.1 < right.1
deriving Repr, DecidableEq

namespace NameMap

variable {α β : Type}

/-- The map without entries. -/
def empty : NameMap α where
  entries := []
  sorted := .nil

instance : Inhabited (NameMap α) where
  default := empty

/-- Put an entry in its place, replacing one of the same name. -/
def insertEntry (name : String) (value : α) : List (String × α) → List (String × α)
  | [] => [(name, value)]
  | (other, present) :: rest =>
    if name = other then (name, value) :: rest
    else if name < other then (name, value) :: (other, present) :: rest
    else (other, present) :: insertEntry name value rest

section Insertion

variable {name : String} {value : α} {entries : List (String × α)}

/-- Putting an entry in its place puts no name in front of a smaller one. -/
theorem lt_of_mem_insertEntry {least : String} (below : least < name)
    (others : ∀ entry ∈ entries, least < entry.1) :
    ∀ entry ∈ insertEntry name value entries, least < entry.1 := by
  induction entries with
  | nil => simpa [insertEntry] using below
  | cons entry rest inductionHypothesis =>
    obtain ⟨first, later⟩ := List.forall_mem_cons.mp others
    rw [insertEntry]
    split
    · exact List.forall_mem_cons.mpr ⟨below, later⟩
    · split
      · exact List.forall_mem_cons.mpr ⟨below, others⟩
      · exact List.forall_mem_cons.mpr ⟨first, inductionHypothesis later⟩

/-- The entries stay in order when one is put in its place. -/
theorem sorted_insertEntry (sorted : entries.Pairwise fun left right => left.1 < right.1) :
    (insertEntry name value entries).Pairwise fun left right => left.1 < right.1 := by
  induction entries with
  | nil => simp [insertEntry]
  | cons entry rest inductionHypothesis =>
    obtain ⟨present, held⟩ := entry
    obtain ⟨first, later⟩ := List.pairwise_cons.mp sorted
    rw [insertEntry]
    split
    · rename_i same
      exact List.pairwise_cons.mpr ⟨same ▸ first, later⟩
    · rename_i different
      split
      · rename_i before
        refine List.pairwise_cons.mpr ⟨List.forall_mem_cons.mpr ⟨before, ?_⟩, sorted⟩
        exact fun entry member => String.lt_trans before (first entry member)
      · rename_i notBefore
        have behind : present < name :=
          Std.lt_of_le_of_ne (String.not_lt.mp notBefore) (Ne.symm different)
        exact List.pairwise_cons.mpr
          ⟨lt_of_mem_insertEntry behind first, inductionHypothesis later⟩

/-- What is put in its place is found by its name, and nothing else is lost. -/
theorem find?_insertEntry (other : String) :
    (insertEntry name value entries).find? (fun entry => entry.1 == other) =
      if name = other then some (name, value)
      else entries.find? fun entry => entry.1 == other := by
  induction entries with
  | nil => by_cases same : name = other <;> simp [insertEntry, same]
  | cons entry rest inductionHypothesis =>
    obtain ⟨present, held⟩ := entry
    rw [insertEntry]
    by_cases replaces : name = present
    · subst replaces
      by_cases same : name = other <;> simp [same]
    · by_cases before : name < present
      · rw [if_neg replaces, if_pos before]
        by_cases same : name = other <;> simp [same]
      · rw [if_neg replaces, if_neg before, List.find?_cons, List.find?_cons]
        by_cases found : present = other
        · subst found
          simp [replaces]
        · have skipped : (present == other) = false := beq_false_of_ne found
          simp only [skipped]
          exact inductionHypothesis

end Insertion

/-- Set the value of a name. -/
def insert (map : NameMap α) (name : String) (value : α) : NameMap α where
  entries := insertEntry name value map.entries
  sorted := sorted_insertEntry map.sorted

/-- Remove a name. -/
def erase (map : NameMap α) (name : String) : NameMap α where
  entries := map.entries.filter fun entry => entry.1 != name
  sorted := map.sorted.filter _

/-- The value of a name. -/
def get? (map : NameMap α) (name : String) : Option α :=
  (map.entries.find? fun entry => entry.1 == name).map (·.2)

/-- Nothing is found in the map without entries. -/
@[simp] theorem get?_empty (name : String) : (empty : NameMap α).get? name = none :=
  rfl

/-- A map has the value that was set last for a name, and keeps all others. -/
theorem get?_insert (map : NameMap α) (name other : String) (value : α) :
    (map.insert name value).get? other = if name = other then some value else map.get? other := by
  rw [get?, insert, find?_insertEntry]
  split <;> rfl

/-- Whether a name has a value. -/
def contains (map : NameMap α) (name : String) : Bool :=
  (map.get? name).isSome

/-- The names in order. -/
def names (map : NameMap α) : List String :=
  map.entries.map (·.1)

/-- The values in order of their names. -/
def values (map : NameMap α) : List α :=
  map.entries.map (·.2)

/-- Replace every value. -/
def mapValues (map : NameMap α) (f : String → α → β) : NameMap β where
  entries := map.entries.map fun (name, value) => (name, f name value)
  sorted := List.pairwise_map.mpr map.sorted

/-- Collect entries; of two with one name the later counts. -/
def ofList (entries : List (String × α)) : NameMap α :=
  entries.foldl (fun map (name, value) => map.insert name value) empty

end NameMap

end TapeDebugger
