/-!
# Tool identifiers

A tool is named `namespace:tool`, or by its bare name where a default namespace
applies. Neither part is empty and neither holds a colon. `SplitsAtColon` is what
taking an identifier apart has to do, and `parse?` does it.
-/

namespace TapeDebugger.ToolId

/-- Put an identifier together; without a namespace it is the bare name. -/
def format (space tool : String) : String :=
  if space.isEmpty then tool else space ++ ":" ++ tool

/-- Take an identifier apart. The namespace of a bare name is empty. -/
def parse? (identifier : String) : Option (String × String) :=
  let characters := identifier.toList
  let left := characters.takeWhile (· != ':')
  match characters.dropWhile (· != ':') with
  | [] => if characters.isEmpty then none else some ("", identifier)
  | _ :: right =>
    if left.isEmpty || right.isEmpty || right.contains ':' then none
    else some (String.ofList left, String.ofList right)

/-- What taking an identifier apart has to do: a name without a colon has no namespace, one colon
stands between two parts that are not empty, and nothing else is an identifier. -/
structure SplitsAtColon (split : String → Option (String × String)) : Prop where
  bare {name : String} (nonempty : name ≠ "") (free : ':' ∉ name.toList) :
    split name = some ("", name)
  pair {space name : String} (spaceNonempty : space ≠ "") (nameNonempty : name ≠ "")
    (spaceFree : ':' ∉ space.toList) (nameFree : ':' ∉ name.toList) :
    split (space ++ ":" ++ name) = some (space, name)
  empty : split "" = none
  withoutSpace (name : String) : split (":" ++ name) = none
  withoutName (space : String) : split (space ++ ":") = none
  severalColons (first second third : String) :
    split (first ++ ":" ++ second ++ ":" ++ third) = none

section Parse

variable {left right : String}

/-- What has no colon is passed over in the search for one. -/
theorem takeWhile_of_free {characters : List Char} (free : ':' ∉ characters) (rest : List Char) :
    (characters ++ rest).takeWhile (· != ':') = characters ++ rest.takeWhile (· != ':') ∧
      (characters ++ rest).dropWhile (· != ':') = rest.dropWhile (· != ':') := by
  have passes : ∀ character ∈ characters, (character != ':') = true := by
    intro character member
    exact bne_iff_ne.mpr fun same => free (same ▸ member)
  exact ⟨List.takeWhile_append_of_pos passes, List.dropWhile_append_of_pos passes⟩

/-- A text without a colon is a bare name unless it is empty. -/
theorem parse?_of_free {identifier : String} (free : ':' ∉ identifier.toList) :
    parse? identifier = if identifier = "" then none else some ("", identifier) := by
  obtain ⟨_, dropped⟩ := takeWhile_of_free free []
  rw [List.append_nil, List.dropWhile_nil] at dropped
  simp only [parse?, dropped, List.isEmpty_iff, String.toList_eq_nil_iff]

/-- The first colon decides: it stands between two parts, or the identifier is malformed. -/
theorem parse?_colon (free : ':' ∉ left.toList) :
    parse? (left ++ ":" ++ right) =
      if left = "" ∨ right = "" ∨ ':' ∈ right.toList then none else some (left, right) := by
  have characters : (left ++ ":" ++ right).toList = left.toList ++ ':' :: right.toList := by
    simp [String.toList_append]
  obtain ⟨taken, dropped⟩ := takeWhile_of_free free (':' :: right.toList)
  simp only [parse?, characters, taken, dropped]
  simp [or_assoc]

/-- A text has no colon, or a first one. -/
theorem free_or_colon (identifier : String) :
    ':' ∉ identifier.toList ∨
      ∃ left right : String, ':' ∉ left.toList ∧ identifier = left ++ ":" ++ right := by
  by_cases present : ':' ∈ identifier.toList
  · obtain ⟨before, after, split, free⟩ := List.eq_append_cons_of_mem present
    refine .inr ⟨String.ofList before, String.ofList after, by simpa using free, ?_⟩
    apply String.toList_inj.mp
    simpa [String.toList_append] using split
  · exact .inl present

/-- Two colons are one too many. -/
theorem parse?_severalColons (first second third : String) :
    parse? (first ++ ":" ++ second ++ ":" ++ third) = none := by
  obtain ⟨left, right, free, several, same⟩ : ∃ left right : String, ':' ∉ left.toList ∧
      ':' ∈ right.toList ∧ first ++ ":" ++ second ++ ":" ++ third = left ++ ":" ++ right := by
    rcases free_or_colon first with free | ⟨left, right, free, rfl⟩
    · exact ⟨first, second ++ ":" ++ third, free, by simp, by simp [String.append_assoc]⟩
    · exact ⟨left, right ++ ":" ++ second ++ ":" ++ third, free, by simp,
        by simp [String.append_assoc]⟩
  rw [same, parse?_colon free, if_pos (.inr (.inr several))]

/-- Taking identifiers apart does what may be relied on. -/
theorem splitsAtColon_parse? : SplitsAtColon parse? where
  bare nonempty free := by rw [parse?_of_free free, if_neg nonempty]
  pair spaceNonempty nameNonempty spaceFree nameFree := by
    rw [parse?_colon spaceFree, if_neg (by simp [spaceNonempty, nameNonempty, nameFree])]
  empty := rfl
  withoutSpace name := by
    have blank := @parse?_colon "" name (by simp)
    rwa [if_pos (.inl rfl), String.empty_append] at blank
  withoutName space := by
    rcases free_or_colon space with free | ⟨first, second, _, rfl⟩
    · have blank := @parse?_colon space "" free
      rwa [if_pos (.inr (.inl rfl)), String.append_empty] at blank
    · simpa using parse?_severalColons first second ""
  severalColons := parse?_severalColons

end Parse

/-- A way of taking identifiers apart that may be relied on. -/
structure Splitter where
  split : String → Option (String × String)
  splitsAtColon : SplitsAtColon split

/-- Taking identifiers apart at their colon. -/
def Splitter.colon : Splitter where
  split := parse?
  splitsAtColon := splitsAtColon_parse?

end TapeDebugger.ToolId
