import TapeDebugger.Proofs.Json.Literals

/-!
# Reading back what was written

A JSON value that is written over several lines is read back as it was (`parse?_indented`), whatever
texts stand in it, as long as its numbers are number literals. The proof follows the value:
`ReadsBack` says of one value that it is read back wherever it stands, and an array or an object is
read back when its parts are. On one line, an object with a single number is read back
(`parse?_compact_number`).
-/

namespace TapeDebugger.Json

/-- The numbers of a value are number literals. -/
inductive Proper : Json → Prop where
  | null : Proper .null
  | bool (value : Bool) : Proper (.bool value)
  | number {literal} (isNumber : IsNumber literal) : Proper (.number literal)
  | string (text : String) : Proper (.string text)
  | array {items : List Json} (proper : ∀ item ∈ items, Proper item) : Proper (.array items)
  | object {members : List (String × Json)} (proper : ∀ entry ∈ members, Proper entry.2) :
      Proper (.object members)

/-- A value that is written at some level is read back, whatever follows it, unless that goes on
with a number. -/
def ReadsBack (value : Json) : Prop :=
  ∀ {depth fuel : Nat} {rest : List Char}, (indentedAt depth value).toList.length ≤ fuel →
    EndsNumber rest →
    parseValue fuel ((indentedAt depth value).toList ++ rest) = some (value, rest)

section Blanks

variable {fuel : Nat} {input other : List Char}

/-- Nothing depends on blanks in front of a value. -/
theorem parseValue_congr (same : skipBlanks input = skipBlanks other) :
    parseValue fuel input = parseValue fuel other := by
  cases fuel with
  | zero => rfl
  | succ fuel => simp only [parseValue, same]

/-- Nor do items depend on blanks in front of them. -/
theorem parseItems_congr (same : skipBlanks input = skipBlanks other) :
    parseItems fuel input = parseItems fuel other := by
  cases fuel with
  | zero => rfl
  | succ fuel => simp only [parseItems, parseValue_congr same]

/-- Nor do members. -/
theorem parseMembers_congr (same : skipBlanks input = skipBlanks other) :
    parseMembers fuel input = parseMembers fuel other := by
  cases fuel with
  | zero => rfl
  | succ fuel => simp only [parseMembers, same]

/-- A character that is no blank is where blanks end. -/
theorem skipBlanks_cons {first : Char} (visible : isBlank first = false) (rest : List Char) :
    skipBlanks (first :: rest) = first :: rest := by
  simp [skipBlanks, visible]

/-- Blanks are skipped at once. -/
theorem skipBlanks_skipBlanks (input : List Char) :
    skipBlanks (skipBlanks input) = skipBlanks input := by
  induction input with
  | nil => rfl
  | cons first input inductionHypothesis =>
      cases visible : isBlank first with
      | false => rw [skipBlanks_cons visible, skipBlanks_cons visible]
      | true => simpa [skipBlanks, visible] using inductionHypothesis

/-- A line break with its indentation is blank. -/
theorem skipBlanks_newline (depth : Nat) (rest : List Char) :
    skipBlanks ((newline depth).toList ++ rest) = skipBlanks rest := by
  have blank : ∀ character ∈ (newline depth).toList, isBlank character = true := by
    intro character member
    simp only [newline, String.toList_append, String.toList_ofList, List.mem_append,
      List.mem_replicate] at member
    rcases member with first | ⟨_, rfl⟩
    · obtain rfl := List.mem_singleton.mp first
      rfl
    · rfl
  exact List.dropWhile_append_of_pos blank

/-- A number does not go on in another line. -/
theorem endsNumber_newline (depth : Nat) (rest : List Char) :
    EndsNumber ((newline depth).toList ++ rest) := by
  intro next first
  obtain rfl : '\n' = next := by simpa [newline] using first
  decide

/-- A number does not go on with a character that no number has. -/
theorem endsNumber_cons (next : Char) (foreign : next.isDigit = false ∧ next ∉ ['.', 'e', 'E'])
    (rest : List Char) : EndsNumber (next :: rest) := by
  intro first same
  obtain rfl : next = first := by simpa using same
  exact foreign

end Blanks

section Layout

variable {depth : Nat}

/-- The characters of some parts, one to a line. -/
def joined (depth : Nat) (parts : List String) : List Char :=
  (String.intercalate ("," ++ newline depth) parts).toList

/-- A single part is laid out as it is. -/
theorem joined_singleton (part : String) : joined depth [part] = part.toList := by
  rw [joined, String.intercalate_singleton]

/-- A comma and a line break stand between a part and the next one. -/
theorem joined_cons_cons (part next : String) (parts : List String) :
    joined depth (part :: next :: parts) =
      part.toList ++ ',' :: ((newline depth).toList ++ joined depth (next :: parts)) := by
  have comma : ("," : String).toList = [','] := rfl
  simp only [joined, String.intercalate_cons_cons, String.toList_append, comma, List.append_assoc,
    List.cons_append, List.nil_append]

/-- Parts are laid out between their brackets. -/
theorem toList_layout (opening closing part : String) (parts : List String) :
    (layout opening closing depth (part :: parts)).toList =
      opening.toList ++ ((newline (depth + 1)).toList ++ (joined (depth + 1) (part :: parts) ++
        ((newline depth).toList ++ closing.toList))) := by
  simp only [layout, joined, String.toList_append, List.append_assoc]

end Layout

section Parts

variable {depth level fuel : Nat} {rest : List Char}

/-- The items of an array are read back one after the other. -/
theorem parseItems_joined {item : Json} {items : List Json}
    (each : ∀ next ∈ item :: items, ReadsBack next)
    (enough : (joined depth (indentedItems depth (item :: items))).length < fuel) :
    parseItems fuel (joined depth (indentedItems depth (item :: items)) ++
        ((newline level).toList ++ ']' :: rest)) =
      some (item :: items, rest) := by
  induction items generalizing item fuel with
  | nil =>
      obtain ⟨fuel, rfl⟩ := Nat.exists_eq_add_one.mpr (Nat.zero_lt_of_lt enough)
      rw [indentedItems, indentedItems, joined_singleton] at enough ⊢
      rw [parseItems, each item List.mem_cons_self (Nat.le_of_lt_succ enough)
        (endsNumber_newline level _)]
      simp only [skipBlanks_newline]
      rfl
  | cons next items inductionHypothesis =>
      obtain ⟨fuel, rfl⟩ := Nat.exists_eq_add_one.mpr (Nat.zero_lt_of_lt enough)
      rw [indentedItems, indentedItems, joined_cons_cons] at enough ⊢
      rw [← indentedItems, List.length_append, List.length_cons, List.length_append] at enough
      have others := @inductionHypothesis fuel next
        (fun later member => each later (List.mem_cons_of_mem _ member)) (by omega)
      rw [← indentedItems, List.append_assoc, List.cons_append, List.append_assoc, parseItems,
        each item List.mem_cons_self (by omega) (endsNumber_cons ',' (by decide) _)]
      simp only [@skipBlanks_cons ',' rfl, parseItems_congr (skipBlanks_newline depth _),
        others]
      rfl

/-- What is read behind the value of a member. -/
def membersBehind (fuel : Nat) (entry : String × Json) (after : List Char) :
    Option (List (String × Json) × List Char) :=
  match skipBlanks after with
  | ',' :: rest => (parseMembers fuel rest).map fun (members, rest) => (entry :: members, rest)
  | '\x7d' :: rest => some ([entry], rest)
  | _ => none

/-- A member is read back with its name. -/
theorem parseMembers_member (name : String) {value : Json} {after : List Char}
    (reads : ReadsBack value) (enough : (indentedAt depth value).toList.length ≤ fuel)
    (ends : EndsNumber after) :
    parseMembers (fuel + 1)
        ((quoted name ++ ": " ++ indentedAt depth value).toList ++ after) =
      membersBehind fuel (name, value) after := by
  obtain ⟨body, written, read⟩ :=
    toList_quoted_append name (':' :: ' ' :: ((indentedAt depth value).toList ++ after))
  have input : (quoted name ++ ": " ++ indentedAt depth value).toList ++ after = '"' :: body := by
    rw [← written]
    simp
  have blank : skipBlanks (' ' :: ((indentedAt depth value).toList ++ after)) =
      skipBlanks ((indentedAt depth value).toList ++ after) := rfl
  rw [input, parseMembers, skipBlanks_cons rfl]
  simp only [read, @skipBlanks_cons ':' rfl, parseValue_congr blank, reads enough ends]
  rfl

/-- The members of an object are read back one after the other, each behind its name. -/
theorem parseMembers_joined {name : String} {value : Json} {members : List (String × Json)}
    (each : ∀ entry ∈ (name, value) :: members, ReadsBack entry.2)
    (enough : (joined depth (indentedMembers depth ((name, value) :: members))).length < fuel) :
    parseMembers fuel (joined depth (indentedMembers depth ((name, value) :: members)) ++
        ((newline level).toList ++ '\x7d' :: rest)) =
      some ((name, value) :: members, rest) := by
  induction members generalizing name value fuel with
  | nil =>
      obtain ⟨fuel, rfl⟩ := Nat.exists_eq_add_one.mpr (Nat.zero_lt_of_lt enough)
      have first : ReadsBack value := each (name, value) List.mem_cons_self
      rw [indentedMembers, indentedMembers, joined_singleton] at enough ⊢
      rw [String.toList_append, List.length_append] at enough
      rw [parseMembers_member name first (by omega) (endsNumber_newline level _), membersBehind,
        skipBlanks_newline]
      rfl
  | cons next members inductionHypothesis =>
      obtain ⟨fuel, rfl⟩ := Nat.exists_eq_add_one.mpr (Nat.zero_lt_of_lt enough)
      have first : ReadsBack value := each (name, value) List.mem_cons_self
      rw [indentedMembers, indentedMembers, joined_cons_cons] at enough ⊢
      rw [← indentedMembers, List.length_append, List.length_cons, List.length_append,
        String.toList_append, List.length_append] at enough
      have others := @inductionHypothesis fuel next.1 next.2
        (fun later member => each later (List.mem_cons_of_mem _ member)) (by omega)
      rw [← indentedMembers, List.append_assoc, List.cons_append, List.append_assoc,
        parseMembers_member name first (by omega) (endsNumber_cons ',' (by decide) _),
        membersBehind, @skipBlanks_cons ',' rfl]
      simp only [parseMembers_congr (skipBlanks_newline depth _), others]
      rfl

end Parts

section Values

variable {fuel : Nat} {input rest : List Char}

/-- No value starts with a closing bracket, and so no array has items that do. -/
theorem parseItems_closing (closing : skipBlanks input = ']' :: rest) :
    parseItems fuel input = none := by
  have noValue : ∀ fuel, parseValue fuel input = none := by
    intro fuel
    cases fuel with
    | zero => rfl
    | succ fuel =>
        rw [parseValue, closing]
        rfl
  cases fuel with
  | zero => rfl
  | succ fuel => rw [parseItems, noValue]

/-- No member starts with a closing brace. -/
theorem parseMembers_closing (closing : skipBlanks input = '\x7d' :: rest) :
    parseMembers fuel input = none := by
  cases fuel with
  | zero => rfl
  | succ fuel =>
      rw [parseMembers, closing]
      rfl

/-- Items behind an opening bracket are an array. -/
theorem parseValue_array {items : List Json} (read : parseItems fuel input = some (items, rest)) :
    parseValue (fuel + 1) ('[' :: input) = some (.array items, rest) := by
  have same := @parseItems_congr fuel _ _ (skipBlanks_skipBlanks input)
  simp only [parseValue, @skipBlanks_cons '[' rfl]
  split
  case h_1 closing =>
      rw [parseItems_closing closing] at read
      cases read
  case h_2 =>
      rw [same, read]
      rfl

/-- Members behind an opening brace are an object. -/
theorem parseValue_object {members : List (String × Json)}
    (read : parseMembers fuel input = some (members, rest)) :
    parseValue (fuel + 1) ('\x7b' :: input) = some (.object members, rest) := by
  have same := @parseMembers_congr fuel _ _ (skipBlanks_skipBlanks input)
  simp only [parseValue, @skipBlanks_cons '\x7b' rfl]
  split
  case h_1 closing =>
      rw [parseMembers_closing closing] at read
      cases read
  case h_2 =>
      rw [same, read]
      rfl

/-- A number literal is a value. -/
theorem parseValue_number {literal : String}
    (parsed : parseNumber input = some (literal, rest)) :
    parseValue (fuel + 1) input = some (.number literal, rest) := by
  obtain ⟨first, following, rfl, starts⟩ := exists_head_of_parseNumber parsed
  have visible : isBlank first = false := by
    simp only [isBlank, Bool.or_eq_false_iff, beq_eq_false_iff_ne]
    refine ⟨⟨⟨?_, ?_⟩, ?_⟩, ?_⟩ <;>
    · rintro rfl
      exact absurd starts (by decide)
  rw [parseValue, skipBlanks_cons visible]
  split
  case h_1 same | h_2 same | h_3 same | h_4 same | h_5 same | h_6 same =>
      obtain ⟨rfl, _⟩ := List.cons.inj same
      exact absurd starts (by decide)
  case h_7 =>
      rw [parsed]
      rfl

/-- A string is read back, whatever characters it has. -/
theorem readsBack_string (text : String) : ReadsBack (.string text) := by
  intro depth fuel rest enough _
  have nonempty : 0 < (indentedAt depth (.string text)).toList.length := by
    simp [indentedAt, quoted]
  obtain ⟨fuel, rfl⟩ := Nat.exists_eq_add_one.mpr (Nat.lt_of_lt_of_le nonempty enough)
  obtain ⟨body, written, read⟩ := toList_quoted_append text rest
  rw [indentedAt, written, parseValue, skipBlanks_cons rfl]
  simp only [read]
  rfl

/-- An array is read back when its items are. -/
theorem readsBack_array {items : List Json} (each : ∀ item ∈ items, ReadsBack item) :
    ReadsBack (.array items) := by
  intro depth fuel rest enough _
  cases items with
  | nil =>
      have written : (indentedAt depth (.array [])).toList = ['[', ']'] := by
        rw [indentedAt, indentedItems, layout, String.toList_append]
        rfl
      rw [written] at enough ⊢
      obtain ⟨fuel, rfl⟩ := Nat.exists_eq_add_one.mpr (Nat.zero_lt_of_lt enough)
      rfl
  | cons item items =>
      have written : (indentedAt depth (.array (item :: items))).toList =
          '[' :: ((newline (depth + 1)).toList ++
            (joined (depth + 1) (indentedItems (depth + 1) (item :: items)) ++
              ((newline depth).toList ++ [']']))) := by
        rw [indentedAt, indentedItems, toList_layout]
        rfl
      rw [written] at enough ⊢
      obtain ⟨fuel, rfl⟩ := Nat.exists_eq_add_one.mpr (Nat.zero_lt_of_lt enough)
      simp only [List.length_cons, List.length_append] at enough
      have read := @parseItems_joined (depth + 1) depth fuel rest item items each (by omega)
      rw [← parseItems_congr (skipBlanks_newline (depth + 1) _)] at read
      simpa only [List.cons_append, List.append_assoc, List.nil_append] using parseValue_array read

/-- An object is read back when the values of its members are. -/
theorem readsBack_object {members : List (String × Json)}
    (each : ∀ entry ∈ members, ReadsBack entry.2) : ReadsBack (.object members) := by
  intro depth fuel rest enough _
  cases members with
  | nil =>
      have written : (indentedAt depth (.object [])).toList = ['\x7b', '\x7d'] := by
        rw [indentedAt, indentedMembers, layout, String.toList_append]
        rfl
      rw [written] at enough ⊢
      obtain ⟨fuel, rfl⟩ := Nat.exists_eq_add_one.mpr (Nat.zero_lt_of_lt enough)
      rfl
  | cons entry members =>
      obtain ⟨name, value⟩ := entry
      have written : (indentedAt depth (.object ((name, value) :: members))).toList =
          '\x7b' :: ((newline (depth + 1)).toList ++
            (joined (depth + 1) (indentedMembers (depth + 1) ((name, value) :: members)) ++
              ((newline depth).toList ++ ['\x7d']))) := by
        rw [indentedAt, indentedMembers, toList_layout]
        rfl
      rw [written] at enough ⊢
      obtain ⟨fuel, rfl⟩ := Nat.exists_eq_add_one.mpr (Nat.zero_lt_of_lt enough)
      simp only [List.length_cons, List.length_append] at enough
      have read := @parseMembers_joined (depth + 1) depth fuel rest name value members each
        (by omega)
      rw [← parseMembers_congr (skipBlanks_newline (depth + 1) _)] at read
      simpa only [List.cons_append, List.append_assoc, List.nil_append] using
        parseValue_object read

/-- Every proper value is read back. -/
theorem Proper.readsBack {value : Json} (proper : Proper value) : ReadsBack value := by
  induction proper with
  | null =>
      intro depth fuel rest enough _
      rw [indentedAt] at enough ⊢
      obtain ⟨fuel, rfl⟩ := Nat.exists_eq_add_one.mpr (Nat.zero_lt_of_lt enough)
      rfl
  | bool value =>
      intro depth fuel rest enough _
      cases value <;>
      · rw [indentedAt] at enough ⊢
        obtain ⟨fuel, rfl⟩ := Nat.exists_eq_add_one.mpr (Nat.zero_lt_of_lt enough)
        rfl
  | number isNumber =>
      intro depth fuel rest enough ends
      have read := parseNumber_append ends isNumber
      obtain ⟨first, following, written, _⟩ := exists_head_of_parseNumber isNumber
      rw [indentedAt, written] at enough
      obtain ⟨fuel, rfl⟩ := Nat.exists_eq_add_one.mpr (Nat.zero_lt_of_lt enough)
      exact parseValue_number read
  | string text => exact readsBack_string text
  | array _ each => exact readsBack_array each
  | object _ each => exact readsBack_object each

/-- A proper value is read back from its text. -/
theorem parse?_indented {value : Json} (proper : Proper value) :
    parse? value.indented = some value := by
  have read : parseValue (value.indented.toList.length + 1) (value.indented.toList ++ []) =
      some (value, []) := proper.readsBack (Nat.le_succ _) nofun
  rw [List.append_nil] at read
  simp only [parse?, read]
  rfl

end Values

end TapeDebugger.Json
