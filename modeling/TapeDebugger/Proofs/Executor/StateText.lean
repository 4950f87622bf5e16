import TapeDebugger.Proofs.Executor.Reachable
import TapeDebugger.Proofs.Json.RoundTrip
import TapeDebugger.Proofs.Session.LoadedFlag
import TapeDebugger.Proofs.Text.Utf8

/-!
# The text of a state

A call of `get_state` answers with a snapshot, which a client gets to see as text.
`Snapshot.ofJson?` takes a snapshot from a JSON value, member by member, and asks for nothing but
the names and the kinds of the members. From the text of a state it has back the very snapshot that
was taken (`state_text_lossless`): the output with every character a program can write, and every
digit of every cell. That an output consists of characters is no assumption: `.` writes a scalar
value whatever the cell holds.
-/

namespace TapeDebugger

namespace Json

/-- The text of a string. -/
def text? : Json → Option String
  | .string text => some text
  | _ => none

/-- A number that is not negative. -/
def count? (value : Json) : Option Nat :=
  value.int?.bind Int.toNat?

/-- An integer that 64 bits hold. -/
def word? (value : Json) : Option Int64 :=
  value.int?.bind fun integer =>
    if (Int64.ofInt integer).toInt = integer then some (Int64.ofInt integer) else none

/-- A number without sign that 64 bits hold. -/
def unsignedWord? (value : Json) : Option UInt64 :=
  value.count?.bind fun count =>
    if (UInt64.ofNat count).toNat = count then some (UInt64.ofNat count) else none

/-- The integers of an array. -/
def words? : Json → Option (Array Int64)
  | .array items => (items.mapM word?).map List.toArray
  | _ => none

/-- A count is read back from its numeral. -/
theorem count?_nat (value : Nat) : (nat value).count? = some value := by
  rw [count?, nat_eq_int, int?_int]
  rfl

/-- A signed word is read back from its numeral, down to the least. -/
theorem word?_int (value : Int64) : (int value.toInt).word? = some value := by
  rw [word?, int?_int, Option.bind_some, Int64.ofInt_toInt, if_pos rfl]

/-- An unsigned word is read back from its numeral, up to the greatest. -/
theorem unsignedWord?_nat (value : UInt64) : (nat value.toNat).unsignedWord? = some value := by
  rw [unsignedWord?, count?_nat, Option.bind_some, UInt64.ofNat_toNat, if_pos rfl]

/-- Cells are read back from the array of their numerals. -/
theorem words?_array (values : Array Int64) :
    (array (values.toList.map fun value => int value.toInt)).words? = some values := by
  have items : ∀ words : List Int64,
      (words.map fun word => int word.toInt).mapM word? = some words := by
    intro words
    induction words with
    | nil => rfl
    | cons word words inductionHypothesis =>
        rw [List.map_cons, List.mapM_cons, word?_int, inductionHypothesis]
        rfl
  rw [words?, items, Option.map_some, Array.toArray_toList]

end Json

/-- A status is found by its name. -/
theorem Status.ofName?_name (status : Status) : ofName? status.name = some status := by
  cases status <;> decide

namespace Snapshot

/-- The snapshot that an object describes with its members. -/
def ofJson? (value : Json) : Option Snapshot := do
  let status ← value.member? "status"
  let instructionPointer ← value.member? "instructionPointer"
  let dataPointer ← value.member? "dataPointer"
  let window ← value.member? "tapeWindow"
  let windowStart ← value.member? "tapeWindowStartIndex"
  let output ← value.member? "output"
  let inputLength ← value.member? "inputBufferLength"
  let nextInstruction ← value.member? "nextInstruction"
  let totalSteps ← value.member? "totalSteps"
  return {
    status := ← status.text?.bind Status.ofName?
    instructionPointer := ← instructionPointer.count?
    dataPointer := ← dataPointer.count?
    window := ← window.words?
    windowStart := ← windowStart.count?
    output := ← output.text?
    inputLength := ← inputLength.count?
    nextInstruction := ← nextInstruction.text?
    totalSteps := ← totalSteps.unsignedWord? }

/-- A snapshot is what its JSON form describes. -/
theorem ofJson?_toJson (snapshot : Snapshot) : ofJson? snapshot.toJson = some snapshot := by
  simp [ofJson?, toJson, Json.member?, Json.text?, Status.ofName?_name, Json.count?_nat,
    Json.words?_array, Json.unsignedWord?_nat]

/-- The numbers of a snapshot are number literals. -/
theorem proper_toJson (snapshot : Snapshot) : snapshot.toJson.Proper := by
  have count : ∀ value : Nat, (Json.nat value).Proper := fun value => by
    rw [Json.nat_eq_int]
    exact .number (Json.isNumber_toString _)
  have window : (Json.array (snapshot.window.toList.map fun cell => .int cell.toInt)).Proper := by
    refine .array fun item member => ?_
    obtain ⟨cell, _, rfl⟩ := List.mem_map.mp member
    exact .number (Json.isNumber_toString _)
  refine .object ?_
  simp only [List.forall_mem_cons, count, window, Json.Proper.string, true_and]
  exact nofun

/-- A snapshot is read back from the bytes of its text. -/
theorem exists_parse? (snapshot : Snapshot) :
    ∃ json, Json.parse? (String.ofList (Utf8.decode (Utf8.ofString snapshot.toJson.indented))) =
      some json ∧ ofJson? json = some snapshot := by
  refine ⟨snapshot.toJson, ?_, snapshot.ofJson?_toJson⟩
  rw [Utf8.ofString, Utf8.decode_encode, String.ofList_toList]
  exact Json.parse?_indented snapshot.proper_toJson

end Snapshot

namespace Executor

/-- A call of `get_state` that asks for a valid radius answers with a snapshot of the session. -/
theorem exists_getState {config : SessionConfig} {executor : Executor}
    (reachable : Reachable config executor) {context polled : Context}
    (poll : context.poll = some polled) (live : polled.poll ≠ none)
    {arguments : Option Arguments} {radius : Option Int64}
    (asked : Arguments.integer? arguments "windowRadius" = .ok radius)
    (valid : ∀ given ∈ radius, 0 ≤ given) (fuel : Nat) :
    ∃ snapshot, (executor.session.state polled radius).value = some snapshot ∧
      ∃ call, executor.runTool fuel context "get_state" arguments = some call ∧
        call.result.fault = none ∧ call.result.value = .state (some snapshot) := by
  obtain ⟨connected, held⟩ := reachable.connected_and_reachable
  obtain ⟨accepted, value⟩ := Session.state_of_valid held live valid
  obtain ⟨snapshot, shown⟩ :
      ∃ snapshot, (executor.session.state polled radius).value = some snapshot := by
    rcases value with whole | ⟨_, around⟩
    · exact ⟨_, whole⟩
    · exact ⟨_, around⟩
  have routed : executor.route "get_state" = .ok .getState := executor.route_name .getState
  have request : Catalog.Entry.getState.request arguments = .ok (.state radius) := by
    rw [Catalog.Entry.request, asked]
    rfl
  refine ⟨snapshot, shown, executor.answered "get_state" .getState
    ((executor.session.state polled radius).map .state), ?_, ?_, ?_⟩
  · rw [runTool_eq connected, routed]
    simp only [poll, request]
    rfl
  · exact congrArg (Option.map CallFault.session) accepted
  · exact congrArg ToolValue.state shown

/-- The text of a state is lossless. In every reachable session, whatever valid radius is asked for,
`get_state` answers with a snapshot, and that snapshot is read back from the bytes of the text that
the answer has for a reader. -/
theorem state_text_lossless {config : SessionConfig} {executor : Executor}
    (reachable : Reachable config executor) {context polled : Context}
    (poll : context.poll = some polled) (live : polled.poll ≠ none)
    {arguments : Option Arguments} {radius : Option Int64}
    (asked : Arguments.integer? arguments "windowRadius" = .ok radius)
    (valid : ∀ given ∈ radius, 0 ≤ given) (fuel : Nat) :
    ∃ snapshot, (executor.session.state polled radius).value = some snapshot ∧
      ∃ call, executor.runTool fuel context "get_state" arguments = some call ∧
        call.result.fault = none ∧ call.result.value = .state (some snapshot) ∧
        ∃ text, call.result.text = .ok text ∧
          ∃ json, Json.parse? (String.ofList (Utf8.decode (Utf8.ofString text))) = some json ∧
            Snapshot.ofJson? json = some snapshot := by
  obtain ⟨snapshot, shown, call, returned, succeeded, value⟩ :=
    exists_getState reachable poll live asked valid fuel
  have text : call.result.text = .ok snapshot.toJson.indented := by
    rw [CallResult.text, value]
    rfl
  exact ⟨snapshot, shown, call, returned, succeeded, value, _, text, snapshot.exists_parse?⟩

/-- A program that writes a quote and a character that is escaped by its number, and leaves a cell
below zero. -/
theorem state_text_lossless_escapes :
    ∃ executor, Reachable { tapeSize := 3 } executor ∧
      ∃ call, executor.runTool 0 .background "get_state"
          (some [("windowRadius", .integer .native 1)]) = some call ∧
        ∃ text, call.result.text = .ok text ∧
          ∃ json, Json.parse? (String.ofList (Utf8.decode (Utf8.ofString text))) = some json ∧
            ∃ snapshot, Snapshot.ofJson? json = some snapshot ∧ snapshot.output = "\"<" ∧
              snapshot.window = #[60, -1] := by
  obtain ⟨session, reachable, computed⟩ : ∃ session, Session.Reachable { tapeSize := 3 } session ∧
      (session.state .background (some 1)).value.map (fun shown => (shown.output, shown.window)) =
        some ("\"<", #[60, -1]) :=
    ⟨_, @Session.Reachable.requested _ _ .background (.step 200) _
        (@Session.Reachable.requested _ _ .background
          (.load "++++++[>++++++<-]>--.++++++++++++++++++++++++++.>-".toUTF8.toList [] {}) _
          (.created rfl) rfl) rfl,
      by decide +kernel⟩
  obtain ⟨executor, made⟩ := exists_create session (by decide : Registry.isValidName "tape")
  obtain ⟨held, _⟩ := create_cases made
  cases held
  have behind : Reachable { tapeSize := 3 } executor := .created rfl reachable made
  have valid : ∀ given ∈ some (1 : Int64), 0 ≤ given := by
    intro given same
    cases same
    decide
  obtain ⟨snapshot, shown, call, returned, _, _, text, written, json, parsed, read⟩ :=
    @state_text_lossless _ _ behind .background _ rfl nofun
      (some [("windowRadius", .integer .native 1)]) _ rfl valid 0
  rw [shown, Option.map_some, Option.some.injEq, Prod.mk.injEq] at computed
  exact ⟨executor, behind, call, returned, text, written, json, parsed, snapshot, read,
    computed.1, computed.2⟩

end Executor

end TapeDebugger
