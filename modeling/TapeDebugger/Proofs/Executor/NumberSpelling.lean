import TapeDebugger.Proofs.Decimal.AsDouble
import TapeDebugger.Proofs.Decimal.AsInteger
import TapeDebugger.Proofs.Executor.Reachable

/-!
# How a number may be spelled

A client that links the library passes doubles, one that speaks JSON number literals. Both may pass
an integer to a tool, but only doubles are judged by their value. A literal has to be plain
(`integer_call_by_spelling`): with a fraction or an exponent it is refused, whatever it denotes.
-/

namespace TapeDebugger

namespace Arguments

/-- An argument that is added last is the one that is found. -/
theorem value?_concat (arguments : Arguments) (name other : String) (datum : Datum) :
    value? (some (arguments ++ [(name, datum)])) other =
      if name = other then (match datum with | .null => none | datum => some datum)
      else value? (some arguments) other := by
  rw [value?, value?, Option.getD_some, Option.getD_some, List.reverse_append]
  by_cases same : name = other
  · subst same
    cases datum <;> simp
  · simp [same]

/-- A double is accepted by its value. -/
theorem exactInteger?_of_toInt? {number : Binary64} {integer : Int}
    (exact : number.toInt? = some integer) (small : integer.natAbs < 2 ^ 53) :
    exactInteger? number = some (Int64.ofInt integer) := by
  have bounds : -Int.pow 2 63 ≤ integer ∧ integer < Int.pow 2 63 := by
    show -9223372036854775808 ≤ integer ∧ integer < 9223372036854775808
    omega
  rw [exactInteger?, exact]
  exact if_pos bounds

section Others

variable {name other : String} (different : name ≠ other) (arguments : Arguments) (datum : Datum)

include different

/-- An argument that is added has no part in reading another. -/
theorem text?_concat_of_ne :
    text? (some (arguments ++ [(name, datum)])) other = text? (some arguments) other := by
  rw [text?, text?, value?_concat, if_neg different]

/-- Nor in reading a text that has to be given. -/
theorem requiredText_concat_of_ne :
    requiredText (some (arguments ++ [(name, datum)])) other =
      requiredText (some arguments) other := by
  rw [requiredText, requiredText, text?_concat_of_ne different]

/-- Nor in reading an integer. -/
theorem integer?_concat_of_ne :
    integer? (some (arguments ++ [(name, datum)])) other = integer? (some arguments) other := by
  rw [integer?, integer?, value?_concat, if_neg different]

end Others

section Last

variable (arguments : Arguments) (name : String)

/-- What is read of an integer argument that is added last. -/
theorem integer?_double {number : Binary64} {integer : Int}
    (exact : number.toInt? = some integer) (small : integer.natAbs < 2 ^ 53) :
    integer? (some (arguments ++ [(name, .double number)])) name =
      .ok (some (Int64.ofInt integer)) := by
  simp only [integer?, value?_concat, if_true, exactInteger?_of_toInt? exact small]

/-- An integer that is added last is read, whatever its kind. -/
theorem integer?_integer (kind : IntegerKind) (value : Int64) :
    integer? (some (arguments ++ [(name, .integer kind value)])) name = .ok (some value) := by
  simp only [integer?, value?_concat, if_true]

/-- A literal that is added last is read when it is spelled without fraction and exponent. -/
theorem integer?_literal_of_isPlain {numeral : Decimal.Numeral} (plain : numeral.IsPlain)
    {integer : Int} (exact : numeral.value = integer) (small : integer.natAbs < 2 ^ 53) :
    integer? (some (arguments ++ [(name, .literal numeral.text)])) name =
      .ok (some (Int64.ofInt integer)) := by
  simp only [integer?, value?_concat, if_true, Decimal.Numeral.int64?_of_isPlain plain exact small]

/-- Any other literal is refused by its spelling, also when its value is an integer. -/
theorem integer?_literal_of_not_isPlain {numeral : Decimal.Numeral}
    (spelled : ¬ numeral.IsPlain) :
    integer? (some (arguments ++ [(name, .literal numeral.text)])) name =
      .error (.notInteger name numeral.text) := by
  simp only [integer?, value?_concat, if_true, Decimal.Numeral.int64?_of_not_isPlain spelled]

end Last

end Arguments

namespace Catalog

/-- What a load asks for, by what is read of its arguments. -/
def loadFrom (code : Except ArgumentFault String) (input : Except ArgumentFault (Option String))
    (size minValue maxValue : Except ArgumentFault (Option Int64)) :
    Except ArgumentFault LoadRequest := do
  let code ← code
  let input ← input
  let size ← size
  match size.filter (· < 1) with
  | some size => throw (.tapeSizeNotPositive size)
  | none =>
    let minValue ← minValue
    let maxValue ← maxValue
    let overrides := { size := size.getD 0, minValue, maxValue }
    return { code, input := input.getD "", overrides }

/-- The request of a load. -/
def LoadRequest.toRequest (asked : LoadRequest) : Session.Request :=
  .load (Utf8.ofString asked.code) (Utf8.ofString asked.input) asked.overrides

/-- A load reads the code, the input, the size and the bounds, in this order. -/
theorem request_loadCode (arguments : Option Arguments) :
    Entry.request arguments .loadCode =
      (loadFrom (Arguments.requiredText arguments "code")
        (Arguments.text? arguments "initial_input") (Arguments.integer? arguments "tapeSize")
        (Arguments.integer? arguments "minValue")
        (Arguments.integer? arguments "maxValue")).map LoadRequest.toRequest :=
  rfl

section Passes

variable {α β : Type}

/-- What becomes of an argument that cannot be read: its fault is passed on, unless there is an
earlier one, whatever is read of the argument. -/
def Passes (finish : Except ArgumentFault (Option Int64) → Except ArgumentFault α) : Prop :=
  (∃ earlier, ∀ reading, finish reading = .error earlier) ∨
    ∀ fault, finish (.error fault) = .error fault

/-- What passes a fault on still does when its result is converted. -/
theorem Passes.map {finish : Except ArgumentFault (Option Int64) → Except ArgumentFault α}
    (passes : Passes finish) (f : α → β) : Passes fun reading => (finish reading).map f := by
  obtain ⟨earlier, fails⟩ | passed := passes
  · exact .inl ⟨earlier, fun reading => congrArg (Except.map f) (fails reading)⟩
  · exact .inr fun fault => congrArg (Except.map f) (passed fault)

/-- The argument is read at once. -/
theorem passes_bind (next : Option Int64 → Except ArgumentFault α) :
    Passes fun reading => reading >>= next :=
  .inr fun _ => rfl

/-- Another argument is read first. -/
theorem passes_of_bind (first : Except ArgumentFault α)
    {later : α → Except ArgumentFault (Option Int64) → Except ArgumentFault β}
    (each : ∀ value, Passes (later value)) :
    Passes fun reading => first >>= fun value => later value reading := by
  cases first with
  | error fault => exact .inl ⟨fault, fun _ => rfl⟩
  | ok value => exact each value

variable (code : Except ArgumentFault String) (input : Except ArgumentFault (Option String))
  (size minValue maxValue : Except ArgumentFault (Option Int64))

/-- A load passes on the fault of its tape size. -/
theorem passes_size : Passes fun size => loadFrom code input size minValue maxValue :=
  passes_of_bind code fun _ => passes_of_bind input fun _ => passes_bind _

/-- A load passes on the fault of its lower bound, unless the size is at fault. -/
theorem passes_minValue : Passes fun minValue => loadFrom code input size minValue maxValue := by
  refine passes_of_bind code fun _ => passes_of_bind input fun _ =>
    passes_of_bind size fun size => ?_
  cases size.filter (· < 1) with
  | some size => exact .inl ⟨.tapeSizeNotPositive size, fun _ => rfl⟩
  | none => exact passes_bind _

/-- A load passes on the fault of its upper bound, unless the size or the lower bound is at fault.
-/
theorem passes_maxValue : Passes fun maxValue => loadFrom code input size minValue maxValue := by
  refine passes_of_bind code fun _ => passes_of_bind input fun _ =>
    passes_of_bind size fun size => ?_
  cases size.filter (· < 1) with
  | some size => exact .inl ⟨.tapeSizeNotPositive size, fun _ => rfl⟩
  | none => exact passes_of_bind minValue fun _ => passes_bind _

end Passes

/-- The parameters that take an integer. -/
inductive IntegerParameter where
  | tapeSize
  | minValue
  | maxValue
  | count
  | limit
  | windowRadius
deriving DecidableEq

namespace IntegerParameter

/-- The name of a parameter. -/
def name : IntegerParameter → String
  | tapeSize => "tapeSize"
  | minValue => "minValue"
  | maxValue => "maxValue"
  | count => "count"
  | limit => "limit"
  | windowRadius => "windowRadius"

/-- The tool that has a parameter. -/
def entry : IntegerParameter → Entry
  | tapeSize | minValue | maxValue => .loadCode
  | count => .step
  | limit => .run
  | windowRadius => .getState

/-- Whether the schema of a property asks for an integer. -/
def isInteger (property : String × Json) : Bool :=
  match property.2.member? "type" with
  | some (.string typeName) => typeName == "integer"
  | _ => false

/-- The properties of a tool's arguments for which an integer is asked. -/
def integerProperties (definition : ToolDefinition Session) : List (String × String) :=
  match definition.inputSchema.bind (·.member? "properties") with
  | some (.object properties) => (properties.filter isInteger).map (definition.name, ·.1)
  | _ => []

/-- The parameters are those for which the catalog asks an integer. -/
theorem flatMap_integerProperties :
    definitions.flatMap integerProperties =
      [tapeSize, minValue, maxValue, count, limit, windowRadius].map fun parameter =>
        (parameter.entry.name, parameter.name) :=
  rfl

/-- The request that a call makes with a parameter behind other arguments. -/
def request (parameter : IntegerParameter) (arguments : Arguments) (datum : Datum) :
    Except ArgumentFault Session.Request :=
  parameter.entry.request (some (arguments ++ [(parameter.name, datum)]))

/-- What is read of a parameter behind other arguments. -/
def reading (parameter : IntegerParameter) (arguments : Arguments) (datum : Datum) :
    Except ArgumentFault (Option Int64) :=
  Arguments.integer? (some (arguments ++ [(parameter.name, datum)])) parameter.name

/-- A request depends on what is read of a parameter, and on nothing else about it. -/
theorem request_cases (parameter : IntegerParameter) (arguments : Arguments) :
    ∃ finish, Passes finish ∧ ∀ datum,
      parameter.request arguments datum = finish (parameter.reading arguments datum) := by
  let code := Arguments.requiredText (some arguments) "code"
  let input := Arguments.text? (some arguments) "initial_input"
  let size := Arguments.integer? (some arguments) "tapeSize"
  let minValue := Arguments.integer? (some arguments) "minValue"
  let maxValue := Arguments.integer? (some arguments) "maxValue"
  cases parameter with
  | count => exact ⟨Except.map fun count => .step (count.getD 1), .inr fun _ => rfl, fun _ => rfl⟩
  | limit => exact ⟨Except.map .run, .inr fun _ => rfl, fun _ => rfl⟩
  | windowRadius => exact ⟨Except.map .state, .inr fun _ => rfl, fun _ => rfl⟩
  | tapeSize =>
      refine ⟨_, (passes_size code input minValue maxValue).map LoadRequest.toRequest,
        fun datum => ?_⟩
      simp (disch := decide) only [request, reading, entry, request_loadCode, name,
        Arguments.requiredText_concat_of_ne, Arguments.text?_concat_of_ne,
        Arguments.integer?_concat_of_ne, code, input, minValue, maxValue]
  | minValue =>
      refine ⟨_, (passes_minValue code input size maxValue).map LoadRequest.toRequest,
        fun datum => ?_⟩
      simp (disch := decide) only [request, reading, entry, request_loadCode, name,
        Arguments.requiredText_concat_of_ne, Arguments.text?_concat_of_ne,
        Arguments.integer?_concat_of_ne, code, input, size, maxValue]
  | maxValue =>
      refine ⟨_, (passes_maxValue code input size minValue).map LoadRequest.toRequest,
        fun datum => ?_⟩
      simp (disch := decide) only [request, reading, entry, request_loadCode, name,
        Arguments.requiredText_concat_of_ne, Arguments.text?_concat_of_ne,
        Arguments.integer?_concat_of_ne, code, input, size, minValue]

end IntegerParameter

end Catalog

namespace Executor

open Catalog

/-- Call a tool with a parameter behind other arguments. -/
def callWith (executor : Executor) (fuel : Nat) (context : Context) (identifier : String)
    (arguments : Arguments) (parameter : IntegerParameter) (datum : Datum) : Option CallOutcome :=
  executor.runTool fuel context identifier (some (arguments ++ [(parameter.name, datum)]))

section Calls

variable {executor : Executor} {identifier : String} {parameter : IntegerParameter}

/-- Where a tool is called, its request counts. -/
theorem callWith_eq (connected : executor.Connected)
    (routed : executor.route identifier = .ok parameter.entry) (fuel : Nat) (context : Context)
    (arguments : Arguments) (datum : Datum) :
    executor.callWith fuel context identifier arguments parameter datum =
      match context.poll with
      | none => some (executor.failed context identifier .canceled)
      | some polled =>
        match parameter.request arguments datum with
        | .error fault => some (executor.failed polled identifier (.argument fault))
        | .ok request =>
          (request.perform fuel executor.session polled).map
            (executor.answered identifier parameter.entry) := by
  rw [callWith, runTool_eq connected, routed]
  rfl

variable (connected : executor.Connected)
  (routed : executor.route identifier = .ok parameter.entry)
  (fuel : Nat) (context : Context) (arguments : Arguments)

include connected routed

/-- Two values of which the same is read make no difference to a call. -/
theorem callWith_congr {left right : Datum}
    (same : parameter.reading arguments left = parameter.reading arguments right) :
    executor.callWith fuel context identifier arguments parameter left =
      executor.callWith fuel context identifier arguments parameter right := by
  obtain ⟨finish, _, finished⟩ := parameter.request_cases arguments
  rw [callWith_eq connected routed, callWith_eq connected routed, finished, finished, same]

/-- A value that cannot be read is refused, unless the call fails for a reason that has nothing to
do with the parameter. -/
theorem callWith_of_error {datum : Datum} {fault : ArgumentFault}
    (unreadable : parameter.reading arguments datum = .error fault) :
    (∀ left right, executor.callWith fuel context identifier arguments parameter left =
        executor.callWith fuel context identifier arguments parameter right) ∨
      ∃ polled, context.poll = some polled ∧
        executor.callWith fuel context identifier arguments parameter datum =
          some (executor.failed polled identifier (.argument fault)) := by
  obtain ⟨finish, passes, finished⟩ := parameter.request_cases arguments
  simp only [callWith_eq connected routed, finished, unreadable]
  cases poll : context.poll with
  | none => exact .inl fun _ _ => rfl
  | some polled =>
      obtain ⟨earlier, fails⟩ | passed := passes
      · left
        intro left right
        simp only [fails]
      · refine .inr ⟨polled, rfl, ?_⟩
        simp only [passed]

end Calls

/-- Every number literal of JSON is a numeral. One that denotes an integer of 53 bits is read as a
double of that value, and where a tool takes an integer, a double is taken by its value. A literal
means the same if it is plain. One with a fraction or an exponent is refused, and nothing happens;
only where the call fails anyway, for being canceled or for an earlier argument, it makes no
difference what is passed. -/
theorem integer_call_by_spelling {config : SessionConfig} {executor : Executor}
    (reachable : Reachable config executor) {identifier : String} {parameter : IntegerParameter}
    (routed : executor.route identifier = .ok parameter.entry) {numeral : Decimal.Numeral}
    {integer : Int} (exact : numeral.value = integer) (small : integer.natAbs < 2 ^ 53) :
    (∀ input literal rest, Json.parseNumber input = some (literal, rest) →
        ∃ written : Decimal.Numeral, written.text = literal) ∧
      (∃ number, Decimal.double? numeral.text = some number ∧ number.toInt? = some integer) ∧
      ∀ number : Binary64, number.toInt? = some integer →
        ∀ (fuel : Nat) (context : Context) (arguments : Arguments),
          let call := executor.callWith fuel context identifier arguments parameter
          let written := Datum.ofJson (.number numeral.text)
          call (.double number) = call (.integer .bits64 (Int64.ofInt integer)) ∧
            (numeral.IsPlain → call written = call (.double number)) ∧
            (¬ numeral.IsPlain → (∀ left right, call left = call right) ∨
              ∃ polled, context.poll = some polled ∧ call written =
                some (executor.failed polled identifier
                  (.argument (.notInteger parameter.name numeral.text)))) := by
  obtain ⟨connected, _⟩ := reachable.connected_and_reachable
  refine ⟨fun _ _ _ parsed => Decimal.exists_numeral_of_parseNumber parsed,
    numeral.exists_double?_text exact small, fun number value fuel context arguments => ?_⟩
  have double := Arguments.integer?_double arguments parameter.name value small
  refine ⟨?_, fun plain => ?_, fun spelled => ?_⟩
  · have machine := Arguments.integer?_integer arguments parameter.name .bits64
      (Int64.ofInt integer)
    exact callWith_congr connected routed fuel context arguments (double.trans machine.symm)
  · have literal := Arguments.integer?_literal_of_isPlain arguments parameter.name plain exact small
    exact callWith_congr connected routed fuel context arguments (literal.trans double.symm)
  · exact callWith_of_error connected routed fuel context arguments
      (Arguments.integer?_literal_of_not_isPlain arguments parameter.name spelled)

/-- The window radius ten, written `1e1`, is taken from a double and refused from a literal. -/
theorem integer_call_by_spelling_radius :
    ∃ executor number, Reachable { tapeSize := 1 } executor ∧
      Decimal.double? "1e1" = some number ∧
      executor.runTool 0 .background "get_state" (some [("windowRadius", .double number)]) =
        executor.runTool 0 .background "get_state" (some [("windowRadius", .integer .bits64 10)]) ∧
      executor.runTool 0 .background "get_state" (some [("windowRadius", .literal "1e1")]) =
        some (executor.failed .background "get_state"
          (.argument (.notInteger "windowRadius" "1e1"))) := by
  obtain ⟨session, created⟩ : ∃ session, Session.create { tapeSize := 1 } = .ok session := ⟨_, rfl⟩
  obtain ⟨executor, made⟩ := exists_create session (by decide : Registry.isValidName "tape")
  have reachable : Reachable { tapeSize := 1 } executor := .created rfl (.created created) made
  let one : Decimal.DigitRun := ⟨['1'], List.cons_ne_nil _ _, List.forall_mem_singleton.mpr rfl⟩
  let numeral : Decimal.Numeral :=
    { negative := false
      whole := one
      fraction := none
      exponent := some { capital := false, sign := .none, run := one } }
  have written : numeral.text = "1e1" := by decide
  have exact : numeral.value = (10 : Int) := by
    show (1 : ℚ) * ((1 : Nat) * 10 ^ (1 : Int)) = (10 : Int)
    norm_num
  have spelled : ¬ numeral.IsPlain := fun plain => by cases plain.2
  obtain ⟨_, ⟨number, read, value⟩, calls⟩ := @integer_call_by_spelling _ _ reachable "get_state"
    .windowRadius (route_name executor .getState) numeral 10 exact (by decide)
  obtain ⟨double, _, literal⟩ := calls number value 0 .background []
  refine ⟨executor, number, reachable, written ▸ read, double, ?_⟩
  obtain same | ⟨polled, poll, refused⟩ := literal spelled
  · -- A truth value and a text are not refused alike.
    have kinds := same (.bool true) (.text "")
    have connected := reachable.connected_and_reachable.1
    rw [callWith_eq connected (route_name executor .getState),
      callWith_eq connected (route_name executor .getState)] at kinds
    have faults : some (some (CallFault.argument (.notNumber "windowRadius" "bool"))) =
        some (some (.argument (.notNumber "windowRadius" "string"))) :=
      congrArg (Option.map fun outcome : CallOutcome => outcome.result.fault) kinds
    exact absurd faults (by decide)
  · cases poll
    rw [written] at refused
    exact refused

/-- A single step, the count written `1.0`, is carried out when the count is a double and refused
when it is a literal, although both denote the integer one. -/
theorem step_count_by_spelling :
    ∃ executor number carriedOut refused, Reachable { tapeSize := 1 } executor ∧
      Json.parseNumber "1.0".toList = some ("1.0", []) ∧
      Decimal.double? "1.0" = some number ∧ number.toInt? = some 1 ∧
      executor.ToolReturns .background "step" (some [("count", .double number)]) carriedOut ∧
      carriedOut.result.fault = none ∧ carriedOut.record.map (·.executed) = some 1 ∧
      executor.ToolReturns .background "step" (some [("count", .ofJson (.number "1.0"))]) refused ∧
      refused.result.fault = some (.argument (.notInteger "count" "1.0")) ∧
      refused.record = none := by
  obtain ⟨session, reachable, succeeds, executed⟩ : ∃ session,
      Session.Reachable { tapeSize := 1 } session ∧
      (session.step .background 1).fault = none ∧
      (session.step .background 1).record.map (·.executed) = some 1 :=
    ⟨_, @Session.Reachable.requested _ _ .background (.load [43, 43] [] {}) _ (.created rfl) rfl,
      by decide +kernel, by decide +kernel⟩
  obtain ⟨executor, created⟩ := exists_create session (by decide : Registry.isValidName "tape")
  obtain ⟨held, connected⟩ := create_cases created
  cases held
  let number : Binary64 := ⟨0x3FF0000000000000⟩
  have value : number.toInt? = some 1 := by decide +kernel
  have asks : Entry.request (some [("count", .double number)]) .step = .ok (.step 1) :=
    congrArg (Except.map fun count : Option Int64 => Session.Request.step (count.getD 1))
      (Arguments.integer?_double [] "count" value (by decide))
  have carriesOut : executor.ToolReturns .background "step" (some [("count", .double number)])
      (executor.answered "step" .step ((executor.session.step .background 1).map .executed)) :=
    (toolReturns_iff connected).mpr (.answered (executor.route_name .step) rfl asks ⟨0, rfl⟩)
  have refuses : executor.ToolReturns .background "step"
      (some [("count", .ofJson (.number "1.0"))])
      (executor.failed .background "step" (.argument (.notInteger "count" "1.0"))) :=
    (toolReturns_iff connected).mpr (.unreadable (executor.route_name .step) rfl rfl)
  exact ⟨executor, number, _, _, .created rfl reachable created, by decide +kernel,
    by decide +kernel, value, carriesOut, congrArg (Option.map CallFault.session) succeeds,
    executed, refuses, rfl, rfl⟩

end Executor

end TapeDebugger
