import TapeDebugger.Proofs.Session.Answers

/-!
# Two sessions side by side

A transcript is what a session returns to one query after another. Two sessions are `Alike`
when they agree in everything that execution depends on: the machine, the flag, the settings
of the tape and the cap on runs. The records, their number, the chunk size and the default
radius are left out, and so is what a log makes of the records, which no operation reads.
Every query keeps sessions alike (`Alike.returns`), and hence every script of queries does,
also when some of them only look and are put to one session alone (`Alike.reproduces`).
-/

namespace TapeDebugger

/-- The part of a configuration that execution depends on. -/
def SessionConfig.execution (config : SessionConfig) : SessionConfig :=
  { config with defaultWindowRadius := none, runChunk := 0, historySize := 0 }

namespace SessionConfig

variable {left right : SessionConfig}

/-- The settings of the tape belong to what execution depends on. -/
theorem tapeSettings_eq (same : left.execution = right.execution) (overrides : TapeOverrides) :
    left.tapeSettings overrides = right.tapeSettings overrides :=
  congrArg (·.tapeSettings overrides) same

/-- So does the cap on runs. -/
theorem maxRunSteps_eq (same : left.execution = right.execution) :
    left.maxRunSteps = right.maxRunSteps :=
  congrArg (·.maxRunSteps) same

/-- A run has the same budget wherever the cap is the same. -/
theorem runBudget_eq (same : left.execution = right.execution) (limit : Option Int64) :
    Session.runBudget left limit = Session.runBudget right limit := by
  simp only [Session.runBudget, maxRunSteps_eq same]

end SessionConfig

namespace Session

/-- What is asked of a session: an operation under a context, or its records. -/
inductive Query where
  | operation (context : Context) (request : Request)
  | history

/-- What a query returns. -/
inductive Response where
  | outcome (value : Answer) (fault : Option SessionFault)
  | history (records : List Record)
deriving DecidableEq

/-- A query returns `response` and leaves the session `next`. Only a run may fail to return. -/
def Query.Returns (session : Session) : Query → Response → (next : Session) → Prop
  | operation context request, response, next =>
    ∃ outcome, request.Answers session context outcome ∧
      response = .outcome outcome.value outcome.fault ∧ next = outcome.session
  | history, response, next => response = .history session.history ∧ next = session

/-- A query returns one response and leaves one session. -/
theorem Query.Returns.deterministic {session next otherNext : Session} {query : Query}
    {response otherResponse : Response} (left : query.Returns session response next)
    (right : query.Returns session otherResponse otherNext) :
    response = otherResponse ∧ next = otherNext := by
  cases query with
  | operation context request =>
      obtain ⟨outcome, answered, rfl, rfl⟩ := left
      obtain ⟨other, otherAnswered, rfl, rfl⟩ := right
      obtain rfl := answered.deterministic otherAnswered
      exact ⟨rfl, rfl⟩
  | history =>
      obtain ⟨rfl, rfl⟩ := left
      obtain ⟨rfl, rfl⟩ := right
      exact ⟨rfl, rfl⟩

/-- The queries return these responses one after another, and leave the session `final`. -/
inductive Transcript : Session → List Query → List Response → (final : Session) → Prop where
  | nil {session} : Transcript session [] [] session
  | cons {session query queries response responses next final}
      (first : query.Returns session response next)
      (rest : Transcript next queries responses final) :
      Transcript session (query :: queries) (response :: responses) final

/-- What the queries return, when each is given the same fuel. -/
def replay? (fuel : Nat) : Session → List Query → Option (List Response × Session)
  | session, [] => some ([], session)
  | session, .history :: queries =>
    (replay? fuel session queries).map fun (responses, final) =>
      (.history session.history :: responses, final)
  | session, .operation context request :: queries =>
    (request.perform fuel session context).bind fun outcome =>
      (replay? fuel outcome.session queries).map fun (responses, final) =>
        (.outcome outcome.value outcome.fault :: responses, final)

/-- What is computed is a transcript. -/
theorem transcript_of_replay? {fuel : Nat} {session final : Session} {queries : List Query}
    {responses : List Response}
    (computed : replay? fuel session queries = some (responses, final)) :
    Transcript session queries responses final := by
  induction queries generalizing session responses with
  | nil =>
      cases computed
      exact .nil
  | cons query queries inductionHypothesis =>
      cases query with
      | history =>
          obtain ⟨⟨later, last⟩, rest, same⟩ := Option.map_eq_some_iff.mp computed
          cases same
          exact .cons ⟨rfl, rfl⟩ (inductionHypothesis rest)
      | operation context request =>
          obtain ⟨outcome, performed, continued⟩ := Option.bind_eq_some_iff.mp computed
          obtain ⟨⟨later, last⟩, rest, same⟩ := Option.map_eq_some_iff.mp continued
          cases same
          exact .cons ⟨outcome, ⟨fuel, performed⟩, rfl, rfl⟩ (inductionHypothesis rest)

/-- A session answers a list of queries in one way. -/
theorem Transcript.deterministic {session final otherFinal : Session} {queries : List Query}
    {responses otherResponses : List Response} (left : Transcript session queries responses final)
    (right : Transcript session queries otherResponses otherFinal) :
    responses = otherResponses ∧ final = otherFinal := by
  induction left generalizing otherResponses with
  | nil =>
      cases right
      exact ⟨rfl, rfl⟩
  | cons first _ inductionHypothesis =>
      cases right with
      | cons otherFirst otherRest =>
          obtain ⟨rfl, rfl⟩ := first.deterministic otherFirst
          obtain ⟨rfl, rfl⟩ := inductionHypothesis otherRest
          exact ⟨rfl, rfl⟩

/-- The sessions agree in all that execution depends on, and both execute runs in chunks. -/
structure Alike (left right : Session) : Prop where
  execution_eq : left.config.execution = right.config.execution
  machine_eq : left.machine = right.machine
  loaded_eq : left.loaded = right.loaded
  left_chunk_pos : 0 < left.config.runChunk.toNatClampNeg
  right_chunk_pos : 0 < right.config.runChunk.toNatClampNeg

/-- The outcomes leave sessions that are alike, and report the same. -/
structure Matches {α : Type} (left right : Outcome α) : Prop where
  alike : left.session.Alike right.session
  value_eq : left.value = right.value
  fault_eq : left.fault = right.fault

/-- Outcomes that match still do when their values are converted. -/
theorem Matches.map {α β : Type} {left right : Outcome α} (matching : Matches left right)
    (convert : α → β) : Matches (left.map convert) (right.map convert) where
  alike := matching.alike
  value_eq := congrArg convert matching.value_eq
  fault_eq := matching.fault_eq

namespace Alike

variable {left right : Session}

/-- Being alike does not depend on the order of the sessions. -/
theorem symm (alike : left.Alike right) : right.Alike left where
  execution_eq := alike.execution_eq.symm
  machine_eq := alike.machine_eq.symm
  loaded_eq := alike.loaded_eq.symm
  left_chunk_pos := alike.right_chunk_pos
  right_chunk_pos := alike.left_chunk_pos

/-- A session is alike to whatever is alike to one like it. -/
theorem trans {other : Session} (alike : left.Alike right) (further : right.Alike other) :
    left.Alike other where
  execution_eq := alike.execution_eq.trans further.execution_eq
  machine_eq := alike.machine_eq.trans further.machine_eq
  loaded_eq := alike.loaded_eq.trans further.loaded_eq
  left_chunk_pos := alike.left_chunk_pos
  right_chunk_pos := further.right_chunk_pos

/-- Sessions stay alike when both get the same machine and flag. -/
theorem replace (alike : left.Alike right) (machine : Machine) (loaded : Bool) :
    Alike { left with machine, loaded } { right with machine, loaded } where
  execution_eq := alike.execution_eq
  machine_eq := rfl
  loaded_eq := rfl
  left_chunk_pos := alike.left_chunk_pos
  right_chunk_pos := alike.right_chunk_pos

/-- Recording an operation does not show in what it reports. -/
theorem conclude {α : Type} (alike : left.Alike right) (context : Context)
    (operation : Operation) (executed : UInt64) (value : α) (fault : Option SessionFault) :
    Matches (left.conclude context operation executed value fault)
      (right.conclude context operation executed value fault) where
  alike := {
    execution_eq := alike.execution_eq
    machine_eq := alike.machine_eq
    loaded_eq := alike.loaded_eq
    left_chunk_pos := alike.left_chunk_pos
    right_chunk_pos := alike.right_chunk_pos }
  value_eq := rfl
  fault_eq := rfl

/-- Sessions that are alike are canceled at their entry alike, and operations that match afterwards
match as a whole. -/
theorem atEntry {α : Type} (alike : left.Alike right) (context : Context) (absent : α)
    {leftOperation rightOperation : Context → Outcome α}
    (matching : ∀ polled, Matches (leftOperation polled) (rightOperation polled)) :
    Matches (left.atEntry context absent leftOperation)
      (right.atEntry context absent rightOperation) := by
  rw [Session.atEntry, Session.atEntry]
  cases context.poll with
  | none => exact ⟨alike, rfl, rfl⟩
  | some polled => exact matching polled

/-- A load matches: what becomes of it depends on its arguments and the settings of the tape. -/
theorem load (alike : left.Alike right) (context : Context) (code input : List UInt8)
    (overrides : TapeOverrides) :
    Matches (left.load context code input overrides) (right.load context code input overrides) := by
  refine alike.atEntry context none fun polled => ?_
  rw [SessionConfig.tapeSettings_eq alike.execution_eq overrides]
  split
  · exact alike.conclude ..
  · split
    · exact alike.conclude ..
    · exact (alike.replace _ true).conclude ..

/-- A step matches. -/
theorem step (alike : left.Alike right) (context : Context) (count : Int64) :
    Matches (left.step context count) (right.step context count) := by
  refine alike.atEntry context none fun polled => ?_
  rw [alike.loaded_eq, alike.machine_eq]
  split
  · exact alike.conclude ..
  · split
    · exact alike.conclude ..
    · exact (alike.replace _ right.loaded).conclude ..

/-- Adding input matches. -/
theorem addInput (alike : left.Alike right) (context : Context) (input : List UInt8) :
    Matches (left.addInput context input) (right.addInput context input) := by
  refine alike.atEntry context none fun polled => ?_
  rw [alike.loaded_eq, alike.machine_eq]
  split
  · exact alike.conclude ..
  · exact (alike.replace _ right.loaded).conclude ..

/-- Reading the output matches. -/
theorem output (alike : left.Alike right) (context : Context) :
    Matches (left.output context) (right.output context) := by
  refine alike.atEntry context "" fun polled => ?_
  rw [alike.machine_eq]
  exact alike.conclude ..

/-- A reset matches. -/
theorem reset (alike : left.Alike right) (context : Context) :
    Matches (left.reset context) (right.reset context) := by
  refine alike.atEntry context none fun polled => ?_
  rw [alike.machine_eq]
  exact (alike.replace _ false).conclude ..

/-- A run is refused in both sessions or in none. -/
theorem runRefusal_eq (alike : left.Alike right) (limit : Option Int64) :
    left.runRefusal limit = right.runRefusal limit := by
  rw [runRefusal, runRefusal, alike.loaded_eq]

/-- Runs that ended in the same way match when they are reported. -/
theorem concludeRun (alike : left.Alike right) (capped : Bool) {ended : RunEnd}
    {outcome : Outcome (Option StepReport)}
    (returned : left.concludeRun capped ended = some outcome) :
    ∃ other, right.concludeRun capped ended = some other ∧ Matches outcome other := by
  cases ended with
  | unfinished => cases returned
  | canceled machine context =>
      cases returned
      refine ⟨_, rfl, ?_⟩
      rw [alike.machine_eq, alike.loaded_eq]
      exact (alike.replace machine right.loaded).conclude ..
  | done machine context =>
      cases returned
      refine ⟨_, rfl, ?_⟩
      rw [alike.machine_eq, alike.loaded_eq]
      exact (alike.replace machine right.loaded).conclude ..

/-- Where the chunks are the same, runs match under every context. -/
theorem run_of_chunk_eq {fuel : Nat} {context : Context} {limit : Option Int64}
    {outcome : Outcome (Option StepReport)} (alike : left.Alike right)
    (chunk : left.config.runChunk = right.config.runChunk)
    (returned : left.run fuel context limit = some outcome) :
    ∃ other, right.run fuel context limit = some other ∧ Matches outcome other := by
  rw [run_eq] at returned
  rw [run_eq, ← SessionConfig.runBudget_eq alike.execution_eq limit, ← chunk, ← alike.machine_eq,
    ← alike.runRefusal_eq limit]
  cases poll : context.poll with
  | none =>
      simp only [poll] at returned ⊢
      cases returned
      exact ⟨_, rfl, alike, rfl, rfl⟩
  | some polled =>
      cases refusal : left.runRefusal limit with
      | some fault =>
          simp only [poll, refusal] at returned ⊢
          cases returned
          exact ⟨_, rfl, alike.conclude ..⟩
      | none =>
          simp only [poll, refusal] at returned ⊢
          exact alike.concludeRun _ returned

/-- Without a cancellation runs match whatever the chunks are. -/
theorem run_of_background {limit : Option Int64} {outcome : Outcome (Option StepReport)}
    (alike : left.Alike right) (returned : left.RunReturns .background limit outcome) :
    ∃ other, right.RunReturns .background limit other ∧ Matches outcome other := by
  cases refusal : left.runRefusal limit with
  | some fault =>
      obtain ⟨fuel, returned⟩ := returned
      have rightRefusal := (alike.runRefusal_eq limit).symm.trans refusal
      rw [run_eq, poll_background, refusal] at returned
      cases returned
      refine ⟨_, ⟨fuel, ?_⟩, alike.conclude ..⟩
      rw [run_eq, poll_background, rightRefusal]
  | none =>
      obtain ⟨loaded, valid⟩ := runRefusal_eq_none_iff.mp refusal
      have rightLoaded : right.loaded = true := alike.loaded_eq ▸ loaded
      obtain ⟨final, ends, rfl⟩ := (runReturns_iff loaded alike.left_chunk_pos valid).mp returned
      rw [alike.machine_eq, SessionConfig.maxRunSteps_eq alike.execution_eq] at ends
      refine ⟨_,
        (runReturns_iff rightLoaded alike.right_chunk_pos valid).mpr ⟨final, ends, rfl⟩, ?_⟩
      rw [ranTo, ranTo, alike.machine_eq, alike.loaded_eq,
        SessionConfig.maxRunSteps_eq alike.execution_eq]
      exact (alike.replace final right.loaded).conclude ..

/-- Snapshots match where the radius is the same. -/
theorem state (alike : left.Alike right) (context : Context) {radius : Option Int64}
    (same : radius.or left.config.defaultWindowRadius =
      radius.or right.config.defaultWindowRadius) :
    Matches (left.state context radius) (right.state context radius) := by
  refine alike.atEntry context none fun polled => ?_
  rw [same, alike.machine_eq]
  split
  · exact alike.conclude ..
  · split <;> exact alike.conclude ..

end Alike

/-- Looking at the machine leaves a session like the one before. -/
theorem alike_state {session : Session} (chunkPositive : 0 < session.config.runChunk.toNatClampNeg)
    (context : Context) (radius : Option Int64) :
    session.Alike (session.state context radius).session := by
  rw [state, atEntry]
  split
  · exact ⟨rfl, rfl, rfl, chunkPositive, chunkPositive⟩
  · split
    · exact ⟨rfl, rfl, rfl, chunkPositive, chunkPositive⟩
    · split <;> exact ⟨rfl, rfl, rfl, chunkPositive, chunkPositive⟩

/-- Reading the output leaves a session like the one before. -/
theorem alike_output {session : Session} (chunkPositive : 0 < session.config.runChunk.toNatClampNeg)
    (context : Context) : session.Alike (session.output context).session := by
  rw [output, atEntry]
  split <;> exact ⟨rfl, rfl, rfl, chunkPositive, chunkPositive⟩

/-- An operation whose outcomes match answers a request alike in both sessions. -/
theorem Matches.answers {α : Type} {session : Session} {context : Context} {request : Request}
    {outcome other : Outcome α} {convert : α → Answer} {determined : Prop}
    (matching : Matches outcome other)
    (answered : request.Answers session context (other.map convert)) :
    ∃ other, request.Answers session context other ∧
      (outcome.map convert).session.Alike other.session ∧
      (determined → Matches (outcome.map convert) other) :=
  ⟨_, answered, matching.alike, fun _ => matching.map convert⟩

/-- The query is polled at the same places in both sessions, or never canceled. -/
def Query.IsPolledAlike (left right : SessionConfig) : Query → Prop
  | operation context _ => context = .background ∨ left.runChunk = right.runChunk
  | history => True

/-- What the query returns depends on the execution alone, so that sessions which are alike
give the same response. -/
def Query.IsDetermined (left right : SessionConfig) : Query → Prop
  | operation _ (.state radius) =>
    radius.or left.defaultWindowRadius = radius.or right.defaultWindowRadius
  | operation .. => True
  | history => False

namespace Alike

variable {left right : Session}

/-- A request keeps sessions alike, and the outcomes match unless a snapshot falls back on
different radii. -/
theorem answers {context : Context} {request : Request} {outcome : Outcome Answer}
    (alike : left.Alike right)
    (polled : (Query.operation context request).IsPolledAlike left.config right.config)
    (answered : request.Answers left context outcome) :
    ∃ other, request.Answers right context other ∧ outcome.session.Alike other.session ∧
      ((Query.operation context request).IsDetermined left.config right.config →
        Matches outcome other) := by
  obtain ⟨fuel, returned⟩ := answered
  cases request with
  | load code input overrides =>
      cases returned
      exact (alike.load context code input overrides).answers ⟨fuel, rfl⟩
  | step count =>
      cases returned
      exact (alike.step context count).answers ⟨fuel, rfl⟩
  | run limit =>
      obtain ⟨ran, ended, rfl⟩ := Option.map_eq_some_iff.mp returned
      obtain ⟨other, ⟨otherFuel, otherRan⟩, matching⟩ : ∃ other,
          right.RunReturns context limit other ∧ Matches ran other := by
        rcases polled with rfl | chunk
        · exact alike.run_of_background ⟨fuel, ended⟩
        · obtain ⟨other, otherRan, matching⟩ := alike.run_of_chunk_eq chunk ended
          exact ⟨other, ⟨fuel, otherRan⟩, matching⟩
      have answered : (Request.run limit).perform otherFuel right context =
          some (other.map .executed) := by
        rw [Request.perform, otherRan, Option.map_some]
      exact matching.answers ⟨otherFuel, answered⟩
  | addInput input =>
      cases returned
      exact (alike.addInput context input).answers ⟨fuel, rfl⟩
  | state radius =>
      cases returned
      refine ⟨_, ⟨fuel, rfl⟩, ?_, fun same => (alike.state context same).map Answer.state⟩
      have leftAfter := alike_state alike.left_chunk_pos context radius
      exact leftAfter.symm.trans (alike.trans (alike_state alike.right_chunk_pos context radius))
  | output =>
      cases returned
      exact (alike.output context).answers ⟨fuel, rfl⟩
  | reset =>
      cases returned
      exact (alike.reset context).answers ⟨fuel, rfl⟩

/-- A query keeps sessions alike, and returns the same where its response is determined. -/
theorem returns {query : Query} {response : Response} {next : Session}
    (alike : left.Alike right) (polled : query.IsPolledAlike left.config right.config)
    (returned : query.Returns left response next) :
    ∃ otherResponse otherNext, query.Returns right otherResponse otherNext ∧
      next.Alike otherNext ∧
      (query.IsDetermined left.config right.config → response = otherResponse) := by
  cases query with
  | operation context request =>
      obtain ⟨outcome, answered, rfl, rfl⟩ := returned
      obtain ⟨other, otherAnswered, after, matching⟩ := alike.answers polled answered
      refine ⟨_, _, ⟨other, otherAnswered, rfl, rfl⟩, after, ?_⟩
      intro determined
      rw [(matching determined).value_eq, (matching determined).fault_eq]
  | history =>
      obtain ⟨rfl, rfl⟩ := returned
      exact ⟨_, _, ⟨rfl, rfl⟩, alike, fun determined => determined.elim⟩

end Alike

/-- No query changes the configuration. -/
theorem Query.Returns.config_eq {session next : Session} {query : Query} {response : Response}
    (returned : query.Returns session response next) : next.config = session.config := by
  cases query with
  | operation context request =>
      obtain ⟨outcome, answered, _, rfl⟩ := returned
      exact answered.returns.config_eq
  | history =>
      obtain ⟨_, rfl⟩ := returned
      rfl

/-- A query that only looks, and is never canceled. -/
inductive Observation where
  | state (radius : Option Int64)
  | output
  | history

/-- An observation among the queries. -/
def Observation.query : Observation → Query
  | state radius => .operation .background (.state radius)
  | output => .operation .background .output
  | history => .history

/-- An observation returns and leaves a session like the one before. -/
theorem Observation.returns {session : Session} (look : Observation)
    (chunkPositive : 0 < session.config.runChunk.toNatClampNeg) :
    ∃ response next, look.query.Returns session response next ∧ session.Alike next := by
  cases look with
  | state radius =>
      exact ⟨_, _, ⟨_, ⟨0, rfl⟩, rfl, rfl⟩, alike_state chunkPositive .background radius⟩
  | output => exact ⟨_, _, ⟨_, ⟨0, rfl⟩, rfl, rfl⟩, alike_output chunkPositive .background⟩
  | history => exact ⟨_, _, ⟨rfl, rfl⟩, rfl, rfl, rfl, chunkPositive, chunkPositive⟩

/-- A place in a script for two sessions. Only observations may be put to one of them alone. -/
inductive Slot where
  | both (query : Query)
  | leftOnly (look : Observation)
  | rightOnly (look : Observation)

/-- The queries that a script puts to the first session. -/
def leftScript : List Slot → List Query
  | [] => []
  | .both query :: slots => query :: leftScript slots
  | .leftOnly look :: slots => look.query :: leftScript slots
  | .rightOnly _ :: slots => leftScript slots

/-- The queries that a script puts to the second session. -/
def rightScript : List Slot → List Query
  | [] => []
  | .both query :: slots => query :: rightScript slots
  | .leftOnly _ :: slots => rightScript slots
  | .rightOnly look :: slots => look.query :: rightScript slots

/-- The responses of two sessions to a script are the same wherever both were asked a query
that is compared. -/
inductive Agree (compared : Query → Prop) :
    List Slot → (left right : List Response) → Prop where
  | nil : Agree compared [] [] []
  | both {query slots response otherResponse left right}
      (same : compared query → response = otherResponse)
      (rest : Agree compared slots left right) :
      Agree compared (.both query :: slots) (response :: left) (otherResponse :: right)
  | leftOnly {look slots response left right} (rest : Agree compared slots left right) :
      Agree compared (.leftOnly look :: slots) (response :: left) right
  | rightOnly {look slots response left right} (rest : Agree compared slots left right) :
      Agree compared (.rightOnly look :: slots) left (response :: right)

/-- Whenever the first session returns from all its queries, the second does, in one way only;
the responses agree, and so do the machines and flags at the end. -/
def Reproduces (compared : Query → Prop) (slots : List Slot) (left right : Session) : Prop :=
  ∀ responses final, Transcript left (leftScript slots) responses final →
    ∃ otherResponses otherFinal,
      (∀ returned last, Transcript right (rightScript slots) returned last ↔
        returned = otherResponses ∧ last = otherFinal) ∧
      Agree compared slots responses otherResponses ∧
      final.machine = otherFinal.machine ∧ final.loaded = otherFinal.loaded

section Scripts

variable {left right : Session} {leftConfig rightConfig : SessionConfig} {compared : Query → Prop}
  {slots : List Slot}

/-- A transcript of one session is matched by one of any session that is alike. -/
theorem Alike.transcript {responses : List Response} {final : Session}
    (alike : left.Alike right) (leftHas : left.config = leftConfig)
    (rightHas : right.config = rightConfig)
    (polled : ∀ query, .both query ∈ slots → query.IsPolledAlike leftConfig rightConfig)
    (determined : ∀ query, compared query → query.IsDetermined leftConfig rightConfig)
    (transcript : Transcript left (leftScript slots) responses final) :
    ∃ otherResponses otherFinal, Transcript right (rightScript slots) otherResponses otherFinal ∧
      final.Alike otherFinal ∧ Agree compared slots responses otherResponses := by
  induction slots generalizing left right responses with
  | nil =>
      cases transcript
      exact ⟨[], right, .nil, alike, .nil⟩
  | cons slot slots inductionHypothesis =>
      have later : ∀ query, .both query ∈ slots → query.IsPolledAlike leftConfig rightConfig :=
        fun query member => polled query (List.mem_cons_of_mem _ member)
      cases slot with
      | both query =>
          cases transcript with
          | cons first rest =>
              subst leftHas rightHas
              have here := polled query (List.mem_cons_self ..)
              obtain ⟨_, _, otherFirst, after, same⟩ := alike.returns here first
              obtain ⟨_, _, otherRest, atEnd, agree⟩ := inductionHypothesis after
                first.config_eq otherFirst.config_eq later rest
              exact ⟨_, _, .cons otherFirst otherRest, atEnd,
                .both (fun asked => same (determined query asked)) agree⟩
      | leftOnly look =>
          cases transcript with
          | cons first rest =>
              obtain ⟨_, _, looked, after⟩ := look.returns alike.left_chunk_pos
              obtain ⟨_, rfl⟩ := first.deterministic looked
              obtain ⟨_, _, otherRest, atEnd, agree⟩ := inductionHypothesis
                (after.symm.trans alike) (first.config_eq.trans leftHas) rightHas later rest
              exact ⟨_, _, otherRest, atEnd, .leftOnly agree⟩
      | rightOnly look =>
          obtain ⟨_, _, looked, after⟩ := look.returns alike.right_chunk_pos
          obtain ⟨_, _, otherRest, atEnd, agree⟩ := inductionHypothesis
            (alike.trans after) leftHas (looked.config_eq.trans rightHas) later transcript
          exact ⟨_, _, .cons looked otherRest, atEnd, .rightOnly agree⟩

/-- Sessions that are alike cannot be told apart by what is compared. -/
theorem Alike.reproduces (alike : left.Alike right)
    (polled : ∀ query, .both query ∈ slots → query.IsPolledAlike left.config right.config)
    (determined : ∀ query, compared query → query.IsDetermined left.config right.config) :
    Reproduces compared slots left right := by
  intro responses final transcript
  obtain ⟨otherResponses, otherFinal, otherTranscript, atEnd, agree⟩ :=
    alike.transcript rfl rfl polled determined transcript
  refine ⟨otherResponses, otherFinal, ?_, agree, atEnd.machine_eq, atEnd.loaded_eq⟩
  intro returned last
  constructor
  · intro performed
    exact performed.deterministic otherTranscript
  · rintro ⟨rfl, rfl⟩
    exact otherTranscript

end Scripts

end Session

end TapeDebugger
