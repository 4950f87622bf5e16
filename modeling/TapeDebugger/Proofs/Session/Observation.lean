import TapeDebugger.Proofs.Session.Transcript

/-!
# Looking changes nothing

Snapshots, reading the output and listing the records are observations: they can be put into a
script or left out of it without a trace in what the other operations return. Nor does it show
how many records are retained, in which chunks runs are executed or which radius snapshots
have by default, as long as nothing is canceled.
-/

namespace TapeDebugger.Session

/-- The query is never canceled. -/
def Query.IsUncanceled : Query → Prop
  | operation context _ => context = .background
  | history => True

/-- The query asks for all that it returns: it does not list the records, and a snapshot has
a radius of its own. -/
def Query.IsExplicit : Query → Prop
  | operation _ (.state none) => False
  | operation .. => True
  | history => False

/-- An explicit query is determined under any two configurations. -/
theorem Query.IsExplicit.isDetermined {query : Query} (asked : query.IsExplicit)
    (left right : SessionConfig) : query.IsDetermined left right := by
  cases query with
  | history => exact asked
  | operation context request =>
      cases request with
      | state radius =>
          cases radius with
          | none => exact asked.elim
          | some radius => rfl
      | load | step | run | addInput | output | reset => trivial

/-- New sessions are alike when their configurations differ only in the number of records, the
chunk size and the default radius. -/
theorem alike_of_create {config other : SessionConfig} {left right : Session}
    (same : config.execution = other.execution) (leftCreated : Session.create config = .ok left)
    (rightCreated : Session.create other = .ok right) : left.Alike right := by
  have leftChunk := (Reachable.created leftCreated).runChunk_pos
  have rightChunk := (Reachable.created rightCreated).runChunk_pos
  obtain ⟨_, limits, checked, rfl⟩ := create_cases leftCreated
  obtain ⟨_, otherLimits, otherChecked, rfl⟩ := create_cases rightCreated
  have limitsSame : limits = otherLimits := by
    rw [SessionConfig.tapeSettings_eq same, otherChecked] at checked
    exact (Except.ok.inj checked).symm
  exact ⟨same, congrArg Machine.new limitsSame, rfl, leftChunk, rightChunk⟩

/-- Two new sessions whose configurations differ only in the number of records, the chunk size
and the default radius are put the same queries, none of them canceled, and each of them any
observations besides. If the first returns from all of them, so does the second, in one way
only; both return the same to every common query that asks for all that it returns, and end
with the same machine and flag. A log is written from the records that the outcomes carry and is
no part of a session, so it makes no difference which is kept. -/
theorem observations_never_influence (config : SessionConfig) (historySize runChunk : Int64)
    (defaultWindowRadius : Option Int64) {left right : Session}
    (leftCreated : Session.create config = .ok left)
    (rightCreated :
      Session.create { config with historySize, runChunk, defaultWindowRadius } = .ok right)
    (slots : List Slot) (uncanceled : ∀ query, .both query ∈ slots → query.IsUncanceled) :
    Reproduces Query.IsExplicit slots left right ∧
      Reproduces Query.IsExplicit slots right left := by
  have same : config.execution =
      { config with historySize, runChunk, defaultWindowRadius }.execution := rfl
  have alike := alike_of_create same leftCreated rightCreated
  have polled (first second : SessionConfig) :
      ∀ query, .both query ∈ slots → query.IsPolledAlike first second := by
    intro query member
    have live := uncanceled query member
    cases query with
    | history => trivial
    | operation context request => exact .inl live
  exact ⟨alike.reproduces (polled _ _) fun query asked => asked.isDetermined _ _,
    alike.symm.reproduces (polled _ _) fun query asked => asked.isDetermined _ _⟩

/-- `++.` is run in one chunk by a session whose records are listed on the way, and in chunks of
one by a session without records that is looked at before and after. The second prints the same
and has the same machine in the end. -/
theorem observations_never_influence_print :
    ∃ left right responses otherResponses final otherFinal,
      Session.create { tapeSize := 1 } = .ok left ∧
      Session.create { tapeSize := 1, historySize := -1, runChunk := 1,
                       defaultWindowRadius := some 0 } = .ok right ∧
      Transcript left [.operation .background (.load [43, 43, 46] [] {}), .history,
        .operation .background (.run none), .operation .background .output] responses final ∧
      Transcript right [.operation .background (.load [43, 43, 46] [] {}),
        .operation .background (.state none), .operation .background (.run none),
        .operation .background (.state none), .operation .background .output]
        otherResponses otherFinal ∧
      otherResponses[4]? = some (.outcome (.output "\x02") none) ∧
      otherFinal.machine = final.machine ∧ final.machine.steps = 3 := by
  let slots : List Slot := [.both (.operation .background (.load [43, 43, 46] [] {})),
    .leftOnly .history, .rightOnly (.state none), .both (.operation .background (.run none)),
    .rightOnly (.state none), .both (.operation .background .output)]
  have uncanceled : ∀ query, .both query ∈ slots → query.IsUncanceled := by
    intro query member
    simp only [slots, List.mem_cons, List.not_mem_nil, Slot.both.injEq, or_false, reduceCtorEq,
      false_or] at member
    rcases member with rfl | rfl | rfl <;> rfl
  obtain ⟨left, leftCreated, computed⟩ : ∃ left, Session.create { tapeSize := 1 } = .ok left ∧
      (replay? 1 left (leftScript slots)).map (fun returned =>
        (returned.1.getLast?, returned.2.machine.steps)) =
        some (some (.outcome (.output "\x02") none), 3) :=
    ⟨_, rfl, by decide +kernel⟩
  obtain ⟨⟨responses, final⟩, replayed, returned⟩ := Option.map_eq_some_iff.mp computed
  obtain ⟨printed, counted⟩ := Prod.mk.inj returned
  have transcript := transcript_of_replay? replayed
  obtain ⟨otherResponses, otherFinal, performs, agree, machine, _⟩ :=
    (observations_never_influence { tapeSize := 1 } (-1) 1 (some 0) leftCreated rfl slots
      uncanceled).1 responses final transcript
  refine ⟨left, _, responses, otherResponses, final, otherFinal, leftCreated, rfl, transcript,
    (performs _ _).mpr ⟨rfl, rfl⟩, ?_, machine.symm, counted⟩
  -- The last response of both is to the same query.
  obtain ⟨response, same, last⟩ : ∃ response, otherResponses[4]? = some response ∧
      responses.getLast? = some response := by
    simp only [slots] at agree
    cases agree with
    | both _ agree => cases agree with
      | leftOnly agree => cases agree with
        | rightOnly agree => cases agree with
          | both _ agree => cases agree with
            | rightOnly agree => cases agree with
              | both same agree => cases agree with
                | nil => exact ⟨_, rfl, congrArg some (same trivial)⟩
  rw [same, ← last, printed]

end TapeDebugger.Session
