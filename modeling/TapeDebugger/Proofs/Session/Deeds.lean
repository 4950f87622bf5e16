import TapeDebugger.Proofs.Session.Answers

/-!
# What requests do

`Deed` says once what a request makes of the machine and of the flag beside it, what it counts
and how it fails: it is refused, loads, executes, takes input, looks or resets. A request that is
not canceled at its entry does one of these and is recorded with it (`Returns.deed`), so whatever
is kept by every deed is kept by every request.
-/

namespace TapeDebugger

namespace Machine

/-- Executing `count` instructions brings the machine to `final`, whose status is left open: the
attempt at one more instruction may have changed it, and executing none leaves it alone. -/
def Covers (count : Nat) (machine final : Machine) : Prop :=
  ∃ last, Executes count machine.resume last ∧ final = { last with status := final.status }

variable {machine final : Machine}

/-- No instruction takes a machine to itself. -/
theorem covers_refl (machine : Machine) : Covers 0 machine machine :=
  ⟨machine.resume, .refl, rfl⟩

/-- An advance covers what it counts. -/
theorem covers_advance (machine : Machine) (budget : Nat) :
    Covers (machine.advanceCount budget) machine (machine.advance budget) := by
  rcases advance_cases machine budget with
    ⟨_, same, counted⟩ | ⟨_, path, counted⟩ | ⟨_, count, _, halted, counted⟩
  · rw [same, counted]
    exact covers_refl machine
  · rw [counted]
    exact ⟨_, path, rfl⟩
  · obtain ⟨last, status, path, _, ended⟩ := halted.halted
    rw [counted, ended]
    exact ⟨last, path, rfl⟩

/-- The step counter shows what was executed, around its width. -/
theorem Covers.steps_eq {count : Nat} (covers : Covers count machine final) :
    final.steps = machine.steps + UInt64.ofNat count := by
  obtain ⟨last, path, ended⟩ := covers
  rw [ended]
  exact path.steps_eq

end Machine

namespace Session

open Machine

/-- A chunk loop leaves the machine alone or advances it. -/
theorem runChunks_cases {chunk fuel : Nat} {budget : Option Nat} {machine final : Machine}
    {context left : Context}
    (ended : runChunks chunk fuel budget machine context = .done final left ∨
      runChunks chunk fuel budget machine context = .canceled final left) :
    final = machine ∨ ∃ total, final = machine.advance total := by
  induction fuel generalizing budget machine context with
  | zero => rcases ended with done | canceled <;> contradiction
  | succ fuel inductionHypothesis =>
      cases poll : context.poll with
      | none =>
          simp only [runChunks, poll, reduceCtorEq, false_or, RunEnd.canceled.injEq] at ended
          exact .inl ended.1.symm
      | some polled =>
          rw [runChunks_succ poll] at ended
          split at ended
          · simp only [reduceCtorEq, or_false, RunEnd.done.injEq] at ended
            exact .inr ⟨_, ended.1.symm⟩
          · rcases inductionHypothesis ended with same | ⟨total, advanced⟩
            · exact .inr ⟨_, same⟩
            · rw [advance_advance] at advanced
              exact .inr ⟨_, advanced⟩

/-- The name a request is recorded under. -/
def Request.operation : Request → Operation
  | load .. => .load
  | step _ => .step
  | run _ => .run
  | addInput _ => .addInput
  | state _ => .state
  | output => .output
  | reset => .reset

/-- The request executes instructions. -/
def Request.IsExecution : Request → Prop
  | step _ | run _ => True
  | _ => False

/-- The request only shows the machine. -/
def Request.IsLook : Request → Prop
  | state _ | output => True
  | _ => False

/-- What a request makes of the machine and the flag of a session, how many instructions it
counts, and its fault. -/
inductive Deed (session : Session) :
    Request → (machine : Machine) → (loaded : Bool) → (executed : UInt64) →
    Option SessionFault → Prop where
  /-- There is no program to execute or to give input to. -/
  | lacksProgram {request} (needs : request.IsExecution ∨ ∃ input, request = .addInput input)
      (unloaded : session.loaded = false) :
      Deed session request session.machine session.loaded 0 (some .noProgram)
  /-- An argument is out of its range. A reset has none. -/
  | refuses {request range} (takesArguments : request ≠ .reset) :
      Deed session request session.machine session.loaded 0 (some (.argument range))
  /-- A new machine takes the place of the old one, also when the source does not compile. -/
  | loads {code input overrides limits}
      (limited : loadLimits session.config overrides = .ok limits) :
      Deed session (.load code input overrides) ((Machine.new limits).load code input).1 true 0
        (((Machine.new limits).load code input).2.map .unmatched)
  /-- The machine is advanced, or left alone by a run that is canceled at once. -/
  | executes {request machine fault} (execution : request.IsExecution)
      (loaded : session.loaded = true)
      (reached : machine = session.machine ∨ ∃ total, machine = session.machine.advance total)
      (ended : fault = none ∨ fault = some .canceled) :
      Deed session request machine session.loaded (machine.steps - session.machine.steps) fault
  | takesInput {input} (loaded : session.loaded = true) :
      Deed session (.addInput input) (session.machine.addInput input) session.loaded 0 none
  | looks {request} (look : request.IsLook) :
      Deed session request session.machine session.loaded 0 none
  | resets : Deed session .reset session.machine.reset false 0 none

/-- The request was canceled at its entry and changed nothing, or it has done something and was
recorded with it. -/
def DoesOrCanceled (session : Session) (context : Context) (request : Request)
    (outcome : Outcome Unit) : Prop :=
  (context.poll = none ∧
    outcome = { session, context, value := (), fault := some .canceled, record := none }) ∨
  (context.poll ≠ none ∧ ∃ machine loaded polled executed fault,
    Deed session request machine loaded executed fault ∧
    outcome = { session with machine, loaded }.conclude polled request.operation executed () fault)

section Deeds

variable {session : Session} {context : Context} {request : Request}

/-- An operation behind the poll at its entry does what it is concluded with. -/
theorem doesOrCanceled_atEntry {α : Type} {absent : α} {operation : Context → Outcome α}
    (behind : ∀ polled, ∃ machine loaded executed fault,
      Deed session request machine loaded executed fault ∧
      (operation polled).forget =
        { session with machine, loaded }.conclude polled request.operation executed () fault) :
    session.DoesOrCanceled context request (session.atEntry context absent operation).forget := by
  rw [atEntry]
  cases poll : context.poll with
  | none => exact .inl ⟨poll, rfl⟩
  | some polled =>
      obtain ⟨machine, loaded, executed, fault, deed, same⟩ := behind polled
      exact .inr ⟨by simp [poll], machine, loaded, polled, executed, fault, deed, same⟩

/-- A load does its deed or is canceled at its entry. -/
theorem doesOrCanceled_load (code input : List UInt8) (overrides : TapeOverrides) :
    session.DoesOrCanceled context (.load code input overrides)
      (session.load context code input overrides).forget := by
  rw [load_eq]
  refine doesOrCanceled_atEntry fun polled => ?_
  cases limited : loadLimits session.config overrides with
  | error range => exact ⟨_, _, _, _, .refuses nofun, rfl⟩
  | ok limits => exact ⟨_, _, _, _, .loads limited, rfl⟩

/-- So does a step. -/
theorem doesOrCanceled_step (count : Int64) :
    session.DoesOrCanceled context (.step count) (session.step context count).forget := by
  refine doesOrCanceled_atEntry fun polled => ?_
  split
  · rename_i unloaded
    exact ⟨_, _, _, _, .lacksProgram (.inl trivial) (by simpa using unloaded), rfl⟩
  · rename_i loaded
    split
    · exact ⟨_, _, _, _, .refuses nofun, rfl⟩
    · rename_i large
      have positive : 0 < count := pos_of_one_le (Int64.not_lt.mp large)
      exact ⟨_, _, _, _, .executes trivial (by simpa using loaded)
        (.inr ⟨_, step_of_pos positive⟩) (.inl rfl), rfl⟩

/-- A run is refused for want of a program or for its limit. -/
theorem deed_of_runRefusal {limit : Option Int64} {fault : SessionFault}
    (refused : session.runRefusal limit = some fault) :
    Deed session (.run limit) session.machine session.loaded 0 (some fault) := by
  rw [runRefusal] at refused
  split at refused
  · obtain ⟨count, _, rfl⟩ := Option.map_eq_some_iff.mp refused
    exact .refuses (by simp)
  · rename_i unloaded
    cases refused
    exact .lacksProgram (.inl trivial) (by simpa using unloaded)

/-- A run that returns does its deed, also when it is canceled on its way. -/
theorem doesOrCanceled_run {fuel : Nat} {limit : Option Int64}
    {outcome : Outcome (Option StepReport)}
    (returned : session.run fuel context limit = some outcome) :
    session.DoesOrCanceled context (.run limit) outcome.forget := by
  rw [run_eq] at returned
  cases poll : context.poll with
  | none =>
      simp only [poll] at returned
      cases returned
      exact .inl ⟨poll, rfl⟩
  | some polled =>
      refine .inr ⟨by simp [poll], ?_⟩
      simp only [poll] at returned
      cases refusal : session.runRefusal limit with
      | some fault =>
          simp only [refusal] at returned
          cases returned
          exact ⟨_, _, _, _, _, deed_of_runRefusal refusal, rfl⟩
      | none =>
          simp only [refusal] at returned
          have loaded := (runRefusal_eq_none_iff.mp refusal).1
          generalize loop : runChunks _ _ _ session.machine polled = ended at returned
          cases ended with
          | unfinished => cases returned
          | done machine left =>
              cases returned
              exact ⟨_, _, _, _, _,
                .executes trivial loaded (runChunks_cases (.inl loop)) (.inl rfl), rfl⟩
          | canceled machine left =>
              cases returned
              exact ⟨_, _, _, _, _,
                .executes trivial loaded (runChunks_cases (.inr loop)) (.inr rfl), rfl⟩

/-- Every request that returns was canceled at its entry, or has done one of these deeds and was
recorded with it. -/
theorem Request.Returns.doesOrCanceled {outcome : Outcome Unit}
    (returned : request.Returns session context outcome) :
    session.DoesOrCanceled context request outcome := by
  cases request with
  | load code input overrides =>
      obtain rfl : outcome = _ := returned
      exact doesOrCanceled_load code input overrides
  | step count =>
      obtain rfl : outcome = _ := returned
      exact doesOrCanceled_step count
  | run limit =>
      obtain ⟨fuel, full, ran, rfl⟩ := returned
      exact doesOrCanceled_run ran
  | addInput input =>
      obtain rfl : outcome = _ := returned
      refine doesOrCanceled_atEntry fun polled => ?_
      split
      · rename_i unloaded
        exact ⟨_, _, _, _, .lacksProgram (.inr ⟨input, rfl⟩) (by simpa using unloaded), rfl⟩
      · rename_i loaded
        exact ⟨_, _, _, _, .takesInput (by simpa using loaded), rfl⟩
  | state radius =>
      obtain rfl : outcome = _ := returned
      refine doesOrCanceled_atEntry fun polled => ?_
      split
      · exact ⟨_, _, _, _, .looks trivial, rfl⟩
      · split
        · exact ⟨_, _, _, _, .refuses nofun, rfl⟩
        · exact ⟨_, _, _, _, .looks trivial, rfl⟩
  | output =>
      obtain rfl : outcome = _ := returned
      exact doesOrCanceled_atEntry fun polled => ⟨_, _, _, _, .looks trivial, rfl⟩
  | reset =>
      obtain rfl : outcome = _ := returned
      exact doesOrCanceled_atEntry fun polled => ⟨_, _, _, _, .resets, rfl⟩

end Deeds

end Session

end TapeDebugger
