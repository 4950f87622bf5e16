import TapeDebugger.Proofs.Machine.Integrity
import TapeDebugger.Proofs.Session.Deeds

/-!
# The flag and the status

A session keeps a flag that a program is loaded beside a machine whose status tells as much. Both
are set in many places, and `Consistent` is what they agree on: a loaded session is never ready,
and one that is not loaded has a new machine, so that nothing of an earlier program can be seen.
-/

namespace TapeDebugger

namespace Machine

variable {machine : Machine}

/-- No advance makes a machine ready. -/
theorem advance_status_ne_ready (unready : machine.status ≠ .ready) (budget : Nat) :
    (machine.advance budget).status ≠ .ready := by
  rcases advance_cases machine budget with
    ⟨_, same, _⟩ | ⟨_, path, _⟩ | ⟨_, count, _, halted, _⟩
  · rwa [same]
  · have running : (machine.advance budget).status = .running := path.status_eq
    simp [running]
  · obtain ⟨last, status, _, halt, ended⟩ := halted.halted
    rw [ended]
    cases halt <;> nofun

/-- Input does not make a machine ready again. -/
theorem addInput_status_ne_ready (unready : machine.status ≠ .ready) (input : List UInt8) :
    (machine.addInput input).status ≠ .ready := by
  rw [addInput]
  by_cases waiting : machine.status = .waitingForInput <;> simp [waiting, unready]

/-- A load leaves no machine ready, whether its source compiles or not. -/
theorem load_status_ne_ready (source input : List UInt8) :
    (machine.load source input).1.status ≠ .ready := by
  rw [load]
  cases Program.compile source with
  | error unmatched => simp
  | ok program => by_cases empty : program.length = 0 <;> simp [empty]

end Machine

/-- Nothing has been executed: the pointers and the counter are at zero, and so is every cell in
sight; there is neither output nor input, and no next instruction. -/
structure Snapshot.IsBlank (snapshot : Snapshot) : Prop where
  instructionPointer_eq : snapshot.instructionPointer = 0
  dataPointer_eq : snapshot.dataPointer = 0
  windowStart_eq : snapshot.windowStart = 0
  cells_eq : ∀ cell ∈ snapshot.window, cell = 0
  output_eq : snapshot.output = ""
  inputLength_eq : snapshot.inputLength = 0
  nextInstruction_eq : snapshot.nextInstruction = Program.endMark
  totalSteps_eq : snapshot.totalSteps = 0

/-- A new machine shows itself as blank. -/
theorem Machine.isBlank_snapshotBetween_new (limits : TapeLimits) (stop : Nat) :
    ((Machine.new limits).snapshotBetween 0 stop).IsBlank where
  instructionPointer_eq := rfl
  dataPointer_eq := rfl
  windowStart_eq := rfl
  cells_eq := by
    intro cell member
    have blank : cell ∈ (Array.replicate limits.size (0 : Int64)).extract 0 stop := member
    rw [Array.extract_replicate] at blank
    exact Array.eq_of_mem_replicate blank
  output_eq := rfl
  inputLength_eq := rfl
  nextInstruction_eq := rfl
  totalSteps_eq := rfl

namespace Session

/-- The flag and the status agree: only a session that is not loaded is ready, and it has nothing
but a new machine. -/
structure Consistent (session : Session) : Prop where
  intact : session.machine.Intact
  status_ne_ready : session.loaded = true → session.machine.status ≠ .ready
  machine_eq : session.loaded = false → session.machine = .new session.machine.limits

namespace Consistent

variable {session : Session}

/-- Every deed keeps the flag and the status in agreement. -/
theorem deed {request : Request} {machine : Machine} {loaded : Bool} {executed : UInt64}
    {fault : Option SessionFault} (consistent : session.Consistent)
    (deed : Deed session request machine loaded executed fault) :
    Consistent { session with machine, loaded } := by
  cases deed with
  | lacksProgram | refuses | looks => exact consistent
  | loads =>
      exact ⟨(Machine.Intact.new _).load _ _, fun _ => Machine.load_status_ne_ready _ _, nofun⟩
  | executes _ loaded reached _ =>
      have unready := consistent.status_ne_ready loaded
      refine ⟨?_, ?_, fun unloaded => absurd (loaded.symm.trans unloaded) nofun⟩
      · rcases reached with rfl | ⟨total, rfl⟩
        · exact consistent.intact
        · exact consistent.intact.advance total
      · rcases reached with rfl | ⟨total, rfl⟩
        · exact fun _ => unready
        · exact fun _ => Machine.advance_status_ne_ready unready total
  | @takesInput input loaded =>
      have unready := consistent.status_ne_ready loaded
      have called : (Call.command (.addInput input)).Returns session.machine _ := rfl
      exact ⟨consistent.intact.call called,
        fun _ => Machine.addInput_status_ne_ready unready input,
        fun unloaded => absurd (loaded.symm.trans unloaded) nofun⟩
  | resets =>
      exact ⟨consistent.intact.reset, nofun, fun _ => Machine.reset_eq_new consistent.intact⟩

/-- The flag and the status agree in every reachable session. -/
theorem of_reachable {config : SessionConfig} (reachable : Reachable config session) :
    session.Consistent := by
  induction reachable with
  | created created =>
      obtain ⟨_, limits, _, rfl⟩ := create_cases created
      exact ⟨.new limits, nofun, fun _ => rfl⟩
  | requested _ returned inductionHypothesis =>
      rcases returned.doesOrCanceled with ⟨_, rfl⟩ | ⟨_, _, _, _, _, _, deed, rfl⟩
      · exact inductionHypothesis
      · -- A record is no part of what the flag and the status agree on.
        obtain ⟨intact, unready, new⟩ := inductionHypothesis.deed deed
        exact ⟨intact, unready, new⟩

/-- Both say the same. -/
theorem loaded_iff (consistent : session.Consistent) :
    session.loaded = true ↔ session.machine.status ≠ .ready := by
  refine ⟨consistent.status_ne_ready, fun unready => ?_⟩
  cases loaded : session.loaded with
  | true => rfl
  | false =>
      rw [consistent.machine_eq loaded] at unready
      exact absurd rfl unready

/-- A consistent session is without a program exactly while its machine is ready. -/
theorem unloaded_iff (consistent : session.Consistent) :
    session.loaded = false ↔ session.machine.status = .ready := by
  rw [← Bool.not_eq_true, consistent.loaded_iff, Decidable.not_not]

end Consistent

section NoProgram

variable {session : Session} {context : Context}

/-- A step fails for want of a program exactly when none is loaded, whatever its count. -/
theorem step_fault_eq_noProgram_iff (live : context.poll ≠ none) (count : Int64) :
    (session.step context count).fault = some .noProgram ↔ session.loaded = false := by
  obtain ⟨polled, poll⟩ := Option.ne_none_iff_exists'.mp live
  rw [step, atEntry, poll]
  cases loaded : session.loaded with
  | false => simp [conclude]
  | true => by_cases small : count < 1 <;> simp [conclude, small]

/-- Input is refused for want of a program exactly while none is loaded. -/
theorem addInput_fault_eq_noProgram_iff (live : context.poll ≠ none) (input : List UInt8) :
    (session.addInput context input).fault = some .noProgram ↔ session.loaded = false := by
  obtain ⟨polled, poll⟩ := Option.ne_none_iff_exists'.mp live
  rw [addInput, atEntry, poll]
  cases loaded : session.loaded <;> simp [conclude]

/-- A run fails for want of a program exactly when none is loaded, and then returns with any
fuel. -/
theorem run_fault_eq_noProgram_iff (live : context.poll ≠ none) (fuel : Nat)
    (limit : Option Int64) :
    (session.run fuel context limit).bind Outcome.fault = some .noProgram ↔
      session.loaded = false := by
  obtain ⟨polled, poll⟩ := Option.ne_none_iff_exists'.mp live
  rw [run_eq]
  simp only [poll]
  cases loaded : session.loaded with
  | false => simp [runRefusal, loaded, conclude]
  | true =>
      cases given : limit.filter (· < 1) with
      | some count => simp [runRefusal, loaded, given, conclude]
      | none =>
          simp only [runRefusal, loaded, given, Option.map_none, ↓reduceIte]
          generalize runChunks _ _ _ session.machine polled = ended
          cases ended <;> simp [concludeRun, conclude]

/-- A snapshot with a radius that is not negative is taken of any session. -/
theorem state_of_valid {config : SessionConfig} (reachable : Reachable config session)
    (live : context.poll ≠ none) {radius : Option Int64} (valid : ∀ given ∈ radius, 0 ≤ given) :
    (session.state context radius).fault = none ∧
      ((session.state context radius).value = some session.machine.snapshot ∨
        ∃ reach, (session.state context radius).value =
          some (session.machine.snapshotAround reach)) := by
  obtain ⟨polled, poll⟩ := Option.ne_none_iff_exists'.mp live
  have numbers := reachable.negativeNumbers_eq
  have sameDefault : session.config.defaultWindowRadius = config.defaultWindowRadius := by
    rw [reachable.config_eq]
    rfl
  rw [state, atEntry, poll, sameDefault]
  cases shown : radius.or config.defaultWindowRadius with
  | none => exact ⟨rfl, .inl rfl⟩
  | some reach =>
      have nonnegative : ¬ reach < 0 := by
        rcases Option.or_eq_some_iff.mp shown with given | ⟨_, default⟩
        · exact Int64.not_lt.mpr (valid reach given)
        · intro negative
          simp [SessionConfig.negativeNumbers, default, negative] at numbers
      simp only [if_neg nonnegative]
      exact ⟨rfl, .inr ⟨reach, rfl⟩⟩

end NoProgram

/-- In every reachable session the flag and the status agree. Stepping, running and giving input
fail for want of a program exactly when a snapshot shows that the machine is ready; it then shows
a blank machine, and the output is empty. -/
theorem loaded_flag_tells_status {config : SessionConfig} {session : Session}
    (reachable : Reachable config session) :
    (session.loaded = true ↔ session.machine.status ≠ .ready) ∧
    ∀ context shown : Context, context.poll ≠ none → shown.poll ≠ none →
    ∀ radius : Option Int64, (∀ given ∈ radius, 0 ≤ given) →
      ∃ snapshot, (session.state shown radius).value = some snapshot ∧
        (session.state shown radius).fault = none ∧
        (∀ count, (session.step context count).fault = some .noProgram ↔
          snapshot.status = .ready) ∧
        (∀ fuel limit, (session.run fuel context limit).bind Outcome.fault = some .noProgram ↔
          snapshot.status = .ready) ∧
        (∀ input, (session.addInput context input).fault = some .noProgram ↔
          snapshot.status = .ready) ∧
        (snapshot.status = .ready → snapshot.IsBlank ∧
          (session.output context).value = "" ∧ (session.output context).fault = none) := by
  have consistent := Consistent.of_reachable reachable
  refine ⟨consistent.loaded_iff, ?_⟩
  intro context shown live shownLive radius valid
  obtain ⟨accepted, value⟩ := state_of_valid reachable shownLive valid
  obtain ⟨start, stop, value, blankStart⟩ : ∃ start stop,
      (session.state shown radius).value = some (session.machine.snapshotBetween start stop) ∧
      (session.machine.tape.pointer = 0 → start = 0) := by
    rcases value with whole | ⟨reach, around⟩
    · exact ⟨_, _, whole, fun _ => rfl⟩
    · exact ⟨_, _, around, fun first => by rw [first, Nat.zero_sub]⟩
  have status : (session.machine.snapshotBetween start stop).status = session.machine.status := rfl
  refine ⟨_, value, accepted, ?_, ?_, ?_, ?_⟩
  · intro count
    rw [step_fault_eq_noProgram_iff live, status, consistent.unloaded_iff]
  · intro fuel limit
    rw [run_fault_eq_noProgram_iff live, status, consistent.unloaded_iff]
  · intro input
    rw [addInput_fault_eq_noProgram_iff live, status, consistent.unloaded_iff]
  · intro ready
    have new := consistent.machine_eq (consistent.unloaded_iff.mpr (status ▸ ready))
    obtain rfl := blankStart (new ▸ rfl)
    obtain ⟨polled, poll⟩ := Option.ne_none_iff_exists'.mp live
    rw [new, output, atEntry, poll]
    exact ⟨Machine.isBlank_snapshotBetween_new _ stop, congrArg Machine.output new, rfl⟩

/-- Three cells of which one has been counted up are blank again behind a reset, and stepping on
fails. Behind a load that does not compile it does not. -/
theorem loaded_flag_tells_status_reset :
    ∃ used failed, Reachable { tapeSize := 3 } used ∧ Reachable { tapeSize := 3 } failed ∧
      used.loaded = false ∧ (used.step .background 1).fault = some .noProgram ∧
      (∃ snapshot, (used.state .background (some 2)).value = some snapshot ∧ snapshot.IsBlank ∧
        snapshot.window = #[0, 0, 0]) ∧
      failed.machine.status = .parserError ∧ failed.loaded = true ∧
      (failed.step .background 1).fault ≠ some .noProgram := by
  obtain ⟨used, usedReachable, unloaded, computed⟩ : ∃ used, Reachable { tapeSize := 3 } used ∧
      used.loaded = false ∧
      (used.state .background (some 2)).value.map (fun shown => (shown.status, shown.window)) =
        some (.ready, #[0, 0, 0]) :=
    ⟨_, @Reachable.requested _ _ .background .reset _
        (@Reachable.requested _ _ .background (.step 1) _
          (@Reachable.requested _ _ .background (.load [43] [] {}) _ (.created rfl) rfl) rfl) rfl,
      rfl, by decide +kernel⟩
  obtain ⟨failed, failedReachable, broken, failedComputed⟩ : ∃ failed,
      Reachable { tapeSize := 3 } failed ∧ failed.machine.status = .parserError ∧
      (failed.state .background none).value.map Snapshot.status = some .parserError :=
    ⟨_, @Reachable.requested _ _ .background (.load [91] [] {}) _ (.created rfl) rfl,
      by decide +kernel, by decide +kernel⟩
  have live : Context.background.poll ≠ none := nofun
  have valid : ∀ given ∈ some (2 : Int64), 0 ≤ given := by
    rintro _ ⟨⟩
    decide
  obtain ⟨_, usedShows⟩ := loaded_flag_tells_status usedReachable
  obtain ⟨failedFlag, failedShows⟩ := loaded_flag_tells_status failedReachable
  obtain ⟨snapshot, value, _, steps, _, _, blank⟩ :=
    usedShows .background .background live live (some 2) valid
  obtain ⟨failedSnapshot, failedValue, _, failedSteps, _⟩ :=
    failedShows .background .background live live none (by simp)
  rw [value, Option.map_some, Option.some.injEq, Prod.mk.injEq] at computed
  rw [failedValue, Option.map_some, Option.some.injEq] at failedComputed
  refine ⟨used, failed, usedReachable, failedReachable, unloaded, (steps 1).mpr computed.1,
    ⟨snapshot, value, (blank computed.1).1, computed.2⟩, broken, failedFlag.mpr ?_, ?_⟩
  · simp [broken]
  · simp [failedSteps 1, failedComputed]

end Session

end TapeDebugger
