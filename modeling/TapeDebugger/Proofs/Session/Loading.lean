import Mathlib.Algebra.Group.Int.Defs
import TapeDebugger.Proofs.Machine.Structured
import TapeDebugger.Proofs.Program.Unmatched
import TapeDebugger.Proofs.Session.FreshStart
import TapeDebugger.Proofs.Settings.Acceptance

/-!
# What a load accepts

The tape of a load has a size and two bounds, and each of the three is looked up for itself: in the
load, then in the configuration, then among the standard settings (`SessionConfig.tapeFor`). A load
is refused if and only if the numbers that come out of this make no tape. Otherwise it reports them,
and its machine has them, whether or not the brackets of the program are balanced
(`load_accepts_usable_tapes`).
-/

namespace TapeDebugger

/-- A size and bounds as plain numbers. -/
structure TapeNumbers where
  size : Int
  minValue : Int
  maxValue : Int

/-- What is given first, or the standard if nothing is given. -/
def firstGiven (override configured : Option Int) (standard : Int) : Int :=
  match override, configured with
  | some value, _ => value
  | none, some value => value
  | none, none => standard

/-- A size of zero is none. -/
def givenSize (size : Int64) : Option Int :=
  if size = 0 then none else some size.toInt

/-- A size that is given and not negative is that of some cells. -/
theorem givenSize_cases {size : Int64} (nonnegative : 0 ≤ size.toInt) :
    givenSize size = none ∨ ∃ cells, givenSize size = some cells ∧ 1 ≤ cells := by
  rw [givenSize]
  split
  case isTrue => exact .inl rfl
  case isFalse nonzero =>
    have different : size.toInt ≠ 0 := fun zero => nonzero (Int64.toInt_inj.mp zero)
    exact .inr ⟨_, rfl, by omega⟩

namespace SessionConfig

/-- The tape that a load asks for. -/
def tapeFor (config : SessionConfig) (overrides : TapeOverrides) : TapeNumbers where
  size := firstGiven (givenSize overrides.size) (givenSize config.tapeSize) 30000
  minValue := firstGiven (overrides.minValue.map Int64.toInt) (config.minValue.map Int64.toInt)
    (-(2 ^ 53 - 1))
  maxValue := firstGiven (overrides.maxValue.map Int64.toInt) (config.maxValue.map Int64.toInt)
    (2 ^ 53 - 1)

/-- A load asks for what is no tape: for less than no cells, or for bounds without zero. -/
def AsksForNoTape (config : SessionConfig) (overrides : TapeOverrides) : Prop :=
  overrides.size.toInt < 0 ∨ 0 < (config.tapeFor overrides).minValue ∨
    (config.tapeFor overrides).maxValue < 0

section Settings

variable (config : SessionConfig) (overrides : TapeOverrides)

/-- The size that a load settles on is the size that it asks for. -/
theorem toInt_tapeSettings_size :
    (config.tapeSettings overrides).size.toInt = (config.tapeFor overrides).size := by
  simp only [tapeSettings, tapeFor, givenSize]
  by_cases asked : overrides.size = 0
  · by_cases configured : config.tapeSize = 0
    · simp only [asked, configured, ne_eq, not_true_eq_false, if_true, if_false]
      decide
    · simp [asked, configured, firstGiven]
  · simp [asked, firstGiven]

/-- The lower bound that a load settles on is the one that it asks for. -/
theorem toInt_tapeSettings_minValue :
    (config.tapeSettings overrides).minValue.toInt = (config.tapeFor overrides).minValue := by
  cases asked : overrides.minValue <;> cases configured : config.minValue <;>
    simp only [tapeSettings, tapeFor, asked, configured] <;> rfl

/-- The upper bound that a load settles on is the one that it asks for. -/
theorem toInt_tapeSettings_maxValue :
    (config.tapeSettings overrides).maxValue.toInt = (config.tapeFor overrides).maxValue := by
  cases asked : overrides.maxValue <;> cases configured : config.maxValue <;>
    simp only [tapeSettings, tapeFor, asked, configured] <;> rfl

/-- Where no size is negative, a load asks for at least one cell. -/
theorem one_le_tapeFor_size (configured : 0 ≤ config.tapeSize.toInt)
    (asked : 0 ≤ overrides.size.toInt) : 1 ≤ (config.tapeFor overrides).size := by
  rw [tapeFor]
  obtain none | ⟨cells, some, given⟩ := givenSize_cases asked
  · obtain otherwise | ⟨cells, otherwise, given⟩ := givenSize_cases configured
    · rw [none, otherwise]
      exact (by decide : (1 : Int) ≤ 30000)
    · rw [none, otherwise]
      exact given
  · rw [some]
    exact given

end Settings

end SessionConfig

/-- Bounds without zero are unusable. -/
theorem TapeSettings.exists_check_error {settings : TapeSettings}
    (outside : 0 < settings.minValue ∨ settings.maxValue < 0) :
    ∃ fault, settings.check = .error fault := by
  rw [check]
  split
  · exact ⟨_, rfl⟩
  · split
    · exact ⟨_, rfl⟩
    · exact ⟨_, rfl⟩

/-- Limits are those that were asked for. -/
structure TapeLimits.Meets (limits : TapeLimits) (numbers : TapeNumbers) : Prop where
  size : (limits.size : Int) = numbers.size
  minValue : limits.minValue.toInt = numbers.minValue
  maxValue : limits.maxValue.toInt = numbers.maxValue

namespace Session

section Limits

variable {config : SessionConfig} {overrides : TapeOverrides}

/-- A load that asks for no tape is refused. -/
theorem exists_loadLimits_error (unusable : config.AsksForNoTape overrides) :
    ∃ fault, loadLimits config overrides = .error fault := by
  rw [loadLimits]
  split
  case isTrue => exact ⟨_, rfl⟩
  case isFalse nonnegative =>
    obtain ⟨fault, refused⟩ :
        ∃ fault, (config.tapeSettings overrides).check = .error fault := by
      refine TapeSettings.exists_check_error ?_
      rw [Int64.lt_iff_toInt_lt, Int64.lt_iff_toInt_lt, config.toInt_tapeSettings_minValue,
        config.toInt_tapeSettings_maxValue]
      exact unusable.resolve_left fun negative => nonnegative (Int64.lt_iff_toInt_lt.mpr negative)
    rw [refused]
    exact ⟨_, rfl⟩

/-- A load that asks for a tape gets one with its numbers. -/
theorem exists_loadLimits_ok (sized : 0 ≤ config.tapeSize)
    (usable : ¬ config.AsksForNoTape overrides) :
    ∃ limits, loadLimits config overrides = .ok limits ∧
      limits.Meets (config.tapeFor overrides) := by
  simp only [SessionConfig.AsksForNoTape, not_or, Int.not_lt] at usable
  obtain ⟨nonnegative, minValue, maxValue⟩ := usable
  have size := config.one_le_tapeFor_size overrides (Int64.le_iff_toInt_le.mp sized) nonnegative
  rw [← config.toInt_tapeSettings_size] at size
  rw [← config.toInt_tapeSettings_minValue] at minValue
  rw [← config.toInt_tapeSettings_maxValue] at maxValue
  obtain ⟨limits, checked, sameSize, sameMin, sameMax⟩ := TapeSettings.exists_check
    (Int64.le_iff_toInt_le.mpr size) (Int64.le_iff_toInt_le.mpr minValue)
    (Int64.le_iff_toInt_le.mpr maxValue)
  have allowed : ¬ overrides.size < 0 :=
    fun negative => absurd (Int64.lt_iff_toInt_lt.mp negative) (Int.not_lt.mpr nonnegative)
  refine ⟨limits, ?_, ?_, ?_, ?_⟩
  · rw [loadLimits, if_neg allowed, checked]
    rfl
  · rw [sameSize, toNatClampNeg_eq, ← config.toInt_tapeSettings_size]
    omega
  · rw [sameMin, config.toInt_tapeSettings_minValue]
  · rw [sameMax, config.toInt_tapeSettings_maxValue]

end Limits

end Session

section Program

/-- The bytes of the eight instructions. -/
def instructionBytes : List UInt8 :=
  Utf8.ofString "><+-.,[]"

/-- How many of the bytes of a code are instructions. -/
def instructionCount (code : List UInt8) : Nat :=
  code.countP instructionBytes.contains

/-- The bytes that are instructions are the eight listed ones. -/
theorem isSome_ofByte? (byte : UInt8) :
    (Instruction.ofByte? byte).isSome = instructionBytes.contains byte := by
  have each : ∀ number : Fin 256, (Instruction.ofByte? (.ofNat number)).isSome =
      instructionBytes.contains (.ofNat number) := by decide +kernel
  have same := each ⟨byte.toNat, byte.toNat_lt⟩
  rwa [UInt8.ofNat_toNat] at same

/-- The length of a program is the number of its instruction bytes. -/
theorem length_ofBytes (code : List UInt8) :
    (Instruction.ofBytes code).length = instructionCount code := by
  rw [Instruction.ofBytes, List.length_filterMap_eq_countP, instructionCount]
  exact congrArg (code.countP ·) (funext isSome_ofByte?)

/-- What status and program a code is loaded with, and whether there is a fault. -/
inductive LoadsProgram (code : List UInt8) : Status → Nat → Option SessionFault → Prop where
  | running (balanced : Balanced (Instruction.ofBytes code)) (present : 0 < instructionCount code) :
      LoadsProgram code .running (instructionCount code) none
  | finished (balanced : Balanced (Instruction.ofBytes code)) (absent : instructionCount code = 0) :
      LoadsProgram code .finished 0 none
  | parserError (unbalanced : ¬ Balanced (Instruction.ofBytes code)) (bracket : UnmatchedBracket) :
      LoadsProgram code .parserError 0 (some (.unmatched bracket))

/-- There is a parse error if and only if the brackets are not balanced. -/
theorem LoadsProgram.status_eq_parserError_iff {code : List UInt8} {status : Status} {length : Nat}
    {fault : Option SessionFault} (loads : LoadsProgram code status length fault) :
    status = .parserError ↔ ¬ Balanced (Instruction.ofBytes code) := by
  cases loads with
  | running balanced | finished balanced => exact iff_of_false nofun (not_not_intro balanced)
  | parserError unbalanced => exact iff_of_true rfl unbalanced

/-- A code whose brackets are not balanced does not compile. -/
theorem exists_compile_error {code : List UInt8}
    (unbalanced : ¬ Balanced (Instruction.ofBytes code)) :
    ∃ bracket, Program.compile code = .error bracket := by
  obtain ⟨block, text, _⟩ | ⟨_, _, _, _, _, refused⟩ := Program.compile_cases code
  · exact absurd (text ▸ block.balanced) unbalanced
  · exact ⟨_, refused⟩

/-- A block is loaded as a program of its own length. -/
theorem Block.loadsProgram_loaded {block : Block} {code : List UInt8}
    (text : block.instructions = Instruction.ofBytes code) (limits : TapeLimits)
    (input : List Char) :
    LoadsProgram code (block.loaded limits input).status (block.loaded limits input).programLength
      none := by
  have balanced : Balanced (Instruction.ofBytes code) := text ▸ block.balanced
  have counted : instructionCount code = block.size := by
    rw [← length_ofBytes, ← text, block.length_instructions]
  have length : (block.loaded limits input).programLength = block.size := by
    simp [Machine.programLength, loaded, Program.length, program]
  have status : (block.loaded limits input).status =
      if block.size = 0 then .finished else .running := rfl
  rw [length, status, ← counted]
  by_cases empty : instructionCount code = 0
  · rw [if_pos empty, empty]
    exact .finished balanced empty
  · rw [if_neg empty]
    exact .running balanced (Nat.pos_of_ne_zero empty)

/-- A new machine is loaded with what the code holds. -/
theorem loadsProgram_new (limits : TapeLimits) (code input : List UInt8) :
    LoadsProgram code ((Machine.new limits).load code input).1.status
      ((Machine.new limits).load code input).1.programLength
      (((Machine.new limits).load code input).2.map .unmatched) := by
  by_cases balanced : Balanced (Instruction.ofBytes code)
  · obtain ⟨block, text⟩ := balanced.exists_block
    rw [Block.load_eq_loaded text]
    exact block.loadsProgram_loaded text limits (Utf8.decode input)
  · obtain ⟨bracket, refused⟩ := exists_compile_error balanced
    have failed : ((Machine.new limits).load code input).2 = some bracket := by
      rw [Machine.load, refused]
    rw [failed, Machine.load_new_of_unmatched failed]
    exact .parserError balanced bracket

end Program

/-- A report and its machine have the tape of these numbers. -/
structure TapeNumbers.Describe (numbers : TapeNumbers) (report : LoadReport) (machine : Machine) :
    Prop where
  reportedSize : (report.tapeSize : Int) = numbers.size
  reportedMin : report.minValue.toInt = numbers.minValue
  reportedMax : report.maxValue.toInt = numbers.maxValue
  size : (machine.tape.size : Int) = numbers.size
  minValue : machine.limits.minValue.toInt = numbers.minValue
  maxValue : machine.limits.maxValue.toInt = numbers.maxValue

/-- Limits that meet the numbers make a machine that has them, and a report that says so. -/
theorem TapeLimits.Meets.describe {limits : TapeLimits} {numbers : TapeNumbers}
    (meets : limits.Meets numbers) (code input : List UInt8) :
    let machine := ((Machine.new limits).load code input).1
    numbers.Describe (.ofMachine machine) machine := by
  obtain ⟨size, minValue, maxValue⟩ := LoadReport.ofMachine_load_new limits code input
  have cells := (congrArg Nat.cast size).trans meets.size
  have least := (congrArg Int64.toInt minValue).trans meets.minValue
  have greatest := (congrArg Int64.toInt maxValue).trans meets.maxValue
  exact ⟨cells, least, greatest, cells, least, greatest⟩

namespace Session

variable {config : SessionConfig} {session : Session} {context polled : Context}

/-- The configured tape size of a reachable session is not negative. -/
theorem Reachable.tapeSize_nonneg (reachable : Reachable config session) :
    0 ≤ config.tapeSize := by
  refine Int64.not_lt.mp fun negative => ?_
  have numbers := reachable.negativeNumbers_eq
  simp [SessionConfig.negativeNumbers, negative] at numbers

/-- A load under a live context is refused if and only if what it asks for is no tape. A load that
is not refused makes a machine with exactly the tape that it asks for and reports it. The machine
runs a program that has instructions, has finished one that has none, and reports a parse error if
and only if the brackets are not balanced. There is taken to be memory for every tape, however long;
one longer than the address space would end the process that asks for it. -/
theorem load_accepts_usable_tapes (reachable : Reachable config session)
    (live : context.poll = some polled) (code input : List UInt8) (overrides : TapeOverrides) :
    let outcome := session.load context code input overrides
    ((∃ fault, outcome.fault = some (.argument fault)) ↔ config.AsksForNoTape overrides) ∧
    (¬ config.AsksForNoTape overrides → ∃ report,
      outcome.value = some report ∧
      (config.tapeFor overrides).Describe report outcome.session.machine ∧
      LoadsProgram code report.status report.programLength outcome.fault ∧
      outcome.session.machine.status = report.status ∧
      outcome.session.machine.programLength = report.programLength) := by
  intro outcome
  have same : loadLimits session.config overrides = loadLimits config overrides := by
    rw [reachable.config_eq]
    rfl
  by_cases unusable : config.AsksForNoTape overrides
  · obtain ⟨fault, refused⟩ := exists_loadLimits_error unusable
    have loaded : outcome = _ := load_of_refused live (same.trans refused)
    rw [loaded]
    exact ⟨iff_of_true ⟨fault, rfl⟩ unusable, fun usable => absurd unusable usable⟩
  · obtain ⟨limits, allowed, meets⟩ := exists_loadLimits_ok reachable.tapeSize_nonneg unusable
    have loaded : outcome = { session with
          machine := ((Machine.new limits).load code input).1
          loaded := true }.conclude polled .load 0
        (some (.ofMachine ((Machine.new limits).load code input).1))
        (((Machine.new limits).load code input).2.map .unmatched) := by
      simp only [outcome, load_eq, atEntry, live, same, allowed]
    rw [loaded]
    refine ⟨iff_of_false ?_ unusable, fun _ => ⟨_, rfl, meets.describe code input,
      loadsProgram_new limits code input, rfl, rfl⟩⟩
    rintro ⟨fault, refused⟩
    obtain ⟨bracket, -, different⟩ := Option.map_eq_some_iff.mp refused
    cases different

/-- The bounds of a load and of the configuration are looked up apart, so that one may lie on the
wrong side of the other. -/
theorem load_accepts_usable_tapes_mixed_bounds :
    ∃ session, Session.create { maxValue := some 10 } = .ok session ∧
      (∃ fault, (session.load .background [] [] { minValue := some 20 }).fault =
        some (.argument fault)) ∧
      ∃ report, (session.load .background (Utf8.ofString "a [") [] { size := 5 }).value =
          some report ∧
        report.status = .parserError ∧ (report.tapeSize : Int) = 5 ∧
        report.minValue.toInt = -(2 ^ 53 - 1) ∧ report.maxValue.toInt = 10 := by
  have fits : SessionConfig.SignsFit { maxValue := some 10 } :=
    ⟨by decide, by decide, by decide, nofun, nofun, by simp⟩
  obtain ⟨session, created⟩ := fits.exists_create
  have loads := @load_accepts_usable_tapes _ session .background .background (.created created) rfl
  have usable : ¬ SessionConfig.AsksForNoTape { maxValue := some 10 } { size := 5 } := by
    simp [SessionConfig.AsksForNoTape, SessionConfig.tapeFor, firstGiven]
  obtain ⟨report, reported, describes, program, -⟩ :=
    (loads (Utf8.ofString "a [") [] { size := 5 }).2 usable
  refine ⟨session, created, (loads [] [] { minValue := some 20 }).1.mpr (.inr (.inl (by decide))),
    report, reported, ?_, describes.reportedSize, describes.reportedMin, describes.reportedMax⟩
  have unbalanced : ¬ Balanced (Instruction.ofBytes (Utf8.ofString "a [")) := by decide +kernel
  exact program.status_eq_parserError_iff.mpr unbalanced

end Session

end TapeDebugger
