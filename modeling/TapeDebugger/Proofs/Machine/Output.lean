import TapeDebugger.Proofs.Machine.Calls
import TapeDebugger.Proofs.Text.Utf8
import TapeDebugger.Proofs.Word

/-!
# What is written

The output is an account of what has been executed. `Visits` says in which machines the instructions
of a sequence of commands are executed, and the output has one character for each of them that was
in front of a `.`, in order and behind what was there before (`Visits.spec`). Every cell value
has a character (`toNat_outputChar`), so the output is well-formed whatever the cells hold.
-/

namespace TapeDebugger

section Character

/-- A Unicode scalar value: a code point that is no surrogate. -/
def IsScalar (code : Int) : Prop :=
  0 ≤ code ∧ code < 0xD800 ∨ 0xDFFF < code ∧ code < 0x110000

instance (code : Int) : Decidable (IsScalar code) :=
  inferInstanceAs (Decidable (_ ∨ _))

/-- The remainder modulo 256 as words find it: their own has the sign of the value, and is brought
up when that makes it negative. -/
def wordRemainder (value : Int64) : Int64 :=
  let remainder := value % 256
  if remainder < 0 then remainder + 256 else remainder

/-- Words find the Euclidean remainder, also of values below zero. -/
theorem toInt_wordRemainder (value : Int64) : (wordRemainder value).toInt = value.toInt % 256 := by
  have modulus : (256 : Int64).toInt = 256 := rfl
  have signed : (value % 256).toInt = value.toInt.tmod 256 := by rw [Int64.toInt_mod, modulus]
  rw [Int.tmod_eq_emod] at signed
  simp only [wordRemainder, Int64.lt_iff_toInt_lt, Int64.toInt_zero]
  by_cases aligned : 0 ≤ value.toInt ∨ (256 : Int) ∣ value.toInt
  · rw [if_pos aligned] at signed
    rw [if_neg (by omega)]
    omega
  · rw [if_neg aligned] at signed
    rw [if_pos (by omega), toInt_add_of_fits (by omega) (by omega)]
    omega

/-- The scalar values are the code points that a character can have. -/
theorem isValidChar_iff {code : Nat} : code.isValidChar ↔ IsScalar code := by
  rw [Nat.isValidChar, IsScalar]
  omega

/-- Every character has a scalar value. -/
theorem isScalar_toNat (character : Char) : IsScalar character.toNat :=
  isValidChar_iff.mp character.valid

/-- A scalar value makes the character that has it. -/
theorem toNat_charOfNat {code : Nat} (scalar : IsScalar code) : (Char.ofNat code).toNat = code := by
  rw [Char.ofNat, dif_pos (isValidChar_iff.mpr scalar)]
  rfl

/-- The code point of the character that a cell value is written as. -/
theorem toNat_outputChar (value : Int64) :
    ((outputChar value).toNat : Int) =
      if IsScalar value.toInt then value.toInt else value.toInt % 256 := by
  have small : IsScalar ((value.toInt % 256).toNat : Int) := by
    rw [IsScalar]
    omega
  have reduced := toNat_charOfNat small
  simp only [outputChar]
  by_cases nonneg : 0 ≤ value.toInt
  · have code : (value.toInt.toNat : Int) = value.toInt := Int.toNat_of_nonneg nonneg
    rw [if_pos nonneg]
    by_cases scalar : IsScalar value.toInt
    · have same := toNat_charOfNat (code.symm ▸ scalar)
      have found := Utf8.scalar?_toNat (Char.ofNat value.toInt.toNat)
      rw [same] at found
      simp only [found, if_pos scalar, same, code]
    · have missing : Utf8.scalar? value.toInt.toNat = none := by
        rw [Utf8.scalar?, dif_neg]
        rwa [isValidChar_iff, code]
      rw [missing, if_neg scalar, reduced]
      omega
  · have outside : ¬ IsScalar value.toInt := by
      rw [IsScalar]
      omega
    rw [if_neg nonneg, if_neg outside, reduced]
    omega

end Character

namespace Machine

/-- The next instruction is a `.`. -/
def isWriting (machine : Machine) : Bool :=
  machine.program.instruction? machine.instructionPointer == some .write

/-- What is written by instructions that are executed in these machines. -/
def written (visited : List Machine) : List Char :=
  (visited.filter isWriting).map fun machine => outputChar machine.cell

/-- The machines in which `execute` executes an instruction, in order. -/
def executedIn : (budget : Nat) → Machine → List Machine
  | 0, _ => []
  | budget + 1, machine =>
    match machine.executeOne with
    | .executed next => machine :: executedIn budget next
    | .stopped _ => []

/-- The machines in which `advance` executes an instruction, in order. -/
def advancedIn (machine : Machine) (budget : Nat) : List Machine :=
  if machine.canProceed then executedIn budget machine.resume else []

variable {machine next : Machine}

/-- What is written along two paths is written along one after the other. -/
theorem written_append (visited more : List Machine) :
    written (visited ++ more) = written visited ++ written more := by
  simp [written]

/-- Only a `.` changes the output, and it appends one character. -/
theorem Effect.output_eq {instruction : Instruction} (effect : Effect machine instruction next)
    (present : machine.program.instruction? machine.instructionPointer = some instruction) :
    next.output.toList = machine.output.toList ++ written [machine] := by
  cases effect <;> simp [written, isWriting, present, proceed, cell]

/-- There is one machine for each instruction executed. -/
theorem length_executedIn (budget : Nat) (machine : Machine) :
    (executedIn budget machine).length = executedWithin budget machine := by
  induction budget generalizing machine with
  | zero => rfl
  | succ budget inductionHypothesis =>
      rw [executedIn, executedWithin]
      cases machine.executeOne with
      | executed next => simp [inductionHypothesis]
      | stopped final => rfl

/-- An execution appends what its instructions write. -/
theorem output_execute (budget : Nat) (machine : Machine) :
    (execute budget machine).output.toList =
      machine.output.toList ++ written (executedIn budget machine) := by
  induction budget generalizing machine with
  | zero => simp [execute, executedIn, written]
  | succ budget inductionHypothesis =>
      rw [execute, executedIn]
      cases attempt : machine.executeOne with
      | executed next =>
          obtain ⟨instruction, present, effect⟩ := executeOne_eq_executed_iff.mp attempt
          have split : machine :: executedIn budget next = [machine] ++ executedIn budget next :=
            rfl
          simp only [inductionHypothesis, effect.output_eq present]
          rw [split, written_append, List.append_assoc]
      | stopped final =>
          obtain ⟨status, _, rfl⟩ := executeOne_eq_stopped_iff.mp attempt
          simp [written]

/-- An advance appends what its instructions write, and the step counter goes on by their number. -/
theorem advancedIn_spec (machine : Machine) (budget : Nat) :
    (machine.advance budget).output.toList =
        machine.output.toList ++ written (machine.advancedIn budget) ∧
      (machine.advance budget).steps =
        machine.steps + UInt64.ofNat (machine.advancedIn budget).length := by
  have counted := (advance_steps machine budget).1
  cases permitted : machine.canProceed with
  | false =>
      rw [(advance_of_blocked permitted budget).2] at counted
      rw [counted, (advance_of_blocked permitted budget).1, advancedIn, permitted]
      simp [written]
  | true =>
      rw [(advance_of_canProceed permitted budget).2, ← length_executedIn] at counted
      rw [counted, (advance_of_canProceed permitted budget).1, advancedIn, if_pos permitted,
        output_execute]
      exact ⟨rfl, rfl⟩

end Machine

open Machine

/-- A command returns, and executes its instructions in the machines `visited`, in this order. -/
def Command.Visits : Command → (machine : Machine) → (visited : List Machine) →
    (final : Machine) → Prop
  | step count, machine, visited, final =>
    final = machine.step count ∧ visited = machine.advancedIn count.toNatClampNeg
  | run, machine, visited, final =>
    ∃ fuel, machine.run? fuel = some final ∧ visited = machine.advancedIn fuel
  | addInput input, machine, visited, final => final = machine.addInput input ∧ visited = []

/-- All commands of a sequence return, one after another, and execute their instructions in the
machines `visited`. -/
inductive Visits : List Command → (machine : Machine) → (visited : List Machine) →
    (final : Machine) → Prop where
  | nil {machine} : Visits [] machine [] machine
  | cons {command commands machine visited next more final}
      (first : command.Visits machine visited next) (rest : Visits commands next more final) :
      Visits (command :: commands) machine (visited ++ more) final

variable {commands : List Command} {machine final : Machine} {visited : List Machine}

/-- A command that returns executes its instructions in some machines. -/
theorem Command.Returns.exists_visits {command : Command}
    (returned : command.Returns machine final) :
    ∃ visited, command.Visits machine visited final := by
  cases command with
  | step count => exact ⟨_, returned, rfl⟩
  | run =>
      obtain ⟨fuel, ran⟩ := returned
      exact ⟨_, fuel, ran, rfl⟩
  | addInput input => exact ⟨_, returned, rfl⟩

/-- A command appends what its instructions write, and the step counter goes on by their number. -/
theorem Command.Visits.spec {command : Command} (visits : command.Visits machine visited final) :
    final.output.toList = machine.output.toList ++ written visited ∧
      final.steps = machine.steps + UInt64.ofNat visited.length := by
  cases command with
  | step count =>
      obtain ⟨rfl, rfl⟩ := visits
      by_cases small : count ≤ 0
      · have none : machine.advancedIn count.toNatClampNeg = [] := by
          have below := Int64.le_iff_toInt_le.mp small
          rw [Int64.toInt_zero] at below
          rw [toNatClampNeg_eq, Int.toNat_of_nonpos below, advancedIn, executedIn, ite_self]
        simp [none, written, Machine.step, small]
      · rw [step_of_pos (Int64.not_le.mp small)]
        exact advancedIn_spec machine _
  | run =>
      obtain ⟨fuel, returned, rfl⟩ := visits
      have advanced : final = machine.advance fuel := by
        simp only [run?] at returned
        split at returned
        · cases returned
        · exact (Option.some.inj returned).symm
      rw [advanced]
      exact advancedIn_spec machine fuel
  | addInput input =>
      obtain ⟨rfl, rfl⟩ := visits
      simp [written, Machine.addInput]

/-- Commands that return execute their instructions in some machines. -/
theorem Performs.exists_visits (performed : Performs (commands.map .command) machine final) :
    ∃ visited, Visits commands machine visited final := by
  induction commands generalizing machine with
  | nil =>
      cases performed
      exact ⟨[], .nil⟩
  | cons command commands inductionHypothesis =>
      cases performed with
      | cons returned rest =>
          obtain ⟨visited, first⟩ := Command.Returns.exists_visits returned
          obtain ⟨more, others⟩ := inductionHypothesis rest
          exact ⟨visited ++ more, .cons first others⟩

/-- Commands append what their instructions write, and the step counter goes on by their number. -/
theorem Visits.spec (visits : Visits commands machine visited final) :
    final.output.toList = machine.output.toList ++ written visited ∧
      final.steps = machine.steps + UInt64.ofNat visited.length := by
  induction visits with
  | nil => simp [written]
  | @cons _ _ machine visited next more final first _ inductionHypothesis =>
      obtain ⟨output, steps⟩ := inductionHypothesis
      rw [output, steps, first.spec.1, first.spec.2, written_append, List.length_append,
        UInt64.ofNat_add, List.append_assoc, UInt64.add_assoc]
      exact ⟨rfl, rfl⟩

/-- Until a program is replaced nothing that was written is taken back. -/
theorem Performs.output_kept (performed : Performs (commands.map .command) machine final) :
    machine.output.toList <+: final.output.toList := by
  obtain ⟨visited, visits⟩ := performed.exists_visits
  exact ⟨written visited, visits.spec.1.symm⟩

/-- A load starts with nothing written and nothing executed. -/
theorem Machine.load_output_steps (machine : Machine) (source input : List UInt8) :
    (machine.load source input).1.output = "" ∧ (machine.load source input).1.steps = 0 := by
  rw [load]
  cases Program.compile source <;> exact ⟨rfl, rfl⟩

/-- Whatever is executed behind a load, the output is what the executed `.` have written since, one
character each and in order: that of the cell value, which is the value itself where this is a
Unicode scalar value and its Euclidean remainder modulo 256 otherwise. The bytes of the output are
valid and stand for just these characters, and more commands only append to it. -/
theorem output_is_what_was_written (machine : Machine) (source input : List UInt8)
    {commands : List Command} {final : Machine}
    (performed : Performs (commands.map .command) (machine.load source input).1 final) :
    ((∃ visited, Visits commands (machine.load source input).1 visited final) ∧
      ∀ visited, Visits commands (machine.load source input).1 visited final →
        final.steps = UInt64.ofNat visited.length ∧
        final.output.toList =
          (visited.filter Machine.isWriting).map fun before => outputChar before.cell) ∧
    (Utf8.isValid (Utf8.ofString final.output) = true ∧
      Utf8.decode (Utf8.ofString final.output) = final.output.toList) ∧
    (∀ (more : List Command) (later : Machine), Performs (more.map .command) final later →
      final.output.toList <+: later.output.toList) ∧
    ∀ value : Int64, IsScalar (outputChar value).toNat ∧
      (IsScalar value.toInt → ((outputChar value).toNat : Int) = value.toInt) ∧
      (¬ IsScalar value.toInt →
        ((outputChar value).toNat : Int) = value.toInt % 256 ∧
          ((outputChar value).toNat : Int) = (wordRemainder value).toInt) := by
  refine ⟨⟨performed.exists_visits, ?_⟩, ⟨Utf8.isValid_encode _, Utf8.decode_encode _⟩, ?_, ?_⟩
  · intro visited visits
    obtain ⟨output, steps⟩ := visits.spec
    obtain ⟨blank, zero⟩ := load_output_steps machine source input
    rw [output, steps, blank, zero]
    exact ⟨UInt64.zero_add _, List.nil_append _⟩
  · intro more later continued
    exact continued.output_kept
  · intro value
    have code := toNat_outputChar value
    refine ⟨isScalar_toNat _, fun scalar => by rw [code, if_pos scalar], fun other => ?_⟩
    rw [code, if_neg other, toInt_wordRemainder]
    exact ⟨rfl, rfl⟩

/-- With `-.,.` minus one is written as its remainder, and what is read later behind that. -/
theorem output_is_what_was_written_remainder :
    ∃ visited final, Visits [.step 2, .addInput [65], .run]
        ((Machine.new ⟨1, -1, 1, by decide, by decide, by decide⟩).load [45, 46, 44, 46] []).1
        visited final ∧
      (visited.filter Machine.isWriting).map (fun before => outputChar before.cell) =
        [Char.ofNat 255, 'A'] ∧
      Utf8.ofString final.output = [0xC3, 0xBF, 0x41] ∧
      Utf8.isValid (Utf8.ofString final.output) = true := by
  let machine := Machine.new ⟨1, -1, 1, by decide, by decide, by decide⟩
  let fed := ((machine.load [45, 46, 44, 46] []).1.step 2).addInput [65]
  have stopped : (fed.advance 5).status ≠ .running := by decide +kernel
  have ran : fed.RunsTo (fed.advance 5) := ⟨5, by simp [run?, stopped]⟩
  have performed : Performs ([.step 2, .addInput [65], .run].map .command)
      (machine.load [45, 46, 44, 46] []).1 (fed.advance 5) := .cons rfl (.cons rfl (.cons ran .nil))
  obtain ⟨⟨⟨visited, visits⟩, account⟩, ⟨valid, _⟩, _⟩ :=
    output_is_what_was_written machine [45, 46, 44, 46] [] performed
  have output : (fed.advance 5).output.toList = [Char.ofNat 255, 'A'] := by decide +kernel
  refine ⟨visited, _, visits, ?_, ?_, valid⟩
  · rw [← (account visited visits).2, output]
  · rw [Utf8.ofString, output]
    decide

end TapeDebugger
