import TapeDebugger.Proofs.Machine.CellBounds
import TapeDebugger.Proofs.Machine.Integrity
import TapeDebugger.Proofs.Machine.Output
import TapeDebugger.Proofs.Machine.Suspension

/-!
# Echoing text

The program `,[.,]` writes back what it reads, up to the first null character. `Stop` says what
ends it: either there is no more input, and it waits for some, or a null character is read, which
ends the loop. Each pass through the loop writes one character and reads the next (`eval_body`),
and so three instructions are executed for each character that is echoed (`eval_loop`).
-/

namespace TapeDebugger

open Machine

section Character

/-- A character that is stored in a cell is written as itself. -/
theorem outputChar_ofNat_toNat (character : Char) :
    outputChar (Int64.ofNat character.toNat) = character := by
  have nonneg : (0 : Int) ≤ character.toNat := Int.natCast_nonneg _
  simp only [outputChar, toInt_ofNat_toNat, if_pos nonneg, Int.toNat_natCast, Utf8.scalar?_toNat]

/-- Only the null character is stored as zero. -/
theorem ofNat_toNat_eq_zero_iff {character : Char} :
    Int64.ofNat character.toNat = 0 ↔ character = '\x00' := by
  constructor
  · intro zero
    have code := congrArg Int64.toInt zero
    rw [toInt_ofNat_toNat, Int64.toInt_zero] at code
    exact Char.toNat_inj.mp (Int.ofNat_inj.mp code)
  · rintro rfl
    rfl

end Character

section Fragments

/-- Run, and run again behind each fragment of further input. -/
def runEach (fragments : List (List UInt8)) : List Command :=
  (fragments.flatMap fun fragment => [.run, .addInput fragment]) ++ [.run]

/-- The characters of valid fragments are those of the whole. -/
theorem decode_flatten {first : List UInt8} {fragments : List (List UInt8)}
    (valid : ∀ fragment ∈ first :: fragments, Utf8.isValid fragment = true) :
    Utf8.decode (first ++ fragments.flatten) =
      Utf8.decode first ++ fragments.flatMap Utf8.decode := by
  induction fragments generalizing first with
  | nil => simp
  | cons fragment fragments inductionHypothesis =>
      obtain ⟨firstValid, othersValid⟩ := List.forall_mem_cons.mp valid
      rw [Utf8.decode_append firstValid, List.flatten_cons, inductionHypothesis othersValid]
      rfl

/-- Runs behind the fragments of an input leave what one run with the whole input leaves. -/
theorem performs_runEach_iff {limits : TapeLimits} {block : Block} {source first : List UInt8}
    {fragments : List (List UInt8)} {final : Machine}
    (text : block.instructions = Instruction.ofBytes source)
    (valid : ∀ fragment ∈ first :: fragments, Utf8.isValid fragment = true)
    (runs : ((Machine.new limits).load source (first ++ fragments.flatten)).1.RunsTo final)
    (result : Machine) :
    Performs ((runEach fragments).map .command) ((Machine.new limits).load source first).1 result ↔
      result = final := by
  rw [Block.load_eq_loaded text] at runs ⊢
  have awake : (block.loaded limits (Utf8.decode first)).status ≠ .waitingForInput := by
    simp only [Block.loaded]
    split <;> decide
  have characters : (fragments.flatMap fun fragment => [.run, .addInput fragment]).flatMap
      Command.characters = fragments.flatMap Utf8.decode := by
    rw [List.flatMap_assoc]
    simp [Command.characters]
  have supplied : (block.loaded limits (Utf8.decode first)).supply
      (fragments.flatMap Utf8.decode) =
      block.loaded limits (Utf8.decode (first ++ fragments.flatten)) := by
    rw [supply_of_status_ne _ awake, decode_flatten valid]
    rfl
  rw [← supplied, ← characters] at runs
  obtain ⟨left, performed, ran⟩ :=
    exists_performs_of_supply _ (fun waiting => absurd waiting awake) runs
  have whole : Performs ((runEach fragments).map .command)
      (block.loaded limits (Utf8.decode first)) final := by
    rw [runEach, List.map_append]
    exact performed.concat ran
  exact ⟨fun other => other.deterministic whole, fun same => same ▸ whole⟩

end Fragments

/-- The current cell is on the tape and holds a character. -/
structure Store.Holds (store : Store) (character : Char) : Prop where
  inside : store.pointer < store.cells.size
  current : store.current = Int64.ofNat character.toNat

namespace Store

variable {store : Store} {character : Char}

/-- A cell holds the character whose code point was put in it. -/
theorem holds_put (inside : store.pointer < store.cells.size) (character : Char) :
    (store.put (Int64.ofNat character.toNat)).Holds character where
  inside := by simpa [put] using inside
  current := by simp [put, current, inside]

/-- A cell that holds a character other than the null character is not zero. -/
theorem Holds.current_ne_zero (holds : store.Holds character) (visible : character ≠ '\x00') :
    store.current ≠ 0 := by
  rw [holds.current]
  exact fun zero => visible (ofNat_toNat_eq_zero_iff.mp zero)

end Store

namespace Echo

/-- The text of the program, `,[.,]`. -/
def source : List UInt8 := [44, 91, 46, 44, 93]

/-- What is repeated. -/
def body : Block := .perform .write (.perform .read .nil)

/-- The program as a block. -/
def block : Block := .perform .read (.loop body .nil)

/-- The block is what the text of the program says. -/
theorem instructions_block : block.instructions = Instruction.ofBytes source := by
  decide

/-- What stops the echo in front of `remaining`, how many instructions are executed for it, and
which input is left. -/
inductive Stop : (remaining : List Char) → (cost : Nat) → Ending → (left : List Char) → Prop where
  /-- There is nothing more to read. -/
  | drained : Stop [] 0 (.interrupted .starved) []
  /-- A null character is read, and the loop is skipped or left. -/
  | null {left} : Stop ('\x00' :: left) 2 .complete left

section Evaluation

variable {limits : TapeLimits} {store : Store} {character next : Char} {rest : List Char}

/-- A loop that nothing follows is its bracket and what is repeated. -/
theorem eval_loop_alone {cost : Nat} {ending : Ending} {final : Store}
    (looped : Eval limits (.iterate body) store cost ending final) :
    Eval limits (.sequence (.loop body .nil)) store (1 + cost) ending final := by
  cases ending with
  | complete => exact .loop looped .nil
  | interrupted cause => exact .loopInterrupted looped

variable (limits)

/-- What was read is written as it was. -/
theorem perform_write (holds : store.Holds character) :
    Action.perform limits store .write =
      .ok { store with output := store.output.push character } := by
  rw [Action.perform, holds.current, outputChar_ofNat_toNat]

/-- A pass through the loop writes the character that was read, and reads the next one. -/
theorem eval_body (holds : store.Holds character) (buffered : store.input = next :: rest) :
    ∃ after, Eval limits (.sequence body) store 2 .complete after ∧ after.Holds next ∧
      after.input = rest ∧ after.output = store.output.push character := by
  let written : Store := { store with output := store.output.push character }
  have reads : Action.perform limits written .read =
      .ok { written.put (Int64.ofNat next.toNat) with input := rest } := by
    have stillBuffered : written.input = next :: rest := buffered
    simp only [Action.perform, stillBuffered]
  have held := @Store.holds_put written holds.inside next
  exact ⟨_, .perform (perform_write limits holds) (.perform reads .nil),
    ⟨held.inside, held.current⟩, rfl, rfl⟩

/-- Where there is no next one, the pass ends behind the writing. -/
theorem eval_body_drained (holds : store.Holds character) (drained : store.input = []) :
    Eval limits (.sequence body) store 1 (.interrupted .starved)
      { store with output := store.output.push character } := by
  refine .perform (perform_write limits holds) (.refuse ?_)
  simp only [Action.perform, drained]

/-- The loop echoes the character that was read before it and the visible text behind that. -/
theorem eval_loop {remaining left text : List Char} {cost : Nat} {ending : Ending}
    (stop : Stop remaining cost ending left) (visible : '\x00' ∉ character :: text)
    (holds : store.Holds character) (buffered : store.input = text ++ remaining) :
    ∃ final, Eval limits (.iterate body) store (3 * text.length + 1 + cost) ending final ∧
      final.input = left ∧ final.output.toList = store.output.toList ++ character :: text := by
  induction text generalizing store character with
  | nil =>
      have nonzero := holds.current_ne_zero (List.ne_of_not_mem_cons visible).symm
      cases stop with
      | drained =>
          exact ⟨_, .bodyInterrupted nonzero (eval_body_drained limits holds buffered), buffered,
            String.toList_push ..⟩
      | null =>
          obtain ⟨after, once, held, input, output⟩ := eval_body limits holds buffered
          have zero : after.current = 0 := held.current.trans (ofNat_toNat_eq_zero_iff.mpr rfl)
          have passed := Eval.again nonzero once (.done zero)
          exact ⟨after, passed, input, by rw [output, String.toList_push]⟩
  | cons next text inductionHypothesis =>
      have nonzero := holds.current_ne_zero (List.ne_of_not_mem_cons visible).symm
      obtain ⟨after, once, held, input, output⟩ := eval_body limits holds buffered
      obtain ⟨final, repeated, left, written⟩ := inductionHypothesis
        (List.not_mem_of_not_mem_cons visible) held input
      have passed := Eval.again nonzero once repeated
      have total : 3 * (next :: text).length + 1 + cost =
          2 + 1 + (3 * text.length + 1 + cost) := by
        rw [List.length_cons]
        omega
      refine ⟨final, total ▸ passed, left, ?_⟩
      rw [written, output, String.toList_push, List.append_assoc]
      rfl

/-- The program echoes the visible text in front of what stops it. -/
theorem eval_block {remaining left text : List Char} {cost : Nat} {ending : Ending}
    (stop : Stop remaining cost ending left) (visible : '\x00' ∉ text) :
    ∃ final, Eval limits (.sequence block) (.initial limits (text ++ remaining))
        (3 * text.length + cost) ending final ∧
      final.input = left ∧ final.output.toList = text := by
  -- The store behind the first `,`, which has read `first`.
  let read (first : Char) (input : List Char) : Store :=
    { (Store.initial limits input).put (Int64.ofNat first.toNat) with input }
  have reads (first : Char) (input : List Char) :
      Action.perform limits (.initial limits (first :: input)) .read = .ok (read first input) :=
    rfl
  have held (first : Char) (input : List Char) : (read first input).Holds first := by
    have inside :
        (Store.initial limits input).pointer < (Store.initial limits input).cells.size := by
      simpa [Store.initial] using limits.size_pos
    exact ⟨(Store.holds_put inside first).inside, (Store.holds_put inside first).current⟩
  cases text with
  | nil =>
      cases stop with
      | drained => exact ⟨_, .refuse rfl, rfl, rfl⟩
      | null =>
          have zero : (read '\x00' left).current = 0 := (held '\x00' left).current
          have passed := Eval.perform (reads '\x00' left) (eval_loop_alone (.done zero))
          exact ⟨_, passed, rfl, rfl⟩
  | cons first text =>
      obtain ⟨final, looped, input, output⟩ :=
        eval_loop limits stop visible (held first (text ++ remaining)) rfl
      have passed := Eval.perform (reads first (text ++ remaining)) (eval_loop_alone looped)
      have total : 3 * (first :: text).length + cost =
          1 + (1 + (3 * text.length + 1 + cost)) := by
        rw [List.length_cons]
        omega
      exact ⟨final, total ▸ passed, input, output⟩

end Evaluation

/-- A run of `count` instructions has echoed a text, and leaves the rest of the input. -/
structure Leaves (machine : Machine) (count : Nat) (status : Status) (text left : List Char)
    (final : Machine) : Prop where
  runs : machine.RunsFor count final
  steps_eq : final.steps = UInt64.ofNat count
  status_eq : final.status = status
  output_eq : final.output.toList = text
  input_eq : final.input = left

/-- Loaded with visible text in front of what stops it, the program runs to its stop. -/
theorem exists_leaves (limits : TapeLimits) {bytes : List UInt8} {text remaining left : List Char}
    {cost : Nat} {ending : Ending} (stop : Stop remaining cost ending left)
    (visible : '\x00' ∉ text) (decoded : Utf8.decode bytes = text ++ remaining) :
    ∃ final, Leaves ((Machine.new limits).load source bytes).1 (3 * text.length + cost)
      ending.status text left final := by
  obtain ⟨store, evaluation, input, output⟩ := eval_block limits stop visible
  obtain ⟨final, stops, status, rfl⟩ := Block.stops_of_eval evaluation
  rw [Block.load_eq_loaded instructions_block, decoded]
  have runs := Block.runsFor_loaded_iff.mpr stops
  exact ⟨final, runs, by simpa [Block.loaded, Machine.new] using runs.steps_eq, status, output,
    input⟩

end Echo

/-- The echo law. Without a null character the program `,[.,]` writes its whole input, with three
instructions for each character, and waits for more. Otherwise it writes what is in front of the
first null character, and finishes with what is behind it still buffered. The bytes of the output
are those of the input where these are valid, and a byte that belongs to no character comes back as
a replacement character. Cutting valid input into fragments, with a run behind each, makes no
difference. It does not matter how large the tape is, where its bounds are, or what was executed
before the program was loaded. -/
theorem echo_law {limits : TapeLimits} {machine : Machine} (reachable : Reachable limits machine)
    (bytes : List UInt8) :
    ('\x00' ∉ Utf8.decode bytes → ∃ final,
      Echo.Leaves (machine.load Echo.source bytes).1 (3 * (Utf8.decode bytes).length)
        .waitingForInput (Utf8.decode bytes) [] final ∧
      Utf8.ofString final.output = Utf8.encode (Utf8.decode bytes) ∧
      (Utf8.isValid bytes = true → Utf8.ofString final.output = bytes)) ∧
    (∀ position, (Utf8.decode bytes)[position]? = some '\x00' →
      '\x00' ∉ (Utf8.decode bytes).take position → ∃ final,
        Echo.Leaves (machine.load Echo.source bytes).1 (3 * position + 2) .finished
          ((Utf8.decode bytes).take position) ((Utf8.decode bytes).drop (position + 1)) final ∧
        Utf8.ofString final.output = Utf8.encode ((Utf8.decode bytes).take position) ∧
        final.input.length = (Utf8.decode bytes).length - position - 1) ∧
    ∀ first fragments, first ++ fragments.flatten = bytes →
      (∀ fragment ∈ first :: fragments, Utf8.isValid fragment = true) →
      ∀ final, (machine.load Echo.source bytes).1.RunsTo final →
        ∀ result, Performs (.load Echo.source first :: (runEach fragments).map .command) machine
          result ↔ result = final := by
  have fresh : ∀ input, machine.load Echo.source input =
      (Machine.new limits).load Echo.source input := by
    rw [← reachable.limits_eq]
    exact Machine.load_eq_load_new (Machine.Intact.of_reachable reachable) Echo.source
  rw [fresh bytes]
  refine ⟨fun visible => ?_, fun position null visible => ?_, ?_⟩
  · obtain ⟨final, leaves⟩ := Echo.exists_leaves limits .drained visible
      (List.append_nil (Utf8.decode bytes)).symm
    have output : Utf8.ofString final.output = Utf8.encode (Utf8.decode bytes) := by
      rw [Utf8.ofString, leaves.output_eq]
    exact ⟨final, leaves, output, fun valid => output.trans (Utf8.encode_decode valid)⟩
  · obtain ⟨inside, found⟩ := List.getElem?_eq_some_iff.mp null
    have split : Utf8.decode bytes = (Utf8.decode bytes).take position ++
        '\x00' :: (Utf8.decode bytes).drop (position + 1) := by
      rw [← found, ← List.drop_eq_getElem_cons inside, List.take_append_drop]
    obtain ⟨final, leaves⟩ := Echo.exists_leaves limits .null visible split
    rw [List.length_take_of_le (Nat.le_of_lt inside)] at leaves
    refine ⟨final, leaves, by rw [Utf8.ofString, leaves.output_eq], ?_⟩
    rw [leaves.input_eq, List.length_drop, Nat.sub_sub]
  · rintro first fragments rfl valid final runs result
    rw [← performs_runEach_iff Echo.instructions_block valid runs, ← fresh first]
    constructor
    · rintro (_ | ⟨rfl, performed⟩)
      exact performed
    · exact fun performed => .cons rfl performed

/-- An input in three fragments, of which the second has a null character: the machine waits once,
then finishes, and what arrives later stays in the buffer. -/
theorem echo_law_fragments :
    ∃ final, Performs (.load Echo.source [0xC3, 0xA9] :: (runEach [[0x41, 0x00, 0x42], [0x43]]).map
        .command) (.new ⟨1, 0, 0x10FFFF, by decide, by decide, by decide⟩) final ∧
      final.status = .finished ∧ final.steps = 8 ∧
      Utf8.ofString final.output = [0xC3, 0xA9, 0x41] ∧ final.input = ['B', 'C'] := by
  have reachable : Reachable ⟨1, 0, 0x10FFFF, by decide, by decide, by decide⟩
      (.new ⟨1, 0, 0x10FFFF, by decide, by decide, by decide⟩) := ⟨[], .nil⟩
  obtain ⟨-, stopped, fragments⟩ := echo_law reachable [0xC3, 0xA9, 0x41, 0x00, 0x42, 0x43]
  obtain ⟨final, leaves, output, -⟩ := stopped 2 (by decide) (by decide)
  obtain ⟨fuel, returned, -⟩ := leaves.runs
  refine ⟨final, ?_, leaves.status_eq, leaves.steps_eq, output.trans (by decide), ?_⟩
  · exact (fragments [0xC3, 0xA9] [[0x41, 0x00, 0x42], [0x43]] rfl (by decide) final
      ⟨fuel, returned⟩ final).mpr rfl
  · exact leaves.input_eq.trans (by decide)

end TapeDebugger
