import TapeDebugger.Proofs.Machine.Calls
import TapeDebugger.Proofs.Machine.Structured
import TapeDebugger.Proofs.Text.Utf8
import TapeDebugger.Proofs.Word

/-!
# Cells and their bounds

Counting up and down checks the bounds of a cell, reading does not: `,` stores the code
point of whatever character comes next. Cells therefore stay between the lower bound and
a ceiling that covers both the upper bound and every character supplied
(`Contained.performs`), and within their bounds in every reachable machine exactly when the
upper bound leaves room for every character.
-/

namespace TapeDebugger

/-- The code point that reading a character stores. -/
theorem toInt_ofNat_toNat (character : Char) :
    (Int64.ofNat character.toNat).toInt = character.toNat := by
  have bound := Utf8.toNat_lt character
  exact Int64.toInt_ofNat_of_lt (by omega)

/-- No character reaches above the last code point. -/
theorem ofNat_toNat_le (character : Char) : Int64.ofNat character.toNat ≤ 0x10FFFF := by
  have bound := Utf8.toNat_lt character
  have last : (0x10FFFF : Int64).toInt = 0x10FFFF := rfl
  rw [Int64.le_iff_toInt_le, toInt_ofNat_toNat, last]
  omega

namespace Tape

/-- Every cell lies between `low` and `high`. -/
def Within (low high : Int64) (tape : Tape) : Prop :=
  ∀ value ∈ tape.cells, low ≤ value ∧ value ≤ high

variable {low high : Int64} {tape : Tape}

/-- A cell that is stored between the bounds leaves the tape within them. -/
theorem Within.store (within : tape.Within low high) {value : Int64} (least : low ≤ value)
    (most : value ≤ high) : (tape.store value).Within low high := by
  intro cell member
  rcases Array.mem_or_eq_of_mem_setIfInBounds member with old | rfl
  · exact within cell old
  · exact ⟨least, most⟩

/-- A pointer off the tape would read zero, so zero has to lie within, too. -/
theorem Within.current (within : tape.Within low high) (least : low ≤ 0) (most : 0 ≤ high) :
    low ≤ tape.current ∧ tape.current ≤ high := by
  by_cases inside : tape.pointer < tape.cells.size
  · have member : tape.current ∈ tape.cells := by
      simp [Tape.current, inside]
    exact within _ member
  · have zero : tape.current = 0 := by
      simp [Tape.current, inside]
    rw [zero]
    exact ⟨least, most⟩

/-- A blank tape is within bounds that have zero between them. -/
theorem within_blank (size : Nat) (least : low ≤ 0) (most : 0 ≤ high) :
    (blank size).Within low high := by
  intro cell member
  obtain ⟨_, rfl⟩ := Array.mem_replicate.mp member
  exact ⟨least, most⟩

end Tape

namespace Machine

/-- The cells lie between the lower bound and a ceiling over the upper bound, and nothing
buffered reaches above it. -/
structure Contained (ceiling : Int64) (machine : Machine) : Prop where
  maxValue_le : machine.limits.maxValue ≤ ceiling
  cells : machine.tape.Within machine.limits.minValue ceiling
  input : ∀ character ∈ machine.input, Int64.ofNat character.toNat ≤ ceiling

namespace Contained

variable {ceiling : Int64} {machine next : Machine}

/-- No instruction brings a cell above the ceiling or below the lower bound. -/
theorem effect {instruction : Instruction} (contained : Contained ceiling machine)
    (effect : Effect machine instruction next) : Contained ceiling next := by
  have least := machine.limits.minValue_nonpos
  have most := Int64.le_trans machine.limits.maxValue_nonneg contained.maxValue_le
  obtain ⟨lower, upper⟩ := contained.cells.current least most
  have roof := Int64.le_iff_toInt_le.mp contained.maxValue_le
  rw [Int64.le_iff_toInt_le] at lower upper
  cases effect with
  | moveRight | moveLeft | write | skip _ | enter _ | leave _ | again _ =>
      exact ⟨contained.maxValue_le, contained.cells, contained.input⟩
  | increment below =>
      have unwrapped := toInt_add_one below
      have less := Int64.lt_iff_toInt_lt.mp below
      refine ⟨contained.maxValue_le, contained.cells.store ?_ ?_, contained.input⟩ <;>
        rw [Int64.le_iff_toInt_le] <;> omega
  | decrement above =>
      have unwrapped := toInt_sub_one above
      have less := Int64.lt_iff_toInt_lt.mp above
      refine ⟨contained.maxValue_le, contained.cells.store ?_ ?_, contained.input⟩ <;>
        rw [Int64.le_iff_toInt_le] <;> omega
  | @read character rest buffered =>
      have known := contained.input
      rw [buffered] at known
      have nonnegative : (0 : Int64) ≤ Int64.ofNat character.toNat := by
        rw [Int64.le_iff_toInt_le, toInt_ofNat_toNat, Int64.toInt_zero]
        omega
      refine ⟨contained.maxValue_le, contained.cells.store ?_ ?_, ?_⟩
      · exact Int64.le_trans least nonnegative
      · exact known character (List.mem_cons_self ..)
      · exact fun other member => known other (List.mem_cons_of_mem _ member)

/-- Advancing keeps a machine contained. -/
theorem advance (contained : Contained ceiling machine) (budget : Nat) :
    Contained ceiling (machine.advance budget) := by
  refine advance_preserves (Contained ceiling) ?_ ?_ contained budget
  · intro before status holds
    exact ⟨holds.maxValue_le, holds.cells, holds.input⟩
  · intro before after instruction holds _ effect
    exact holds.effect effect

/-- A blank machine is contained whatever it has buffered below the ceiling. -/
theorem of_blank (roof : machine.limits.maxValue ≤ ceiling) (size : Nat)
    (blank : machine.tape = .blank size)
    (input : ∀ character ∈ machine.input, Int64.ofNat character.toNat ≤ ceiling) :
    Contained ceiling machine := by
  refine ⟨roof, ?_, input⟩
  rw [blank]
  exact Tape.within_blank size machine.limits.minValue_nonpos
    (Int64.le_trans machine.limits.maxValue_nonneg roof)

/-- No call brings a cell above a ceiling over the characters it supplies. -/
theorem call {call : Call} (contained : Contained ceiling machine)
    (returned : call.Returns machine next)
    (supplied : ∀ character ∈ call.characters, Int64.ofNat character.toNat ≤ ceiling) :
    Contained ceiling next := by
  cases call with
  | load source input =>
      have result : next = (machine.load source input).1 := returned
      rw [result, Machine.load]
      cases Program.compile source with
      | error unmatched =>
          exact of_blank contained.maxValue_le machine.tape.size rfl (by simp [reset])
      | ok program => exact of_blank contained.maxValue_le machine.tape.size rfl supplied
  | reset =>
      have result : next = machine.reset := returned
      rw [result]
      exact of_blank contained.maxValue_le machine.tape.size rfl (by simp [reset])
  | command given =>
      rcases Command.Returns.cases returned with
        rfl | ⟨budget, rfl⟩ | ⟨input, rfl, rfl⟩
      · exact contained
      · exact contained.advance budget
      · refine ⟨contained.maxValue_le, contained.cells, ?_⟩
        intro character member
        rcases List.mem_append.mp member with old | new
        · exact contained.input character old
        · exact supplied character new

/-- Whatever is called, cells stay below a ceiling over the upper bound and all the
characters supplied. -/
theorem performs {calls : List Call} {limits : TapeLimits} (roof : limits.maxValue ≤ ceiling)
    (performed : Performs calls (.new limits) machine)
    (supplied : ∀ call ∈ calls, ∀ character ∈ call.characters,
      Int64.ofNat character.toNat ≤ ceiling) :
    Contained ceiling machine := by
  have start : Contained ceiling (.new limits) :=
    of_blank roof limits.size rfl (by simp [Machine.new])
  exact performed.preserves (Contained ceiling)
    (fun call member _ _ returned holds => holds.call returned (supplied call member)) start

end Contained

/-- Reading stores any character at all: there is always a machine that holds its code
point. -/
theorem exists_reachable_of_read (limits : TapeLimits) (character : Char) :
    ∃ machine, Reachable limits machine ∧
      Int64.ofNat character.toNat ∈ machine.tape.cells := by
  have text : (Block.perform .read .nil).instructions = Instruction.ofBytes [44] := by decide
  let before := (Block.perform .read .nil).loaded limits [character]
  have loaded : before = ((Machine.new limits).load [44] (Utf8.encode [character])).1 := by
    rw [Block.load_eq_loaded text, Utf8.decode_encode]
  have stored : (before.step 1).tape =
      (Tape.blank limits.size).store (Int64.ofNat character.toNat) := rfl
  refine ⟨before.step 1, ⟨[.load [44] (Utf8.encode [character]), .command (.step 1)],
    .cons loaded (.cons rfl .nil)⟩, ?_⟩
  rw [stored]
  exact Array.mem_setIfInBounds (by simpa [Tape.blank] using limits.size_pos)

end Machine

open Machine

/-- Cells respect their bounds in every reachable machine if and only if the upper bound
leaves room for every character that `,` can store. Whatever the bounds, cells respect them
as long as no character supplied lies above the upper one, never fall below the lower one,
and are never larger than both the upper one and the last code point. -/
theorem reachable_cells_within_iff (limits : TapeLimits) :
    ((∀ machine, Reachable limits machine →
        machine.tape.Within limits.minValue limits.maxValue) ↔ 0x10FFFF ≤ limits.maxValue) ∧
    (∀ calls machine, Performs calls (.new limits) machine →
      (∀ call ∈ calls, ∀ character ∈ call.characters,
        Int64.ofNat character.toNat ≤ limits.maxValue) →
      machine.tape.Within limits.minValue limits.maxValue) ∧
    ∀ machine, Reachable limits machine → ∀ value ∈ machine.tape.cells,
      limits.minValue ≤ value ∧ (value ≤ limits.maxValue ∨ value ≤ 0x10FFFF) := by
  -- What a ceiling over the upper bound and the characters of some calls gives.
  have below : ∀ {ceiling calls machine}, limits.maxValue ≤ ceiling →
      Performs calls (.new limits) machine →
      (∀ call ∈ calls, ∀ character ∈ call.characters, Int64.ofNat character.toNat ≤ ceiling) →
      machine.tape.Within limits.minValue ceiling := by
    intro ceiling calls machine roof performed supplied
    have contained := (Contained.performs roof performed supplied).cells
    rwa [performed.limits_eq] at contained
  refine ⟨⟨?_, ?_⟩, ?_, ?_⟩
  · intro bounded
    obtain ⟨machine, reachable, member⟩ := exists_reachable_of_read limits (Char.ofNat 0x10FFFF)
    exact (bounded machine reachable _ member).2
  · rintro room machine ⟨calls, performed⟩
    exact below (Int64.le_refl _) performed
      (fun _ _ character _ => Int64.le_trans (ofNat_toNat_le character) room)
  · exact fun calls machine performed supplied => below (Int64.le_refl _) performed supplied
  · rintro machine ⟨calls, performed⟩ value member
    rcases Int64.le_total limits.maxValue 0x10FFFF with low | high
    · obtain ⟨least, most⟩ := below low performed
        (fun _ _ character _ => ofNat_toNat_le character) value member
      exact ⟨least, .inr most⟩
    · obtain ⟨least, most⟩ := below (Int64.le_refl _) performed
        (fun _ _ character _ => Int64.le_trans (ofNat_toNat_le character) high) value member
      exact ⟨least, .inl most⟩

/-- With cells between minus ten and ten, reading `A` leaves sixty-five in one. -/
theorem reachable_cell_above_bound :
    ∃ machine, Reachable ⟨1, -10, 10, by decide, by decide, by decide⟩ machine ∧
      machine.tape.cells = #[65] ∧ ¬ machine.tape.Within (-10) 10 := by
  refine ⟨_, ⟨[.load [44] [65], .command (.step 1)], .cons rfl (.cons rfl .nil)⟩, ?_, ?_⟩
  · decide +kernel
  · intro within
    exact absurd (within 65 (by decide +kernel)).2 (by decide)

end TapeDebugger
