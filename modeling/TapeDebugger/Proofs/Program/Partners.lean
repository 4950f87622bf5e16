import TapeDebugger.Proofs.Program.Unmatched

/-!
# The table of partners

`Nested` says what the table of a program should be, with no word about how it is made: each
bracket leads to the one that belongs to it by `Matched`, there and back, and no other instruction
leads anywhere. The pass over a program makes exactly this table, and makes it whenever there is
one (`compile_pairs_by_nesting`).

That there is at most one is a matter of `depth`: two brackets that belong together enclose a
stretch in which no fewer loops are open than behind the first of them, and the second ends it.
-/

namespace TapeDebugger

/-- How many more loops the first `length` instructions open than they close. -/
def depth (code : List Instruction) (length : Nat) : Int :=
  (code.take length).count .loopStart - (code.take length).count .loopEnd

section Depth

variable {code : List Instruction} {position start stop first last : Nat}

/-- The depth is one greater behind an opening bracket. -/
theorem depth_succ_of_loopStart (opens : code[position]? = some .loopStart) :
    depth code (position + 1) = depth code position + 1 := by
  rw [depth, depth, List.take_add_one, opens, List.count_append, List.count_append]
  simp
  omega

/-- The depth is one less behind a closing bracket. -/
theorem depth_succ_of_loopEnd (closes : code[position]? = some .loopEnd) :
    depth code (position + 1) = depth code position - 1 := by
  rw [depth, depth, List.take_add_one, closes, List.count_append, List.count_append]
  simp
  omega

/-- The depth changes along a stretch by what the stretch opens and closes. -/
theorem depth_add (code : List Instruction) (start length : Nat) :
    depth code (start + length) = depth code start + depth (code.drop start) length := by
  rw [depth, depth, depth, List.take_add, List.count_append, List.count_append]
  omega

namespace Matched

/-- Between two brackets that belong together no loop around them is closed. -/
theorem depth_le (matched : Matched code start stop) (behind : start < position)
    (within : position ≤ stop) : depth code (start + 1) ≤ depth code position := by
  have balanced := matched.inside.nonnegative (position - (start + 1))
  rw [List.drop_take, List.take_take, Nat.min_eq_left (by omega)] at balanced
  have along := depth_add code (start + 1) (position - (start + 1))
  rw [Nat.add_sub_cancel' behind, depth.eq_1 (code.drop (start + 1))] at along
  omega

/-- In front of the second bracket the depth is that behind the first. -/
theorem depth_eq (matched : Matched code start stop) :
    depth code stop = depth code (start + 1) := by
  have balanced := matched.inside.closed
  rw [List.drop_take] at balanced
  have along := depth_add code (start + 1) (stop - (start + 1))
  rw [Nat.add_sub_cancel' matched.start_lt, depth.eq_1 (code.drop (start + 1))] at along
  omega

/-- What is opened between two brackets that belong together is closed between them. -/
theorem stop_lt (outer : Matched code start stop) (inner : Matched code first last)
    (behind : start < first) (within : first < stop) : last < stop := by
  by_contra! beyond
  have opened := depth_succ_of_loopStart inner.opens
  have above := outer.depth_le behind (Nat.le_of_lt within)
  have kept := inner.depth_le within beyond
  have level := outer.depth_eq
  omega

/-- A bracket that opens belongs to one that closes only. -/
theorem stop_unique (left : Matched code start stop) (right : Matched code start last) :
    stop = last := by
  have not_lt : ∀ {near far}, Matched code start near → Matched code start far → ¬ near < far := by
    intro near far nearer farther less
    have closed := depth_succ_of_loopEnd nearer.closes
    have level := nearer.depth_eq
    have kept := farther.depth_le (Nat.lt_add_right 1 nearer.start_lt) less
    omega
  exact Nat.le_antisymm (Nat.le_of_not_lt (not_lt right left))
    (Nat.le_of_not_lt (not_lt left right))

/-- A bracket that closes belongs to one that opens only. -/
theorem start_unique (left : Matched code start stop) (right : Matched code first stop) :
    start = first := by
  rcases Nat.lt_trichotomy start first with before | same | behind
  · exact absurd (left.stop_lt right before right.start_lt) (Nat.lt_irrefl stop)
  · exact same
  · exact absurd (right.stop_lt left behind left.start_lt) (Nat.lt_irrefl stop)

end Matched

end Depth

/-- The table leads each bracket to the one that belongs to it, there and back, and no other
instruction anywhere. -/
structure Nested (code : List Instruction) (table : Array (Option Nat)) : Prop where
  aligned : table.size = code.length
  plain : ∀ {position : Nat} {instruction : Instruction}, code[position]? = some instruction →
    instruction ≠ .loopStart → instruction ≠ .loopEnd → table[position]? = some none
  opening : ∀ {start : Nat}, code[start]? = some .loopStart → ∃ stop,
    table[start]? = some (some stop) ∧ Matched code start stop ∧ table[stop]? = some (some start)
  closing : ∀ {stop : Nat}, code[stop]? = some .loopEnd → ∃ start,
    table[stop]? = some (some start) ∧ Matched code start stop ∧ table[start]? = some (some stop)

namespace Nested

variable {code : List Instruction} {table other : Array (Option Nat)}

/-- A position that leads somewhere is a bracket, and leads to the one it belongs to. -/
theorem matched (nested : Nested code table) {position target : Nat}
    (entry : table[position]? = some (some target)) :
    Matched code position target ∨ Matched code target position := by
  have within : position < code.length := by
    rw [← nested.aligned]
    exact (Array.getElem?_eq_some_iff.mp entry).1
  have present := List.getElem?_eq_getElem within
  by_cases opens : code[position] = .loopStart
  · obtain ⟨stop, found, matched, _⟩ := nested.opening (opens ▸ present)
    rw [entry] at found
    cases found
    exact .inl matched
  by_cases closes : code[position] = .loopEnd
  · obtain ⟨start, found, matched, _⟩ := nested.closing (closes ▸ present)
    rw [entry] at found
    cases found
    exact .inr matched
  · rw [nested.plain present opens closes] at entry
    cases entry

/-- There is at most one such table. -/
theorem unique (nested : Nested code table) (alike : Nested code other) : other = table := by
  apply Array.ext_getElem?
  intro position
  cases present : code[position]? with
  | none =>
      have past := List.getElem?_eq_none_iff.mp present
      rw [Array.getElem?_eq_none (alike.aligned ▸ past),
        Array.getElem?_eq_none (nested.aligned ▸ past)]
  | some instruction =>
      by_cases opens : instruction = .loopStart
      · subst opens
        obtain ⟨stop, entry, matched, _⟩ := nested.opening present
        obtain ⟨otherStop, otherEntry, otherMatched, _⟩ := alike.opening present
        rw [entry, otherEntry, matched.stop_unique otherMatched]
      by_cases closes : instruction = .loopEnd
      · subst closes
        obtain ⟨start, entry, matched, _⟩ := nested.closing present
        obtain ⟨otherStart, otherEntry, otherMatched, _⟩ := alike.closing present
        rw [entry, otherEntry, matched.start_unique otherMatched]
      · rw [nested.plain present opens closes, alike.plain present opens closes]

/-- Between two brackets that lead to each other every bracket leads to one between them. -/
theorem leads_between (nested : Nested code table) {start stop first last : Nat}
    (outer : table[start]? = some (some stop)) (inner : table[first]? = some (some last))
    (behind : start < first) (within : first < stop) : start < last ∧ last < stop := by
  have around : Matched code start stop := by
    rcases nested.matched outer with forward | backward
    · exact forward
    · exact absurd backward.start_lt (by omega)
  rcases nested.matched inner with forward | backward
  · exact ⟨Nat.lt_trans behind forward.start_lt, around.stop_lt forward behind within⟩
  · refine ⟨?_, Nat.lt_trans backward.start_lt within⟩
    rcases Nat.lt_trichotomy start last with before | rfl | after
    · exact before
    · exact absurd (around.stop_unique backward) (by omega)
    · exact absurd (backward.stop_lt around after behind) (by omega)

/-- With such a table no bracket lacks a partner. -/
theorem not_lacksPartner (nested : Nested code table) (position : Nat) :
    ¬ LacksPartner code position := by
  rintro ⟨⟨bracket, present⟩, unmatched⟩
  cases bracket with
  | opening =>
      obtain ⟨stop, _, matched, _⟩ := nested.opening present
      exact (unmatched stop).1 matched
  | closing =>
      obtain ⟨start, _, matched, _⟩ := nested.closing present
      exact (unmatched start).2 matched

end Nested

namespace Block

/-- The table of a block has an entry for its brackets only. -/
theorem map_isSome_partners (block : Block) (start : Nat) :
    (block.partners start).map Option.isSome =
      block.instructions.map fun instruction => instruction.counterpart?.isSome := by
  induction block generalizing start with
  | nil => rfl
  | perform action rest inductionHypothesis => simp [partners, instructions, inductionHypothesis]
  | loop body rest bodyHypothesis restHypothesis =>
      simp [partners, instructions, bodyHypothesis, restHypothesis, Instruction.counterpart?]

/-- The brackets of a block belong to each other, and its table leads from one to the other. -/
theorem exists_matched (block : Block) {position : Nat} {bracket : Bracket}
    (present : block.instructions[position]? = some bracket.instruction) :
    ∃ start stop, Matched block.instructions start stop ∧
      block.program.partners[start]? = some (some stop) ∧
      block.program.partners[stop]? = some (some start) ∧ (position = start ∨ position = stop) := by
  have within := (List.getElem?_eq_some_iff.mp present).1
  rw [length_instructions] at within
  have pair := @At.exists_matched block.program block [] [] position bracket block.at_program
    (by simp [program]) (Nat.zero_le _) (by simpa using within)
    (by simpa [Program.instruction?, program] using present)
  simpa [program] using pair

/-- The table of a block is the one that its nesting determines. -/
theorem nested (block : Block) : Nested block.instructions block.program.partners where
  aligned := by simp [program]
  plain := by
    intro position instruction present opens closes
    have simple : instruction.counterpart? = none := by
      cases instruction <;> first | rfl | contradiction
    have entries := congrArg (·[position]?) (block.map_isSome_partners 0)
    simp only [List.getElem?_map, present, Option.map_some, simple, Option.isSome_none,
      Option.map_eq_some_iff, Option.isSome_eq_false_iff, Option.isNone_iff_eq_none] at entries
    obtain ⟨entry, found, rfl⟩ := entries
    simpa [program] using found
  opening := by
    intro position present
    obtain ⟨start, stop, matched, forward, backward, rfl | rfl⟩ :=
      @exists_matched block position .opening present
    · exact ⟨stop, forward, matched, backward⟩
    · cases present.symm.trans matched.closes
  closing := by
    intro position present
    obtain ⟨start, stop, matched, forward, backward, rfl | rfl⟩ :=
      @exists_matched block position .closing present
    · cases present.symm.trans matched.opens
    · exact ⟨start, backward, matched, forward⟩

end Block

namespace Program

variable {source : List UInt8} {program : Program}

/-- A compiled program has the instructions of its source and the table of their nesting. -/
theorem nested_of_compile (compiled : compile source = .ok program) :
    program.code.toList = Instruction.ofBytes source ∧
      Nested program.code.toList program.partners := by
  obtain ⟨block, text, rfl⟩ := exists_block_of_compile compiled
  have code : block.program.code.toList = block.instructions := by simp [Block.program]
  rw [code]
  exact ⟨text, block.nested⟩

/-- A source whose instructions have a table of their nesting compiles to that table. -/
theorem compile_of_nested (code : program.code.toList = Instruction.ofBytes source)
    (nested : Nested program.code.toList program.partners) : compile source = .ok program := by
  rcases compile_cases source with
    ⟨block, text, compiled⟩ | ⟨block, bracket, tail, dangles, text, _⟩
  · obtain ⟨blockCode, blockNested⟩ := nested_of_compile compiled
    obtain ⟨instructions, table⟩ := program
    obtain rfl : instructions = block.program.code :=
      Array.toList_inj.mp (code.trans blockCode.symm)
    obtain rfl : table = block.program.partners := blockNested.unique nested
    exact compiled
  · rw [code, text] at nested
    exact absurd (dangles.lacksPartner block) (nested.not_lacksPartner _)

end Program

/-- A program is what a source compiles to exactly when it has the instructions of the source and a
table that leads each bracket to the one it belongs to by nesting. There is no other such table, and
no two pairs of brackets in it cross: what stands between two that lead to each other leads to a
position between them. -/
theorem compile_pairs_by_nesting (source : List UInt8) :
    (∀ program, Program.compile source = .ok program ↔
      program.code.toList = Instruction.ofBytes source ∧
        Nested program.code.toList program.partners) ∧
    ∀ program, Program.compile source = .ok program →
      (∀ table, Nested program.code.toList table → table = program.partners) ∧
      ∀ start stop first last : Nat, program.partners[start]? = some (some stop) →
        program.partners[first]? = some (some last) → start < first → first < stop →
          start < last ∧ last < stop := by
  constructor
  · intro program
    exact ⟨Program.nested_of_compile, fun both => Program.compile_of_nested both.1 both.2⟩
  · intro program compiled
    obtain ⟨_, nested⟩ := Program.nested_of_compile compiled
    refine ⟨fun table alike => nested.unique alike, ?_⟩
    intro start stop first last outer inner behind within
    exact nested.leads_between outer inner behind within

/-- In `[x[+]-[]]` the loops inside lead to each other and the one around them to its end. -/
theorem compile_pairs_by_nesting_loops :
    ∃ program, Program.compile [91, 120, 91, 43, 93, 45, 91, 93, 93] = .ok program ∧
      program.partners =
        #[some 7, some 3, none, some 1, none, some 6, some 5, some 0] ∧
      Nested program.code.toList program.partners ∧
      (∀ table, Nested program.code.toList table → table = program.partners) ∧
      0 < 6 ∧ 6 < 7 := by
  obtain ⟨determined, alone⟩ := compile_pairs_by_nesting [91, 120, 91, 43, 93, 45, 91, 93, 93]
  refine ⟨_, rfl, by decide +kernel, ((determined _).mp rfl).2, (alone _ rfl).1, ?_⟩
  exact (alone _ rfl).2 0 7 5 6 (by decide +kernel) (by decide +kernel) (by decide) (by decide)

end TapeDebugger
