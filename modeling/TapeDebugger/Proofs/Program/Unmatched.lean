import Mathlib.Order.Bounds.Basic
import TapeDebugger.Proofs.Program.Pairing

/-!
# Brackets without a partner

`Matched` says declaratively which two brackets belong together: what stands between them is
balanced. The pass over a program knows nothing of that; it keeps a stack, and names one bracket
either during the pass or behind it. Both times it is the first that belongs to no other
(`compile_names_first_unmatched`).

Every text begins with a block, as long as possible, and what follows that, if anything, `Dangles`:
it begins with a bracket that nothing opens or nothing closes (`exists_block_and_dangling`). The
brackets of the block have partners in it, and the one behind it has none.
-/

namespace TapeDebugger

/-- The instruction that a bracket is. -/
def Bracket.instruction : Bracket → Instruction
  | opening => .loopStart
  | closing => .loopEnd

/-- A bracket is written like its instruction. -/
@[simp] theorem Bracket.symbol_instruction (bracket : Bracket) :
    bracket.instruction.symbol = bracket.symbol := by
  cases bracket <;> rfl

/-- A bracket is known by its symbol. -/
theorem Bracket.symbol_injective {left right : Bracket} (same : left.symbol = right.symbol) :
    left = right := by
  cases left <;> cases right <;> first | rfl | exact absurd same (by decide)

section Balance

variable {left right : List Instruction}

/-- An opening bracket counts among the opening ones. -/
theorem count_loopStart_cons (code : List Instruction) :
    (Instruction.loopStart :: code).count .loopStart = code.count .loopStart + 1 :=
  List.count_cons_self

/-- An opening bracket does not count among the closing ones. -/
theorem count_loopEnd_cons (code : List Instruction) :
    (Instruction.loopStart :: code).count .loopEnd = code.count .loopEnd :=
  List.count_cons_of_ne (by decide)

/-- Code is not balanced when some prefix closes more than it opens, or the whole does not close as
much as it opens. -/
theorem not_balanced_iff {code : List Instruction} :
    ¬ Balanced code ↔
      (∃ length, (code.take length).count .loopStart < (code.take length).count .loopEnd) ∨
        code.count .loopEnd ≠ code.count .loopStart := by
  constructor
  · intro unbalanced
    by_contra! neither
    exact unbalanced ⟨neither.1, neither.2⟩
  · rintro (⟨length, more⟩ | differ) balanced
    · exact absurd (balanced.nonnegative length) (Nat.not_le.mpr more)
    · exact differ balanced.closed

/-- The empty code is balanced. -/
theorem balanced_nil : Balanced [] where
  nonnegative _ := by simp
  closed := rfl

/-- Balanced code behind balanced code is balanced. -/
theorem Balanced.append (first : Balanced left) (second : Balanced right) :
    Balanced (left ++ right) where
  nonnegative length := by
    have inFirst := first.nonnegative length
    have inSecond := second.nonnegative (length - left.length)
    rw [List.take_append, List.count_append, List.count_append]
    omega
  closed := by rw [List.count_append, List.count_append, first.closed, second.closed]

/-- A single action is balanced. -/
theorem balanced_action (action : Action) : Balanced [action.instruction] where
  nonnegative length := by cases length <;> simp
  closed := by simp

/-- A balanced text in brackets is balanced. -/
theorem Balanced.enclose (balanced : Balanced left) :
    Balanced (.loopStart :: (left ++ [.loopEnd])) where
  nonnegative length := by
    cases length with
    | zero => simp
    | succ length =>
        have inside := balanced.nonnegative length
        have closing : (([.loopEnd] : List Instruction).take (length - left.length)).count
            .loopEnd ≤ 1 := ((List.take_sublist _ _).count_le _).trans (Nat.le_of_eq rfl)
        simp only [List.take_succ_cons, List.take_append, List.count_append, count_loopStart_cons,
          count_loopEnd_cons]
        omega
  closed := by simp [balanced.closed]

/-- The text of a block is balanced. -/
theorem Block.balanced (block : Block) : Balanced block.instructions := by
  induction block with
  | nil => exact balanced_nil
  | perform action rest restBalanced => exact (balanced_action action).append restBalanced
  | loop body rest bodyBalanced restBalanced =>
      have split : (loop body rest).instructions =
          (.loopStart :: (body.instructions ++ [.loopEnd])) ++ rest.instructions := by
        simp [instructions]
      rw [split]
      exact bodyBalanced.enclose.append restBalanced

end Balance

/-- The brackets at two positions belong together: the first opens and the second closes, and what
stands between them is balanced in itself. -/
structure Matched (code : List Instruction) (start stop : Nat) : Prop where
  start_lt : start < stop
  opens : code[start]? = some .loopStart
  closes : code[stop]? = some .loopEnd
  inside : Balanced ((code.take stop).drop (start + 1))

/-- A text around two brackets that belong together. -/
theorem matched_iff {code : List Instruction} {start stop : Nat} :
    Matched code start stop ↔ ∃ before inside after, Balanced inside ∧
      code = before ++ .loopStart :: (inside ++ .loopEnd :: after) ∧
      start = before.length ∧ stop = before.length + inside.length + 1 := by
  constructor
  · rintro ⟨less, opens, closes, inside⟩
    obtain ⟨short, opening⟩ := List.getElem?_eq_some_iff.mp opens
    obtain ⟨long, closing⟩ := List.getElem?_eq_some_iff.mp closes
    have within : start < (code.take stop).length := by
      rw [List.length_take]
      omega
    have startsAt : (code.take stop)[start] = .loopStart := by
      rw [List.getElem_take, opening]
    have split : code.take stop =
        code.take start ++ .loopStart :: (code.take stop).drop (start + 1) := by
      have parts := List.take_append_drop start (code.take stop)
      rw [List.take_take, Nat.min_eq_left (Nat.le_of_lt less),
        List.drop_eq_getElem_cons within, startsAt] at parts
      exact parts.symm
    refine ⟨code.take start, _, code.drop (stop + 1), inside, ?_, by simp; omega,
      by simp; omega⟩
    rw [← List.cons_append, ← List.append_assoc, ← split, ← closing,
      ← List.drop_eq_getElem_cons long, List.take_append_drop]
  · rintro ⟨before, inside, after, balanced, rfl, rfl, rfl⟩
    have split : before ++ .loopStart :: (inside ++ .loopEnd :: after) =
        (before ++ .loopStart :: inside) ++ .loopEnd :: after := by simp
    have length : (before ++ Instruction.loopStart :: inside).length =
        before.length + inside.length + 1 := by simp [Nat.add_assoc]
    refine ⟨by omega, by simp, ?_, ?_⟩
    · rw [split, ← length, List.getElem?_append_right (Nat.le_refl _), Nat.sub_self]
      rfl
    · have behind : (before ++ Instruction.loopStart :: inside).drop (before.length + 1) =
          inside := by
        rw [← List.drop_drop, List.drop_left]
        rfl
      rw [split, ← length, List.take_left, behind]
      exact balanced

/-- There is a bracket at a position, and none belongs to it. -/
structure LacksPartner (code : List Instruction) (position : Nat) : Prop where
  isBracket : ∃ bracket : Bracket, code[position]? = some bracket.instruction
  unmatched : ∀ other, ¬ Matched code position other ∧ ¬ Matched code other position

/-- The brackets of a block that stands in a program belong to each other and lead to each other. -/
theorem Block.At.exists_matched {program : Program} {block : Block}
    {before after : List Instruction} {position : Nat} {bracket : Bracket}
    (there : block.At program before.length)
    (text : program.code.toList = before ++ (block.instructions ++ after))
    (reached : before.length ≤ position) (within : position < before.length + block.size)
    (present : program.instruction? position = some bracket.instruction) :
    ∃ start stop, Matched program.code.toList start stop ∧
      program.partners[start]? = some (some stop) ∧ program.partners[stop]? = some (some start) ∧
      (position = start ∨ position = stop) := by
  induction block generalizing before after with
  | nil => simp only [Block.size] at within; omega
  | perform action rest inductionHypothesis =>
      obtain ⟨first, behind⟩ := there
      simp only [Block.size] at within
      rcases Nat.eq_or_lt_of_le reached with rfl | later
      · rw [first] at present
        cases bracket <;> simp [Bracket.instruction] at present
      · refine @inductionHypothesis (before ++ [action.instruction]) after ?_ ?_ ?_ ?_
        · simpa using behind
        · simp [text, instructions]
        · simpa using Nat.succ_le_of_lt later
        · simp only [List.length_append, List.length_singleton]
          omega
  | loop body rest bodyHypothesis restHypothesis =>
      obtain ⟨_, forward, inside, _, backward, behind⟩ := there
      simp only [Block.size] at within
      have pair : Matched program.code.toList before.length (before.length + body.size + 1) :=
        matched_iff.mpr ⟨before, body.instructions, rest.instructions ++ after, body.balanced,
          by simp [text, instructions], rfl, by simp⟩
      have there := Program.partners_of_partner forward (by omega)
      have back := Program.partners_of_partner backward (by omega)
      rcases Nat.lt_trichotomy position (before.length + body.size + 1) with inFront | rfl | further
      · rcases Nat.eq_or_lt_of_le reached with rfl | later
        · exact ⟨_, _, pair, there, back, .inl rfl⟩
        · refine @bodyHypothesis (before ++ [.loopStart])
            (.loopEnd :: (rest.instructions ++ after)) ?_ ?_ ?_ ?_
          · simpa using inside
          · simp [text, instructions]
          · simpa using Nat.succ_le_of_lt later
          · simp only [List.length_append, List.length_singleton]
            omega
      · exact ⟨_, _, pair, there, back, .inr rfl⟩
      · refine @restHypothesis (before ++ .loopStart :: (body.instructions ++ [.loopEnd])) after
          ?_ ?_ ?_ ?_
        · simpa [Nat.add_assoc] using behind
        · simp [text, instructions]
        · simp
          omega
        · simp
          omega

/-- Whatever follows a block, none of its brackets lacks a partner. -/
theorem Block.not_lacksPartner (block : Block) (tail : List Instruction) {position : Nat}
    (within : position < block.size) : ¬ LacksPartner (block.instructions ++ tail) position := by
  rintro ⟨⟨bracket, present⟩, unmatched⟩
  -- The block stands at the beginning of its text and its own table.
  let program : Program := ⟨(block.instructions ++ tail).toArray, (block.partners 0).toArray⟩
  have there : block.At program 0 :=
    @at_of_append program block [] tail [] [] rfl (by simp [program]) (by simp [program])
  obtain ⟨start, stop, matched, _, _, rfl | rfl⟩ :=
    @At.exists_matched program block [] tail position bracket there (by simp [program])
      (Nat.zero_le _) (by simpa using within)
      (by simpa [Program.instruction?, program] using present)
  · exact (unmatched stop).1 (by simpa [program] using matched)
  · exact (unmatched start).2 (by simpa [program] using matched)

/-- In a balanced text no bracket lacks a partner. -/
theorem Balanced.not_lacksPartner {code : List Instruction} (balanced : Balanced code)
    (position : Nat) : ¬ LacksPartner code position := by
  obtain ⟨block, rfl⟩ := balanced.exists_block
  intro lacks
  obtain ⟨bracket, present⟩ := lacks.isBracket
  have within : position < block.size := by
    simpa using (List.getElem?_eq_some_iff.mp present).1
  exact block.not_lacksPartner [] within (by simpa using lacks)

namespace Block

/-- The text of loops that are open at the end, each with a block behind its bracket. -/
def unclosed : List Block → List Instruction
  | [] => []
  | block :: inner => .loopStart :: (block.instructions ++ unclosed inner)

/-- Behind a block, too, no beginning of such a text closes more loops than it opens. -/
theorem count_take_append_unclosed_le (block : Block) (inner : List Block) (length : Nat) :
    ((block.instructions ++ unclosed inner).take length).count .loopEnd ≤
      ((block.instructions ++ unclosed inner).take length).count .loopStart := by
  induction inner generalizing block length with
  | nil => simpa [unclosed] using block.balanced.nonnegative length
  | cons first others inductionHypothesis =>
      have before := block.balanced.nonnegative length
      rw [List.take_append, List.count_append, List.count_append]
      cases length - block.instructions.length with
      | zero => simpa using before
      | succ behind =>
          have inside := inductionHypothesis first behind
          rw [unclosed, List.take_succ_cons, count_loopStart_cons, count_loopEnd_cons]
          omega

/-- A text in which loops are open at the end is refused, and the outermost of them named. -/
theorem pairBrackets_append_unclosed (block : Block) (inner : List Block) {openings : List Nat}
    (nonempty : openings ≠ []) (table : Array (Option Nat)) :
    Program.pairBrackets (block.instructions ++ unclosed inner) table.size openings table =
      .error { index := openings.getLast nonempty, bracket := .opening } := by
  induction inner generalizing block openings table with
  | nil =>
      obtain ⟨innermost, outer, rfl⟩ := List.exists_cons_of_ne_nil nonempty
      rw [pairBrackets_instructions]
      rfl
  | cons first others inductionHypothesis =>
      have inside := inductionHypothesis first
        (List.cons_ne_nil (table.size + block.size) openings)
        ((table ++ (block.partners table.size).toArray).push none)
      rw [List.getLast_cons nonempty] at inside
      rw [pairBrackets_instructions, unclosed, Program.pairBrackets, ← inside]
      simp [Nat.add_assoc]

end Block

/-- A text that begins with a bracket of a kind that nothing opens, or nothing closes. -/
inductive Dangles : Bracket → List Instruction → Prop where
  | closing (rest : List Instruction) : Dangles .closing (.loopEnd :: rest)
  | opening (block : Block) (inner : List Block) :
      Dangles .opening (Block.unclosed (block :: inner))

namespace Dangles

variable {bracket : Bracket} {tail : List Instruction}

/-- The dangling bracket stands right behind the block. -/
theorem getElem?_append (dangles : Dangles bracket tail) (block : Block) :
    (block.instructions ++ tail)[block.size]? = some bracket.instruction := by
  rw [← block.length_instructions, List.getElem?_append_right (Nat.le_refl _), Nat.sub_self]
  cases dangles <;> rfl

/-- A bracket that dangles behind a block has no partner. -/
theorem lacksPartner (dangles : Dangles bracket tail) (block : Block) :
    LacksPartner (block.instructions ++ tail) block.size := by
  have present := dangles.getElem?_append block
  refine ⟨⟨bracket, present⟩, fun other => ?_⟩
  cases dangles with
  | closing rest =>
      constructor
      · intro matched
        cases present.symm.trans matched.opens
      · intro matched
        obtain ⟨before, inside, after, balanced, text, _, length⟩ := matched_iff.mp matched
        -- The partner would be in the block, which opens no more loops than it closes.
        have halves : block.instructions ++ .loopEnd :: rest =
            (before ++ .loopStart :: inside) ++ .loopEnd :: after := by simpa using text
        have split := (List.append_inj halves (by simp [length, Nat.add_assoc])).1
        have closed := block.balanced.closed
        have opened := block.balanced.nonnegative before.length
        rw [split, List.take_left] at opened
        rw [split, List.count_append, List.count_append, count_loopStart_cons,
          count_loopEnd_cons, balanced.closed] at closed
        omega
  | opening first inner =>
      constructor
      · intro matched
        obtain ⟨before, inside, after, balanced, text, length, _⟩ := matched_iff.mp matched
        -- The loop would be closed behind its block, where no more loops are closed than opened.
        have behind := (List.append_inj text (by simp [length])).2
        have split : first.instructions ++ Block.unclosed inner =
            (inside ++ [.loopEnd]) ++ after := by simpa [Block.unclosed] using behind
        have bound := first.count_take_append_unclosed_le inner
          (inside ++ [Instruction.loopEnd]).length
        rw [split, List.take_left, List.count_append, List.count_append, balanced.closed] at bound
        exact absurd bound (by simp)
      · intro matched
        cases present.symm.trans matched.closes

/-- The dangling bracket is the first that lacks a partner. -/
theorem isLeast (dangles : Dangles bracket tail) (block : Block) :
    IsLeast {position | LacksPartner (block.instructions ++ tail) position} block.size := by
  refine ⟨dangles.lacksPartner block, fun position lacks => ?_⟩
  by_contra! within
  exact block.not_lacksPartner tail within lacks

/-- Pairing stops at a bracket that dangles, or in the end comes back to it. -/
theorem pairBrackets (dangles : Dangles bracket tail) (table : Array (Option Nat)) :
    Program.pairBrackets tail table.size [] table =
      .error { index := table.size, bracket } := by
  cases dangles with
  | closing rest => rfl
  | opening block inner =>
      have inside := block.pairBrackets_append_unclosed inner
        (List.cons_ne_nil table.size []) (table.push none)
      rw [Block.unclosed, Program.pairBrackets, ← Array.size_push none, inside]
      rfl

end Dangles

/-- A text is a block, or a block with a bracket behind it that dangles. -/
theorem exists_block_and_dangling (code : List Instruction) :
    ∃ block : Block, code = block.instructions ∨
      ∃ bracket tail, Dangles bracket tail ∧ code = block.instructions ++ tail := by
  induction length : code.length using Nat.strong_induction_on generalizing code with
  | h total inductionHypothesis =>
  subst length
  cases code with
  | nil => exact ⟨.nil, .inl rfl⟩
  | cons instruction code =>
      have shorter : code.length < (instruction :: code).length := Nat.lt_succ_self _
      obtain ⟨block, rest⟩ := inductionHypothesis code.length shorter code rfl
      rcases instruction.bracket_or_action with rfl | rfl | ⟨action, rfl⟩
      · rcases rest with rfl | ⟨bracket, tail, dangles, rfl⟩
        · exact ⟨.nil, .inr ⟨_, _, .opening block [], by simp [Block.instructions, Block.unclosed]⟩⟩
        · cases dangles with
          | opening first inner =>
              exact ⟨.nil, .inr ⟨_, _, .opening block (first :: inner), rfl⟩⟩
          | closing behind =>
              -- The block is the body of a loop, and what follows the loop is shorter.
              obtain ⟨next, split⟩ := inductionHypothesis behind.length
                (by simp; omega) behind rfl
              refine ⟨.loop block next, ?_⟩
              rcases split with rfl | ⟨bracket, tail, dangles, rfl⟩
              · exact .inl rfl
              · exact .inr ⟨bracket, tail, dangles, by simp [Block.instructions]⟩
      · exact ⟨.nil, .inr ⟨_, _, .closing code, rfl⟩⟩
      · refine ⟨.perform action block, ?_⟩
        rcases rest with rfl | ⟨bracket, tail, dangles, rfl⟩
        · exact .inl rfl
        · exact .inr ⟨bracket, tail, dangles, rfl⟩

namespace Program

/-- What becomes of a text: it compiles when it is a block, and is refused for the bracket that
dangles behind one. -/
theorem compile_cases (source : List UInt8) :
    (∃ block : Block, Instruction.ofBytes source = block.instructions ∧
      compile source = .ok block.program) ∨
    ∃ (block : Block) (bracket : Bracket) (tail : List Instruction), Dangles bracket tail ∧
      Instruction.ofBytes source = block.instructions ++ tail ∧
      compile source = .error { index := block.size, bracket } := by
  obtain ⟨block, text | ⟨bracket, tail, dangles, text⟩⟩ :=
    exists_block_and_dangling (Instruction.ofBytes source)
  · exact .inl ⟨block, text, compile_eq_program text.symm⟩
  · refine .inr ⟨block, bracket, tail, dangles, text, ?_⟩
    have start := block.pairBrackets_instructions tail [] #[]
    have refused := dangles.pairBrackets (block.partners 0).toArray
    simp only [List.size_toArray, List.length_nil, Nat.zero_add, Block.length_partners,
      Array.empty_append] at start refused
    rw [compile, ofInstructions, text, start, refused]

end Program

/-- A source compiles unless its brackets are not balanced: some beginning closes more of them
than it opens, or the whole does not close as many as it opens. The bracket that is named is the
first that belongs to no other. -/
theorem compile_names_first_unmatched (source : List UInt8) :
    let code := Instruction.ofBytes source
    ((∃ unmatched, Program.compile source = .error unmatched) ↔
      (∃ length, (code.take length).count .loopStart < (code.take length).count .loopEnd) ∨
        code.count .loopEnd ≠ code.count .loopStart) ∧
    ∀ unmatched, Program.compile source = .error unmatched ↔
      IsLeast {position | LacksPartner code position} unmatched.index ∧
        (code[unmatched.index]?).map Instruction.symbol = some unmatched.bracket.symbol := by
  intro code
  rw [← not_balanced_iff]
  rcases Program.compile_cases source with
    ⟨block, text, compiled⟩ | ⟨block, bracket, tail, dangles, text, refused⟩
  · have balanced : Balanced code := by
      rw [show code = block.instructions from text]
      exact block.balanced
    refine ⟨by simp [compiled, balanced], fun unmatched => ?_⟩
    constructor
    · simp [compiled]
    · rintro ⟨⟨lacks, _⟩, _⟩
      exact absurd lacks (balanced.not_lacksPartner _)
  · have least : IsLeast {position | LacksPartner code position} block.size := by
      rw [show code = block.instructions ++ tail from text]
      exact dangles.isLeast block
    have symbol : (code[block.size]?).map Instruction.symbol = some bracket.symbol := by
      rw [show code = block.instructions ++ tail from text, dangles.getElem?_append,
        Option.map_some, bracket.symbol_instruction]
    have unbalanced : ¬ Balanced code := fun balanced => balanced.not_lacksPartner _ least.1
    refine ⟨by simp [refused, unbalanced], fun unmatched => ?_⟩
    rw [refused]
    constructor
    · rintro ⟨⟩
      exact ⟨least, symbol⟩
    · rintro ⟨otherLeast, otherSymbol⟩
      obtain ⟨index, other⟩ := unmatched
      obtain rfl : block.size = index := least.unique otherLeast
      rw [Bracket.symbol_injective (Option.some.inj (symbol.symm.trans otherSymbol))]

/-- Behind a loop a bracket is closed that was not opened, and then one opened that is not closed.
The first is named, by its place among the instructions and not in the text. -/
theorem compile_names_first_unmatched_commented :
    let source := "loop [+] closed ] opened [".toUTF8.toList
    let code := Instruction.ofBytes source
    Program.compile source = .error { index := 3, bracket := .closing } ∧
      IsLeast {position | LacksPartner code position} 3 ∧ LacksPartner code 4 ∧
      (code[3]?).map Instruction.symbol = some ']' := by
  intro source code
  have refused : Program.compile source = .error { index := 3, bracket := .closing } := by
    decide +kernel
  have read : code = [.loopStart, .increment, .loopEnd, .loopEnd, .loopStart] := by
    decide +kernel
  obtain ⟨least, symbol⟩ := ((compile_names_first_unmatched source).2 _).mp refused
  have left : LacksPartner code 4 := by
    rw [read]
    refine ⟨⟨.opening, rfl⟩, fun other => ⟨?_, ?_⟩⟩
    · rintro ⟨behind, _, closes, _⟩
      rw [List.getElem?_eq_none behind] at closes
      cases closes
    · rintro ⟨_, _, closes, _⟩
      cases closes
  exact ⟨refused, least, left, symbol⟩

end TapeDebugger
