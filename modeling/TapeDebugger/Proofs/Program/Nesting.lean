import TapeDebugger.Program

/-!
# Nested programs

`Balanced` is the declarative condition on brackets, counted over prefixes, and
`Block` is the tree that a reader sees: a sequence of simple instructions and
loops. A balanced instruction list is the text of exactly one block
(`Balanced.exists_block`, `Block.instructions_injective`), and compiling that text
yields the block's own table of partners (`Block.ofInstructions_eq`).

`Block.At` is what execution uses of all this: where the instructions of a block
stand in a program and where its brackets lead.
-/

namespace TapeDebugger

/-- Brackets are balanced: no prefix closes more of them than it opens, and the
whole closes as many as it opens. -/
structure Balanced (code : List Instruction) : Prop where
  nonnegative : ∀ length, (code.take length).count .loopEnd ≤ (code.take length).count .loopStart
  closed : code.count .loopEnd = code.count .loopStart

/-- Prefixes longer than the code add no condition. -/
theorem balanced_iff_bounded {code : List Instruction} :
    Balanced code ↔
      (∀ length < code.length,
        (code.take length).count .loopEnd ≤ (code.take length).count .loopStart) ∧
      code.count .loopEnd = code.count .loopStart := by
  constructor
  · intro balanced
    exact ⟨fun length _ => balanced.nonnegative length, balanced.closed⟩
  · rintro ⟨bounded, closed⟩
    refine ⟨fun length => ?_, closed⟩
    by_cases inside : length < code.length
    · exact bounded length inside
    · rw [List.take_of_length_le (Nat.le_of_not_lt inside)]
      exact Nat.le_of_eq closed

instance (code : List Instruction) : Decidable (Balanced code) :=
  decidable_of_iff _ balanced_iff_bounded.symm

/-- The instructions that are no brackets. -/
inductive Action where
  | moveRight
  | moveLeft
  | increment
  | decrement
  | write
  | read
deriving Repr, DecidableEq

/-- The instruction that performs an action. -/
def Action.instruction : Action → Instruction
  | moveRight => .moveRight
  | moveLeft => .moveLeft
  | increment => .increment
  | decrement => .decrement
  | write => .write
  | read => .read

namespace Action

/-- An action is known by its instruction. -/
theorem instruction_injective {left right : Action}
    (same : left.instruction = right.instruction) : left = right := by
  cases left <;> cases right <;> simp [instruction] at same ⊢

/-- No action opens a loop. -/
@[simp] theorem instruction_ne_loopStart (action : Action) :
    action.instruction ≠ .loopStart := by
  cases action <;> simp [instruction]

/-- No action closes a loop. -/
@[simp] theorem instruction_ne_loopEnd (action : Action) : action.instruction ≠ .loopEnd := by
  cases action <;> simp [instruction]

end Action

/-- Every instruction is a bracket or performs an action. -/
theorem Instruction.bracket_or_action (instruction : Instruction) :
    instruction = .loopStart ∨ instruction = .loopEnd ∨
      ∃ action : Action, instruction = action.instruction := by
  cases instruction
  case moveRight => exact .inr (.inr ⟨.moveRight, rfl⟩)
  case moveLeft => exact .inr (.inr ⟨.moveLeft, rfl⟩)
  case increment => exact .inr (.inr ⟨.increment, rfl⟩)
  case decrement => exact .inr (.inr ⟨.decrement, rfl⟩)
  case write => exact .inr (.inr ⟨.write, rfl⟩)
  case read => exact .inr (.inr ⟨.read, rfl⟩)
  case loopStart => exact .inl rfl
  case loopEnd => exact .inr (.inl rfl)

/-- A program as a tree: what follows an action or a loop is part of it, so one
type serves for sequences and their elements. -/
inductive Block where
  | nil
  | perform (action : Action) (rest : Block)
  | loop (body rest : Block)
deriving Repr, DecidableEq

namespace Block

/-- The text of a block. -/
def instructions : Block → List Instruction
  | nil => []
  | perform action rest => action.instruction :: rest.instructions
  | loop body rest => .loopStart :: (body.instructions ++ .loopEnd :: rest.instructions)

/-- The number of instructions of a block. -/
def size : Block → Nat
  | nil => 0
  | perform _ rest => rest.size + 1
  | loop body rest => body.size + rest.size + 2

/-- The partners of the instructions of a block whose text begins at `position`. -/
def partners : Block → (position : Nat) → List (Option Nat)
  | nil, _ => []
  | perform _ rest, position => none :: rest.partners (position + 1)
  | loop body rest, position =>
    some (position + body.size + 1) ::
      (body.partners (position + 1) ++
        some position :: rest.partners (position + body.size + 2))

/-- The size of a block counts its instructions. -/
@[simp] theorem length_instructions (block : Block) : block.instructions.length = block.size := by
  induction block with
  | nil => rfl
  | perform _ rest restLength => simp [instructions, size, restLength]
  | loop body rest bodyLength restLength =>
      simp [instructions, size, bodyLength, restLength]
      omega

/-- Every instruction of a block has an entry among the partners. -/
@[simp] theorem length_partners (block : Block) (position : Nat) :
    (block.partners position).length = block.size := by
  induction block generalizing position with
  | nil => rfl
  | perform _ rest restLength => simp [partners, size, restLength]
  | loop body rest bodyLength restLength =>
      simp [partners, size, bodyLength, restLength]
      omega

/-- A list that cannot begin inside a block: it is empty or closes a loop. -/
def Closes (code : List Instruction) : Prop :=
  code = [] ∨ ∃ rest, code = .loopEnd :: rest

/-- Reading a block off a text is unambiguous up to the bracket that closes it. -/
theorem instructions_append_inj {left right : Block} {leftRest rightRest : List Instruction}
    (leftCloses : Closes leftRest) (rightCloses : Closes rightRest)
    (same : left.instructions ++ leftRest = right.instructions ++ rightRest) :
    left = right ∧ leftRest = rightRest := by
  induction left generalizing right leftRest rightRest with
  | nil =>
      cases right with
      | nil => exact ⟨rfl, same⟩
      | perform action rest =>
          rcases leftCloses with rfl | ⟨_, rfl⟩ <;> simp [instructions] at same
          exact absurd same.1.symm action.instruction_ne_loopEnd
      | loop body rest =>
          rcases leftCloses with rfl | ⟨_, rfl⟩ <;> simp [instructions] at same
  | perform action rest inductionHypothesis =>
      cases right with
      | nil => rcases rightCloses with rfl | ⟨_, rfl⟩ <;> simp [instructions] at same
      | perform other otherRest =>
          simp only [instructions, List.cons_append, List.cons.injEq] at same
          obtain ⟨rfl, rests⟩ := inductionHypothesis leftCloses rightCloses same.2
          exact ⟨by rw [Action.instruction_injective same.1], rests⟩
      | loop _ _ => simp [instructions] at same
  | loop body rest bodyHypothesis restHypothesis =>
      cases right with
      | nil => rcases rightCloses with rfl | ⟨_, rfl⟩ <;> simp [instructions] at same
      | perform action _ =>
          simp only [instructions, List.cons_append, List.cons.injEq] at same
          exact absurd same.1.symm action.instruction_ne_loopStart
      | loop otherBody otherRest =>
          simp only [instructions, List.cons_append, List.append_assoc, List.cons.injEq,
            true_and] at same
          obtain ⟨rfl, tails⟩ := bodyHypothesis (.inr ⟨_, rfl⟩) (.inr ⟨_, rfl⟩) same
          simp only [List.cons.injEq, true_and] at tails
          obtain ⟨rfl, rests⟩ := restHypothesis leftCloses rightCloses tails
          exact ⟨rfl, rests⟩

/-- Different blocks have different texts. -/
theorem instructions_injective {left right : Block}
    (same : left.instructions = right.instructions) : left = right :=
  (instructions_append_inj (.inl rfl) (.inl rfl) (by simpa using same)).1

/-- The blocks that follow a block in a text in which some loops are still open,
each behind the bracket that closes one of them. -/
def closings : List Block → List Instruction
  | [] => []
  | block :: outer => .loopEnd :: (block.instructions ++ closings outer)

end Block

/-- A text in which `depth` loops are open at the start and none at the end is a
block followed by one block behind each closing bracket. -/
theorem exists_block_and_closings (code : List Instruction) (depth : Nat)
    (nonnegative : ∀ length,
      (code.take length).count .loopEnd ≤ depth + (code.take length).count .loopStart)
    (closed : code.count .loopEnd = depth + code.count .loopStart) :
    ∃ (block : Block) (outer : List Block), outer.length = depth ∧
      code = block.instructions ++ Block.closings outer := by
  induction code generalizing depth with
  | nil =>
      have flat : depth = 0 := by simpa using closed.symm
      exact ⟨.nil, [], by simp [flat], rfl⟩
  | cons instruction code inductionHypothesis =>
      -- Each prefix of the tail is a prefix of the whole without its first element.
      have tail := fun length => nonnegative (length + 1)
      simp only [List.take_succ_cons, List.count_cons] at tail closed
      rcases instruction.bracket_or_action with rfl | rfl | ⟨action, rfl⟩
      · obtain ⟨body, outer, outerLength, rfl⟩ := inductionHypothesis (depth + 1)
          (fun length => by have bound := tail length; simp at bound; omega)
          (by simp at closed; omega)
        cases outer with
        | nil => simp at outerLength
        | cons rest outer =>
            refine ⟨.loop body rest, outer, by simpa using outerLength, ?_⟩
            simp [Block.instructions, Block.closings]
      · have positive : 0 < depth := by
          have bound := nonnegative 1
          simp at bound
          omega
        obtain ⟨block, outer, outerLength, rfl⟩ := inductionHypothesis (depth - 1)
          (fun length => by have bound := tail length; simp at bound; omega)
          (by simp at closed; omega)
        exact ⟨.nil, block :: outer, by simp; omega, by simp [Block.instructions, Block.closings]⟩
      · obtain ⟨block, outer, outerLength, rfl⟩ := inductionHypothesis depth
          (fun length => by simpa using tail length) (by simpa using closed)
        exact ⟨.perform action block, outer, outerLength, rfl⟩

/-- Every balanced text is the text of a block. -/
theorem Balanced.exists_block {code : List Instruction} (balanced : Balanced code) :
    ∃ block : Block, block.instructions = code := by
  obtain ⟨block, outer, none, same⟩ := exists_block_and_closings code 0
    (fun length => by simpa using balanced.nonnegative length) (by simpa using balanced.closed)
  rw [List.length_eq_zero_iff] at none
  subst none
  exact ⟨block, by simpa [Block.closings] using same.symm⟩

namespace Block

/-- Pairing the brackets of a block appends its own table, whatever is open
around it. -/
theorem pairBrackets_instructions (block : Block) (rest : List Instruction)
    (openings : List Nat) (table : Array (Option Nat)) :
    Program.pairBrackets (block.instructions ++ rest) table.size openings table =
      Program.pairBrackets rest (table.size + block.size) openings
        (table ++ (block.partners table.size).toArray) := by
  induction block generalizing rest openings table with
  | nil => simp [instructions, size, partners]
  | perform action tail inductionHypothesis =>
      have pushed := inductionHypothesis rest openings (table.push none)
      simp only [Array.size_push] at pushed
      have stepped : Program.pairBrackets (action.instruction :: (tail.instructions ++ rest))
          table.size openings table =
          Program.pairBrackets (tail.instructions ++ rest) (table.size + 1) openings
            (table.push none) := by
        cases action <;> rfl
      simp only [instructions, size, partners, List.cons_append, stepped, pushed]
      congr 1
      · omega
      · simp
  | loop body tail bodyHypothesis tailHypothesis =>
      have inside := bodyHypothesis (.loopEnd :: (tail.instructions ++ rest))
        (table.size :: openings) (table.push none)
      simp only [Array.size_push] at inside
      -- The closing bracket fills in the entry that its partner left empty.
      have filled : (table.push none ++ (body.partners (table.size + 1)).toArray).setIfInBounds
          table.size (some (table.size + 1 + body.size)) =
          table.push (some (table.size + 1 + body.size)) ++
            (body.partners (table.size + 1)).toArray := by
        apply Array.toList_inj.mp
        simp
      have after := tailHypothesis rest openings
        ((table.push (some (table.size + 1 + body.size)) ++
          (body.partners (table.size + 1)).toArray).push (some table.size))
      simp only [Array.size_push, Array.size_append, List.size_toArray, length_partners] at after
      simp only [instructions, List.cons_append, List.append_assoc, Program.pairBrackets, inside,
        filled, after]
      congr 1
      · simp only [size]
        omega
      · apply Array.toList_inj.mp
        simp [partners, Nat.add_right_comm]

/-- The program of a block. -/
def program (block : Block) : Program where
  code := block.instructions.toArray
  partners := (block.partners 0).toArray

/-- Compiling the text of a block succeeds and gives its program. -/
theorem ofInstructions_eq (block : Block) :
    Program.ofInstructions block.instructions = .ok block.program := by
  have paired := block.pairBrackets_instructions [] [] #[]
  simp only [List.append_nil, List.size_toArray, List.length_nil, Nat.zero_add] at paired
  simp [Program.ofInstructions, paired, Program.pairBrackets, program]

end Block

namespace Program

variable {program : Program}

/-- The instruction behind a known beginning of the code. -/
theorem instruction?_of_append {before after : List Instruction} {instruction : Instruction}
    (code : program.code.toList = before ++ instruction :: after) :
    program.instruction? before.length = some instruction := by
  simp [instruction?, ← Array.getElem?_toList, code]

/-- The partner behind a known beginning of the table. -/
theorem partner_of_append {before after : List (Option Nat)} {partner : Nat}
    (table : program.partners.toList = before ++ some partner :: after) :
    program.partner before.length = partner := by
  simp [Program.partner, ← Array.getElem?_toList, table, Array.getD_eq_getD_getElem?]

end Program

namespace Block

/-- The text of a block stands at a position of a program, and its brackets lead
to each other. -/
def At (program : Program) : Block → (position : Nat) → Prop
  | nil, _ => True
  | perform action rest, position =>
    program.instruction? position = some action.instruction ∧ rest.At program (position + 1)
  | loop body rest, position =>
    program.instruction? position = some .loopStart ∧
    program.partner position = position + body.size + 1 ∧
    body.At program (position + 1) ∧
    program.instruction? (position + body.size + 1) = some .loopEnd ∧
    program.partner (position + body.size + 1) = position ∧
    rest.At program (position + body.size + 2)

section Loop

variable {program : Program} {body rest : Block} {position : Nat}

/-- A loop stands at its position whatever follows it. -/
theorem At.alone (there : (loop body rest).At program position) :
    (loop body nil).At program position := by
  obtain ⟨opening, forward, inside, closing, backward, _⟩ := there
  exact ⟨opening, forward, inside, closing, backward, trivial⟩

/-- The body of a loop stands behind its opening bracket. -/
theorem At.inside (there : (loop body rest).At program position) :
    body.At program (position + 1) :=
  there.2.2.1

/-- What follows a loop stands behind its closing bracket. -/
theorem At.behind (there : (loop body rest).At program position) :
    rest.At program (position + body.size + 2) :=
  there.2.2.2.2.2

end Loop

/-- A block stands wherever its text and its table do. -/
theorem at_of_append {program : Program} (block : Block)
    {before after : List Instruction} {tableBefore tableAfter : List (Option Nat)}
    (aligned : tableBefore.length = before.length)
    (code : program.code.toList = before ++ (block.instructions ++ after))
    (table : program.partners.toList =
      tableBefore ++ (block.partners before.length ++ tableAfter)) :
    block.At program before.length := by
  induction block generalizing before after tableBefore tableAfter with
  | nil => trivial
  | perform action rest inductionHypothesis =>
      simp only [instructions, partners, List.cons_append] at code table
      refine ⟨Program.instruction?_of_append code, ?_⟩
      have advanced := @inductionHypothesis (before ++ [action.instruction]) after
        (tableBefore ++ [none]) tableAfter (by simp [aligned]) (by simpa using code)
        (by simpa using table)
      simpa using advanced
  | loop body rest bodyHypothesis restHypothesis =>
      simp only [instructions, partners, List.cons_append, List.append_assoc] at code table
      -- The texts up to the closing bracket, and up to what follows the loop.
      let opened := before ++ .loopStart :: body.instructions
      let tableOpened := tableBefore ++ some (before.length + body.size + 1) ::
        body.partners (before.length + 1)
      have openedLength : opened.length = before.length + body.size + 1 := by
        simp [opened, Nat.add_assoc]
      have tableOpenedLength : tableOpened.length = before.length + body.size + 1 := by
        simp [tableOpened, aligned, Nat.add_assoc]
      have codeOpened : program.code.toList =
          opened ++ .loopEnd :: (rest.instructions ++ after) := by
        simpa [opened] using code
      have tableOpenedEq : program.partners.toList = tableOpened ++ some before.length ::
          (rest.partners (before.length + body.size + 2) ++ tableAfter) := by
        simpa [tableOpened] using table
      have inside := @bodyHypothesis (before ++ [.loopStart])
        (.loopEnd :: (rest.instructions ++ after))
        (tableBefore ++ [some (before.length + body.size + 1)])
        (some before.length :: (rest.partners (before.length + body.size + 2) ++ tableAfter))
        (by simp [aligned]) (by simpa using code) (by simpa using table)
      have behind := @restHypothesis (opened ++ [.loopEnd]) after
        (tableOpened ++ [some before.length]) tableAfter
        (by simp [openedLength, tableOpenedLength]) (by simpa using codeOpened)
        (by simpa [openedLength] using tableOpenedEq)
      refine ⟨Program.instruction?_of_append code, ?_, by simpa using inside, ?_, ?_, ?_⟩
      · simpa [aligned] using Program.partner_of_append table
      · simpa [openedLength] using Program.instruction?_of_append codeOpened
      · simpa [tableOpenedLength] using Program.partner_of_append tableOpenedEq
      · simpa [openedLength] using behind

/-- A block stands at the beginning of its own program. -/
theorem at_program (block : Block) : block.At block.program 0 :=
  @at_of_append block.program block [] [] [] [] rfl (by simp [program]) (by simp [program])

/-- The program of a block ends where its text does. -/
theorem instruction?_program_size (block : Block) :
    block.program.instruction? block.size = none := by
  simp [Program.instruction?, program]

end Block

/-- A source compiles to the program of the block that its instructions are the
text of. -/
theorem Program.compile_eq_program {source : List UInt8} {block : Block}
    (text : block.instructions = Instruction.ofBytes source) :
    Program.compile source = .ok block.program := by
  rw [Program.compile, ← text, block.ofInstructions_eq]

end TapeDebugger
