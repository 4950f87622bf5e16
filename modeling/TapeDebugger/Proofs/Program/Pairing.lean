import TapeDebugger.Proofs.Program.Nesting

/-!
# Paired brackets

Execution looks a bracket up in the table and goes on behind its partner. It relies on
`Program.Paired`: the table has an entry for every instruction, and the entry of a bracket
leads to a bracket of the other kind. Compiled programs are paired because a text that
compiles is the text of a block (`Program.exists_block_of_compile`), whose table is known.
-/

namespace TapeDebugger

/-- The bracket that a bracket is paired with. -/
def Instruction.counterpart? : Instruction → Option Instruction
  | loopStart => some loopEnd
  | loopEnd => some loopStart
  | _ => none

/-- An action is no bracket. -/
@[simp] theorem Action.counterpart?_instruction (action : Action) :
    action.instruction.counterpart? = none := by
  cases action <;> rfl

namespace Program

/-- The table has one entry for each instruction, and the entry of a bracket is the position
of a counterpart. -/
structure Paired (program : Program) : Prop where
  aligned : program.partners.size = program.code.size
  leads : ∀ {position : Nat} {bracket counterpart : Instruction},
    program.instruction? position = some bracket → bracket.counterpart? = some counterpart →
    ∃ target, program.partners[position]? = some (some target) ∧
      program.instruction? target = some counterpart

variable {program : Program}

/-- An instruction stands inside its program. -/
theorem lt_length_of_instruction? {position : Nat} {instruction : Instruction}
    (present : program.instruction? position = some instruction) : position < program.length :=
  (Array.getElem?_eq_some_iff.mp present).1

/-- A partner elsewhere is an entry of the table. -/
theorem partners_of_partner {position target : Nat} (partner : program.partner position = target)
    (elsewhere : target ≠ position) : program.partners[position]? = some (some target) := by
  rw [Program.partner, Array.getD_eq_getD_getElem?] at partner
  cases entry : program.partners[position]? with
  | none => simp [entry, elsewhere.symm] at partner
  | some slot =>
      cases slot with
      | none => simp [entry, elsewhere.symm] at partner
      | some found => simpa [entry] using partner

/-- The partner of a position is its entry in the table. -/
theorem partner_of_partners {position target : Nat}
    (entry : program.partners[position]? = some (some target)) :
    program.partner position = target := by
  simp [Program.partner, Array.getD_eq_getD_getElem?, entry]

/-- The program without instructions has no brackets to pair. -/
theorem paired_empty : Program.empty.Paired where
  aligned := rfl
  leads := by
    intro position bracket counterpart present
    simp [instruction?, empty] at present

end Program

namespace Block

/-- Where a block stands, its brackets lead to their counterparts. -/
theorem At.leads {program : Program} {block : Block} {start position : Nat}
    {bracket counterpart : Instruction} (there : block.At program start)
    (reached : start ≤ position) (within : position < start + block.size)
    (present : program.instruction? position = some bracket)
    (opposite : bracket.counterpart? = some counterpart) :
    ∃ target, program.partners[position]? = some (some target) ∧
      program.instruction? target = some counterpart := by
  induction block generalizing start with
  | nil => simp only [size] at within; omega
  | perform action rest inductionHypothesis =>
      obtain ⟨first, behind⟩ := there
      simp only [size] at within
      rcases Nat.eq_or_lt_of_le reached with rfl | later
      · rw [first] at present
        cases present
        simp at opposite
      · exact inductionHypothesis behind later (by omega)
  | loop body rest bodyHypothesis restHypothesis =>
      obtain ⟨opening, forward, inside, closing, backward, behind⟩ := there
      simp only [size] at within
      rcases Nat.lt_trichotomy position (start + body.size + 1) with before | rfl | after
      · rcases Nat.eq_or_lt_of_le reached with rfl | later
        · rw [opening] at present
          cases present
          cases opposite
          exact ⟨_, Program.partners_of_partner forward (by omega), closing⟩
        · exact bodyHypothesis inside later (by omega)
      · rw [closing] at present
        cases present
        cases opposite
        exact ⟨_, Program.partners_of_partner backward (by omega), opening⟩
      · exact restHypothesis behind (by omega) (by omega)

/-- The brackets of a block lead to each other. -/
theorem paired_program (block : Block) : block.program.Paired where
  aligned := by simp [program]
  leads := by
    intro position bracket counterpart present opposite
    have within := Program.lt_length_of_instruction? present
    simp only [Program.length, program, List.size_toArray, length_instructions] at within
    exact block.at_program.leads (Nat.zero_le _) (by omega) present opposite

end Block

/-- Brackets are only paired throughout in a text that is a block followed by one block
behind the closing bracket of each loop that was open before. -/
theorem exists_block_of_pairBrackets {code : List Instruction} {position : Nat}
    {openings : List Nat} {table paired : Array (Option Nat)}
    (succeeded : Program.pairBrackets code position openings table = .ok paired) :
    ∃ (block : Block) (outer : List Block), outer.length = openings.length ∧
      code = block.instructions ++ Block.closings outer := by
  fun_induction Program.pairBrackets code position openings table with
  | case1 => exact ⟨.nil, [], rfl, rfl⟩
  | case2 => cases succeeded
  | case3 rest position openings table inductionHypothesis =>
      obtain ⟨body, outer, depth, rfl⟩ := inductionHypothesis succeeded
      cases outer with
      | nil => simp at depth
      | cons behind outer =>
          refine ⟨.loop body behind, outer, by simpa using depth, ?_⟩
          simp [Block.instructions, Block.closings]
  | case4 => cases succeeded
  | case5 rest position innermost openings table inductionHypothesis =>
      obtain ⟨block, outer, depth, rfl⟩ := inductionHypothesis succeeded
      exact ⟨.nil, block :: outer, by simp [depth], rfl⟩
  | case6 instruction rest position openings table notOpening notFirst notNested
      inductionHypothesis =>
      obtain ⟨block, outer, depth, rfl⟩ := inductionHypothesis succeeded
      have notClosing : instruction ≠ .loopEnd := by
        cases openings with
        | nil => exact notFirst rfl
        | cons innermost outer => exact notNested innermost outer rfl
      rcases instruction.bracket_or_action with opening | closing | ⟨action, rfl⟩
      · exact absurd opening notOpening
      · exact absurd closing notClosing
      · exact ⟨.perform action block, outer, depth, rfl⟩

namespace Program

/-- A source that compiles is the text of a block, and compiles to its program. -/
theorem exists_block_of_compile {source : List UInt8} {program : Program}
    (compiled : compile source = .ok program) :
    ∃ block : Block, block.instructions = Instruction.ofBytes source ∧
      program = block.program := by
  have whole := compiled
  rw [compile, ofInstructions] at compiled
  cases paired : pairBrackets (Instruction.ofBytes source) 0 [] #[] with
  | error unmatched => simp [paired] at compiled
  | ok table =>
      obtain ⟨block, outer, depth, text⟩ := exists_block_of_pairBrackets paired
      rw [List.length_eq_zero_iff.mp depth, Block.closings, List.append_nil] at text
      refine ⟨block, text.symm, ?_⟩
      rw [compile_eq_program text.symm] at whole
      exact (Except.ok.inj whole).symm

/-- Compiled programs are paired. -/
theorem paired_of_compile {source : List UInt8} {program : Program}
    (compiled : compile source = .ok program) : program.Paired := by
  obtain ⟨block, _, rfl⟩ := exists_block_of_compile compiled
  exact block.paired_program

end Program

end TapeDebugger
