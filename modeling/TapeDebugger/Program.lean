import TapeDebugger.Instruction

/-!
# Compiled programs

A program is its instructions with a table that pairs the brackets by nesting.
`Program.compile` builds the table in one pass over the instructions with a
stack of the brackets still open, and refuses exactly the sources in which some
bracket has no partner, naming the first such bracket.
-/

namespace TapeDebugger

/-- The two brackets. -/
inductive Bracket where
  | opening
  | closing
deriving Repr, DecidableEq

/-- The character of a bracket. -/
def Bracket.symbol : Bracket → Char
  | .opening => '['
  | .closing => ']'

/-- A bracket without a partner: its kind and its position among the
instructions, comments not counted. -/
structure UnmatchedBracket where
  index : Nat
  bracket : Bracket
deriving Repr, DecidableEq

/-- How a parse failure is reported. -/
def UnmatchedBracket.message (unmatched : UnmatchedBracket) : String :=
  s!"unmatched '{unmatched.bracket.symbol}' at index {unmatched.index}"

/-- A compiled program. -/
structure Program where
  /-- The instructions in order. -/
  code : Array Instruction
  /-- For each instruction, the position of its partner if it is a bracket. -/
  partners : Array (Option Nat)
deriving Repr, DecidableEq

namespace Program

/-- The program without instructions. -/
def empty : Program where
  code := #[]
  partners := #[]

/-- Pair the brackets of the instructions that start at `position`, where
`openings` are the positions of the brackets still open, innermost first, and
`partners` is the table for everything before `position`. -/
def pairBrackets : List Instruction → (position : Nat) → (openings : List Nat) →
    (partners : Array (Option Nat)) → Except UnmatchedBracket (Array (Option Nat))
  | [], _, [], partners => .ok partners
  | [], _, innermost :: outer, _ =>
    .error { index := (innermost :: outer).getLast (by simp), bracket := .opening }
  | .loopStart :: rest, position, openings, partners =>
    pairBrackets rest (position + 1) (position :: openings) (partners.push none)
  | .loopEnd :: _, position, [], _ =>
    .error { index := position, bracket := .closing }
  | .loopEnd :: rest, position, innermost :: outer, partners =>
    pairBrackets rest (position + 1) outer
      ((partners.setIfInBounds innermost (some position)).push (some innermost))
  | _ :: rest, position, openings, partners =>
    pairBrackets rest (position + 1) openings (partners.push none)

/-- Compile a list of instructions. -/
def ofInstructions (instructions : List Instruction) : Except UnmatchedBracket Program :=
  match pairBrackets instructions 0 [] #[] with
  | .ok partners => .ok { code := instructions.toArray, partners }
  | .error unmatched => .error unmatched

/-- Compile a source text. -/
def compile (source : List UInt8) : Except UnmatchedBracket Program :=
  ofInstructions (Instruction.ofBytes source)

/-- The number of instructions. -/
def length (program : Program) : Nat :=
  program.code.size

/-- The instruction at a position, if the program reaches that far. -/
def instruction? (program : Program) (position : Nat) : Option Instruction :=
  program.code[position]?

/-- The partner of the bracket at a position; a position without partner is
its own, which no compiled program asks for. -/
def partner (program : Program) (position : Nat) : Nat :=
  (program.partners.getD position none).getD position

/-- What is shown as the next instruction once the program has run to its end. -/
def endMark : String := "EOF"

/-- The instruction at a position as it is shown to a reader. -/
def nextText (program : Program) (position : Nat) : String :=
  match program.instruction? position with
  | some instruction => instruction.symbol.toString
  | none => endMark

end Program

end TapeDebugger
