import Mathlib.Algebra.Group.Nat.Defs
import TapeDebugger.Proofs.Json.Literals
import TapeDebugger.Text.Quoted

/-!
# Reading quoted texts

What is written for a character between quotes can be read again, whatever follows
(`unquote?_append`), and reading stops at the closing quote and not before. So two quoted texts are
only equal if the texts are, also when more follows them (`quotedChars_append_inj`), and none of
them has a line break (`newline_not_mem_quotedChars`).
-/

namespace TapeDebugger.Text

/-- The character that a letter behind a backslash stands for. -/
def shortEscape? (letter : Char) : Option Char :=
  match letter with
  | '"' => some '"'
  | '\\' => some '\\'
  | 'a' => some '\x07'
  | 'b' => some '\x08'
  | 'f' => some '\x0c'
  | 'n' => some '\n'
  | 'r' => some '\r'
  | 't' => some '\t'
  | 'v' => some '\x0b'
  | _ => none

/-- The number of hexadecimal digits behind a letter that announces them. -/
def escapeWidth? (letter : Char) : Option Nat :=
  match letter with
  | 'x' => some 2
  | 'u' => some 4
  | 'U' => some 8
  | _ => none

/-- The number that hexadecimal digits denote, behind those that were read. -/
def hexNumber? (digits : List Char) : Option Nat :=
  digits.foldlM (fun value digit => (hexValue? digit).map fun next => value * 16 + next) 0

/-- Read one character of a quoted text, which ends at a quote. -/
def unquote? : List Char → Option (Char × List Char)
  | '\\' :: letter :: rest =>
    match escapeWidth? letter with
    | some width =>
      (hexNumber? (rest.take width)).map fun value => (Char.ofNat value, rest.drop width)
    | none => (shortEscape? letter).map fun character => (character, rest)
  | '"' :: _ => none
  | character :: rest => some (character, rest)
  | [] => none

section Hex

/-- A padded numeral has exactly the width that it is padded to. -/
theorem length_hexPadded (width value : Nat) : (hexPadded width value).length = width := by
  induction width generalizing value with
  | zero => rfl
  | succ width inductionHypothesis =>
      rw [hexPadded, List.length_append, inductionHypothesis]
      rfl

/-- The digits of a number denote it, as far as they reach. -/
theorem hexNumber?_hexPadded (width value : Nat) :
    hexNumber? (hexPadded width value) = some (value % 16 ^ width) := by
  induction width generalizing value with
  | zero => simp [hexNumber?, hexPadded, Nat.mod_one]
  | succ width inductionHypothesis =>
      have last := hexValue?_hexDigit (Nat.mod_lt value (by decide : 0 < 16))
      have whole : value % 16 ^ (width + 1) = value % 16 + 16 * (value / 16 % 16 ^ width) := by
        rw [Nat.pow_succ', Nat.mod_mul]
      have front := inductionHypothesis (value / 16)
      rw [hexNumber?] at front
      rw [hexNumber?, hexPadded, List.foldlM_append, front, whole]
      simp [last, Nat.mul_comm, Nat.add_comm]

/-- A padded numeral is made of hexadecimal digits. -/
theorem exists_of_mem_hexPadded {width value : Nat} {digit : Char}
    (member : digit ∈ hexPadded width value) : ∃ single < 16, digit = hexDigit single := by
  induction width generalizing value with
  | zero => cases member
  | succ width inductionHypothesis =>
      rw [hexPadded, List.mem_append, List.mem_singleton] at member
      obtain front | last := member
      · exact inductionHypothesis front
      · exact ⟨_, Nat.mod_lt _ (by decide), last⟩

/-- No hexadecimal digit is a line break. -/
theorem hexDigit_ne_newline {value : Nat} (small : value < 16) : '\n' ≠ hexDigit value := by
  revert value
  decide

end Hex

section Characters

/-- A character is written with a letter behind a backslash, with its number in hexadecimal, or as
it is. -/
theorem quotedChar_cases (character : Char) :
    (∃ letter, quotedChar character = ['\\', letter] ∧ escapeWidth? letter = none ∧
      shortEscape? letter = some character) ∨
    (∃ letter width, quotedChar character = '\\' :: letter :: hexPadded width character.toNat ∧
      escapeWidth? letter = some width ∧ character.toNat < 16 ^ width) ∨
    (quotedChar character = [character] ∧ character ≠ '"' ∧ character ≠ '\\' ∧
      isPrintable character = true) := by
  by_cases marked : character = '"' ∨ character = '\\'
  · left
    obtain rfl | rfl := marked <;> exact ⟨_, rfl, rfl, rfl⟩
  by_cases printable : isPrintable character = true
  · right; right
    obtain ⟨quote, backslash⟩ := not_or.mp marked
    exact ⟨by rw [quotedChar, if_neg marked, if_pos printable], quote, backslash, printable⟩
  by_cases control : character ∈ ['\x07', '\x08', '\x0c', '\n', '\r', '\t', '\x0b']
  · left
    simp only [List.mem_cons, List.not_mem_nil, or_false] at control
    obtain rfl | rfl | rfl | rfl | rfl | rfl | rfl := control <;>
      exact ⟨_, by rw [quotedChar, if_neg marked, if_neg printable]; rfl, rfl, rfl⟩
  · right; left
    simp only [List.mem_cons, List.not_mem_nil, or_false, not_or] at control
    simp only [quotedChar, if_neg marked, if_neg printable, control, if_false]
    split
    case isTrue ascii => exact ⟨_, _, rfl, rfl, by omega⟩
    case isFalse =>
      split
      case isTrue basic => exact ⟨_, _, rfl, rfl, by omega⟩
      case isFalse =>
        have valid : character.toNat < 0xD800 ∨
            0xDFFF < character.toNat ∧ character.toNat < 0x110000 := character.valid
        exact ⟨_, _, rfl, rfl, by omega⟩

/-- A character is read again from what was written for it. -/
theorem unquote?_append (character : Char) (rest : List Char) :
    unquote? (quotedChar character ++ rest) = some (character, rest) := by
  obtain ⟨letter, written, wide, short⟩ | ⟨letter, width, written, wide, fits⟩ |
    ⟨written, quote, backslash, _⟩ := quotedChar_cases character
  · rw [written]
    simp [unquote?, wide, short]
  · have length := length_hexPadded width character.toNat
    rw [written]
    simp only [List.cons_append, unquote?, wide, List.take_left' length, List.drop_left' length,
      hexNumber?_hexPadded, Nat.mod_eq_of_lt fits, Option.map_some, Char.ofNat_toNat]
  · rw [written]
    simp [unquote?, backslash]

/-- Nothing is written with a line break. -/
theorem newline_not_mem_quotedChar (character : Char) : '\n' ∉ quotedChar character := by
  intro member
  obtain ⟨letter, written, _, short⟩ | ⟨letter, width, written, wide, _⟩ |
    ⟨written, _, _, printable⟩ := quotedChar_cases character
  · obtain rfl : '\n' = letter := by simpa [written] using member
    cases short
  · rw [written, List.mem_cons, List.mem_cons] at member
    obtain backslash | rfl | digit := member
    · exact absurd backslash (by decide)
    · cases wide
    · obtain ⟨value, small, same⟩ := exists_of_mem_hexPadded digit
      exact absurd same (hexDigit_ne_newline small)
  · obtain rfl : '\n' = character := by simpa [written] using member
    exact absurd printable (by decide +kernel)

end Characters

/-- A quoted text ends where it does, whatever follows, and says what was quoted. -/
theorem flatMap_quotedChar_inj {left right rest other : List Char}
    (same : left.flatMap quotedChar ++ '"' :: rest = right.flatMap quotedChar ++ '"' :: other) :
    left = right ∧ rest = other := by
  induction left generalizing right with
  | nil =>
      cases right with
      | nil => exact ⟨rfl, (List.cons.inj same).2⟩
      | cons character right =>
          have read := congrArg unquote? same
          rw [List.flatMap_cons, List.append_assoc, unquote?_append] at read
          cases read
  | cons character left inductionHypothesis =>
      have read := congrArg unquote? same
      rw [List.flatMap_cons, List.append_assoc, unquote?_append] at read
      cases right with
      | nil => cases read
      | cons first right =>
          rw [List.flatMap_cons, List.append_assoc, unquote?_append] at read
          obtain ⟨rfl, following⟩ := Prod.mk.inj (Option.some.inj read)
          obtain ⟨rfl, rfl⟩ := inductionHypothesis following
          exact ⟨rfl, rfl⟩

/-- A quoted text is read off whatever it stands in front of. -/
theorem quotedChars_append_inj {left right rest other : List Char}
    (same : quotedChars left ++ rest = quotedChars right ++ other) :
    left = right ∧ rest = other := by
  simp only [quotedChars, List.cons_append, List.append_assoc, List.nil_append] at same
  exact flatMap_quotedChar_inj (List.cons.inj same).2

/-- A quoted text stands on one line, whatever text was quoted. -/
theorem newline_not_mem_quotedChars (text : List Char) : '\n' ∉ quotedChars text := by
  simp [quotedChars, newline_not_mem_quotedChar]

end TapeDebugger.Text
