import TapeDebugger.Json.Parse
import TapeDebugger.Json.Render

/-!
# Literals

What is written for a text is read back as that text, whatever its characters are
(`parseText_escaped`). A number literal that is JSON stays what it is in front of anything that does
not go on with it (`parseNumber_append`), and integers are written as such literals, from which
`int?` has every digit back.
-/

namespace TapeDebugger

/-- A hexadecimal digit has the value that it was made for. -/
theorem Text.hexValue?_hexDigit {value : Nat} (small : value < 16) :
    hexValue? (hexDigit value) = some value := by
  revert value
  decide

namespace Json

section Texts

variable {character : Char} {read rest : List Char}

/-- A code unit is written with four digits. -/
theorem exists_hexPadded {unit : Nat} (small : unit < 0x10000) :
    ∃ first second third fourth, Text.hexPadded 4 unit = [first, second, third, fourth] ∧
      hexUnit? first second third fourth = some unit := by
  refine ⟨_, _, _, _, rfl, ?_⟩
  have joined : ((unit / 16 / 16 / 16 % 16 * 16 + unit / 16 / 16 % 16) * 16 +
      unit / 16 % 16) * 16 + unit % 16 = unit := by omega
  simp [hexUnit?, Text.hexValue?_hexDigit (Nat.mod_lt _ _), joined]

/-- The code unit of a character stands for it by itself, since no character is a surrogate. -/
theorem pushUnit_toNat (character : Char) (read : List Char) :
    TextState.pushUnit { read, pending := none } character.toNat =
      { read := character :: read, pending := none } := by
  have single : character.toNat < 0xD800 ∨ 0xDFFF < character.toNat ∧ character.toNat < 0x110000 :=
    character.valid
  have high : isHighSurrogate character.toNat = false := by
    simp only [isHighSurrogate, decide_eq_false_iff_not]
    omega
  have low : isLowSurrogate character.toNat = false := by
    simp only [isLowSurrogate, decide_eq_false_iff_not]
    omega
  simp [TextState.pushUnit, high, low, TextState.push, TextState.settle, Char.ofNat_toNat]

/-- A character is escaped with a letter, with its code unit, or not at all. -/
theorem escapeChar_cases (character : Char) :
    (∃ letter, escapeChar character = ['\\', letter] ∧ shortEscape? letter = some character) ∨
    (escapeChar character = '\\' :: 'u' :: Text.hexPadded 4 character.toNat ∧
      character.toNat < 0x10000) ∨
    (escapeChar character = [character] ∧ character ≠ '"' ∧ character ≠ '\\' ∧
      0x20 ≤ character.toNat) := by
  by_cases short : character ∈ ['"', '\\', '\x08', '\x0c', '\n', '\r', '\t']
  · left
    simp only [List.mem_cons, List.not_mem_nil, or_false] at short
    rcases short with rfl | rfl | rfl | rfl | rfl | rfl | rfl <;> exact ⟨_, rfl, rfl⟩
  · right
    simp only [List.mem_cons, List.not_mem_nil, or_false, not_or] at short
    obtain ⟨quote, backslash, rest⟩ := short
    simp only [escapeChar, quote, backslash, rest, ↓reduceIte]
    split
    case isTrue escaped =>
        refine .inl ⟨rfl, ?_⟩
        rcases escaped with control | rfl | rfl | rfl | rfl | rfl
        · omega
        all_goals decide
    case isFalse plain =>
        exact .inr ⟨rfl, quote, backslash, Nat.not_lt.mp fun control => plain (.inl control)⟩

/-- A character that needs no escape stands for itself. -/
theorem parseText_plain (quote : character ≠ '"') (backslash : character ≠ '\\')
    (printable : 0x20 ≤ character.toNat) (state : TextState) :
    parseText (character :: rest) state = parseText rest (state.push character) := by
  have visible : ¬ character.toNat < 0x20 := Nat.not_lt.mpr printable
  simp [parseText, backslash, visible]

/-- An escape of one letter is read as the character that it stands for. -/
theorem parseText_short {letter : Char} (short : shortEscape? letter = some character)
    (state : TextState) :
    parseText ('\\' :: letter :: rest) state = parseText rest (state.push character) := by
  have unicode : letter ≠ 'u' := by
    rintro rfl
    cases short
  simp [parseText, unicode, short]

/-- What is written for a character is read as that character. -/
theorem parseText_escapeChar (character : Char) (read rest : List Char) :
    parseText (escapeChar character ++ rest) { read, pending := none } =
      parseText rest { read := character :: read, pending := none } := by
  rcases escapeChar_cases character with ⟨letter, written, short⟩ | ⟨written, below⟩ |
    ⟨written, quote, backslash, printable⟩
  · rw [written]
    exact parseText_short short _
  · obtain ⟨first, second, third, fourth, digits, unit⟩ :=
      exists_hexPadded below
    rw [written, digits]
    simp only [List.cons_append, List.nil_append, parseText, unit, pushUnit_toNat]
  · rw [written]
    exact parseText_plain quote backslash printable _

/-- What is written between quotes is read as the text that was written. -/
theorem parseText_escaped (characters read rest : List Char) :
    parseText (characters.flatMap escapeChar ++ '"' :: rest) { read, pending := none } =
      some (String.ofList (read.reverse ++ characters), rest) := by
  induction characters generalizing read with
  | nil => simp [parseText, TextState.text, TextState.settle]
  | cons character characters inductionHypothesis =>
      rw [List.flatMap_cons, List.append_assoc, parseText_escapeChar, inductionHypothesis,
        List.reverse_cons, List.append_assoc, List.singleton_append]

/-- A string literal is read back behind its opening quote. -/
theorem toList_quoted_append (text : String) (rest : List Char) :
    ∃ body, (quoted text).toList ++ rest = '"' :: body ∧
      parseText body .start = some (text, rest) := by
  refine ⟨text.toList.flatMap escapeChar ++ '"' :: rest, ?_, ?_⟩
  · simp [quoted]
  · have read := parseText_escaped text.toList [] rest
    rwa [List.reverse_nil, List.nil_append, String.ofList_toList] at read

end Texts

section Numbers

/-- What stands there does not go on with a number. -/
def EndsNumber (rest : List Char) : Prop :=
  ∀ next ∈ rest.head?, next.isDigit = false ∧ next ∉ ['.', 'e', 'E']

variable {input rest : List Char}

/-- Digits end where a number does. -/
theorem digitRun_append (ends : EndsNumber rest) (input : List Char) :
    digitRun (input ++ rest) = ((digitRun input).1, (digitRun input).2 ++ rest) := by
  have stops : rest.takeWhile Char.isDigit = [] ∧ rest.dropWhile Char.isDigit = rest := by
    cases rest with
    | nil => exact ⟨rfl, rfl⟩
    | cons next rest => simp [(ends next rfl).1]
  induction input with
  | nil => simp [digitRun, stops]
  | cons first input inductionHypothesis =>
      simp only [digitRun, List.cons_append, List.takeWhile_cons, List.dropWhile_cons,
        Prod.mk.injEq] at inductionHypothesis ⊢
      cases first.isDigit <;> simp [inductionHypothesis]

/-- The whole part of a number is read the same whatever follows the number. -/
theorem integerPart?_append (ends : EndsNumber rest) {whole after : List Char}
    (parsed : integerPart? input = some (whole, after)) :
    integerPart? (input ++ rest) = some (whole, after ++ rest) := by
  rw [integerPart?] at parsed ⊢
  rw [digitRun_append ends]
  generalize digitRun input = run at parsed ⊢
  obtain ⟨digits, following⟩ := run
  split at parsed
  case h_1 | h_3 => cases parsed
  case h_2 same =>
      cases same
      cases parsed
      rfl
  case h_4 same =>
      cases same
      cases parsed
      simp

/-- Without a point there is no fraction. -/
theorem fractionPart?_of_head (head : ∀ next ∈ input.head?, next ≠ '.') :
    fractionPart? input = some ([], input) := by
  cases input with
  | nil => rfl
  | cons next input => simp [fractionPart?, head next rfl]

/-- Without a mark there is no exponent. -/
theorem exponentPart?_of_head (head : ∀ next ∈ input.head?, next ≠ 'e' ∧ next ≠ 'E') :
    exponentPart? input = some ([], input) := by
  cases input with
  | nil => rfl
  | cons next input => simp [exponentPart?, head next rfl]

/-- So is its fraction. -/
theorem fractionPart?_append (ends : EndsNumber rest) {fraction after : List Char}
    (parsed : fractionPart? input = some (fraction, after)) :
    fractionPart? (input ++ rest) = some (fraction, after ++ rest) := by
  rw [fractionPart?.eq_def] at parsed
  split at parsed
  case h_1 following =>
      rw [List.cons_append, fractionPart?, digitRun_append ends]
      split at parsed
      case h_1 => cases parsed
      case h_2 taken =>
          cases parsed
          simp [taken]
  case h_2 noPoint =>
      cases parsed
      refine fractionPart?_of_head fun next first => ?_
      cases input with
      | nil => exact fun same => (ends next first).2 (by simp [same])
      | cons character input =>
          rintro rfl
          exact noPoint input (by simpa using first)

/-- So are the digits of its exponent. -/
theorem exponentDigits?_append (ends : EndsNumber rest) {mark exponent after : List Char}
    (parsed : exponentDigits? mark input = some (exponent, after)) :
    exponentDigits? mark (input ++ rest) = some (exponent, after ++ rest) := by
  rw [exponentDigits?] at parsed ⊢
  rw [digitRun_append ends]
  split at parsed
  case h_1 => cases parsed
  case h_2 taken =>
      cases parsed
      simp [taken]

/-- So is its exponent, also when it has none. -/
theorem exponentPart?_append (ends : EndsNumber rest) {exponent after : List Char}
    (parsed : exponentPart? input = some (exponent, after)) :
    exponentPart? (input ++ rest) = some (exponent, after ++ rest) := by
  rw [exponentPart?.eq_def] at parsed
  split at parsed
  case h_1 mark following =>
      split at parsed
      case isTrue marks =>
          cases following with
          | nil => cases parsed
          | cons sign digits =>
              simp only [List.cons_append, exponentPart?, if_pos marks]
              split at parsed
              case h_1 same | h_2 same =>
                  cases same
                  exact exponentDigits?_append ends parsed
              case h_3 plus minus =>
                  simp only [List.cons.injEq, and_imp, forall_apply_eq_imp_iff] at plus minus
                  split
                  case h_1 same => exact absurd (List.cons.inj same).1 plus
                  case h_2 same => exact absurd (List.cons.inj same).1 minus
                  case h_3 => exact exponentDigits?_append ends parsed
      case isFalse marks =>
          cases parsed
          exact exponentPart?_of_head (by simpa using marks)
  case h_2 =>
      cases parsed
      refine exponentPart?_of_head fun next first => ⟨?_, ?_⟩
      · exact fun same => (ends next first).2 (by simp [same])
      · exact fun same => (ends next first).2 (by simp [same])

/-- What is read of a number behind its sign. -/
def unsignedNumber? (sign input : List Char) : Option (String × List Char) := do
  let (whole, rest) ← integerPart? input
  let (fraction, rest) ← fractionPart? rest
  let (exponent, rest) ← exponentPart? rest
  return (String.ofList (sign ++ whole ++ fraction ++ exponent), rest)

/-- A minus in front is the sign of the number. -/
theorem parseNumber_minus (input : List Char) :
    parseNumber ('-' :: input) = unsignedNumber? ['-'] input :=
  rfl

/-- A number without a minus has no sign. -/
theorem parseNumber_of_ne {first : Char} (plain : first ≠ '-') (input : List Char) :
    parseNumber (first :: input) = unsignedNumber? [] (first :: input) := by
  simp [parseNumber, unsignedNumber?, plain]

/-- What stands behind the sign is read the same whatever follows the number. -/
theorem unsignedNumber?_append (ends : EndsNumber rest) {sign : List Char} {literal : String}
    {after : List Char} (parsed : unsignedNumber? sign input = some (literal, after)) :
    unsignedNumber? sign (input ++ rest) = some (literal, after ++ rest) := by
  simp only [unsignedNumber?, Option.bind_eq_bind, Option.bind_eq_some_iff, Prod.exists]
    at parsed ⊢
  obtain ⟨_, _, whole, _, _, fraction, _, _, exponent, built⟩ := parsed
  cases built
  exact ⟨_, _, integerPart?_append ends whole, _, _, fractionPart?_append ends fraction,
    _, _, exponentPart?_append ends exponent, rfl⟩

/-- A number literal is read as it is in front of what does not go on with it. -/
theorem parseNumber_append (ends : EndsNumber rest) {literal : String} {after : List Char}
    (parsed : parseNumber input = some (literal, after)) :
    parseNumber (input ++ rest) = some (literal, after ++ rest) := by
  cases input with
  | nil => cases parsed
  | cons first input =>
      by_cases minus : first = '-'
      · rw [minus, parseNumber_minus] at parsed
        rw [minus, List.cons_append, parseNumber_minus]
        exact unsignedNumber?_append ends parsed
      · rw [parseNumber_of_ne minus] at parsed
        rw [List.cons_append, parseNumber_of_ne minus, ← List.cons_append]
        exact unsignedNumber?_append ends parsed

/-- A literal starts with a sign or a digit. -/
theorem exists_head_of_parseNumber {result : String × List Char}
    (parsed : parseNumber input = some result) :
    ∃ first following, input = first :: following ∧ (first = '-' ∨ first.isDigit = true) := by
  cases input with
  | nil => cases parsed
  | cons first input =>
      refine ⟨first, input, rfl, ?_⟩
      by_cases minus : first = '-'
      · exact .inl minus
      · right
        rw [parseNumber_of_ne minus] at parsed
        cases digit : first.isDigit with
        | true => rfl
        | false =>
            have none : integerPart? (first :: input) = none := by
              simp [integerPart?, digitRun, digit]
            simp [unsignedNumber?, none] at parsed

/-- A text is a number literal of JSON. -/
def IsNumber (literal : String) : Prop :=
  parseNumber literal.toList = some (literal, [])

end Numbers

section Integers

/-- The digits of a number start with a zero only if it is zero. -/
theorem exists_toDigits_of_pos {value : Nat} (positive : 0 < value) :
    ∃ first others, Nat.toDigits 10 value = first :: others ∧ first ≠ '0' := by
  induction value using Nat.strongRecOn with
  | ind value inductionHypothesis =>
      by_cases single : value < 10
      · refine ⟨_, _, Nat.toDigits_of_lt_base single, ?_⟩
        rw [ne_eq, Nat.digitChar_eq_zero]
        omega
      · obtain ⟨first, others, digits, nonzero⟩ :=
          inductionHypothesis (value / 10) (by omega) (by omega)
        refine ⟨first, others ++ [(value % 10).digitChar], ?_, nonzero⟩
        rw [Nat.toDigits_of_base_le (by decide) (by omega), digits, List.cons_append]

/-- Digits are a run by themselves. -/
theorem digitRun_of_all {digits : List Char} (all : ∀ digit ∈ digits, digit.isDigit = true) :
    digitRun digits = (digits, []) := by
  induction digits with
  | nil => rfl
  | cons digit digits inductionHypothesis =>
      obtain ⟨first, others⟩ := List.forall_mem_cons.mp all
      simp only [digitRun, Prod.mk.injEq] at inductionHypothesis ⊢
      simp [first, inductionHypothesis others]

/-- A numeral is made of digits. -/
theorem isDigit_of_mem_toDigits {value : Nat} :
    ∀ digit ∈ Nat.toDigits 10 value, digit.isDigit = true :=
  fun _ member => Nat.isDigit_of_mem_toDigits (by decide) (by decide) member

/-- The digits of a number are read as a literal behind any sign. -/
theorem unsignedNumber?_toDigits (sign : List Char) (value : Nat) :
    unsignedNumber? sign (Nat.toDigits 10 value) =
      some (String.ofList (sign ++ Nat.toDigits 10 value), []) := by
  have whole : integerPart? (Nat.toDigits 10 value) = some (Nat.toDigits 10 value, []) := by
    rw [integerPart?, digitRun_of_all isDigit_of_mem_toDigits]
    by_cases zero : value = 0
    · rw [zero]
      rfl
    · obtain ⟨first, others, digits, nonzero⟩ := exists_toDigits_of_pos (Nat.pos_of_ne_zero zero)
      simp [digits, nonzero]
  simp [unsignedNumber?, whole, fractionPart?, exponentPart?]

/-- How integers are written. -/
theorem toList_toString_ofNat (value : Nat) :
    (toString (value : Int)).toList = Nat.toDigits 10 value := by
  simp [Int.repr_eq_if]

/-- The numeral of a negative integer is a minus and the numeral of its magnitude. -/
theorem toList_toString_negSucc (value : Nat) :
    (toString (Int.negSucc value)).toList = '-' :: Nat.toDigits 10 (value + 1) := by
  simp [Int.repr]

/-- The digits of a number do not start with a sign. -/
theorem exists_toDigits (value : Nat) :
    ∃ first others, Nat.toDigits 10 value = first :: others ∧ first ≠ '-' := by
  obtain ⟨first, others, digits⟩ := List.exists_cons_of_ne_nil (@Nat.toDigits_ne_nil value 10)
  refine ⟨first, others, digits, ?_⟩
  rintro rfl
  have isDigit := @isDigit_of_mem_toDigits value '-' (by simp [digits])
  exact absurd isDigit (by decide)

/-- Integers are written as number literals. -/
theorem isNumber_toString (value : Int) : IsNumber (toString value) := by
  rw [IsNumber]
  cases value with
  | ofNat value =>
      have written := toList_toString_ofNat value
      obtain ⟨first, others, digits, unsigned⟩ := exists_toDigits value
      have read := unsignedNumber?_toDigits [] value
      rw [digits, ← parseNumber_of_ne unsigned, ← digits, ← written, List.nil_append,
        String.ofList_toList] at read
      exact read
  | negSucc value =>
      rw [toList_toString_negSucc, parseNumber_minus, unsignedNumber?_toDigits]
      rw [List.singleton_append, ← toList_toString_negSucc, String.ofList_toList]

/-- A natural number is written like the integer that it is. -/
theorem nat_eq_int (value : Nat) : nat value = int value := by
  simp [nat, int, Int.repr_eq_if]

/-- The number that decimal digits denote. -/
def natural? (digits : List Char) : Option Nat :=
  if digits ≠ [] ∧ digits.all Char.isDigit then some (Nat.ofDigitChars 10 digits 0) else none

/-- The integer that a literal denotes, if it has neither a fraction nor an exponent. -/
def int? : Json → Option Int
  | .number literal =>
    match literal.toList with
    | '-' :: digits => (natural? digits).map fun magnitude => -magnitude
    | digits => (natural? digits).map Int.ofNat
  | _ => none

/-- A natural number is read back from its digits. -/
theorem natural?_toDigits (value : Nat) : natural? (Nat.toDigits 10 value) = some value := by
  rw [natural?, if_pos ⟨Nat.toDigits_ne_nil, List.all_eq_true.mpr isDigit_of_mem_toDigits⟩,
    Nat.ofDigitChars_ten_toDigits]

/-- Integers are read back, every digit of them. -/
theorem int?_int (value : Int) : (int value).int? = some value := by
  cases value with
  | ofNat value =>
      obtain ⟨first, others, digits, unsigned⟩ := exists_toDigits value
      simp only [Int.ofNat_eq_natCast, int, int?, toList_toString_ofNat, digits]
      split
      case h_1 same => exact absurd (List.cons.inj same).1 unsigned
      case h_2 => rw [← digits, natural?_toDigits, Option.map_some, Int.ofNat_eq_natCast]
  | negSucc value =>
      simp only [int, int?, toList_toString_negSucc, natural?_toDigits]
      rfl

end Integers

end Json

end TapeDebugger
