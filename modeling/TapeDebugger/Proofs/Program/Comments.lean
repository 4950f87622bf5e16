import TapeDebugger.Program
import TapeDebugger.Proofs.Text.Utf8

/-!
# Comments

Everything in a source text but the instructions is a comment. The lexer looks at bytes, and finds
what would be found among the characters of the text, be it valid or not (`ofBytes_eq_ofChars`):
the instructions are written in ASCII, and no byte of a longer character, or of a sequence that is
broken off, is in ASCII. So a comment may stand anywhere without the program being changed.
-/

namespace TapeDebugger

namespace Utf8

/-- A character of ASCII is its own byte, and no byte of another character is in ASCII. -/
theorem utf8EncodeChar_ascii_or_high (character : Char) :
    (character.toNat < 0x80 ∧
      String.utf8EncodeChar character = [UInt8.ofNat character.toNat]) ∨
    (0x80 ≤ character.toNat ∧ ∀ byte ∈ String.utf8EncodeChar character, 0x80 ≤ byte.toNat) := by
  rcases utf8EncodeChar_cases character with
    ascii | ⟨_, _, _, _, _, _, bytes⟩ | ⟨_, _, _, _, _, _, _, _, bytes⟩ |
    ⟨_, _, _, _, _, _, _, _, _, _, bytes⟩
  · exact .inl ascii
  all_goals
    refine .inr ⟨by omega, ?_⟩
    rw [bytes]
    simp (disch := omega) only [List.forall_mem_cons, toNat_ofNat_of_lt]
    simp

/-- A byte that starts no sequence is not in ASCII. -/
theorem high_of_sequence?_eq_none {byte : UInt8} {rest : List UInt8}
    (broken : sequence? byte rest = none) : 0x80 ≤ byte.toNat := by
  by_contra low
  have ascii : byte.toNat < 0x80 := Nat.not_le.mp low
  have leads := lead?_ascii ascii
  rw [UInt8.ofNat_toNat] at leads
  obtain ⟨character, scalar⟩ : ∃ character, scalar? byte.toNat = some character :=
    ⟨_, dif_pos (.inl (by omega))⟩
  simp [sequence?, leads, extend?, scalar] at broken

end Utf8

namespace Instruction

/-- The instructions are written in ASCII. -/
theorem toNat_lt_of_ofChar? {character : Char} {instruction : Instruction}
    (read : ofChar? character = some instruction) : character.toNat < 0x80 := by
  rw [ofChar?.eq_def] at read
  split at read
  case h_9 => cases read
  all_goals decide

/-- A character outside ASCII is a comment. -/
theorem ofChar?_eq_none {character : Char} (high : 0x80 ≤ character.toNat) :
    ofChar? character = none := by
  refine Option.eq_none_iff_forall_ne_some.mpr fun instruction read => ?_
  exact absurd (toNat_lt_of_ofChar? read) (Nat.not_lt.mpr high)

/-- So is a byte outside ASCII. -/
theorem ofByte?_eq_none {byte : UInt8} (high : 0x80 ≤ byte.toNat) : ofByte? byte = none :=
  if_neg (Nat.not_lt.mpr high)

/-- Instructions are found in two parts of a source one after the other. -/
theorem ofBytes_append (bytes rest : List UInt8) :
    ofBytes (bytes ++ rest) = ofBytes bytes ++ ofBytes rest :=
  List.filterMap_append

/-- A character adds its instruction to those of the rest, if it is one. -/
theorem ofChars_cons (character : Char) (rest : List Char) :
    ofChars (character :: rest) = (ofChar? character).toList ++ ofChars rest := by
  rw [ofChars, ofChars, List.filterMap_cons]
  cases ofChar? character <;> rfl

/-- The bytes of a character are read as the character is. -/
theorem ofBytes_utf8EncodeChar (character : Char) :
    ofBytes (String.utf8EncodeChar character) = (ofChar? character).toList := by
  rcases Utf8.utf8EncodeChar_ascii_or_high character with ⟨ascii, bytes⟩ | ⟨high, bytes⟩
  · have value := Utf8.toNat_ofNat_of_lt (show character.toNat < 256 by omega)
    have same : ofByte? (UInt8.ofNat character.toNat) = ofChar? character := by
      rw [ofByte?, value, if_pos ascii, Char.ofNat_toNat]
    rw [bytes, ofBytes, List.filterMap_cons, same]
    cases ofChar? character <;> rfl
  · rw [ofChar?_eq_none high]
    exact List.filterMap_eq_nil_iff.mpr fun byte member => ofByte?_eq_none (bytes byte member)

/-- The instructions among the bytes of a text are those among its characters. -/
theorem ofBytes_eq_ofChars (source : List UInt8) :
    ofBytes source = ofChars (Utf8.decode source) := by
  -- A character takes several bytes, so the induction is on the number of bytes left.
  induction sized : source.length using Nat.strongRecOn generalizing source with
  | ind length inductionHypothesis =>
      cases source with
      | nil => rfl
      | cons first rest =>
          rw [List.length_cons] at sized
          rw [Utf8.decode, Utf8.decodeAfter]
          split
          case h_1 character taken read =>
            obtain ⟨following, more, rfl, rfl, bytes⟩ := Utf8.exists_of_sequence? read
            rw [List.length_append] at sized
            have later := inductionHypothesis more.length (by omega) more rfl
            have split : first :: (following ++ more) =
                String.utf8EncodeChar character ++ more := by
              rw [bytes, List.cons_append]
            rw [Utf8.decodeAfter_length_append, ofChars_cons, split, ofBytes_append,
              ofBytes_utf8EncodeChar, later]
            rfl
          case h_2 broken =>
            have later := inductionHypothesis rest.length (by omega) rest rfl
            have skipped : ofByte? first = none :=
              ofByte?_eq_none (Utf8.high_of_sequence?_eq_none broken)
            rw [ofBytes, List.filterMap_cons, skipped]
            exact later

/-- A text whose characters are no instructions holds none. -/
theorem ofBytes_of_comment {comment : List UInt8}
    (plain : ∀ character ∈ Utf8.decode comment, ofChar? character = none) :
    ofBytes comment = [] := by
  rw [ofBytes_eq_ofChars, ofChars, List.filterMap_eq_nil_iff]
  exact plain

end Instruction

/-- Only the instructions among the characters of a source count. A text of other characters may be
put in anywhere, between two characters or even within the bytes of one, and the outcome of
compiling is the same, be it a program or the bracket without a partner. -/
theorem compile_ignores_comments (source : List UInt8) :
    Instruction.ofBytes source = Instruction.ofChars (Utf8.decode source) ∧
      ∀ before comment after, source = before ++ after →
        (∀ character ∈ Utf8.decode comment, Instruction.ofChar? character = none) →
          Program.compile (before ++ comment ++ after) = Program.compile source := by
  refine ⟨Instruction.ofBytes_eq_ofChars source, ?_⟩
  rintro before comment after rfl plain
  have same : Instruction.ofBytes (before ++ comment ++ after) =
      Instruction.ofBytes (before ++ after) := by
    rw [Instruction.ofBytes_append, Instruction.ofBytes_append, Instruction.ofBytes_append,
      Instruction.ofBytes_of_comment plain, List.append_nil]
  rw [Program.compile, Program.compile, same]

/-- A lead byte broken off and an overlong form do not swallow the bracket behind them, which is
still named by its place among the instructions when a comment is put in. -/
theorem compile_ignores_comments_broken :
    let before : List UInt8 := [0xE2, 0x2B, 0xC0]
    let comment : List UInt8 := [0x82, 0xC3, 0xA9, 0xF0, 0x9F]
    let after : List UInt8 := [0xAF, 0x5D]
    (∀ character ∈ Utf8.decode comment, Instruction.ofChar? character = none) ∧
      Program.compile (before ++ after) = .error { index := 1, bracket := .closing } ∧
      Program.compile (before ++ comment ++ after) =
        .error { index := 1, bracket := .closing } := by
  intro before comment after
  have decoded : Utf8.decode comment =
      [Utf8.replacement, 'é', Utf8.replacement, Utf8.replacement] := rfl
  have plain : ∀ character ∈ Utf8.decode comment, Instruction.ofChar? character = none := by
    rw [decoded]
    simp only [List.forall_mem_cons]
    exact ⟨rfl, rfl, rfl, rfl, nofun⟩
  have result : Program.compile (before ++ after) = .error { index := 1, bracket := .closing } :=
    rfl
  refine ⟨plain, result, ?_⟩
  rw [(compile_ignores_comments (before ++ after)).2 before comment after rfl plain, result]

end TapeDebugger
