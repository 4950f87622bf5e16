import Mathlib.Data.List.Basic
import TapeDebugger.Text.Utf8

/-!
# Encoding and decoding

`decode` undoes `encode` on every list of characters, whatever bytes follow
(`decode_encode_append`), so every list of characters can be written as bytes. A sequence that is
read consists of the bytes of its character (`exists_of_sequence?`), so the valid byte strings are
just those that encode some characters (`isValid_iff`), and on them `encode` undoes `decode`.
-/

namespace TapeDebugger.Utf8

/-- A character is the scalar value of its own code point. -/
theorem scalar?_toNat (character : Char) : scalar? character.toNat = some character := by
  have valid : character.toNat.isValidChar := character.valid
  rw [scalar?, dif_pos valid]
  rfl

/-- A number below 256 is a byte. -/
theorem toNat_ofNat_of_lt {value : Nat} (small : value < 256) :
    (UInt8.ofNat value).toNat = value := by
  simp only [UInt8.toNat_ofNat']
  omega

/-- A continuation byte holds its six bits. -/
theorem continuation?_ofNat {bits : Nat} (small : bits < 0x40) :
    continuation? (UInt8.ofNat (bits + 0x80)) = some bits := by
  have value := toNat_ofNat_of_lt (show bits + 0x80 < 256 by omega)
  simp only [continuation?, value]
  rw [if_pos (by omega), Nat.add_sub_cancel]

/-- An ASCII byte stands alone. -/
theorem lead?_ascii {payload : Nat} (small : payload < 0x80) :
    lead? (UInt8.ofNat payload) = some { following := 0, payload, least := 0 } := by
  have value := toNat_ofNat_of_lt (show payload < 256 by omega)
  simp only [lead?, value]
  rw [if_pos small]

/-- The lead byte of two. -/
theorem lead?_two {payload : Nat} (small : payload < 0x20) :
    lead? (UInt8.ofNat (payload + 0xC0)) = some { following := 1, payload, least := 0x80 } := by
  have value := toNat_ofNat_of_lt (show payload + 0xC0 < 256 by omega)
  simp only [lead?, value]
  rw [if_neg (by omega), if_neg (by omega), if_pos (by omega), Nat.add_sub_cancel]

/-- The lead byte of three. -/
theorem lead?_three {payload : Nat} (small : payload < 0x10) :
    lead? (UInt8.ofNat (payload + 0xE0)) = some { following := 2, payload, least := 0x800 } := by
  have value := toNat_ofNat_of_lt (show payload + 0xE0 < 256 by omega)
  simp only [lead?, value]
  rw [if_neg (by omega), if_neg (by omega), if_neg (by omega), if_pos (by omega),
    Nat.add_sub_cancel]

/-- The lead byte of four. -/
theorem lead?_four {payload : Nat} (small : payload < 0x08) :
    lead? (UInt8.ofNat (payload + 0xF0)) =
      some { following := 3, payload, least := 0x10000 } := by
  have value := toNat_ofNat_of_lt (show payload + 0xF0 < 256 by omega)
  simp only [lead?, value]
  rw [if_neg (by omega), if_neg (by omega), if_neg (by omega), if_neg (by omega),
    if_pos (by omega), Nat.add_sub_cancel]

/-- Code points end at 0x10FFFF. -/
theorem toNat_lt (character : Char) : character.toNat < 0x110000 := by
  have valid := character.valid
  simp only [UInt32.isValidChar, Nat.isValidChar] at valid
  have same : character.toNat = character.val.toNat := rfl
  omega

/-- A character is written in as few bytes as hold its code point, with six bits in each byte
behind the first. -/
theorem utf8EncodeChar_cases (character : Char) :
    (character.toNat < 0x80 ∧
      String.utf8EncodeChar character = [UInt8.ofNat character.toNat]) ∨
    (∃ payload last, payload < 0x20 ∧ last < 0x40 ∧
      character.toNat = payload * 64 + last ∧ 0x80 ≤ character.toNat ∧
      String.utf8EncodeChar character =
        [UInt8.ofNat (payload + 0xC0), UInt8.ofNat (last + 0x80)]) ∨
    (∃ payload middle last, payload < 0x10 ∧ middle < 0x40 ∧ last < 0x40 ∧
      character.toNat = (payload * 64 + middle) * 64 + last ∧ 0x800 ≤ character.toNat ∧
      String.utf8EncodeChar character =
        [UInt8.ofNat (payload + 0xE0), UInt8.ofNat (middle + 0x80), UInt8.ofNat (last + 0x80)]) ∨
    (∃ payload upper lower last, payload < 0x08 ∧ upper < 0x40 ∧ lower < 0x40 ∧ last < 0x40 ∧
      character.toNat = ((payload * 64 + upper) * 64 + lower) * 64 + last ∧
      0x10000 ≤ character.toNat ∧
      String.utf8EncodeChar character =
        [UInt8.ofNat (payload + 0xF0), UInt8.ofNat (upper + 0x80), UInt8.ofNat (lower + 0x80),
          UInt8.ofNat (last + 0x80)]) := by
  have bound := toNat_lt character
  have same : character.val.toNat = character.toNat := rfl
  simp only [String.utf8EncodeChar, same]
  generalize character.toNat = value at bound
  split
  · exact .inl ⟨by omega, rfl⟩
  split
  · exact .inr (.inl ⟨_, _, by omega, by omega, by omega, by omega, rfl⟩)
  split
  · exact .inr (.inr (.inl ⟨_, _, _, by omega, by omega, by omega, by omega, by omega, rfl⟩))
  · exact .inr (.inr (.inr
      ⟨_, _, _, _, by omega, by omega, by omega, by omega, by omega, by omega, rfl⟩))

/-- The bytes of a character are one valid sequence, whatever follows them. -/
theorem sequence?_utf8EncodeChar (character : Char) (rest : List UInt8) :
    ∃ first following, String.utf8EncodeChar character = first :: following ∧
      sequence? first (following ++ rest) = some (character, following.length) := by
  have scalar := scalar?_toNat character
  rcases utf8EncodeChar_cases character with
    ⟨one, bytes⟩ | ⟨payload, last, lead, six, code, two, bytes⟩ |
    ⟨payload, middle, last, lead, six, six', code, three, bytes⟩ |
    ⟨payload, upper, lower, last, lead, six, six', six'', code, four, bytes⟩ <;>
    refine ⟨_, _, bytes, ?_⟩
  · simp [sequence?, lead?_ascii one, extend?, scalar]
  · simp only [sequence?, List.cons_append, List.nil_append, extend?, lead?_two lead,
      continuation?_ofNat six, ← code]
    rw [if_neg (Nat.not_lt.mpr two), scalar]
    rfl
  · simp only [sequence?, List.cons_append, List.nil_append, extend?, lead?_three lead,
      continuation?_ofNat six, continuation?_ofNat six', ← code]
    rw [if_neg (Nat.not_lt.mpr three), scalar]
    rfl
  · simp only [sequence?, List.cons_append, List.nil_append, extend?, lead?_four lead,
      continuation?_ofNat six, continuation?_ofNat six', continuation?_ofNat six'', ← code]
    rw [if_neg (Nat.not_lt.mpr four), scalar]
    rfl

/-- Bytes that an earlier sequence took are passed over. -/
theorem decodeAfter_length_append (taken rest : List UInt8) :
    decodeAfter taken.length (taken ++ rest) = decodeAfter 0 rest := by
  induction taken with
  | nil => rfl
  | cons _ taken inductionHypothesis => simpa [decodeAfter] using inductionHypothesis

/-- Bytes are valid behind those already taken if they are valid by themselves. -/
theorem isValidAfter_length_append (taken rest : List UInt8) :
    isValidAfter taken.length (taken ++ rest) = isValidAfter 0 rest := by
  induction taken with
  | nil => rfl
  | cons _ taken inductionHypothesis => simpa [isValidAfter] using inductionHypothesis

/-- Decoding undoes encoding, whatever follows. -/
theorem decode_encode_append (characters : List Char) (rest : List UInt8) :
    decode (encode characters ++ rest) = characters ++ decode rest := by
  induction characters with
  | nil => rfl
  | cons character characters inductionHypothesis =>
      obtain ⟨first, following, bytes, valid⟩ :=
        sequence?_utf8EncodeChar character (encode characters ++ rest)
      have split : encode (character :: characters) ++ rest =
          first :: (following ++ (encode characters ++ rest)) := by
        simp [encode, bytes]
      rw [split, decode, decodeAfter, valid]
      simp only [decodeAfter_length_append, List.cons_append]
      exact congrArg (character :: ·) inductionHypothesis

/-- What was encoded is decoded to the same characters. -/
theorem decode_encode (characters : List Char) : decode (encode characters) = characters := by
  simpa [decode, decodeAfter] using decode_encode_append characters []

/-- In what encodes characters every byte belongs to a valid sequence. -/
theorem isValid_encode (characters : List Char) : isValid (encode characters) = true := by
  induction characters with
  | nil => rfl
  | cons character characters inductionHypothesis =>
      obtain ⟨first, following, bytes, valid⟩ :=
        sequence?_utf8EncodeChar character (encode characters)
      have split : encode (character :: characters) =
          first :: (following ++ encode characters) := by
        simp [encode, bytes]
      rw [split, isValid, isValidAfter, valid]
      simp only [isValidAfter_length_append]
      exact inductionHypothesis

/-- A byte with its six bits continues a sequence. -/
theorem continuation?_eq_some_iff {byte : UInt8} {bits : Nat} :
    continuation? byte = some bits ↔ bits < 0x40 ∧ byte = UInt8.ofNat (bits + 0x80) := by
  constructor
  · intro continues
    rw [continuation?] at continues
    split at continues
    · obtain rfl := Option.some.inj continues
      have whole : byte.toNat - 0x80 + 0x80 = byte.toNat := by omega
      exact ⟨by omega, by rw [whole, UInt8.ofNat_toNat]⟩
    · cases continues
  · rintro ⟨small, rfl⟩
    exact continuation?_ofNat small

/-- The bytes that continue a sequence hold six bits each. -/
theorem exists_of_extend? {count value result : Nat} {rest : List UInt8}
    (extended : extend? count value rest = some result) :
    ∃ (bits : List Nat) (more : List UInt8), bits.length = count ∧ (∀ six ∈ bits, six < 0x40) ∧
      rest = bits.map (fun six => UInt8.ofNat (six + 0x80)) ++ more ∧
      result = bits.foldl (fun value six => value * 64 + six) value := by
  induction count generalizing value rest with
  | zero =>
      cases rest <;> exact ⟨[], _, rfl, nofun, rfl, (Option.some.inj extended).symm⟩
  | succ count inductionHypothesis =>
      cases rest with
      | nil => cases extended
      | cons byte rest =>
          rw [extend?] at extended
          split at extended
          · cases extended
          · rename_i six continues
            obtain ⟨small, rfl⟩ := continuation?_eq_some_iff.mp continues
            obtain ⟨bits, more, length, others, rfl, rfl⟩ := inductionHypothesis extended
            exact ⟨six :: bits, more, by rw [List.length_cons, length],
              List.forall_mem_cons.mpr ⟨small, others⟩, rfl, rfl⟩

/-- What a byte is that leads a sequence. -/
theorem lead?_cases {byte : UInt8} {lead : Lead} (leads : lead? byte = some lead) :
    (lead.following = 0 ∧ lead.payload < 0x80 ∧ lead.least = 0 ∧
        byte = UInt8.ofNat lead.payload) ∨
      (lead.following = 1 ∧ lead.payload < 0x20 ∧ lead.least = 0x80 ∧
        byte = UInt8.ofNat (lead.payload + 0xC0)) ∨
      (lead.following = 2 ∧ lead.payload < 0x10 ∧ lead.least = 0x800 ∧
        byte = UInt8.ofNat (lead.payload + 0xE0)) ∨
      (lead.following = 3 ∧ lead.payload < 0x08 ∧ lead.least = 0x10000 ∧
        byte = UInt8.ofNat (lead.payload + 0xF0)) := by
  have rebuild : ∀ offset : Nat, offset ≤ byte.toNat →
      byte = UInt8.ofNat (byte.toNat - offset + offset) := by
    intro offset below
    rw [Nat.sub_add_cancel below, UInt8.ofNat_toNat]
  simp only [lead?] at leads
  split at leads
  · obtain rfl := Option.some.inj leads
    exact .inl ⟨rfl, by assumption, rfl, UInt8.ofNat_toNat.symm⟩
  split at leads
  · cases leads
  split at leads
  · obtain rfl := Option.some.inj leads
    exact .inr (.inl ⟨rfl, by dsimp only; omega, rfl, rebuild _ (by omega)⟩)
  split at leads
  · obtain rfl := Option.some.inj leads
    exact .inr (.inr (.inl ⟨rfl, by dsimp only; omega, rfl, rebuild _ (by omega)⟩))
  split at leads
  · obtain rfl := Option.some.inj leads
    exact .inr (.inr (.inr ⟨rfl, by dsimp only; omega, rfl, rebuild _ (by omega)⟩))
  · cases leads

/-- A lead byte and the bits behind it are the bytes of the character that they add up to, unless
a shorter sequence would do. -/
theorem utf8EncodeChar_of_lead? {byte : UInt8} {lead : Lead} (leads : lead? byte = some lead)
    {bits : List Nat} (length : bits.length = lead.following) (small : ∀ six ∈ bits, six < 0x40)
    {character : Char}
    (code : character.toNat = bits.foldl (fun value six => value * 64 + six) lead.payload)
    (enough : lead.least ≤ character.toNat) :
    String.utf8EncodeChar character = byte :: bits.map fun six => UInt8.ofNat (six + 0x80) := by
  have same : character.val.toNat = character.toNat := rfl
  simp only [String.utf8EncodeChar, same]
  generalize character.toNat = value at code enough
  rcases lead?_cases leads with
    ⟨following, payload, least, rfl⟩ | ⟨following, payload, least, rfl⟩ |
    ⟨following, payload, least, rfl⟩ | ⟨following, payload, least, rfl⟩ <;>
    rw [following] at length <;> rw [least] at enough
  · rw [List.length_eq_zero_iff] at length
    subst length
    rw [List.foldl_nil] at code
    rw [if_pos (by omega), code]
    rfl
  · obtain ⟨first, rfl⟩ := List.length_eq_one_iff.mp length
    have bound := small first List.mem_cons_self
    simp only [List.foldl_cons, List.foldl_nil] at code
    have high : value / 64 % 0x20 = lead.payload := by omega
    have low : value % 0x40 = first := by omega
    rw [if_neg (by omega), if_pos (by omega), high, low]
    rfl
  · obtain ⟨first, second, rfl⟩ := List.length_eq_two.mp length
    have firstBound := small first (by simp)
    have secondBound := small second (by simp)
    simp only [List.foldl_cons, List.foldl_nil] at code
    have high : value / 4096 % 0x10 = lead.payload := by omega
    have middle : value / 64 % 0x40 = first := by omega
    have low : value % 0x40 = second := by omega
    rw [if_neg (by omega), if_neg (by omega), if_pos (by omega), high, middle, low]
    rfl
  · obtain ⟨first, second, third, rfl⟩ := List.length_eq_three.mp length
    have firstBound := small first (by simp)
    have secondBound := small second (by simp)
    have thirdBound := small third (by simp)
    simp only [List.foldl_cons, List.foldl_nil] at code
    have high : value / 262144 % 0x08 = lead.payload := by omega
    have upper : value / 4096 % 0x40 = first := by omega
    have lower : value / 64 % 0x40 = second := by omega
    have low : value % 0x40 = third := by omega
    rw [if_neg (by omega), if_neg (by omega), if_neg (by omega), high, upper, lower, low]
    rfl

/-- A character that is read from a number has it as its code point. -/
theorem toNat_of_scalar? {value : Nat} {character : Char} (read : scalar? value = some character) :
    character.toNat = value := by
  rw [scalar?] at read
  by_cases valid : value.isValidChar
  · rw [dif_pos valid] at read
    obtain rfl := Option.some.inj read
    rfl
  · rw [dif_neg valid] at read
    cases read

/-- A sequence that is read consists of the bytes of its character. -/
theorem exists_of_sequence? {first : UInt8} {rest : List UInt8} {character : Char} {taken : Nat}
    (read : sequence? first rest = some (character, taken)) :
    ∃ following more, rest = following ++ more ∧ following.length = taken ∧
      String.utf8EncodeChar character = first :: following := by
  rw [sequence?] at read
  split at read
  case h_1 => cases read
  case h_2 lead leads =>
    split at read
    case h_1 => cases read
    case h_2 value extended =>
      split at read
      case isTrue => cases read
      case isFalse enough =>
        obtain ⟨_, scalar, same⟩ := Option.map_eq_some_iff.mp read
        obtain ⟨rfl, rfl⟩ := Prod.mk.inj same
        obtain ⟨bits, more, length, small, rfl, rfl⟩ := exists_of_extend? extended
        have code := toNat_of_scalar? scalar
        refine ⟨_, more, rfl, by rw [List.length_map, length], ?_⟩
        exact utf8EncodeChar_of_lead? leads length small code (code ▸ Nat.not_lt.mp enough)

/-- The bytes of valid text are those of some characters. -/
theorem isValid_iff {bytes : List UInt8} :
    isValid bytes = true ↔ ∃ characters, encode characters = bytes := by
  constructor
  · intro valid
    induction sized : bytes.length using Nat.strongRecOn generalizing bytes with
    | ind length inductionHypothesis =>
        cases bytes with
        | nil => exact ⟨[], rfl⟩
        | cons first rest =>
            rw [isValid, isValidAfter] at valid
            split at valid
            case h_2 => cases valid
            case h_1 character taken read =>
              obtain ⟨following, more, rfl, rfl, bytes⟩ := exists_of_sequence? read
              rw [isValidAfter_length_append] at valid
              have shorter : more.length < length := by
                simp only [List.length_cons, List.length_append] at sized
                omega
              obtain ⟨characters, encoded⟩ := inductionHypothesis _ shorter valid rfl
              exact ⟨character :: characters, by simp [encode, bytes, ← encoded]⟩
  · rintro ⟨characters, rfl⟩
    exact isValid_encode characters

/-- Encoding undoes decoding on valid text. -/
theorem encode_decode {bytes : List UInt8} (valid : isValid bytes = true) :
    encode (decode bytes) = bytes := by
  obtain ⟨characters, rfl⟩ := isValid_iff.mp valid
  rw [decode_encode]

/-- Valid text in front of other bytes is decoded on its own. -/
theorem decode_append {bytes : List UInt8} (valid : isValid bytes = true) (rest : List UInt8) :
    decode (bytes ++ rest) = decode bytes ++ decode rest := by
  obtain ⟨characters, rfl⟩ := isValid_iff.mp valid
  rw [decode_encode_append, decode_encode]

end TapeDebugger.Utf8
