import TapeDebugger.Proofs.Decimal.Numeral

/-!
# Numerals as doubles

A numeral is read as the double nearest to its digits and its power of ten (`double?_text`). If it
denotes an integer of 53 bits, that is the value of the double, and the spelling does not show
(`exists_double?_text`).
-/

namespace TapeDebugger.Decimal

section Digits

variable {digits rest : List Char}

/-- The digits of radix ten are the decimal digits. -/
theorem isDigit_decimal (character : Char) :
    Radix.decimal.isDigit character = character.isDigit := by
  rw [Radix.isDigit, Radix.digit?, digitValue?]
  cases character.isDigit <;> rfl

/-- A digit has no case. -/
theorem toLower_of_isDigit {digit : Char} (isDigit : digit.isDigit = true) :
    digit.toLower = digit := by
  have nine : '9'.val.toNat = 57 := rfl
  have first : 'A'.val.toNat = 65 := rfl
  simp only [Char.isDigit, Bool.and_eq_true, decide_eq_true_eq, UInt32.le_iff_toNat_le] at isDigit
  refine dif_neg fun upper => ?_
  have above := UInt32.le_iff_toNat_le.mp upper.1
  omega

/-- Digits are taken up to the first character that is none. -/
theorem takeDigits_append (areDigits : ∀ digit ∈ digits, digit.isDigit = true)
    (stops : ∀ character ∈ rest.head?, character.isDigit = false) :
    takeDigits .decimal (digits ++ rest) = (digitsValue digits, digits.length, rest) := by
  have same : Radix.decimal.isDigit = Char.isDigit := funext isDigit_decimal
  have taken : rest.takeWhile Char.isDigit = [] := by
    cases rest with
    | nil => rfl
    | cons character rest => simpa using stops character rfl
  have left : rest.dropWhile Char.isDigit = rest := by
    cases rest with
    | nil => rfl
    | cons character rest => simpa using stops character rfl
  have valued : digits.foldl (fun value digit =>
      value * Radix.decimal.base + (Radix.decimal.digit? digit).getD 0) 0 = digitsValue digits := by
    refine List.foldl_ext _ _ 0 fun value digit member => ?_
    rw [Radix.digit?, digitValue?_of_isDigit (areDigits digit member)]
    rfl
  simp only [takeDigits, same, List.takeWhile_append_of_pos areDigits,
    List.dropWhile_append_of_pos areDigits, taken, left, List.append_nil, valued]

/-- Another digit makes ten times as much and that digit. -/
theorem digitsValue_concat (digits : List Char) (digit : Char) :
    digitsValue (digits ++ [digit]) = digitsValue digits * 10 + (digit.toNat - 48) := by
  rw [digitsValue, List.foldl_append]
  rfl

/-- More digits move those in front of them to the left. -/
theorem digitsValue_append (digits more : List Char) :
    digitsValue (digits ++ more) = digitsValue digits * 10 ^ more.length + digitsValue more := by
  induction more using List.reverseRecOn with
  | nil => simp [digitsValue]
  | append_singleton more digit inductionHypothesis =>
      rw [← List.append_assoc, digitsValue_concat, inductionHypothesis, digitsValue_concat,
        List.length_append, List.length_singleton, Nat.pow_succ, Nat.add_mul, Nat.mul_assoc,
        Nat.add_assoc]

end Digits

/-- An exponent is read as the power that it denotes. -/
theorem exponent?_characters (exponent : Exponent) :
    exponent? .decimal exponent.characters = some exponent.value := by
  obtain ⟨capital, sign, run⟩ := exponent
  have marked : (if capital then 'E' else 'e').toLower = 'e' := by cases capital <;> rfl
  have taken := @takeDigits_append run.digits [] run.areDigits (by simp)
  obtain ⟨length, positive⟩ := Nat.exists_eq_add_one.mpr run.length_pos
  rw [List.append_nil, positive] at taken
  simp only [Exponent.characters, exponent?, marked, Radix.exponentMark, if_true,
    run.splitSign_signed, taken]
  rfl

namespace Numeral

variable (numeral : Numeral)

/-- An exponent begins with its mark. -/
theorem head?_exponentCharacters :
    ∀ character ∈ numeral.exponentCharacters.head?, character = 'e' ∨ character = 'E' := by
  rw [exponentCharacters]
  cases numeral.exponent with
  | none => nofun
  | some exponent =>
      rintro _ ⟨⟩
      cases exponent.capital
      · exact .inl rfl
      · exact .inr rfl

/-- Digits end where the exponent begins. -/
theorem not_isDigit_of_exponent :
    ∀ character ∈ numeral.exponentCharacters.head?, character.isDigit = false := by
  intro character first
  obtain rfl | rfl := numeral.head?_exponentCharacters character first <;> rfl

/-- The exponent of a numeral is read as its value, and one that is left out as zero. -/
theorem exponent?_exponentCharacters :
    exponent? .decimal numeral.exponentCharacters =
      some ((numeral.exponent.map (·.value)).getD 0) := by
  rw [exponentCharacters]
  cases numeral.exponent with
  | none => rfl
  | some exponent => exact exponent?_characters exponent

/-- The whole digits and the fraction of a numeral are read together. -/
theorem magnitude?_body (negative : Bool) :
    magnitude? .decimal negative numeral.body =
      some (.ofDecimal negative numeral.significand numeral.scale) := by
  have nonempty (count : Nat) : numeral.whole.digits.length + count ≠ 0 := by
    have length := numeral.whole.length_pos
    omega
  have exponent := numeral.exponent?_exponentCharacters
  have stops := numeral.not_isDigit_of_exponent
  rw [magnitude?, body, significand, scale, digitsValue_append]
  cases written : numeral.fraction with
  | none =>
      have fraction : numeral.fractionDigits = [] := by rw [fractionDigits, written]; rfl
      have tail : numeral.fractionCharacters ++ numeral.exponentCharacters =
          numeral.exponentCharacters := by rw [fractionCharacters, written]; rfl
      have whole := takeDigits_append numeral.whole.areDigits stops
      rw [tail, whole]
      simp only [fraction]
      split
      case h_1 point =>
        have first := numeral.head?_exponentCharacters '.' (by rw [point]; rfl)
        exact absurd first (by decide)
      case h_2 =>
        simp only [if_neg (nonempty 0), exponent, Option.map_some]
        rfl
  | some run =>
      have fraction : numeral.fractionDigits = run.digits := by rw [fractionDigits, written]; rfl
      have tail : numeral.fractionCharacters ++ numeral.exponentCharacters =
          '.' :: (run.digits ++ numeral.exponentCharacters) := by
        rw [fractionCharacters, written]; rfl
      have point : ∀ character ∈ ('.' :: (run.digits ++ numeral.exponentCharacters)).head?,
          character.isDigit = false := by
        rintro _ ⟨⟩
        rfl
      rw [tail, takeDigits_append numeral.whole.areDigits point]
      simp only [takeDigits_append run.areDigits stops, if_neg (nonempty _), exponent,
        Option.map_some, fraction]
      rfl

/-- Behind its sign, a numeral has digits, a point, and an exponent with mark and sign. -/
theorem isDigit_of_mem_body {character : Char} (member : character ∈ numeral.body)
    (other : character ∉ ['.', 'e', 'E', '+', '-']) : character.isDigit = true := by
  simp only [List.mem_cons, List.not_mem_nil, or_false, not_or] at other
  simp only [body, List.mem_append, fractionCharacters, exponentCharacters] at member
  obtain whole | fraction | exponent := member
  · exact numeral.whole.areDigits character whole
  · cases written : numeral.fraction with
    | none => simp [written] at fraction
    | some run =>
        have later : character ∈ run.digits := by simpa [written, other] using fraction
        exact run.areDigits character later
  · cases written : numeral.exponent with
    | none => simp [written] at exponent
    | some power =>
        obtain ⟨capital, sign, run⟩ := power
        have later : character ∈ run.digits := by
          cases capital <;> cases sign <;>
            simpa [written, Exponent.characters, ExponentSign.characters, other] using exponent
        exact run.areDigits character later

end Numeral

/-- Where there is no underscore, none is out of place. -/
theorem dividesDigits_of_not_mem {radix : Radix} {preceding : Preceding} {characters : List Char}
    (absent : '_' ∉ characters) (precedes : preceding ≠ .underscore) :
    dividesDigits radix preceding characters = true := by
  induction characters generalizing preceding with
  | nil => simpa [dividesDigits] using precedes
  | cons character rest inductionHypothesis =>
      obtain ⟨different, absent⟩ := not_or.mp (mt List.mem_cons.mpr absent)
      rw [dividesDigits]
      split
      · exact inductionHypothesis absent (by decide)
      · rw [if_neg (Ne.symm different), inductionHypothesis absent (by decide)]
        simpa using precedes

namespace Numeral

variable (numeral : Numeral)

/-- A numeral is read as the double nearest to its digits and its power of ten. -/
theorem unsigned?_body (negative : Bool) :
    unsigned? negative numeral.body =
      some (.ofDecimal negative numeral.significand numeral.scale) := by
  have foreign {character : Char} (strange : character.isDigit = false)
      (other : character ∉ ['.', 'e', 'E', '+', '-']) : character ∉ numeral.body := by
    intro member
    rw [numeral.isDigit_of_mem_body member other] at strange
    cases strange
  have radix : splitRadix numeral.body = (.decimal, numeral.body) := by
    rw [splitRadix.eq_def]
    split
    case h_1 marked | h_2 marked =>
      rw [marked] at foreign
      exact absurd (List.mem_cons_of_mem _ List.mem_cons_self)
        (foreign (by decide) (by decide))
    case h_3 => rfl
  have divided : dividesDigits .decimal .other numeral.body = true :=
    dividesDigits_of_not_mem (foreign (by decide) (by decide)) (by decide)
  have kept : numeral.body.filter (· != '_') = numeral.body := by
    rw [List.filter_eq_self]
    intro character member
    have different : character ≠ '_' := by
      rintro rfl
      exact foreign (by decide) (by decide) member
    simpa using different
  have other : ¬ Radix.decimal = .hexadecimal := by decide
  simp only [unsigned?, radix, kept, if_neg other, if_pos divided]
  exact magnitude?_body numeral negative

/-- A numeral names neither an infinity nor what is no number. -/
theorem double?_text :
    double? numeral.text =
      some (.ofDecimal numeral.negative numeral.significand numeral.scale) := by
  -- No name that is known begins with a digit.
  have unnamed {letter : Char} {letters : List Char} (notDigit : letter.isDigit = false) :
      String.ofList (numeral.body.map Char.toLower) ≠ String.ofList (letter :: letters) := by
    intro same
    obtain ⟨first, others, whole⟩ := List.exists_cons_of_ne_nil numeral.whole.nonempty
    have isDigit := numeral.whole.areDigits first (whole ▸ List.mem_cons_self)
    have characters := String.ofList_injective same
    rw [body, whole, List.cons_append, List.map_cons, toLower_of_isDigit isDigit] at characters
    rw [(List.cons.inj characters).1, notDigit] at isDigit
    cases isDigit
  have infinite : ¬ (String.ofList (numeral.body.map Char.toLower) = "inf" ∨
      String.ofList (numeral.body.map Char.toLower) = "infinity") :=
    not_or.mpr ⟨@unnamed 'i' ['n', 'f'] rfl,
      @unnamed 'i' ['n', 'f', 'i', 'n', 'i', 't', 'y'] rfl⟩
  have notANumber : String.ofList (numeral.body.map Char.toLower) ≠ "nan" :=
    @unnamed 'n' ['a', 'n'] rfl
  simp only [double?, text, String.toList_ofList, splitSign_characters, if_neg infinite]
  rw [if_neg fun named => notANumber named.1, unsigned?_body]

/-- A numeral that denotes an integer of 53 bits is read as a double of that value, in whatever way
the integer is spelled. -/
theorem exists_double?_text {integer : Int} (exact : numeral.value = integer)
    (small : integer.natAbs < 2 ^ 53) :
    ∃ number, double? numeral.text = some number ∧ number.toInt? = some integer := by
  refine ⟨_, numeral.double?_text, ?_⟩
  rw [Binary64.toInt?_ofDecimal _ (significand_eq_natAbs exact) small, signed_natAbs exact]

end Numeral

end TapeDebugger.Decimal
