import TapeDebugger.Proofs.Text.Utf8

/-!
# Texts in the order of their bytes

Texts are compared character by character in this library. As of two characters the one with the
smaller code point is written in smaller bytes (`utf8EncodeChar_append_lt`), this is the order of
the bytes that texts are written in (`precedes_iff`).
-/

namespace TapeDebugger

namespace Utf8

/-- A smaller character is written in smaller bytes, whatever follows either. -/
theorem utf8EncodeChar_append_lt {left right : Char} (less : left < right)
    (leftRest rightRest : List UInt8) :
    String.utf8EncodeChar left ++ leftRest < String.utf8EncodeChar right ++ rightRest := by
  have smaller : left.toNat < right.toNat := less
  -- The lead byte decides unless both characters take the same number of bytes.
  rcases utf8EncodeChar_cases left with ⟨_, bytes⟩ | ⟨_, _, _, _, _, _, bytes⟩ |
      ⟨_, _, _, _, _, _, _, _, bytes⟩ | ⟨_, _, _, _, _, _, _, _, _, _, bytes⟩ <;>
    rcases utf8EncodeChar_cases right with ⟨_, others⟩ | ⟨_, _, _, _, _, _, others⟩ |
      ⟨_, _, _, _, _, _, _, _, others⟩ | ⟨_, _, _, _, _, _, _, _, _, _, others⟩ <;>
    simp (disch := omega) only [bytes, others, List.cons_append, List.nil_append,
      List.cons_lt_cons_iff, UInt8.lt_iff_toNat_lt, ← UInt8.toNat_inj, toNat_ofNat_of_lt] <;>
    omega

/-- Smaller characters at the first difference are smaller bytes there, and a text that ends there
ends there in bytes. -/
theorem encode_lt_encode {left right : List Char} (less : left < right) :
    encode left < encode right := by
  induction left generalizing right with
  | nil =>
      cases right with
      | nil => exact absurd less (List.lt_irrefl [])
      | cons character right =>
          obtain ⟨first, following, bytes, _⟩ := sequence?_utf8EncodeChar character []
          rw [encode, encode, List.flatMap_cons, bytes]
          exact List.nil_lt_cons _ _
  | cons character left inductionHypothesis =>
      cases right with
      | nil => exact absurd less (List.not_lt_nil _)
      | cons other right =>
          rw [encode, encode, List.flatMap_cons, List.flatMap_cons]
          rcases List.cons_lt_cons_iff.mp less with first | ⟨rfl, later⟩
          · exact utf8EncodeChar_append_lt first _ _
          · exact List.append_left_lt (inductionHypothesis later)

end Utf8

namespace Text

/-- A text comes before another: its bytes are smaller at the first difference, or end there. -/
def Precedes (left right : String) : Prop :=
  Utf8.ofString left < Utf8.ofString right

variable {left right : String}

/-- No text comes before itself. -/
theorem not_precedes_self (text : String) : ¬ Precedes text text :=
  List.lt_irrefl _

/-- Of two texts at most one comes before the other. -/
theorem Precedes.asymm (less : Precedes left right) : ¬ Precedes right left :=
  List.lt_asymm less

/-- A text that is smaller by its characters comes first. -/
theorem precedes_of_lt (less : left < right) : Precedes left right :=
  Utf8.encode_lt_encode (String.lt_iff.mp less)

/-- The order of characters is the order of bytes. -/
theorem precedes_iff : Precedes left right ↔ left < right := by
  refine ⟨fun less => ?_, precedes_of_lt⟩
  have notGreater : ¬ right < left := fun greater => less.asymm (precedes_of_lt greater)
  refine Std.lt_of_le_of_ne (String.not_lt.mp notGreater) ?_
  rintro rfl
  exact not_precedes_self _ less

/-- Of two different texts one comes before the other. -/
theorem precedes_of_not_precedes (notLess : ¬ Precedes left right) (different : left ≠ right) :
    Precedes right left := by
  rw [precedes_iff] at notLess ⊢
  exact Std.lt_of_le_of_ne (String.not_lt.mp notLess) different.symm

end Text

end TapeDebugger
