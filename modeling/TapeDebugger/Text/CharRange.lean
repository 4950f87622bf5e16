/-!
# Sets of characters

A property of characters is given by a sorted table of code point ranges. Only
membership is asked for, so a table is searched by halving.
-/

namespace TapeDebugger.Text

/-- Sorted, disjoint ranges of code points, both ends included. -/
abbrev CharRanges := Array (Nat × Nat)

namespace CharRanges

/-- Search the ranges from `low` up to but not including `high`, halving at
most `fuel` times. -/
def searchBetween (ranges : CharRanges) (code : Nat) : (fuel low high : Nat) → Bool
  | 0, _, _ => false
  | fuel + 1, low, high =>
    if high ≤ low then false
    else
      let middle := (low + high) / 2
      match ranges[middle]? with
      | none => false
      | some (first, last) =>
        if code < first then searchBetween ranges code fuel low middle
        else if last < code then searchBetween ranges code fuel (middle + 1) high
        else true

/-- Whether a character lies in one of the ranges. -/
def contains (ranges : CharRanges) (character : Char) : Bool :=
  searchBetween ranges character.toNat (ranges.size + 1) 0 ranges.size

end CharRanges

end TapeDebugger.Text
