import TapeDebugger.Text.Blank
import TapeDebugger.Text.Case

/-!
# Tags

Tags in normal form: lower case, runs of blanks as one hyphen, of the other
characters only ASCII letters, digits, hyphens, underscores and full stops, at most
64 characters to a tag and 20 tags, none empty and none twice.
-/

namespace TapeDebugger.Tag

/-- The longest tag. -/
def maxLength : Nat := 64

/-- The most tags. -/
def maxCount : Nat := 20

/-- Replace each run of blanks by a hyphen, where `inBlanks` says that the last
character was blank. -/
def joinWords : List Char → (inBlanks : Bool) → List Char
  | [], _ => []
  | character :: rest, inBlanks =>
    if Text.isBlank character then
      if inBlanks then joinWords rest true else '-' :: joinWords rest true
    else character :: joinWords rest false

/-- Whether a character may stand in a tag. -/
def isAllowed (character : Char) : Bool :=
  character.isLower || character.isDigit || character == '-' || character == '_'
    || character == '.'

/-- A tag in normal form; it may be empty. -/
def normalize (tag : String) : String :=
  let lowered := (Text.lower tag).toList
  String.ofList (((joinWords (Text.trimBlanks lowered) false).filter isAllowed).take maxLength)

/-- Keep the first of equal tags. -/
def dropRepeats (tags : List String) : List String :=
  tags.foldl (fun kept tag => if kept.contains tag then kept else kept ++ [tag]) []

/-- Tags in normal form. -/
def normalizeAll (tags : List String) : List String :=
  (dropRepeats ((tags.map normalize).filter fun tag => !tag.isEmpty)).take maxCount

end TapeDebugger.Tag
