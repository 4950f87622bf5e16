import TapeDebugger.Text.BreakClass
import TapeDebugger.Text.Case

/-!
# Words

`segments` cuts a text at the word boundaries of Unicode annex 29, and `words`
keeps the segments that hold a letter, a digit, a connector or an ideograph. A
text is put in lower case before it is cut, so a capital letter counts as its
small form does.
-/

namespace TapeDebugger.Text

namespace BreakClass

/-- Classes that never end a segment and are otherwise ignored. -/
def isIgnored : BreakClass → Bool
  | .extend | .format => true
  | _ => false

/-- Line breaks. -/
def isBreak : BreakClass → Bool
  | .carriageReturn | .lineFeed | .newline => true
  | _ => false

/-- Letters of any alphabet. -/
def isLetter : BreakClass → Bool
  | .letter | .hebrewLetter => true
  | _ => false

/-- Marks that join two letters. -/
def joinsTwoLetters : BreakClass → Bool
  | .midLetter | .midNumLet | .singleQuote => true
  | _ => false

/-- Marks that join two digits. -/
def joinsTwoDigits : BreakClass → Bool
  | .midNum | .midNumLet | .singleQuote => true
  | _ => false

/-- Classes that a connector such as the underscore attaches to. -/
def takesConnector : BreakClass → Bool
  | .letter | .hebrewLetter | .numeric | .katakana => true
  | _ => false

end BreakClass

/-- What is known to the left of a possible boundary. -/
structure LeftContext where
  /-- The last character, whatever its class. -/
  last : BreakClass
  /-- The class of the last character that is not ignored. -/
  previous : BreakClass
  /-- The class before that. -/
  beforePrevious : BreakClass
deriving Repr, DecidableEq

/-- Extend the context by a character. -/
def LeftContext.push (context : LeftContext) (next : BreakClass) : LeftContext :=
  if next.isIgnored && !context.last.isBreak then { context with last := next }
  else {
    last := next
    previous := next
    beforePrevious := context.previous }

/-- The context of a first character. -/
def LeftContext.first (next : BreakClass) : LeftContext where
  last := next
  previous := next
  beforePrevious := .other

/-- The class of the first character that is not ignored. -/
def classAhead : List Char → BreakClass
  | [] => .other
  | character :: rest =>
    let found := breakClass character
    if found.isIgnored then classAhead rest else found

/-- Whether the text goes on without a boundary at `character`, which is
followed by `rest`. -/
def continues (context : LeftContext) (character : Char) (rest : List Char) : Bool :=
  let next := breakClass character
  let previous := context.previous
  if context.last == .carriageReturn && next == .lineFeed then true
  else if context.last.isBreak || next.isBreak then false
  else if next.isIgnored then true
  else if previous.isLetter && next.isLetter then true
  else if previous.isLetter && next.joinsTwoLetters && (classAhead rest).isLetter then true
  else if context.beforePrevious.isLetter && previous.joinsTwoLetters && next.isLetter then true
  else if previous == .hebrewLetter && next == .singleQuote then true
  else if previous == .hebrewLetter && next == .doubleQuote
      && classAhead rest == .hebrewLetter then true
  else if context.beforePrevious == .hebrewLetter && previous == .doubleQuote
      && next == .hebrewLetter then true
  else if (previous == .numeric || previous.isLetter) && next == .numeric then true
  else if previous == .numeric && next.isLetter then true
  else if context.beforePrevious == .numeric && previous.joinsTwoDigits && next == .numeric then
    true
  else if previous == .numeric && next.joinsTwoDigits && classAhead rest == .numeric then true
  else if previous == .katakana && next == .katakana then true
  else if (previous.takesConnector || previous == .extendNumLet) && next == .extendNumLet then
    true
  else if previous == .extendNumLet && next.takesConnector then true
  else previous == .regionalIndicator && next == .regionalIndicator

/-- Cut the rest of a text, where `segment` is the current segment, last
character first. -/
def segmentsFrom (context : LeftContext) (segment : List Char) : List Char → List (List Char)
  | [] => [segment.reverse]
  | character :: rest =>
    let pushed := context.push (breakClass character)
    if continues context character rest then segmentsFrom pushed (character :: segment) rest
    else segment.reverse :: segmentsFrom pushed [character] rest

/-- Cut a text at its word boundaries. -/
def segments (text : List Char) : List (List Char) :=
  match text with
  | [] => []
  | character :: rest => segmentsFrom (.first (breakClass character)) [character] rest

/-- Whether a segment is a word and not punctuation or blanks. -/
def isWord (segment : List Char) : Bool :=
  segment.any fun character =>
    (breakClass character).takesConnector || breakClass character == .extendNumLet
      || isIdeographic character

/-- The words of a text in lower case. -/
def words (text : String) : List String :=
  ((segments (text.toList.map lowerChar)).filter isWord).map String.ofList

end TapeDebugger.Text
