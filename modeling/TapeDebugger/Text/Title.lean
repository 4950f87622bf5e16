import TapeDebugger.Text.Cased
import TapeDebugger.Text.TitleForm
import TapeDebugger.Text.WordPart

/-!
# Title case

The first cased character of every word takes its title-case form and the other
cased characters their lower-case form. Letters, digits and marks hold a word
together; a single punctuation mark that joins letters does too, but two in a row
end the word, as does every other character.
-/

namespace TapeDebugger.Text

/-- Title-case a text, where `inWord` says whether the current word has had its
cased character and `afterJoin` whether a joining mark comes right before. -/
def titleFrom : List Char → (inWord afterJoin : Bool) → List Char
  | [], _, _ => []
  | character :: rest, inWord, afterJoin =>
    let joins := joinsLetters character
    let inWord := inWord && !(afterJoin && joins)
    if isCased character then
      if inWord then lowerChar character :: titleFrom rest true joins
      else (titleForm character).toList ++ titleFrom rest true joins
    else character :: titleFrom rest (inWord && !endsWord character) joins

/-- A text in title case. -/
def title (text : String) : String :=
  String.ofList (titleFrom text.toList false false)

end TapeDebugger.Text
