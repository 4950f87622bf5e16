import TapeDebugger.Text.Case

/-!
# Title-case forms

The title-case form of a character is a text: it is the upper-case form, except
for the characters listed here, of which some become several characters (`ß`
becomes `Ss`) and some stay as they are. Forms are those of Unicode 15.0, so a
letter that has had an upper-case form only since then stays too.
-/

namespace TapeDebugger.Text

/-- Characters with an upper-case form that are their own title-case form. -/
def ownTitleForms : List (Nat × Nat) :=
  [
    (0x019B, 0x019B), (0x01C5, 0x01C5), (0x01C8, 0x01C8), (0x01CB, 0x01CB), (0x01F2, 0x01F2),
    (0x0264, 0x0264), (0x10D0, 0x10FA), (0x10FD, 0x10FF), (0xA7D3, 0xA7D3), (0xA7D5, 0xA7D5)]

/-- Characters whose title-case form is neither themselves nor their upper-case
form. -/
def specialTitleForms : List (Nat × String) :=
  [
    (0x00DF, "\u0053\u0073"), (0x0149, "\u02bc\u004e"), (0x01C4, "\u01c5"), (0x01C6, "\u01c5"),
    (0x01C7, "\u01c8"), (0x01C9, "\u01c8"), (0x01CA, "\u01cb"), (0x01CC, "\u01cb"),
    (0x01F0, "\u004a\u030c"), (0x01F1, "\u01f2"), (0x01F3, "\u01f2"),
    (0x0390, "\u0399\u0308\u0301"), (0x03B0, "\u03a5\u0308\u0301"), (0x0587, "\u0535\u0582"),
    (0x1E96, "\u0048\u0331"), (0x1E97, "\u0054\u0308"), (0x1E98, "\u0057\u030a"),
    (0x1E99, "\u0059\u030a"), (0x1E9A, "\u0041\u02be"), (0x1F50, "\u03a5\u0313"),
    (0x1F52, "\u03a5\u0313\u0300"), (0x1F54, "\u03a5\u0313\u0301"),
    (0x1F56, "\u03a5\u0313\u0342"), (0x1FB2, "\u1fba\u0345"), (0x1FB4, "\u0386\u0345"),
    (0x1FB6, "\u0391\u0342"), (0x1FB7, "\u0391\u0342\u0345"), (0x1FC2, "\u1fca\u0345"),
    (0x1FC4, "\u0389\u0345"), (0x1FC6, "\u0397\u0342"), (0x1FC7, "\u0397\u0342\u0345"),
    (0x1FD2, "\u0399\u0308\u0300"), (0x1FD3, "\u0399\u0308\u0301"), (0x1FD6, "\u0399\u0342"),
    (0x1FD7, "\u0399\u0308\u0342"), (0x1FE2, "\u03a5\u0308\u0300"),
    (0x1FE3, "\u03a5\u0308\u0301"), (0x1FE4, "\u03a1\u0313"), (0x1FE6, "\u03a5\u0342"),
    (0x1FE7, "\u03a5\u0308\u0342"), (0x1FF2, "\u1ffa\u0345"), (0x1FF4, "\u038f\u0345"),
    (0x1FF6, "\u03a9\u0342"), (0x1FF7, "\u03a9\u0342\u0345"), (0xFB00, "\u0046\u0066"),
    (0xFB01, "\u0046\u0069"), (0xFB02, "\u0046\u006c"), (0xFB03, "\u0046\u0066\u0069"),
    (0xFB04, "\u0046\u0066\u006c"), (0xFB05, "\u0053\u0074"), (0xFB06, "\u0053\u0074"),
    (0xFB13, "\u0544\u0576"), (0xFB14, "\u0544\u0565"), (0xFB15, "\u0544\u056b"),
    (0xFB16, "\u054e\u0576"), (0xFB17, "\u0544\u056d")]

/-- The title-case form of a character. -/
def titleForm (character : Char) : String :=
  let code := character.toNat
  match specialTitleForms.find? fun entry => entry.1 == code with
  | some (_, form) => form
  | none =>
    if ownTitleForms.any fun (first, last) => decide (first ≤ code ∧ code ≤ last) then
      character.toString
    else (upperChar character).toString

end TapeDebugger.Text
