import TextWorld.Text.Hexadecimal
import TextWorld.Text.Visible

/-!
# Quoted texts

A quoted text shows on one line, in visible characters, what a text holds.  It
stands between double quotes; the double quote, the backslash and the commonest
controls have two-character escapes, and every other character without a form of
its own is given by its code point.
-/

namespace TextWorld.Text

/-- How one character is shown between the quotes. -/
def quotedCharacter (character : Char) : List Char :=
  match character with
  | '"' => ['\\', '"']
  | '\\' => ['\\', '\\']
  | '\n' => ['\\', 'n']
  | '\r' => ['\\', 'r']
  | '\t' => ['\\', 't']
  | '\x00' => ['\\', '0']
  | other =>
      if isVisible other then
        [other]
      else
        ['\\', 'u', '\x7b'] ++ hexDigits other.toNat ++ ['\x7d']

/-- The text between double quotes, with everything invisible escaped. -/
def quoted (text : String) : String :=
  String.ofList ('"' :: text.toList.flatMap quotedCharacter ++ ['"'])

end TextWorld.Text
