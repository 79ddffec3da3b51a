import TextWorld.Failure.Basic
import TextWorld.Json.StringReader
import TextWorld.Json.Numeral
import TextWorld.Text.Blank

/-!
# String literals of generated code

A text is embedded in generated code as a literal between double quotes.
`escape` writes it, `decode` reads it back, and `literalLength` finds where a
literal ends without reading it.  A literal is a JSON string; `escape` leaves no
control character in it, so it never spans lines.
-/

namespace TextWorld.Literal

open TextWorld.Text
open TextWorld.Json

/-- Exactly four upper-case hexadecimal digits. -/
def upperHexDigits (number : Nat) : List Char :=
  (fourHexDigits number).map Char.toUpper

/-- How one character is written between the quotes. -/
def escapeCharacter (character : Char) : List Char :=
  match character with
  | '"' => ['\\', '"']
  | '\\' => ['\\', '\\']
  | '\n' => ['\\', 'n']
  | '\r' => ['\\', 'r']
  | '\t' => ['\\', 't']
  | other =>
      if isControl other then
        ['\\', 'u'] ++ upperHexDigits other.toNat
      else
        [other]

/-- The characters of the literal for a text. -/
def escapeCharacters (characters : List Char) : List Char :=
  '"' :: characters.flatMap escapeCharacter ++ ['"']

/-- The literal for a text. -/
def escape (text : String) : String :=
  String.ofList (escapeCharacters text.toList)

/-- The mistake of a text in which a word such as `null` should start after
its first letter. -/
def readWord (description : String) :
    (expected : List Char) → List Char → Mistake
  | [], rest => .before (.notAString description) rest
  | _ :: _, [] => ⟨.endInValue, 0⟩
  | expected :: others, character :: rest =>
      if character = expected then
        readWord description others rest
      else
        .on .expectedWord (character :: rest)

/-- The mistake of a text that starts, after blanks, with
anything but a string. -/
def noString : List Char → Mistake
  | [] => ⟨.endInValue, 0⟩
  | 'n' :: rest => readWord "null" ['u', 'l', 'l'] rest
  | 't' :: rest => readWord "boolean \x60true\x60" ['r', 'u', 'e'] rest
  | 'f' :: rest => readWord "boolean \x60false\x60" ['a', 'l', 's', 'e'] rest
  | '[' :: rest => .before (.notAString "sequence") ('[' :: rest)
  | '\x7b' :: rest => .before (.notAString "map") ('\x7b' :: rest)
  | first :: rest =>
      if first == '-' || first.isDigit then
        match readNumeral (first :: rest) with
        | .ok (value, after) => .before (.notAString value.description) after
        | .error mistake => mistake
      else
        .on .expectedValue (first :: rest)

/-- Reads a JSON string that may have blanks around it, and nothing else. -/
def decodeCharacters (characters : List Char) : Except Mistake (List Char) :=
  match skipBlanks characters with
  | '"' :: rest =>
      match readString rest with
      | .error mistake => .error mistake
      | .ok (content, after) =>
          match skipBlanks after with
          | [] => .ok content
          | extra => .error (.on .trailingCharacters extra)
  | rest => .error (noString rest)

/-- The text of a literal; a failure names the literal and what
is wrong with it. -/
def decode (literal : String) : Except Failure String :=
  match decodeCharacters literal.toList with
  | .ok content => .ok (String.ofList content)
  | .error mistake =>
      .error (.literal (literal ++ ": " ++ mistake.text literal.toList))

/-- The part of a literal after its opening quote, up to and including
the closing quote. -/
def literalEnd : (escaped : Bool) → List Char → Option (List Char)
  | _, [] => none
  | true, character :: rest => (literalEnd false rest).map (character :: ·)
  | false, '\\' :: rest => (literalEnd true rest).map ('\\' :: ·)
  | false, '"' :: _ => some ['"']
  | false, character :: rest => (literalEnd false rest).map (character :: ·)

/-- The literal at the start of the characters, if there is one. -/
def leadingLiteral : List Char → Option (List Char)
  | '"' :: rest => (literalEnd false rest).map ('"' :: ·)
  | _ => none

/-- The length in bytes of the literal at the start of a text,
if there is one. -/
def literalLength (text : String) : Option Nat :=
  (leadingLiteral text.toList).map byteLength

end TextWorld.Literal
