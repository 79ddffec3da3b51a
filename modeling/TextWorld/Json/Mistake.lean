import TextWorld.Text.Bytes
import TextWorld.Text.Decimal

/-!
# What is wrong with a JSON text

A mistake is a reason and a place.  The place is given by the number of bytes
that were left unread, which a reader knows without counting from the start;
`Mistake.text` turns it into a line and a column.
-/

namespace TextWorld.Json

open TextWorld.Text

/-- Why a text is refused. -/
inductive Reason where
  /-- The text ends where a value is due. -/
  | endInValue
  /-- The text ends inside a string. -/
  | endInString
  | controlCharacter
  | invalidEscape
  /-- A leading surrogate without another escape after it. -/
  | endOfSurrogates
  /-- A surrogate without its partner. -/
  | loneSurrogate
  | trailingCharacters
  | expectedValue
  /-- A word that is not `null`, `true` or `false`. -/
  | expectedWord
  | invalidNumber
  | numberOutOfRange
  /-- A value, described by the text, where a string is due. -/
  | notAString (found : String)
deriving DecidableEq

/-- The wording of a reason. -/
def Reason.text : Reason → String
  | .endInValue => "EOF while parsing a value"
  | .endInString => "EOF while parsing a string"
  | .controlCharacter =>
      "control character (\\u0000-\\u001F) found while parsing a string"
  | .invalidEscape => "invalid escape"
  | .endOfSurrogates => "unexpected end of hex escape"
  | .loneSurrogate => "lone leading surrogate in hex escape"
  | .trailingCharacters => "trailing characters"
  | .expectedValue => "expected value"
  | .expectedWord => "expected ident"
  | .invalidNumber => "invalid number"
  | .numberOutOfRange => "number out of range"
  | .notAString found => "invalid type: " ++ found ++ ", expected a string"

/-- A reason, and how many bytes of the text lie after the place it is about. -/
structure Mistake where
  reason : Reason
  bytesLeft : Nat
deriving DecidableEq

/-- The mistake just before the given rest of the text. -/
def Mistake.before (reason : Reason) (rest : List Char) : Mistake :=
  ⟨reason, byteLength rest⟩

/-- The mistake at the first byte of the given rest of the text, or at the end
if there is none. -/
def Mistake.on (reason : Reason) (rest : List Char) : Mistake :=
  ⟨reason, byteLength rest - 1⟩

/-- Line and column after so many bytes, counted on from the given
line and column. -/
def positionFrom (line column : Nat) : (bytes : Nat) → List Char → Nat × Nat
  | bytes, [] => (line, column + bytes)
  | bytes, character :: rest =>
      if bytes < character.utf8Size then
        (line, column + bytes)
      else if character = '\n' then
        positionFrom (line + 1) 0 (bytes - 1) rest
      else
        positionFrom line (column + character.utf8Size)
          (bytes - character.utf8Size) rest

/-- The reason and the place of a mistake in the given text;
lines start at one. -/
def Mistake.text (mistake : Mistake) (characters : List Char) : String :=
  let (line, column) :=
    positionFrom 1 0 (byteLength characters - mistake.bytesLeft) characters
  mistake.reason.text ++ " at line " ++ decimal line ++
    " column " ++ decimal column

/-- Blanks that may stand between the parts of a JSON text. -/
def isJsonBlank (character : Char) : Bool :=
  character == ' ' || character == '\t' || character ==
    '\n' || character == '\r'

/-- The characters after the leading JSON blanks. -/
def skipBlanks (characters : List Char) : List Char :=
  characters.dropWhile isJsonBlank

end TextWorld.Json
