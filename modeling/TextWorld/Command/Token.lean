import TextWorld.Text.Blank
import TextWorld.Text.Bytes

/-!
# Words of an input line

Blanks separate words.  Double quotes group characters, blanks included, and a
backslash makes the next character an ordinary one.  A quote that is never
closed runs to the end of the line, and a backslash at the end is dropped.  Each
word knows the bytes of the line that it comes from.
-/

namespace TextWorld

open TextWorld.Text

/-- A word of an input line, without its quotes and backslashes. -/
structure Token where
  text : String
  /-- The offset in bytes of its first character in the line. -/
  start : Nat
  /-- The offset in bytes just after its last character. -/
  stop : Nat
deriving DecidableEq, Inhabited

namespace Token

/-- A word that is being read: where it starts and what it holds so far. -/
structure Pending where
  start : Nat
  text : List Char

/-- The pending word, or a new one at the given offset. -/
def Pending.orAt (pending : Option Pending) (offset : Nat) : Pending :=
  pending.getD ⟨offset, []⟩

/-- The pending word with one more character. -/
def Pending.push (pending : Pending) (character : Char) : Pending :=
  ⟨pending.start, pending.text ++ [character]⟩

/-- The word that ends at the given offset, if one is pending. -/
def finish (pending : Option Pending) (offset : Nat) : List Token :=
  match pending with
  | some word => [⟨String.ofList word.text, word.start, offset⟩]
  | none => []

/-- The words of the rest of a line that starts at the given offset. -/
def scan (offset : Nat) (pending : Option Pending) (inQuotes : Bool) :
    List Char → List Token
  | [] => finish pending offset
  | ['\\'] => finish (some (.orAt pending offset)) (offset + 1)
  | '\\' :: next :: rest =>
      scan (offset + 1 + next.utf8Size)
        (some ((Pending.orAt pending offset).push next)) inQuotes rest
  | '"' :: rest =>
      scan (offset + 1) (some (.orAt pending offset)) (!inQuotes) rest
  | character :: rest =>
      let next := offset + character.utf8Size
      if isBlank character && !inQuotes then
        finish pending offset ++ scan next none inQuotes rest
      else
        scan next
          (some ((Pending.orAt pending offset).push character)) inQuotes rest

/-- The words of a line, in order. -/
def ofLine (line : List Char) : List Token :=
  scan 0 none false line

end Token

/-- The texts of the words of a line. -/
def wordsOfLine (line : List Char) : List String :=
  (Token.ofLine line).map (·.text)

end TextWorld
