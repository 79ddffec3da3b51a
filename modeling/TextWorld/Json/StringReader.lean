import TextWorld.Json.Mistake
import TextWorld.Text.Hexadecimal

/-!
# Reading JSON strings

`readString` reads the part of a string after its opening quote and returns its
characters with the rest of the text.  An escaped character outside the first
plane is written as two surrogates, which have to stand next to each other.
`skipString` passes over a string without looking at how surrogates are paired.
-/

namespace TextWorld.Json

open TextWorld.Text

/-- The character that a one-letter escape stands for. -/
def shortEscape : Char → Option Char
  | '"' => some '"'
  | '\\' => some '\\'
  | '/' => some '/'
  | 'b' => some '\x08'
  | 'f' => some '\x0C'
  | 'n' => some '\n'
  | 'r' => some '\r'
  | 't' => some '\t'
  | _ => none

/-- Whether the code unit is the first half of a pair. -/
def isLeadingSurrogate (unit : Nat) : Bool :=
  0xD800 ≤ unit && unit ≤ 0xDBFF

/-- Whether the code unit is the second half of a pair. -/
def isTrailingSurrogate (unit : Nat) : Bool :=
  0xDC00 ≤ unit && unit ≤ 0xDFFF

/-- The character that a pair of surrogates stands for. -/
def pairedCharacter (leading trailing : Nat) : Char :=
  Char.ofNat (0x10000 + (leading - 0xD800) * 0x400 + (trailing - 0xDC00))

/-- The mistake in an escape whose four digits should start the given
rest of the text. -/
def badDigits (rest : List Char) : Mistake :=
  if byteLength rest < 4 then
    ⟨.endInString, 0⟩
  else
    ⟨.invalidEscape, byteLength rest - 4⟩

/-- The mistake after a leading surrogate that no escape of four
digits follows. -/
def unpaired : List Char → Mistake
  | [] => ⟨.endInString, 0⟩
  | ['\\'] => ⟨.endInString, 0⟩
  | '\\' :: 'u' :: rest => badDigits rest
  | '\\' :: rest => .on .endOfSurrogates rest
  | rest => .on .endOfSurrogates rest

/-- One more character in front of what was read. -/
def addCharacter
    (character : Char) :
    Except Mistake (List Char × List Char) →
    Except Mistake (List Char × List Char)
  | .ok (characters, rest) => .ok (character :: characters, rest)
  | .error mistake => .error mistake

/-- Reads a string after its opening quote: its characters, and the
text after its end. -/
def readString : List Char → Except Mistake (List Char × List Char)
  | [] => .error ⟨.endInString, 0⟩
  | '"' :: rest => .ok ([], rest)
  | '\\' :: 'u' :: first :: second :: third :: fourth :: rest =>
      match fourHexValue first second third fourth with
      | none => .error (badDigits (first :: second :: third :: fourth :: rest))
      | some unit =>
          if isTrailingSurrogate unit then
            .error (.before .loneSurrogate rest)
          else if isLeadingSurrogate unit then
            match rest with
            | '\\' :: 'u' :: fifth :: sixth :: seventh :: eighth :: last =>
                match fourHexValue fifth sixth seventh eighth with
                | none =>
                    .error
                      (badDigits (fifth :: sixth :: seventh :: eighth :: last))
                | some partner =>
                    if isTrailingSurrogate partner then
                      addCharacter (pairedCharacter unit partner)
                        (readString last)
                    else
                      .error (.before .loneSurrogate last)
            | other => .error (unpaired other)
          else
            addCharacter (Char.ofNat unit) (readString rest)
  | '\\' :: 'u' :: rest => .error (badDigits rest)
  | ['\\'] => .error ⟨.endInString, 0⟩
  | '\\' :: character :: rest =>
      match shortEscape character with
      | some meant => addCharacter meant (readString rest)
      | none => .error (.on .invalidEscape (character :: rest))
  | character :: rest =>
      if character.toNat < 0x20 then
        .error (.on .controlCharacter (character :: rest))
      else
        addCharacter character (readString rest)

/-- Passes over a string after its opening quote; escapes have
to be complete. -/
def skipString : List Char → Option (List Char)
  | [] => none
  | '"' :: rest => some rest
  | '\\' :: 'u' :: first :: second :: third :: fourth :: rest =>
      (fourHexValue first second third fourth).bind fun _ => skipString rest
  | '\\' :: character :: rest =>
      (shortEscape character).bind fun _ => skipString rest
  | character :: rest =>
      if character.toNat < 0x20 || character == '\\' then none
      else skipString rest

end TextWorld.Json
