import TextWorld.Text.Hexadecimal

/-!
# Writing JSON strings

A JSON string in its compact form: seven characters have two-character escapes,
the other controls below U+0020 are written with four hexadecimal digits, and
everything else stands for itself.
-/

namespace TextWorld.Json

open TextWorld.Text

/-- How one character is written inside a JSON string. -/
def quoteCharacter (character : Char) : List Char :=
  match character with
  | '"' => ['\\', '"']
  | '\\' => ['\\', '\\']
  | '\x08' => ['\\', 'b']
  | '\x0C' => ['\\', 'f']
  | '\n' => ['\\', 'n']
  | '\r' => ['\\', 'r']
  | '\t' => ['\\', 't']
  | other =>
      if other.toNat < 0x20 then
        ['\\', 'u'] ++ fourHexDigits other.toNat
      else
        [other]

/-- The JSON string that holds the text. -/
def quote (text : String) : String :=
  String.ofList ('"' :: text.toList.flatMap quoteCharacter ++ ['"'])

/-- A JSON object of already written values, in the given order. -/
def object (members : List (String × String)) : String :=
  "\x7b" ++ ",".intercalate (members.map fun (key, value) =>
      quote key ++ ":" ++ value) ++ "\x7d"

/-- A JSON array of already written values. -/
def array (items : List String) : String :=
  "[" ++ ",".intercalate items ++ "]"

end TextWorld.Json
