import TextWorld.Json.Numeral
import TextWorld.Json.StringReader

/-!
# JSON values

The tree of a JSON text.  A string whose surrogates are not paired is kept as a
string without content, be it a value or a key, because a text with such a
string is still well formed as long as nobody looks at it.  Members stay in the
order of the text, and a repeated key is repeated in the tree.
-/

namespace TextWorld.Json

/-- A JSON value. -/
inductive Tree where
  | null
  | bool (value : Bool)
  | number (value : Numeral)
  /-- A number too large for floating point. -/
  | hugeNumber
  | string (content : Option String)
  | array (items : List Tree)
  | object (members : List (Option String × Tree))
deriving Inhabited

namespace Tree

mutual

/-- How many brackets surround the innermost part of a tree. -/
def depth : Tree → Nat
  | .array items => itemsDepth items + 1
  | .object members => membersDepth members + 1
  | _ => 0

/-- The greatest depth among the items. -/
def itemsDepth : List Tree → Nat
  | [] => 0
  | item :: rest => max (depth item) (itemsDepth rest)

/-- The greatest depth among the members. -/
def membersDepth : List (Option String × Tree) → Nat
  | [] => 0
  | (_, value) :: rest => max (depth value) (membersDepth rest)

end

/-- The number that is read, or the note that it is too large. -/
def readNumber (characters : List Char) : Option (Tree × List Char) :=
  match readNumeral characters with
  | .ok (value, rest) => some (.number value, rest)
  | .error ⟨.numberOutOfRange, bytesLeft⟩ =>
      let rest := characters.drop (Text.byteLength characters - bytesLeft)
      some (.hugeNumber, rest.dropWhile Char.isDigit)
  | .error _ => none

/-- The string that is read, without content if its surrogates
are not paired. -/
def readContent (characters : List Char) : Option (Option String × List Char) :=
  match readString characters with
  | .ok (content, rest) => some (some (String.ofList content), rest)
  | .error _ => (skipString characters).map fun rest => (none, rest)

mutual

/-- Reads a value; `limit` bounds the number of parts that are read inside each
other or one after the other. -/
def read (limit : Nat) (characters : List Char) : Option (Tree × List Char) :=
  match limit with
  | 0 => none
  | limit + 1 =>
      match skipBlanks characters with
      | 'n' :: 'u' :: 'l' :: 'l' :: rest => some (.null, rest)
      | 't' :: 'r' :: 'u' :: 'e' :: rest => some (.bool true, rest)
      | 'f' :: 'a' :: 'l' :: 's' :: 'e' :: rest => some (.bool false, rest)
      | '"' :: rest =>
          (readContent rest).map fun (content, after) =>
            (.string content, after)
      | '[' :: rest =>
          match skipBlanks rest with
          | ']' :: after => some (.array [], after)
          | _ =>
              (readItems limit rest).map fun (items, after) =>
                (.array items, after)
      | '\x7b' :: rest =>
          match skipBlanks rest with
          | '\x7d' :: after => some (.object [], after)
          | _ =>
              (readMembers limit rest).map fun (members, after) =>
                (.object members, after)
      | others => readNumber others

/-- Reads one or more items and the closing bracket. -/
def readItems (limit : Nat) (characters : List Char) :
    Option (List Tree × List Char) :=
  match limit with
  | 0 => none
  | limit + 1 =>
      match read limit characters with
      | none => none
      | some (item, rest) =>
          match skipBlanks rest with
          | ']' :: after => some ([item], after)
          | ',' :: more =>
              (readItems limit more).map fun (items, after) =>
                (item :: items, after)
          | _ => none

/-- Reads one or more members and the closing brace. -/
def readMembers (limit : Nat) (characters : List Char) :
    Option (List (Option String × Tree) × List Char) :=
  match limit with
  | 0 => none
  | limit + 1 =>
      match skipBlanks characters with
      | '"' :: quotedKey =>
          match readContent quotedKey with
          | none => none
          | some (key, afterKey) =>
              match skipBlanks afterKey with
              | ':' :: beforeValue =>
                  match read limit beforeValue with
                  | none => none
                  | some (value, rest) =>
                      let member := (key, value)
                      match skipBlanks rest with
                      | '\x7d' :: after => some ([member], after)
                      | ',' :: more =>
                          (readMembers limit more).map fun (members, after) =>
                            (member :: members, after)
                      | _ => none
              | _ => none
      | _ => none

end

/-- The tree of a text that holds one value and nothing else but blanks. -/
def ofText? (text : String) : Option Tree :=
  match read (2 * text.toList.length + 2) text.toList with
  | some (tree, rest) => if (skipBlanks rest).isEmpty then some tree else none
  | none => none

/-- The members with their keys, if all keys have content. -/
def keyed? : List (Option String × Tree) → Option (List (String × Tree))
  | [] => some []
  | (none, _) :: _ => none
  | (some key, value) :: rest => (keyed? rest).map ((key, value) :: ·)

/-- The member of the given key, if there is one; `none` when the
key is repeated. -/
def uniqueMember (key : String) (members : List (String × Tree)) :
    Option (Option Tree) :=
  match members.filter (·.1 == key) with
  | [] => some none
  | [(_, value)] => some (some value)
  | _ => none

/-- The string, if the tree is one with content. -/
def string? : Tree → Option String
  | .string content => content
  | _ => none

/-- The truth value, if the tree is one. -/
def bool? : Tree → Option Bool
  | .bool value => some value
  | _ => none

/-- The integer, if the tree is one that is not below zero. -/
def natural? : Tree → Option Nat
  | .number (.natural value) => some value
  | _ => none

end Tree

end TextWorld.Json
