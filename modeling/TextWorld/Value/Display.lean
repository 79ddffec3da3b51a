import TextWorld.Literal
import TextWorld.Number.Shortest
import TextWorld.Text.Alphanumeric
import TextWorld.Value.Basic

/-!
# Values on one line

How a value that an evaluation returned is shown: on a single line, with
strings as literals.  Containers deeper than a budget are shown by their kind
alone, and of a long container only the first entries, followed by how many
there are besides.
-/

namespace TextWorld.Value

open TextWorld.Number
open TextWorld.Text

/-- The limits of a display. -/
structure Limits where
  /-- How many levels of containers below the outermost are shown. -/
  depth : Nat := 1
  /-- How many entries of a container are shown. -/
  entries : Nat := 100
deriving DecidableEq

/-- A number with at least one digit after the point, if it is finite. -/
def displayedNumber (number : Binary64) : String :=
  let text := number.text
  if number.isFinite && !text.toList.contains '.' then text ++ ".0" else text

/-- Whether a key is shown without quotes: a name that does not start with
an ASCII digit. -/
def isBareKey (key : String) : Bool :=
  match key.toList with
  | [] => false
  | first :: rest =>
      !first.isDigit &&
        (first :: rest).all fun character =>
          isAlphanumeric character || character == '_' || character == '$'

/-- The key of a member as it is shown. -/
def displayedKey (key : String) : String :=
  if isBareKey key then key else Literal.escape key

/-- The note on how many entries are not shown, with the separator before it. -/
def moreEntries (limits : Limits) (count : Nat) : String :=
  if limits.entries < count then
    let more := count - limits.entries
    ", ... " ++ decimal more ++ " more " ++
      (if more = 1 then "item" else "items")
  else
    ""

/-- The entries that are shown, with separators, and the note on the others. -/
def displayedEntries (limits : Limits) (entries : List String) : String :=
  ", ".intercalate (entries.take limits.entries) ++
    moreEntries limits entries.length

/-- What is shown of a container that is too deep. -/
def placeholder? : Value → Option String
  | .list _ => some "[List]"
  | .object _ => some "[Object]"
  | _ => none

mutual

/-- The display of a value with the given budget of levels below it. -/
def displayed (limits : Limits) (budget : Nat) : Value → String
  | .absent => "nil"
  | .bool value => if value then "true" else "false"
  | .int value => signedDecimal value.toInt
  | .float value => displayedNumber value
  | .string value => Literal.escape value
  | .entity id => id.text
  | .list items =>
      "[" ++ displayedEntries limits (displayedItems limits budget items) ++ "]"
  | .object members =>
      if members.isEmpty then
        "\x7b\x7d"
      else
        "\x7b " ++ displayedEntries limits
          (displayedMembers limits budget members) ++ " \x7d"

/-- The displays of the items of a list; without budget a
container is only named. -/
def displayedItems (limits : Limits) (budget : Nat) : List Value → List String
  | [] => []
  | item :: rest =>
      let text :=
        match budget with
        | 0 => (placeholder? item).getD (displayed limits 0 item)
        | below + 1 => displayed limits below item
      text :: displayedItems limits budget rest

/-- The displays of the members of an object. -/
def displayedMembers (limits : Limits) (budget : Nat) :
    List (String × Value) → List String
  | [] => []
  | (key, value) :: rest =>
      let text :=
        match budget with
        | 0 => (placeholder? value).getD (displayed limits 0 value)
        | below + 1 => displayed limits below value
      (displayedKey key ++ ": " ++ text) :: displayedMembers limits budget rest

end

/-- The value on one line within the limits. -/
def display (limits : Limits) (value : Value) : String :=
  displayed limits limits.depth value

end TextWorld.Value
