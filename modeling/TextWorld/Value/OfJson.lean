import TextWorld.Json.Tree
import TextWorld.Value.Basic
import TextWorld.Value.Members

/-!
# Values of JSON texts

A JSON text is the written form of a value, if it is not nested too deeply and
every string and number in it is sound.  Integers that fit 64 bits with a sign
stay integers, and of members with the same key the last one counts.
-/

namespace TextWorld.Value

open TextWorld.Number

/-- The value of a JSON number. -/
def ofNumeral : Json.Numeral → Value
  | .natural value =>
      if value < twoTo 63 then .int (Int64.ofNat value)
      else .float (Binary64.ofNat value)
  | .negative value => .int (Int64.ofInt value)
  | .real value => .float value

mutual

/-- The value of a JSON tree, if all its strings and numbers are sound. -/
def ofTree? : Json.Tree → Option Value
  | .null => some .absent
  | .bool value => some (.bool value)
  | .number value => some (ofNumeral value)
  | .hugeNumber => none
  | .string content => content.map .string
  | .array items => (ofTrees? items).map .list
  | .object members =>
      (ofMembers? members).map fun entries =>
        .object (Members.ofEntries entries)

/-- The values of the items of a JSON array. -/
def ofTrees? : List Json.Tree → Option (List Value)
  | [] => some []
  | item :: rest => do
      let value ← ofTree? item
      let values ← ofTrees? rest
      return value :: values

/-- The entries of a JSON object, in the order of the text. -/
def ofMembers? : List (Option String × Json.Tree) →
    Option (List (String × Value))
  | [] => some []
  | (none, _) :: _ => none
  | (some key, item) :: rest => do
      let value ← ofTree? item
      let entries ← ofMembers? rest
      return (key, value) :: entries

end

/-- How many brackets may surround a part of a JSON text. -/
def jsonDepthLimit : Nat := 127

/-- The value of a JSON text. -/
def ofJsonText? (text : String) : Option Value := do
  let tree ← Json.Tree.ofText? text
  if tree.depth ≤ jsonDepthLimit then ofTree? tree else none

end TextWorld.Value
