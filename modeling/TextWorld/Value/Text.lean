import TextWorld.Number.Shortest
import TextWorld.Text.Quoted
import TextWorld.Value.Basic

/-!
# Plain texts of values

Two texts of a value without any limit on depth or length.  The display text
shows strings as they are; the debug text quotes them and the keys of objects.
-/

namespace TextWorld.Value

open TextWorld.Text

mutual

/-- The display text: strings and keys as they are. -/
def text : Value → String
  | .absent => "nil"
  | .bool value => if value then "true" else "false"
  | .int value => signedDecimal value.toInt
  | .float value => value.text
  | .string value => value
  | .entity id => id.text
  | .list items => "[" ++ ", ".intercalate (itemTexts items) ++ "]"
  | .object members =>
      "\x7b" ++ ", ".intercalate (memberTexts members) ++ "\x7d"

/-- The display texts of the items of a list. -/
def itemTexts : List Value → List String
  | [] => []
  | item :: rest => text item :: itemTexts rest

/-- The display texts of the members of an object. -/
def memberTexts : List (String × Value) → List String
  | [] => []
  | (key, value) :: rest => (key ++ ": " ++ text value) :: memberTexts rest

end

mutual

/-- The debug text: strings and keys quoted. -/
def debugText : Value → String
  | .absent => "nil"
  | .bool value => if value then "true" else "false"
  | .int value => signedDecimal value.toInt
  | .float value => value.text
  | .string value => quoted value
  | .entity id => id.text
  | .list items => "[" ++ ", ".intercalate (itemDebugTexts items) ++ "]"
  | .object members =>
      "\x7b" ++ ", ".intercalate (memberDebugTexts members) ++ "\x7d"

/-- The debug texts of the items of a list. -/
def itemDebugTexts : List Value → List String
  | [] => []
  | item :: rest => debugText item :: itemDebugTexts rest

/-- The debug texts of the members of an object. -/
def memberDebugTexts : List (String × Value) → List String
  | [] => []
  | (key, value) :: rest =>
      (quoted key ++ ": " ++ debugText value) :: memberDebugTexts rest

end

end TextWorld.Value
