import TextWorld.Number.Power
import TextWorld.Text.Blank
import TextWorld.Text.Decimal

/-!
# Configuration of sessions

The settings of a session, and how environment variables override two of them.
-/

namespace TextWorld

open TextWorld.Text

/-- The settings of a session. -/
structure Config where
  /-- Whether output is styled. -/
  color : Bool := true
  /-- How many levels of nested containers an evaluation shows. -/
  evalDepth : Nat := 1
  /-- What a player is told on quitting. -/
  farewell : String := "Bye!"
  /-- What a player is told when no verb was found. -/
  notUnderstood : String := "I didn't understand that."
deriving DecidableEq, Inhabited

namespace Config

/-- The customary settings without styling. -/
def plain : Config := { color := false }

/-- The variable that turns styling off. -/
def colorVariable : String := "MOORING_COLOR"

/-- The variable that sets the depth of evaluations. -/
def evalDepthVariable : String := "MOORING_EVAL_DEPTH"

/-- Whether the value of the color variable turns styling off. -/
def isNegation (value : String) : Bool :=
  let word := (trim value.toList).map Char.toLower
  ["0", "false", "off", "no"].any (·.toList == word)

/-- The depth that the value of a variable sets, if it is a number
below `2 ^ 64`. -/
def depth? (value : String) : Option Nat :=
  readUnsignedBelow (twoTo 64) (trim value.toList)

/-- The customary settings, overridden by variables. -/
def ofVariables (lookup : String → Option String) : Config where
  color := !((lookup colorVariable).any isNegation)
  evalDepth := ((lookup evalDepthVariable).bind depth?).getD 1

end Config

end TextWorld
