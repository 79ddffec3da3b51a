/-!
# Styled output

Failures and notices are set apart by terminal colors when a session
has them turned on.
-/

namespace TextWorld.Style

/-- The sequence that ends every style. -/
def reset : String := "\x1b[0m"

/-- The sequence for text on a red ground. -/
def redGround : String := "\x1b[41m"

/-- The sequence for gray text. -/
def gray : String := "\x1b[90m"

/-- The text in a style, or as it is without color. -/
def paint (color : Bool) (style text : String) : String :=
  if color then style ++ text ++ reset else text

/-- The text of a failure. -/
def error (color : Bool) (text : String) : String :=
  paint color redGround text

/-- The text of a notice. -/
def muted (color : Bool) (text : String) : String :=
  paint color gray text

end TextWorld.Style
