import TextWorld.Entity.Id

/-!
# Log records

What is written to the log: a level, a message, named details, and the spans in
which the record was written, outermost first.
-/

namespace TextWorld

/-- How important a record is. -/
inductive LogLevel where
  | debug
  | info
  | warn
deriving DecidableEq, Inhabited

/-- The written name of a level. -/
def LogLevel.name : LogLevel → String
  | .debug => "DEBUG"
  | .info => "INFO"
  | .warn => "WARN"

/-- A named stretch of work to which records belong. -/
structure LogSpan where
  name : String
  fields : List (String × String)
deriving DecidableEq, Inhabited

/-- The span of a connection. -/
def LogSpan.transport (name : String) : LogSpan :=
  ⟨"transport", [("name", name)]⟩

/-- The span of a session. -/
def LogSpan.session (user : String) (player : EntityId) : LogSpan :=
  ⟨"session", [("user", user), ("player", player.text)]⟩

/-- One record of the log. -/
structure LogRecord where
  level : LogLevel
  message : String
  fields : List (String × String) := []
  /-- The spans around the record, outermost first. -/
  spans : List LogSpan := []
deriving DecidableEq, Inhabited

end TextWorld
