import TextWorld.Command.Vocabulary
import TextWorld.Session.Config
import TextWorld.Session.Event
import TextWorld.Session.Log
import TextWorld.Session.Registry
import TextWorld.Text.Quoted

/-!
# Sessions

A session connects one user to the entity that the user embodies.  It is retired
by quitting, and a retired session embodies nothing.
-/

namespace TextWorld

open TextWorld.Text

/-- A user's connection to the entity the user embodies. -/
structure Session where
  user : String
  /-- The embodied entity; `none` once the session is retired. -/
  player : Option EntityId
  /-- The spans of the session's log records, outermost first. -/
  spans : List LogSpan
  vocabulary : Vocabulary
  config : Config
deriving Inhabited

namespace Session

/-- A new session, in a span of its own inside the given ones. -/
def start
    (user : String)
    (player : EntityId)
    (config : Config)
    (vocabulary : Vocabulary := .customary)
    (around : List LogSpan := []) :
    Session where
  user := user
  player := some player
  spans := around ++ [.session user player]
  vocabulary := vocabulary
  config := config

/-- Whether the user has quit. -/
def isRetired (session : Session) : Bool :=
  session.player.isNone

/-- The session that embodies nothing. -/
def retired (session : Session) : Session :=
  { session with player := none }

/-- The settings in listings of a program's state. -/
def configDebugText (config : Config) : String :=
  "SessionConfig \x7b color: " ++ (if config.color then "true" else "false") ++
    ", eval_depth: " ++ decimal config.evalDepth ++ ", farewell: " ++
      quoted config.farewell ++
    ", not_understood: " ++ quoted config.notUnderstood ++ " \x7d"

/-- The session in listings of a program's state. -/
def debugText (session : Session) : String :=
  let player :=
    match session.player with
    | some player => "Some(" ++ player.debugText ++ ")"
    | none => "None"
  "PlayerSession \x7b user: UserId(" ++ quoted session.user ++
    "), player: " ++ player ++
    ", config: " ++ configDebugText session.config ++ ", .. \x7d"

end Session

end TextWorld
