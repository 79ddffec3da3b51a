import TextWorld.Command.Parser
import TextWorld.Failure.Report
import TextWorld.Invocation
import TextWorld.Session.Basic
import TextWorld.Session.Collaborators
import TextWorld.Session.Disclosure
import TextWorld.Session.Disposition
import TextWorld.Session.Style
import TextWorld.Snippet
import TextWorld.Value.Display

/-!
# Dispatch of input

A line of input is handled in one turn.  The player's entity is loaded; a
hook may replace the line; the line is parsed; and the command is evaluated,
or ends the session, or is resolved to a verb and run.  When nothing
matches, the player's location may take the command.  A step that fails ends
the turn: the failure is logged, and the player is told as much of it as the
player's privilege allows.
-/

namespace TextWorld

variable {σ : Type}

/-- The state of affairs during a turn, and what the turn has sent
and logged so far. -/
structure Turn (σ : Type) where
  session : Session
  registry : Registry
  world : σ
  events : List Event := []
  records : List LogRecord := []

/-- The name of the system hook that may replace a line. -/
def preprocessHook : String := "preprocessCommand"

/-- The name of the system hook that is told when a player quits. -/
def disconnectHook : String := "onPlayerDisconnected"

/-- The name of the hook of an entity that is told about the tab key. -/
def tabHook : String := "onTabKeyPress"

/-- The record of a hook that failed where nobody waits for it. -/
def hookFailure
    (spans : List LogSpan)
    (scope : HookScope)
    (name : String)
    (failure : Failure) :
    LogRecord where
  level := .warn
  message := "hook failed"
  fields := [("scope", scope.text), ("hook", name), ("err", failure.message)]
  spans := spans

/-- The outcome of a hook for which nobody waits, with the records that
it causes.  A hook that fails counts as one that did not run, and its
failure is noted. -/
def Collaborators.runHookBestEffort
    (collaborators : Collaborators σ)
    (spans : List LogSpan)
    (scope : HookScope)
    (name : String)
    (arguments : List Value)
    (world : σ) :
    HookOutcome × List LogRecord × σ :=
  match collaborators.runHook scope name arguments world with
  | (.ok outcome, world) => (outcome, [], world)
  | (.error failure, world) =>
      (⟨false, .absent⟩, [hookFailure spans scope name failure], world)

namespace Turn

/-- The turn with the world in the given state. -/
def inWorld (turn : Turn σ) (world : σ) : Turn σ :=
  { turn with world := world }

/-- The turn after sending an event. -/
def emit (turn : Turn σ) (event : Event) : Turn σ :=
  { turn with events := turn.events ++ [event] }

/-- The turn after writing a record. -/
def write (turn : Turn σ) (record : LogRecord) : Turn σ :=
  { turn with records := turn.records ++ [record] }

/-- The turn after logging a message inside the spans of the session. -/
def log
    (turn : Turn σ)
    (level : LogLevel)
    (message : String)
    (fields : List (String × String)) :
    Turn σ :=
  turn.write ⟨level, message, fields, turn.session.spans⟩

/-- The turn after a step failed: the player is told and the
failure is logged. -/
def contain
    (turn : Turn σ)
    (site : FailureSite)
    (failure : Failure)
    (player : EntityId)
    (privileged : Bool) :
    Turn σ :=
  let text :=
    Style.error turn.session.config.color (failure.disclosed privileged)
  (turn.emit (.output text)).log .warn site.message
    [("user", turn.session.user), ("player", player.text),
      ("err", failure.report.text)]

/-- The turn after a hook ran, or failed without consequence. -/
def runHookBestEffort
    (collaborators : Collaborators σ)
    (scope : HookScope)
    (name : String)
    (arguments : List Value)
    (turn : Turn σ) :
    Turn σ :=
  let (_, records, world) :=
    collaborators.runHookBestEffort turn.session.spans scope name
      arguments turn.world
  { turn with world := world, records := turn.records ++ records }

/--
The text to parse in place of a line.  The hook is given the line as a literal;
what it returns counts when it ran and returned a string.
-/
def preprocess
    (collaborators : Collaborators σ)
    (player : Entity)
    (line : String)
    (turn : Turn σ) :
    Except Failure String × Turn σ :=
  match collaborators.runHook .system preprocessHook
      [.entity player.id, .string (Literal.escape line)] turn.world with
  | (.error failure, world) => (.error failure, turn.inWorld world)
  | (.ok outcome, world) =>
      match outcome.ranValue? with
      | none => (.ok line, turn.inWorld world)
      | some (.string text) => (.ok text, turn.inWorld world)
      | some other =>
          (.ok line,
            (turn.inWorld world).log .debug
              "preprocess hook returned a non-string; parsing raw input"
              [("returned", other.typeName)])

/-- The turn after code of a programmer was evaluated. -/
def eval
    (collaborators : Collaborators σ)
    (player : Entity)
    (source : String)
    (turn : Turn σ) :
    Turn σ :=
  let code := Snippet.unit source player.id
  let turn := turn.log .debug "eval" [("code", code)]
  match collaborators.run code (Snippet.label player.id) turn.world with
  | (.ok value, world) =>
      (turn.inWorld world).emit
        (.output (value.display { depth := turn.session.config.evalDepth }))
  | (.error failure, world) =>
      (turn.inWorld world).contain .eval failure player.id true

/-- The turn after the player quit. -/
def quit (collaborators : Collaborators σ) (player : Entity)
    (turn : Turn σ) : Turn σ :=
  let turn := turn.runHookBestEffort collaborators .system disconnectHook
    [.entity player.id]
  let turn := turn.emit (.setPrompt turn.session.user)
  let turn := turn.emit (.output turn.session.config.farewell)
  let turn :=
    { turn with
      registry := turn.registry.remove player.id
      session := turn.session.retired }
  turn.log .info "player quit" []

/-- The objects and the verb of a command; when nothing matches, the player's
location may take the command. -/
def matchCommand
    (collaborators : Collaborators σ)
    (player : Entity)
    (command : Command)
    (world : σ) :
    Reply σ (Option (BoundObjects × VerbBinding)) :=
  match collaborators.matchObjects player command world with
  | (.error failure, world) => (.error failure, world)
  | (.ok objects, world) =>
      match collaborators.matchVerb player command objects world with
      | (.error failure, world) => (.error failure, world)
      | (.ok (some binding), world) => (.ok (some (objects, binding)), world)
      | (.ok none, world) =>
          match player.location with
          | none => (.ok none, world)
          | some location =>
              match collaborators.load location world with
              | (.error failure, world) => (.error failure, world)
              | (.ok place, world) =>
                  if place.verbMissing then
                    (.ok (some (objects, .missing place.id)), world)
                  else
                    (.ok none, world)

/-- The turn after a verb ran; its value is of no consequence. -/
def runVerb
    (collaborators : Collaborators σ)
    (player : Entity)
    (call : VerbCall)
    (turn : Turn σ) :
    Turn σ :=
  let turn := turn.log .debug "run verb" [("code", call.code)]
  match collaborators.run call.code call.label turn.world with
  | (.ok _, world) => turn.inWorld world
  | (.error failure, world) =>
      (turn.inWorld world).contain .runVerb failure player.id player.programmer

/-- The turn after a command was resolved in the world. -/
def resolve
    (collaborators : Collaborators σ)
    (player : Entity)
    (command : Command)
    (turn : Turn σ) :
    Turn σ :=
  match matchCommand collaborators player command turn.world with
  | (.ok (some (objects, binding)), world) =>
      (turn.inWorld world).runVerb collaborators player
        (.ofBinding binding player.id objects command)
  | (.ok none, world) =>
      (turn.inWorld world).emit
        (.output (Style.muted turn.session.config.color
            turn.session.config.notUnderstood))
  | (.error failure, world) =>
      (turn.inWorld world).contain .matching failure player.id player.programmer

/-- The turn after a command of the player was dispatched. -/
def dispatch
    (collaborators : Collaborators σ)
    (player : Entity)
    (command : Command)
    (turn : Turn σ) :
    Turn σ :=
  match Disposition.of command player.programmer with
  | .eval => turn.eval collaborators player command.argument
  | .quit => turn.quit collaborators player
  | .resolve =>
      let turn :=
        if command.verb = evalVerb then
          turn.log .debug "eval declined for non-programmer" []
        else
          turn
      turn.resolve collaborators player command

/-- The turn after a line of the player, whose entity was loaded. -/
def onLine
    (collaborators : Collaborators σ)
    (player : Entity)
    (line : String)
    (turn : Turn σ) :
    Turn σ :=
  match turn.preprocess collaborators player line with
  | (.error failure, turn) =>
      turn.contain .preprocess failure player.id player.programmer
  | (.ok text, turn) =>
      turn.dispatch collaborators player
        (Command.parse turn.session.vocabulary text)

/-- The turn after a line of input. -/
def onInput (collaborators : Collaborators σ) (line : String)
    (turn : Turn σ) : Turn σ :=
  match turn.session.player with
  | none => turn.log .debug "input after quit ignored" []
  | some id =>
      match collaborators.load id turn.world with
      | (.error failure, world) =>
          (turn.inWorld world).contain .loadPlayer failure id false
      | (.ok player, world) =>
          (turn.inWorld world).onLine collaborators player line

/-- Input to a retired session is noted in the log and has no
other consequence. -/
theorem onInput_of_retired
    (collaborators : Collaborators σ)
    (line : String)
    {turn : Turn σ}
    (retired : turn.session.player = none) :
    turn.onInput collaborators line =
      turn.log .debug "input after quit ignored" [] := by
  simp only [onInput, retired]

end Turn

/-- The directions of the tab key. -/
inductive TabDirection where
  | forward
  | backward
deriving DecidableEq, Inhabited

/-- The name of a direction. -/
def TabDirection.name : TabDirection → String
  | .forward => "forward"
  | .backward => "backward"

/-- The turn after the tab key was pressed: the player's entity is told,
whatever comes of it. -/
def Turn.onTab
    (collaborators : Collaborators σ)
    (direction : TabDirection)
    (turn : Turn σ) :
    Turn σ :=
  match turn.session.player with
  | none => turn
  | some player =>
      turn.runHookBestEffort collaborators (.entity player) tabHook
        [.string direction.name]

/-- The tab key does nothing in a retired session. -/
theorem Turn.onTab_of_retired
    (collaborators : Collaborators σ)
    (direction : TabDirection)
    {turn : Turn σ}
    (retired : turn.session.player = none) :
    turn.onTab collaborators direction = turn := by
  simp only [onTab, retired]

end TextWorld
