import TextWorld.Session.Dispatch
import TextWorld.World.Run

/-!
# The console

A console connects one player of a world in memory.  It gives the session one
line after the other and shows what the player was told and what the session
sends.  It ends when the session is retired or there are no more lines.
-/

namespace TextWorld

open TextWorld.Text

/-- A connection of one player to a world. -/
structure Console where
  session : Session
  registry : Registry
  world : World
  player : EntityId
  /-- How many levels of calls inside each other the world allows. -/
  levels : Nat

namespace Console

/-- The user of the console. -/
def user : String := "console"

/-- The version of the program. -/
def version : String := "0.1.0"

/-- A console for a player of a world. -/
def start
    (world : World)
    (player : EntityId)
    (config : Config)
    (levels : Nat) :
    Console where
  session := .start user player config .customary []
  registry := Registry.register {} player user
  world := world
  player := player
  levels := levels

/-- The record of a change of the prompt, which the console does not show. -/
def promptRecord? : Event → Option LogRecord
  | .output _ => none
  | .setPrompt user =>
      some
        { level := .debug, message := "returned to login prompt",
          fields := [("user", user)] }

/-- What came of one line. -/
structure Step where
  console : Console
  /-- The lines that are shown. -/
  lines : List String
  records : List LogRecord

/-- Gives the session a line; shows what the player was told, and then what
the session sent. -/
def step (console : Console) (line : String) : Step :=
  let turn :=
    Turn.onInput (World.collaborators console.levels) line
      { session := console.session, registry := console.registry,
        world := console.world }
  { console :=
      { console with
        session := turn.session
        registry := turn.registry
        world := turn.world.takeTold console.player }
    lines :=
      turn.world.toldTo console.player ++ turn.events.filterMap Event.output?
    records := turn.records ++ turn.events.filterMap promptRecord? }

/-! ## Completions -/

/-- The entities whose verbs and names are completed. -/
def completionOwners (world : World) (player : EntityId) : List EntityId :=
  let around :=
    match world.location player with
    | .ok (some room) => room :: world.contents room
    | _ => []
  player :: around ++ world.contents player

/-- The words that an entity contributes: its verbs, and the
words of its name. -/
def wordsOf (world : World) (player owner : EntityId) : List String :=
  let verbs :=
    match world.verbNames owner with
    | .ok names => names.filter (· ≠ VerbBinding.missingVerb)
    | .error _ => []
  let name :=
    match world.name owner with
    | .ok name =>
        if owner = player then [] else (blankSeparated name).map lowercase
    | .error _ => []
  verbs ++ name

/-- The word at its place in a list of words in increasing order,
unless it is there. -/
def insertWord (word : String) : List String → List String
  | [] => [word]
  | other :: rest =>
      if word < other then
        word :: other :: rest
      else if word = other then
        other :: rest
      else
        other :: insertWord word rest

/-- The words that are offered for completion, in increasing
order and each once. -/
def completions (world : World) (player : EntityId) : List String :=
  let words :=
    ["quit", "me", "here"] ++
      (completionOwners world player).flatMap (wordsOf world player)
  words.foldl (fun sorted word => insertWord word sorted) []

/-! ## Running -/

/-- What the line editor returns for one reading; after the last there
are no more lines. -/
inductive Reading where
  | line (text : String)
  | interrupted
  | failed (failure : Failure)

/-- What the line editor is told. -/
inductive EditorEntry where
  | completions (words : List String)
  | prompt (text : String)
  | history (line : String)

/-- What a running console does. -/
inductive Act where
  | shows (line : String)
  | tells (entry : EditorEntry)
  | records (record : LogRecord)

/-- What came of running a console. -/
structure Run where
  result : Except Failure Unit
  console : Console
  /-- What the console did, in order. -/
  acts : List Act := []
  /-- How many readings were not asked for. -/
  readingsLeft : Nat := 0

namespace Run

/-- The lines that were printed. -/
def printed (run : Run) : List String :=
  run.acts.filterMap fun
    | .shows line => some line
    | _ => none

/-- What the line editor was told. -/
def editor (run : Run) : List EditorEntry :=
  run.acts.filterMap fun
    | .tells entry => some entry
    | _ => none

/-- The records that were logged. -/
def records (run : Run) : List LogRecord :=
  run.acts.filterMap fun
    | .records record => some record
    | _ => none

/-- The run with further acts in front of those it has. -/
def after (run : Run) (acts : List Act) : Run :=
  { run with acts := acts ++ run.acts }

end Run

/-- What a console tells the line editor before each reading. -/
def asking (console : Console) (prompt : String) : List Act :=
  [.tells (.completions (completions console.world console.player)),
    .tells (.prompt prompt)]

/-- What a console does with a line that came to the given step. -/
def answering (line : String) (step : Step) : List Act :=
  .tells (.history line) :: step.lines.map .shows ++ step.records.map .records

/-- Runs a console on what the line editor returns, until the
session is retired. -/
def run (prompt : String) : List Reading → Console → Run
  | readings, console =>
      if console.session.isRetired then
        { result := .ok (), console, readingsLeft := readings.length }
      else
        let asked := console.asking prompt
        match readings with
        | [] => { result := .ok (), console, acts := asked }
        | .failed failure :: rest =>
            { result := .error failure, console, acts := asked,
              readingsLeft := rest.length }
        | .interrupted :: rest =>
            (run prompt rest console).after (asked ++ [.shows ""])
        | .line text :: rest =>
            if isBlankText text then
              (run prompt rest console).after asked
            else
              let step := console.step text
              (run prompt rest step.console).after
              (asked ++ answering text step)

/-- The lines that greet the user. -/
def banner : List String :=
  ["\x1b[1mMooring\x1b[0m " ++ version ++
      " - type \x1b[1mlook\x1b[0m to begin, \x1b[1mquit\x1b[0m to leave.",
    ""]

/-- Lines as printed text. -/
def printedText (lines : List String) : String :=
  String.join (lines.map (· ++ "\n"))

/-- The text of an act on the screen, where prompts are printed or left to
the line editor. -/
def Act.display (showsPrompts : Bool) : Act → String
  | .shows line => line ++ "\n"
  | .tells (.prompt text) => if showsPrompts then text else ""
  | _ => ""

/-- All that a run printed. -/
def Run.display (showsPrompts : Bool) (run : Run) : String :=
  String.join (run.acts.map (Act.display showsPrompts))

/-- The customary prompt. -/
def customaryPrompt : String := "> "

end Console

end TextWorld
