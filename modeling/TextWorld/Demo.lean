import TextWorld.Snippet
import TextWorld.Text.Search
import TextWorld.Value.OfJson
import TextWorld.World.Basic

/-!
# A small world to walk around in

Two rooms, a player, a lamp and a chest.  The rooms have the verbs of daily
life, and the lobby answers what nobody understands.  Code that programmers type
is evaluated when its last expression is `player`, a written id or a JSON text.
-/

namespace TextWorld.Demo

open TextWorld.Text

/-- The room in which the player starts. -/
def lobby : EntityId := ⟨0⟩

/-- The other room. -/
def garden : EntityId := ⟨1⟩

/-- The player at the console. -/
def player : EntityId := ⟨2⟩

/-- The lamp. -/
def lamp : EntityId := ⟨3⟩

/-- The chest. -/
def chest : EntityId := ⟨4⟩

/-- Ends a body without a value. -/
def nothing : Action Value := pure .absent

/-- The names of the things in a place, one of them left out. -/
def namesExcept (place skipped : EntityId) : Action (List String) := do
  let things ← .contents place
  .names (things.filter (· ≠ skipped))

/-- Tells everyone in the room of the player a text. -/
def broadcast (call : Invocation) (text : String) : Action Value := do
  let place ← .location call.player
  let listeners ← .contents (place.getD call.this)
  .tellEach text listeners
  nothing

/-- Shows the room, or names the thing that is looked at. -/
def look (call : Invocation) : Action Value := do
  match ← .location call.player with
  | none =>
      .tell call.player "You are nowhere."
      nothing
  | some room =>
      match call.direct with
      | some thing =>
          let name ← .name thing
          .tell call.player ("You see " ++ name ++ ".")
          nothing
      | none =>
          let name ← .name room
          .tell call.player name
          let others ← namesExcept room call.player
          if others.isEmpty then
            nothing
          else
            .tell call.player ("You see: " ++ ", ".intercalate others ++ ".")
            nothing

/-- Lets everyone in the room hear the player. -/
def say (call : Invocation) : Action Value := do
  let speaker ← .name call.player
  broadcast call (speaker ++ " says, \"" ++ call.command.argument ++ "\"")

/-- Lets everyone in the room see what the player does. -/
def emote (call : Invocation) : Action Value := do
  let speaker ← .name call.player
  broadcast call (speaker ++ " " ++ call.command.argument)

/-- Tells the player that the object words mean nothing to take. -/
def cannotTake (call : Invocation) : Action Value := do
  .tell call.player
    ("You can't take " ++ quoted call.command.directObject ++ ".")
  nothing

/-- Moves a thing to the player, but neither the player nor the room. -/
def take (call : Invocation) : Action Value :=
  match call.direct with
  | some thing =>
      if thing ≠ call.player ∧ thing ≠ call.this then do
        .move thing call.player
        let name ← .name thing
        .tell call.player ("Taken: " ++ name ++ ".")
        nothing
      else
        cannotTake call
  | none => cannotTake call

/-- Tells the player that there is nothing to drop. -/
def cannotDrop (call : Invocation) : Action Value := do
  .tell call.player "You aren't carrying that."
  nothing

/-- Moves a thing that the player carries to the owner of the verb. -/
def drop (call : Invocation) : Action Value :=
  match call.direct with
  | some thing => do
      let place ← .location thing
      if place = some call.player then
        .move thing call.this
        let name ← .name thing
        .tell call.player ("Dropped: " ++ name ++ ".")
        nothing
      else
        cannotDrop call
  | none => cannotDrop call

/-- Moves the player to a room. -/
def go (destination : EntityId) (call : Invocation) : Action Value := do
  .move call.player destination
  let name ← .name destination
  .tell call.player ("You go to the " ++ name ++ ".")
  nothing

/-- Answers a command that nobody understands. -/
def echo (call : Invocation) : Action Value := do
  .tell call.player ("The lobby echoes: " ++ quoted call.command.verb ++ "?")
  nothing

/-- Tells the player what the player carries. -/
def inventory (call : Invocation) : Action Value := do
  let carried ← namesExcept call.player call.player
  if carried.isEmpty then
    .tell call.player "You are empty-handed."
    nothing
  else
    .tell call.player ("You carry: " ++ ", ".intercalate carried ++ ".")
    nothing

/-- Moves a thing into the chest. -/
def put (call : Invocation) : Action Value :=
  match call.direct, call.indirect with
  | some thing, some container => do
      .move thing container
      let thingName ← .name thing
      let containerName ← .name container
      .tell call.player
        ("You put " ++ thingName ++ " in " ++ containerName ++ ".")
      nothing
  | _, _ => do
      .tell call.player "Put what?"
      nothing

/-- Fails, as rubbing a lamp does. -/
def rub (call : Invocation) : Action Value :=
  .fail
    { kind := .script ("Verb::" ++ call.this.text ++ ".rub") "the genie is out"
      context := some { line := some 3, column := some 7 } }

/-- A verb of any arguments with the given action. -/
def verb (name : String) (aliases : List String)
    (action : Invocation → Action Value) : Verb where
  signature := { name, aliases }
  body call := (action call).script

/-- The verbs that both rooms have. -/
def roomVerbs : List Verb :=
  [verb "look" ["l"] look, verb "say" [] say, verb "emote" [] emote,
    verb "take" ["get"] take, verb "drop" [] drop]

/-- The verb that leads to a room. -/
def goVerb (destination : EntityId) : Verb :=
  verb "go" ["walk"] (go destination)

/-- The verb that takes what nobody understands. -/
def missingVerb : Verb :=
  verb VerbBinding.missingVerb [] echo

/-- The verb that lists what the player carries. -/
def inventoryVerb : Verb where
  signature :=
    { name := "inventory", aliases := ["i"], direct := .none,
      preposition := .none
      indirect := .none }
  body call := (inventory call).script

/-- The verb that puts things into the chest. -/
def putVerb : Verb where
  signature := { name := "put", preposition := .is "in", indirect := .this }
  body call := (put call).script

/-- The verb that fails. -/
def rubVerb : Verb where
  signature :=
    { name := "rub", direct := .this, preposition := .none, indirect := .none }
  body call := (rub call).script

/-- What stands before a returned expression in a unit of code. -/
def returnMark : List Char := "  return (".toList

/-- What stands after a returned expression in a unit of code. -/
def returnEnd : List Char := ");\n".toList

/-- The value of an expression: `player`, a written id, or a JSON text. -/
def evaluateExpression (label : String) (expression : List Char) :
    Except Failure Value :=
  let text := String.ofList expression
  if text = "player" then
    .ok (.entity player)
  else
    match EntityId.ofCharacters? expression with
    | some id => .ok (.entity id)
    | none =>
        match Value.ofJsonText? text with
        | some value => .ok value
        | none =>
            .error
              { kind := .script label ("cannot evaluate " ++ text)
                context := some
                  { source := some label, line := some 2, column := some 10 } }

/-- The value of the returned expression of a unit of code, if
it returns one. -/
def evaluate (code label : String) : Except Failure Value :=
  match afterLast? returnMark code.toList with
  | none => .ok .absent
  | some rest =>
      match beforeLast? returnEnd rest with
      | none => .error (.script label "malformed eval unit")
      | some expression => evaluateExpression label (trim expression)

/-- The world; its player may be a programmer. -/
def world (programmer : Bool) : World where
  created := 5
  objects :=
    [ (lobby,
        { name := "Lobby",
          verbs := roomVerbs ++ [goVerb garden, missingVerb] }),
      (garden, { name := "Garden", verbs := roomVerbs ++ [goVerb lobby] }),
      (player,
        { name := "Wizard", location := some lobby, programmer,
          verbs := [inventoryVerb] }),
      (lamp,
        { name := "brass lamp", aliases := ["lamp"], location := some lobby,
          verbs := [rubVerb] }),
      (chest,
        { name := "oak chest", aliases := ["chest"], location := some lobby
          verbs := [putVerb] }) ]
  evaluator := some fun code label => .done (evaluate code label)

end TextWorld.Demo
