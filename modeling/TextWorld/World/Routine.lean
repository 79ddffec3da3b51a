import TextWorld.World.Script

/-!
# Routines

A routine is a body written as a list of simple steps: telling, moving,
creating, running code and hooks, failing, and returning.  Steps name the
entities of the call they belong to, and the value of the last step that had one
can be returned.  A routine becomes a script that first enters itself in the
trail of the world.
-/

namespace TextWorld.Routine

/-- An entity as a step names it. -/
inductive Reference where
  | id (id : EntityId)
  | this
  | player
  | direct
  | indirect
deriving DecidableEq, Inhabited

/-- One step of a routine. -/
inductive Step where
  | tell (listener : Reference) (text : String)
  /-- Tells the listener the name of the subject. -/
  | tellName (listener subject : Reference)
  | move (thing destination : Reference)
  | recycle (thing : Reference)
  | create (name : String)
  | setProgrammer (entity : Reference) (flag : Bool)
  | run (code label : String)
  | hook (scope : HookScope) (name : String) (arguments : List Value)
  | fail (failure : Failure)
  | return (value : Value)
  /-- Returns the value of the last step that had one. -/
  | returnLast
  | returnArgument (index : Nat)
  | returnCode
  | returnLabel
deriving Inhabited

/-- What the steps of a routine know of the call they belong to. -/
structure Surroundings where
  this : Option EntityId := none
  player : Option EntityId := none
  direct : Option EntityId := none
  indirect : Option EntityId := none
  arguments : List Value := []
  code : Option String := none
  label : Option String := none

/-- The entity, or the failure that the call has none of that name. -/
def bound (name : String) : Option EntityId → Action EntityId
  | some id => pure id
  | none => .fail (.internal ("no " ++ name))

/-- The entity that a reference means. -/
def resolve (surroundings : Surroundings) : Reference → Action EntityId
  | .id id => pure id
  | .this => bound "this" surroundings.this
  | .player => bound "player" surroundings.player
  | .direct => bound "dobj" surroundings.direct
  | .indirect => bound "iobj" surroundings.indirect

/-- A text as a value, if there is one. -/
def textValue (text : Option String) : Value :=
  (text.map Value.string).getD .absent

/-- Carries out the steps in order; `last` is the value of the last
step that had one. -/
def perform (surroundings : Surroundings) (last : Value) :
    List Step → Action Value
  | [] => pure .absent
  | .tell listener text :: rest => do
      let listener ← resolve surroundings listener
      .tell listener text
      perform surroundings last rest
  | .tellName listener subject :: rest => do
      let listener ← resolve surroundings listener
      let subject ← resolve surroundings subject
      let name ← .name subject
      .tell listener name
      perform surroundings last rest
  | .move thing destination :: rest => do
      let thing ← resolve surroundings thing
      let destination ← resolve surroundings destination
      .move thing destination
      perform surroundings last rest
  | .recycle thing :: rest => do
      let thing ← resolve surroundings thing
      .recycle thing
      perform surroundings last rest
  | .create name :: rest => do
      let id ← .create name
      perform surroundings (.entity id) rest
  | .setProgrammer entity flag :: rest => do
      let entity ← resolve surroundings entity
      .setProgrammer entity flag
      perform surroundings last rest
  | .run code label :: rest => do
      let value ← .run code label
      perform surroundings value rest
  | .hook scope name arguments :: rest => do
      let outcome ← .runHook scope name arguments
      perform surroundings outcome.value rest
  | .fail failure :: _ => .fail failure
  | .return value :: _ => pure value
  | .returnLast :: _ => pure last
  | .returnArgument index :: _ =>
      pure (surroundings.arguments[index]?.getD .absent)
  | .returnCode :: _ => pure (textValue surroundings.code)
  | .returnLabel :: _ => pure (textValue surroundings.label)

/-- The script of a routine in its surroundings. -/
def script (trace : Trace) (surroundings : Surroundings)
    (steps : List Step) : Script :=
  .enter trace (perform surroundings .absent steps).script

/-- The routine as the body of a verb. -/
def verbBody (steps : List Step) (invocation : Invocation) : Script :=
  script (.verb invocation)
    { this := some invocation.this
      player := some invocation.player
      direct := invocation.direct
      indirect := invocation.indirect }
    steps

/-- The routine as the body of a hook. -/
def hookBody
    (scope : HookScope)
    (name : String)
    (steps : List Step)
    (arguments : List Value) :
    Script :=
  script (.hook scope name arguments) { arguments } steps

/-- The routine as an evaluator. -/
def evaluatorBody (steps : List Step) (code label : String) : Script :=
  script (.evaluation code label)
    { code := some code, label := some label } steps

end TextWorld.Routine
