import TextWorld.Session.Collaborators
import TextWorld.World.Verb

/-!
# Scripts

The bodies of verbs, hooks and evaluators.  A script is a tree of uses of the
world's public operations: each use names its operation and goes on with
whatever the operation answers.  So a script has no other access to the world,
and the world decides how each operation is done.

`Action` is the convenient way to write scripts.  An action that fails ends the
whole script with its failure.
-/

namespace TextWorld

/-- The start of a body, as it is entered in the trail of a world. -/
inductive Trace where
  | verb (invocation : Invocation)
  | hook (scope : HookScope) (name : String) (arguments : List Value)
  | evaluation (code label : String)
deriving DecidableEq

/-- A body: uses of the world's operations, ending in a value or a failure. -/
inductive Script where
  | done (result : Except Failure Value)
  /-- Enters the start of a body in the trail. -/
  | enter (trace : Trace) (next : Script)
  | create (name : String) (next : EntityId → Script)
  | recycle (id : EntityId) (next : Except Failure Unit → Script)
  | has (id : EntityId) (next : Bool → Script)
  | name (id : EntityId) (next : Except Failure String → Script)
  | addAliases (id : EntityId) (aliases : List String)
      (next : Except Failure Unit → Script)
  | setProgrammer (id : EntityId) (flag : Bool)
      (next : Except Failure Unit → Script)
  | location (id : EntityId) (next : Except Failure (Option EntityId) → Script)
  | contents (id : EntityId) (next : List EntityId → Script)
  | move (id destination : EntityId) (next : Except Failure Unit → Script)
  | defineVerb (id : EntityId) (signature : VerbSignature)
      (body : Invocation → Script)
      (next : Except Failure Unit → Script)
  | verbNames (id : EntityId) (next : Except Failure (List String) → Script)
  | registerHook (scope : HookScope) (name : String)
      (body : List Value → Script) (next : Script)
  | setEvaluator (body : String → String → Script) (next : Script)
  | tell (id : EntityId) (text : String) (next : Script)
  | takeTold (id : EntityId) (next : List String → Script)
  | load (id : EntityId) (next : Except Failure Entity → Script)
  | run (code label : String) (next : Except Failure Value → Script)
  | runHook (scope : HookScope) (name : String) (arguments : List Value)
      (next : Except Failure HookOutcome → Script)
  | matchObjects (actor : Entity) (command : Command)
      (next : Except Failure BoundObjects → Script)
  | matchVerb (actor : Entity) (command : Command) (objects : BoundObjects)
      (next : Except Failure (Option VerbBinding) → Script)

instance : Inhabited Script := ⟨.done (.ok .absent)⟩

/-- Part of a script that ends in an answer, given what the script does
with that answer. -/
def Action (α : Type) : Type :=
  (α → Script) → Script

namespace Action

instance : Monad Action where
  pure answer next := next answer
  bind action rest next := action fun answer => rest answer next

/-- Ends the script with a failure. -/
def fail {α : Type} (failure : Failure) : Action α :=
  fun _ => .done (.error failure)

/-- Goes on with an answer; a failure ends the script. -/
def orFail {α : Type} (next : α → Script) : Except Failure α → Script
  | .ok answer => next answer
  | .error failure => .done (.error failure)

/-- The script that ends in the value of an action. -/
def script (action : Action Value) : Script :=
  action fun value => .done (.ok value)

/-- Creates an object. -/
def create (name : String) : Action EntityId := Script.create name

/-- Removes an object. -/
def recycle (id : EntityId) : Action Unit :=
  fun next => .recycle id (orFail next)

/-- The name of an object. -/
def name (id : EntityId) : Action String := fun next => .name id (orFail next)

/-- Sets or clears the programmer flag of an object. -/
def setProgrammer (id : EntityId) (flag : Bool) : Action Unit :=
  fun next => .setProgrammer id flag (orFail next)

/-- The place of an object. -/
def location (id : EntityId) : Action (Option EntityId) :=
  fun next => .location id (orFail next)

/-- The objects in a place. -/
def contents (id : EntityId) : Action (List EntityId) := Script.contents id

/-- Moves an object. -/
def move (id destination : EntityId) : Action Unit :=
  fun next => .move id destination (orFail next)

/-- Tells an entity a text. -/
def tell (id : EntityId) (text : String) : Action Unit :=
  fun next => .tell id text (next ())

/-- Runs code. -/
def run (code label : String) : Action Value :=
  fun next => .run code label (orFail next)

/-- Runs a hook. -/
def runHook (scope : HookScope) (name : String) (arguments : List Value) :
    Action HookOutcome :=
  fun next => .runHook scope name arguments (orFail next)

/-- Enters the start of a body in the trail. -/
def enter (trace : Trace) : Action Unit := fun next => .enter trace (next ())

/-- The names of the objects, in order. -/
def names : List EntityId → Action (List String)
  | [] => pure []
  | id :: rest => do
      let first ← name id
      let others ← names rest
      return first :: others

/-- Tells each of the entities the same text. -/
def tellEach (text : String) : List EntityId → Action Unit
  | [] => pure ()
  | id :: rest => do
      tell id text
      tellEach text rest

end Action

end TextWorld
