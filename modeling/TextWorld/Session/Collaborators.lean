import TextWorld.Command.Basic
import TextWorld.Entity.Basic
import TextWorld.Failure.Basic
import TextWorld.Value.Basic

/-!
# What dispatch asks of the world

A session reaches the shared world through five operations: it loads
entities, runs generated code, runs hooks, and has objects and verbs
matched.  Each operation answers or fails, and may change the state of the
world.  Nothing else is known of that state here, so a statement about
sessions holds for every world.
-/

namespace TextWorld

/-- Where a hook is registered. -/
inductive HookScope where
  | system
  | entity (id : EntityId)
deriving DecidableEq, Inhabited

/-- The written form of a scope. -/
def HookScope.text : HookScope → String
  | .system => "system"
  | .entity id => id.text

/-- What came of running a hook. -/
structure HookOutcome where
  /-- Whether there was a hook to run. -/
  ran : Bool
  value : Value
deriving DecidableEq, Inhabited

/-- The value, if the hook ran. -/
def HookOutcome.ranValue? (outcome : HookOutcome) : Option Value :=
  if outcome.ran then some outcome.value else none

/-- The answer to an operation, and the state of the world after it. -/
abbrev Reply (σ α : Type) := Except Failure α × σ

/-- The operations of a world whose state is of the given type. -/
structure Collaborators (σ : Type) where
  /-- The entity of an id. -/
  load (id : EntityId) (world : σ) : Reply σ Entity
  /-- The value of running code under a label. -/
  run (code label : String) (world : σ) : Reply σ Value
  /-- The outcome of a hook with the given arguments. -/
  runHook (scope : HookScope) (name : String)
    (arguments : List Value) (world : σ) :
    Reply σ HookOutcome
  /-- The entities that the object words of a command mean to an actor. -/
  matchObjects (actor : Entity) (command : Command) (world : σ) :
    Reply σ BoundObjects
  /-- The verb that a command means to an actor, if there is one. -/
  matchVerb (actor : Entity) (command : Command)
    (objects : BoundObjects) (world : σ) :
    Reply σ (Option VerbBinding)

/-- One use of an operation. -/
inductive Call where
  | load (id : EntityId)
  | run (code label : String)
  | runHook (scope : HookScope) (name : String) (arguments : List Value)
  | matchObjects (actor : Entity) (command : Command)
  | matchVerb (actor : Entity) (command : Command) (objects : BoundObjects)
deriving DecidableEq

namespace Collaborators

variable {σ : Type}

/-- The reply of a world whose uses are noted, with one more use. -/
def noted {α : Type} (call : Call) (calls : List Call) (reply : Reply σ α) :
    Reply (σ × List Call) α :=
  (reply.1, reply.2, calls ++ [call])

/-- The same operations, with a list of their uses kept beside the state. -/
def recorded (collaborators : Collaborators σ) :
    Collaborators (σ × List Call) where
  load id world := noted (.load id) world.2 (collaborators.load id world.1)
  run code label world :=
    noted (.run code label) world.2 (collaborators.run code label world.1)
  runHook scope name arguments world :=
    noted (.runHook scope name arguments) world.2
      (collaborators.runHook scope name arguments world.1)
  matchObjects actor command world :=
    noted (.matchObjects actor command) world.2
      (collaborators.matchObjects actor command world.1)
  matchVerb actor command objects world :=
    noted (.matchVerb actor command objects) world.2
      (collaborators.matchVerb actor command objects world.1)

end Collaborators

end TextWorld
