import TextWorld.Session.Collaborators
import TextWorld.Table

/-!
# A world that answers as it was told

A stand-in for a world, in which the answer to each operation is set beforehand.
It does not change when it is asked, so what a session does with an answer can
be seen on its own.
-/

namespace TextWorld

/-- The answers of a stand-in. -/
structure PromptedWorld where
  entities : Table EntityId Entity := []
  /-- What running any code gives. -/
  value : Except Failure Value := .ok .absent
  /-- What hooks give, by their names; others do not run. -/
  hooks : Table String (Except Failure HookOutcome) := []
  objects : Except Failure BoundObjects := .ok {}
  verb : Except Failure (Option VerbBinding) := .ok none

namespace PromptedWorld

/-- The entity of an id, if it was set. -/
def load (world : PromptedWorld) (id : EntityId) : Except Failure Entity :=
  match world.entities.get? id with
  | some entity => .ok entity
  | none => .error (.entityNotFound id)

/-- The outcome of a hook; one that was not set does not run. -/
def outcome (world : PromptedWorld) (name : String) :
    Except Failure HookOutcome :=
  (world.hooks.get? name).getD (.ok ⟨false, .absent⟩)

/-- The stand-in as sessions reach it. -/
def collaborators : Collaborators PromptedWorld where
  load id world := (world.load id, world)
  run _ _ world := (world.value, world)
  runHook _ name _ world := (world.outcome name, world)
  matchObjects _ _ world := (world.objects, world)
  matchVerb _ _ _ world := (world.verb, world)

end PromptedWorld

end TextWorld
