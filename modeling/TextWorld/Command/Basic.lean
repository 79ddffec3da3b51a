import TextWorld.Entity.Id

/-!
# Commands, and what they are resolved to

A command is one line of input, split into the verb and its objects.  Resolution
binds the object words to entities and the verb to an entity that owns it.
-/

namespace TextWorld

/-- One line of input.  An empty verb is valid: no verb was recognised. -/
structure Command where
  /-- The first word. -/
  verb : String := ""
  /-- Everything after the verb, as typed. -/
  argument : String := ""
  /-- The words before the preposition, or all of them when there is none. -/
  directObject : String := ""
  /-- The words of the preposition. -/
  preposition : String := ""
  /-- The words after the preposition. -/
  indirectObject : String := ""
deriving DecidableEq, Inhabited

namespace Command

/-- Whether no verb was recognised. -/
def isEmpty (command : Command) : Bool :=
  command.verb.isEmpty

/-- The five texts in the order in which a call passes them on. -/
def fields (command : Command) : List String :=
  [command.verb, command.argument, command.directObject, command.preposition,
    command.indirectObject]

end Command

/-- The entities bound to the two object roles of a command, each on its own. -/
structure BoundObjects where
  direct : Option EntityId := none
  indirect : Option EntityId := none
deriving DecidableEq, Inhabited

/-- How the verb of a binding was found. -/
inductive VerbSource where
  /-- A verb was matched. -/
  | matched
  /-- Nothing matched, and the location takes such commands. -/
  | fallback
deriving DecidableEq, Inhabited

/-- A verb together with the entity on which it is invoked. -/
structure VerbBinding where
  owner : EntityId
  verb : String
  source : VerbSource
deriving DecidableEq, Inhabited

namespace VerbBinding

/-- The name of the verb with which locations catch commands that
nothing matched. -/
def missingVerb : String := "verbMissing"

/-- The binding to a verb that was matched. -/
def matched (owner : EntityId) (verb : String) : VerbBinding :=
  ⟨owner, verb, .matched⟩

/-- The binding to the owner's handler of unmatched commands. -/
def missing (owner : EntityId) : VerbBinding :=
  ⟨owner, missingVerb, .fallback⟩

/-- Whether nothing was matched. -/
def isFallback (binding : VerbBinding) : Bool :=
  binding.source = .fallback

end VerbBinding

end TextWorld
