import TextWorld.Command.Basic
import TextWorld.Text.Quoted

/-!
# Verbs of objects

An object answers to a verb by any of its names, if the command has the objects
and the preposition that the verb asks for.
-/

namespace TextWorld

open TextWorld.Text

/-- What a verb asks of one object role. -/
inductive ObjectRule where
  | any
  /-- The role has no words. -/
  | none
  /-- The role is bound to the owner of the verb. -/
  | this
deriving DecidableEq, Inhabited

/-- Whether a role of the given words and entity is accepted for an owner. -/
def ObjectRule.accepts
    (rule : ObjectRule)
    (owner : EntityId)
    (words : String)
    (bound : Option EntityId) :
    Bool :=
  match rule with
  | .any => true
  | .none => words.isEmpty
  | .this => bound = some owner

/-- What a verb asks of the preposition. -/
inductive PrepositionRule where
  | any
  /-- There is no preposition. -/
  | none
  /-- The preposition is exactly this one. -/
  | is (phrase : String)
deriving DecidableEq, Inhabited

/-- Whether a preposition is accepted. -/
def PrepositionRule.accepts (rule : PrepositionRule)
    (preposition : String) : Bool :=
  match rule with
  | .any => true
  | .none => preposition.isEmpty
  | .is phrase => phrase = preposition

/-- The names of a verb and what it asks of a command. -/
structure VerbSignature where
  /-- The name under which the verb is invoked. -/
  name : String
  aliases : List String := []
  direct : ObjectRule := .any
  preposition : PrepositionRule := .any
  indirect : ObjectRule := .any
deriving DecidableEq, Inhabited

namespace VerbSignature

/-- All names of the verb. -/
def names (signature : VerbSignature) : List String :=
  signature.name :: signature.aliases

/-- Whether the verb has the name. -/
def answersTo (signature : VerbSignature) (name : String) : Bool :=
  signature.names.contains name

/-- Whether the verb of the given owner fits the objects and the
preposition of a command. -/
def accepts
    (signature : VerbSignature)
    (owner : EntityId)
    (command : Command)
    (objects : BoundObjects) :
    Bool :=
  signature.direct.accepts owner command.directObject objects.direct &&
    signature.preposition.accepts command.preposition &&
    signature.indirect.accepts owner command.indirectObject objects.indirect

/-- A rule for objects in listings of a program's state. -/
def objectRuleText : ObjectRule → String
  | .any => "Any"
  | .none => "None"
  | .this => "This"

/-- A rule for prepositions in listings of a program's state. -/
def prepositionRuleText : PrepositionRule → String
  | .any => "Any"
  | .none => "None"
  | .is phrase => "Is(" ++ quoted phrase ++ ")"

/-- The verb in listings of a program's state. -/
def debugText (signature : VerbSignature) : String :=
  "VerbDef \x7b names: [" ++ ", ".intercalate (signature.names.map quoted) ++
    "], dobj: " ++ objectRuleText signature.direct ++
    ", prep: " ++ prepositionRuleText signature.preposition ++
    ", iobj: " ++ objectRuleText signature.indirect ++ ", .. \x7d"

end VerbSignature

/-- A verb call as the body of the verb sees it. -/
structure Invocation where
  /-- The owner of the verb. -/
  this : EntityId
  verb : String
  player : EntityId
  direct : Option EntityId
  indirect : Option EntityId
  command : Command
deriving DecidableEq, Inhabited

end TextWorld
