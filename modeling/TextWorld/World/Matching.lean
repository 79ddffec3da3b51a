import TextWorld.Command.Vocabulary
import TextWorld.World.Basic

/-!
# Matching of words

An object is meant by its name or an alias, among the things that the actor
carries and those in the actor's place; a word that several of them are called
means none.  `me`, `here` and written ids are understood as well.

A verb is sought on the actor, on the actor's place, and on the two objects of
the command, in this order; the first one that answers to the word and fits
the command is taken.
-/

namespace TextWorld

open TextWorld.Text

/-- Whether the object has the word as its name or as an alias. -/
def WorldObject.isCalled (object : WorldObject) (word : String) : Bool :=
  (object.name :: object.aliases).any (equalIgnoringCase · word)

/-- What follows the given article at the start of the characters,
if anything does. -/
def afterArticle? (article characters : List Char) : Option (List Char) :=
  if (characters.take article.length).map Char.toLower == article then
    match characters.drop article.length with
    | [] => none
    | rest => some rest
  else
    none

/-- The articles that may stand before the name of an object. -/
def articles : List (List Char) :=
  ["the ".toList, "a ".toList, "an ".toList]

/-- The characters without a leading article. -/
def withoutArticle (characters : List Char) : List Char :=
  match articles.findSome? (afterArticle? · characters) with
  | some rest => trimStart rest
  | none => characters

/-- The only id in a list, however often it occurs there. -/
def onlyId? : List EntityId → Option EntityId
  | [] => none
  | first :: rest => if rest.all (· = first) then some first else none

namespace World

/-- The ids of the objects in a place that are called by a word. -/
def calledIn (world : World) (word : String) (place : EntityId) :
    List EntityId :=
  ((world.inside place).filter (·.2.isCalled word)).map (·.1)

/-- The object that a text means to an actor, if there is one. -/
def matchName (world : World) (actor : EntityId) (text : String) :
    Except Failure (Option EntityId) := do
  let place := (← world.object actor).location
  let characters := withoutArticle (trim text.toList)
  let word := String.ofList characters
  if word.isEmpty then
    return none
  else if equalIgnoringCase word "me" then
    return some actor
  else if equalIgnoringCase word "here" then
    return place
  else if characters.head? = some '#' then
    return (EntityId.ofCharacters? characters).filter world.has
  else
    return onlyId? ((actor :: place.toList).flatMap (world.calledIn word))

/-- The objects that the words of a command mean to an actor. -/
def matchObjects (world : World) (actor : Entity) (command : Command) :
    Except Failure BoundObjects := do
  let direct ← world.matchName actor.id command.directObject
  let indirect ← world.matchName actor.id command.indirectObject
  return { direct, indirect }

/-- The verb of an owner that a command means. -/
def verbOn?
    (world : World)
    (command : Command)
    (objects : BoundObjects)
    (owner : EntityId) :
    Option Verb :=
  (world.objects.get? owner).bind fun object =>
    object.verbs.find? fun verb =>
      verb.signature.answersTo command.verb &&
        verb.signature.accepts owner command objects

/-- The entities on which a verb is sought, in order. -/
def verbOwners (actor : EntityId) (place : Option EntityId)
    (objects : BoundObjects) :
    List EntityId :=
  actor :: (place.toList ++ objects.direct.toList ++ objects.indirect.toList)

/-- The verb that a command means to an actor, if there is one. -/
def matchVerb
    (world : World)
    (actor : Entity)
    (command : Command)
    (objects : BoundObjects) :
    Except Failure (Option VerbBinding) := do
  if command.verb.isEmpty || command.verb == VerbBinding.missingVerb then
    return none
  else
    let place := (← world.object actor.id).location
    return (verbOwners actor.id place objects).findSome? fun owner =>
      (world.verbOn? command objects owner).map fun verb =>
        .matched owner verb.signature.name

end World

end TextWorld
