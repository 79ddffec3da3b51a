import TextWorld.Table
import TextWorld.World.Script

/-!
# The world in memory

A world holds objects, each with a name, a place and verbs; hooks; an evaluator
for code that is no verb call; and for each entity the texts that it was told
and has not taken yet.  An operation that can fail answers with the changed
world or with a failure, so that a failed one changes nothing.

Objects are numbered in the order of their creation and numbers are not used
again.  An object is moved only to a place that is not inside it.
-/

namespace TextWorld

/-- A verb of an object. -/
structure Verb where
  signature : VerbSignature
  body : Invocation → Script

/-- An object of the world. -/
structure WorldObject where
  name : String
  aliases : List String := []
  location : Option EntityId := none
  programmer : Bool := false
  verbs : List Verb := []

/-- A world. -/
structure World where
  /-- How many objects were ever created. -/
  created : Nat := 0
  /-- The objects that exist, in the order of their ids. -/
  objects : Table EntityId WorldObject := []
  hooks : Table (HookScope × String) (List Value → Script) := []
  evaluator : Option (String → String → Script) := none
  /-- What entities were told and have not taken yet. -/
  told : Table EntityId (List String) := []
  /-- The bodies that entered themselves here, in the order in
  which they started. -/
  trail : List Trace := []

namespace WorldObject

/-- The first verb of the given name. -/
def verb? (object : WorldObject) (name : String) : Option Verb :=
  object.verbs.find? (·.signature.answersTo name)

/-- The object with a verb defined; it replaces a verb of the
same primary name. -/
def defineVerb (object : WorldObject) (verb : Verb) : WorldObject :=
  { object with
    verbs :=
      object.verbs.filter (·.signature.name ≠ verb.signature.name) ++ [verb] }

/-- The object, nowhere if it was in the given place. -/
def leave (object : WorldObject) (place : EntityId) : WorldObject :=
  if object.location = some place then { object with location := none }
  else object

end WorldObject

namespace World

/-- The world without anything in it. -/
def empty : World := {}

/-- Whether an object exists. -/
def has (world : World) (id : EntityId) : Bool :=
  world.objects.contains id

/-- The object of an id. -/
def object (world : World) (id : EntityId) : Except Failure WorldObject :=
  match world.objects.get? id with
  | some object => .ok object
  | none => .error (.entityNotFound id)

/-- The world in which an existing object is replaced by a changed one. -/
def update
    (world : World)
    (id : EntityId)
    (change : WorldObject → WorldObject) :
    Except Failure World :=
  match world.objects.get? id with
  | some object =>
      .ok { world with objects := world.objects.set id (change object) }
  | none => .error (.entityNotFound id)

/-- The id of the next object to be created. -/
def nextId (world : World) : EntityId :=
  .ofNat world.created

/-- The world with a new object, which is nowhere. -/
def create (world : World) (name : String) : World :=
  { world with
    created := world.created + 1
    objects := world.objects.set world.nextId { name } }

/-- The world without an object; what was in it is nowhere. -/
def recycle (world : World) (id : EntityId) : Except Failure World :=
  if world.has id then
    .ok { world with
      objects := (world.objects.erase id).map fun (key, object) =>
        (key, object.leave id) }
  else
    .error (.entityNotFound id)

/-- The name of an object. -/
def name (world : World) (id : EntityId) : Except Failure String :=
  (world.object id).map (·.name)

/-- The place of an object. -/
def location (world : World) (id : EntityId) :
    Except Failure (Option EntityId) :=
  (world.object id).map (·.location)

/-- The primary names of the verbs of an object. -/
def verbNames (world : World) (id : EntityId) : Except Failure (List String) :=
  (world.object id).map fun object => object.verbs.map (·.signature.name)

/-- The objects in a place, with their ids. -/
def inside (world : World) (place : EntityId) : Table EntityId WorldObject :=
  world.objects.filter fun entry => entry.2.location = some place

/-- The ids of the objects in a place. -/
def contents (world : World) (place : EntityId) : List EntityId :=
  (world.inside place).map (·.1)

/-- The world in which an object has further aliases. -/
def addAliases (world : World) (id : EntityId) (aliases : List String) :
    Except Failure World :=
  world.update id fun object =>
    { object with aliases := object.aliases ++ aliases }

/-- The world in which the programmer flag of an object is set or cleared. -/
def setProgrammer (world : World) (id : EntityId) (flag : Bool) :
    Except Failure World :=
  world.update id fun object => { object with programmer := flag }

/--
Whether an object may be moved to a place: neither the place nor anything
around it is that object.  At most `limit` places are looked at; in a world
whose objects do not contain each other no chain of places is longer than the
number of objects.
-/
def checkPlace (world : World) (id : EntityId) :
    (limit : Nat) → EntityId → Except Failure Unit
  | 0, _ => .error (.internal "places contain each other")
  | limit + 1, place =>
      if place = id then
        .error (.internal ("cannot move " ++ id.text ++ " into itself"))
      else
        match world.objects.get? place with
        | none => .error (.entityNotFound place)
        | some object =>
            match object.location with
            | none => .ok ()
            | some around => checkPlace world id limit around

/-- The world in which an object is in another place. -/
def move (world : World) (id destination : EntityId) :
    Except Failure World := do
  let _ ← world.object id
  world.checkPlace id (world.objects.length + 1) destination
  world.update id fun object => { object with location := some destination }

/-- The world in which an object has a verb. -/
def defineVerb (world : World) (id : EntityId) (verb : Verb) :
    Except Failure World :=
  world.update id (·.defineVerb verb)

/-- The world with a hook registered, in place of one of the same
scope and name. -/
def registerHook
    (world : World)
    (scope : HookScope)
    (name : String)
    (body : List Value → Script) :
    World :=
  { world with hooks := world.hooks.set (scope, name) body }

/-- The world with an evaluator. -/
def setEvaluator (world : World) (body : String → String → Script) : World :=
  { world with evaluator := some body }

/-- What an entity was told and has not taken yet. -/
def toldTo (world : World) (id : EntityId) : List String :=
  (world.told.get? id).getD []

/-- The world in which an entity was told a text. -/
def tell (world : World) (id : EntityId) (text : String) : World :=
  { world with told := world.told.set id (world.toldTo id ++ [text]) }

/-- The world in which an entity took what it was told. -/
def takeTold (world : World) (id : EntityId) : World :=
  { world with told := world.told.erase id }

/-- The world with one more entry in its trail. -/
def enter (world : World) (trace : Trace) : World :=
  { world with trail := world.trail ++ [trace] }

/-- The view of an object on which dispatch decides. -/
def load (world : World) (id : EntityId) : Except Failure Entity :=
  (world.object id).map fun object =>
    { id
      programmer := object.programmer
      location := object.location
      verbMissing := (object.verb? VerbBinding.missingVerb).isSome }

/-- The world in listings of a program's state. -/
def debugText (world : World) : String :=
  "MemoryWorld \x7b objects: " ++ Text.decimal world.objects.length ++
    ", hooks: " ++ Text.decimal world.hooks.length ++ ", .. \x7d"

end World

end TextWorld
