import TextWorld.Entity.Basic
import TextWorld.Json.Quote
import TextWorld.Json.Tree

/-!
# Entities as JSON

An entity is written as an object of four members.  It is read from such an
object, with its members in any order and others ignored, or from an array
of the four values.
-/

namespace TextWorld

namespace EntityId

/-- The id with the number of a JSON tree. -/
def ofTree? (tree : Json.Tree) : Option EntityId :=
  tree.natural?.map ofNat

end EntityId

namespace Entity

/-- The JSON text of a truth value. -/
def flagText (flag : Bool) : String :=
  if flag then "true" else "false"

/-- The entity as compact JSON text. -/
def jsonText (entity : Entity) : String :=
  let location :=
    match entity.location with
    | some id => Text.decimal id.number.toNat
    | none => "null"
  Json.object
    [("id", Text.decimal entity.id.number.toNat),
      ("programmer", flagText entity.programmer), ("location", location),
      ("verb_missing", flagText entity.verbMissing)]

/-- Reads a location, which may be `null`. -/
def locationOfTree? : Json.Tree → Option (Option EntityId)
  | .null => some none
  | tree => (EntityId.ofTree? tree).map some

/-- The entity of the four trees. -/
def ofTrees? (id programmer location verbMissing : Json.Tree) :
    Option Entity := do
  return {
    id := ← EntityId.ofTree? id
    programmer := ← programmer.bool?
    location := ← locationOfTree? location
    verbMissing := ← verbMissing.bool? }

/-- Reads an entity from a JSON tree; only the location may be missing. -/
def ofTree? : Json.Tree → Option Entity
  | .object given => do
      let members ← Json.Tree.keyed? given
      let id ← (← Json.Tree.uniqueMember "id" members)
      let programmer ← (← Json.Tree.uniqueMember "programmer" members)
      let location ← Json.Tree.uniqueMember "location" members
      let verbMissing ← (← Json.Tree.uniqueMember "verb_missing" members)
      ofTrees? id programmer (location.getD .null) verbMissing
  | .array [id, programmer, location, verbMissing] =>
      ofTrees? id programmer location verbMissing
  | _ => none

/-- Reads an entity from JSON text. -/
def ofJsonText? (text : String) : Option Entity :=
  (Json.Tree.ofText? text).bind ofTree?

end Entity

end TextWorld
