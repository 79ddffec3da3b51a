import TextWorld.Entity.Id

/-!
# Entities

The view of a world object on which dispatch decides.  It is a snapshot handed
out by the world; its location is only an address and has to be looked up again.
-/

namespace TextWorld

/-- What dispatch knows of a world object. -/
structure Entity where
  id : EntityId
  /-- May evaluate code, and is shown failures in full. -/
  programmer : Bool := false
  /-- Where the entity is, if anywhere. -/
  location : Option EntityId := none
  /-- Takes the commands for which no verb was found. -/
  verbMissing : Bool := false
deriving DecidableEq, Inhabited

end TextWorld
