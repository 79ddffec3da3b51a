import TextWorld.Entity.Id
import TextWorld.Table

/-!
# The registry of sessions

Which user embodies which entity.  Every entity has at most one entry.
-/

namespace TextWorld

/-- The users of live sessions, by the entity that each embodies. -/
structure Registry where
  entries : Table EntityId String := []
deriving DecidableEq, Inhabited

namespace Registry

/-- The user registered for an entity. -/
def user? (registry : Registry) (player : EntityId) : Option String :=
  registry.entries.get? player

/-- Whether a user is registered for an entity. -/
def contains (registry : Registry) (player : EntityId) : Bool :=
  registry.entries.contains player

/-- How many entities have users. -/
def size (registry : Registry) : Nat :=
  registry.entries.length

/-- The registry in which the entity has the given user. -/
def register (registry : Registry) (player : EntityId)
    (user : String) : Registry :=
  ⟨registry.entries.set player user⟩

/-- The registry without the entry for an entity. -/
def remove (registry : Registry) (player : EntityId) : Registry :=
  ⟨registry.entries.erase player⟩

/-- A registered entity has its user, and the others have theirs. -/
theorem user?_register (registry : Registry) (player other : EntityId)
    (user : String) :
    (registry.register player user).user? other =
      if player = other then some user else registry.user? other :=
  Table.get?_set registry.entries player other user

/-- A removed entity has no user, and the others have theirs. -/
theorem user?_remove (registry : Registry) (player other : EntityId) :
    (registry.remove player).user? other =
      if player = other then none else registry.user? other :=
  Table.get?_erase registry.entries player other

end Registry

end TextWorld
