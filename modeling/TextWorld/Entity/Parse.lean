import TextWorld.Failure.Basic

/-!
# Reading ids

A text is read as the id that it is the written form of, with zeros in front of
the number allowed.  Any other text is refused, and the failure names it.
-/

namespace TextWorld

/-- The id that the text is a written form of. -/
def EntityId.parse (text : String) : Except Failure EntityId :=
  match ofCharacters? text.toList with
  | some id => .ok id
  | none => .error (.invalidEntityId text)

end TextWorld
