import TextWorld.Command.Basic
import TextWorld.Literal
import TextWorld.Text.Search

/-!
# Verb calls as code

A verb that was found is run by handing the world a fragment of code such
as `#12["look"](#7, void 0, #42, "look", "at #42", "", "at", "#42")`.  Its
arguments are the player, the direct and the indirect object, and the five
texts of the command.  A role to which nothing is bound is written
`void 0`, which is no written id.  The world decodes the fragment; between
the tokens it allows blanks.
-/

namespace TextWorld

open TextWorld.Text

/-- What stands for an object role without an entity. -/
def voidText : String := "void 0"

/-- The written form of an object role. -/
def objectText : Option EntityId → String
  | some id => id.text
  | none => voidText

/-- A verb call with everything bound. -/
structure VerbCall where
  /-- The entity on which the verb is invoked. -/
  owner : EntityId
  verb : String
  player : EntityId
  direct : Option EntityId
  indirect : Option EntityId
  command : Command
deriving DecidableEq, Inhabited

namespace VerbCall

/-- The call of a resolved command. -/
def ofBinding
    (binding : VerbBinding)
    (player : EntityId)
    (objects : BoundObjects)
    (command : Command) :
    VerbCall where
  owner := binding.owner
  verb := binding.verb
  player := player
  direct := objects.direct
  indirect := objects.indirect
  command := command

/-- The written arguments, in call order. -/
def arguments (call : VerbCall) : List String :=
  [call.player.text, objectText call.direct, objectText call.indirect] ++
    call.command.fields.map Literal.escape

/-- The call as a fragment of code. -/
def code (call : VerbCall) : String :=
  call.owner.text ++ "[" ++ Literal.escape call.verb ++ "](" ++
    ", ".intercalate call.arguments ++ ")"

/-- The label under which the call runs. -/
def label (call : VerbCall) : String :=
  "Verb::" ++ call.owner.text ++ "." ++ call.verb

/-! ## Decoding -/

/-- The failure of a fragment in which something else was expected
before the rest. -/
def unexpected (source : List Char) (expected : String)
    (rest : List Char) : Failure :=
  let offset := byteLength source - byteLength rest
  .literal <|
    "expected " ++ expected ++ " at offset " ++ decimal offset ++ " in " ++
      quoted (String.ofList source)

/-- Reads the given token. -/
def readToken (source : List Char) (token : String) (characters : List Char) :
    Except Failure (List Char) :=
  let text := trimStart characters
  match after? token.toList text with
  | some rest => .ok rest
  | none => .error (unexpected source (quoted token) text)

/-- What stands before and after an offset in bytes.  No text can be cut
inside a character. -/
def cutAt (offset : Nat) (text : List Char) :
    Except Failure (List Char × List Char) :=
  match splitAtByte? offset text with
  | some parts => .ok parts
  | none => .error (.internal "the offset is not between two characters")

/-- Reads a written id. -/
def readEntity (source characters : List Char) :
    Except Failure (EntityId × List Char) :=
  let text := trimStart characters
  match EntityId.tokenLength? text with
  | none => .error (unexpected source "entity literal" text)
  | some length => do
      let (token, rest) ← cutAt length text
      match EntityId.ofCharacters? token with
      | some id => return (id, rest)
      | none => throw (unexpected source "entity literal" text)

/-- Reads the written form of an object role. -/
def readObject (source characters : List Char) :
    Except Failure (Option EntityId × List Char) :=
  let text := trimStart characters
  match after? voidText.toList text with
  | some rest => .ok (none, rest)
  | none => do
      let (id, rest) ← readEntity source text
      return (some id, rest)

/-- Reads a literal. -/
def readLiteral (source characters : List Char) :
    Except Failure (String × List Char) :=
  let text := trimStart characters
  match Literal.literalLength (String.ofList text) with
  | none => .error (unexpected source "string literal" text)
  | some length => do
      let (token, rest) ← cutAt length text
      let value ← Literal.decode (String.ofList token)
      return (value, rest)

/-- Reads a comma and a literal. -/
def readField (source characters : List Char) :
    Except Failure (String × List Char) := do
  let rest ← readToken source "," characters
  readLiteral source rest

/-- Reads the fragment of code for a call. -/
def decode (code : String) : Except Failure VerbCall := do
  let source := trim code.toList
  let (owner, rest) ← readEntity source source
  let rest ← readToken source "[" rest
  let (verb, rest) ← readLiteral source rest
  let rest ← readToken source "](" rest
  let (player, rest) ← readEntity source rest
  let rest ← readToken source "," rest
  let (direct, rest) ← readObject source rest
  let rest ← readToken source "," rest
  let (indirect, rest) ← readObject source rest
  let (verbWord, rest) ← readField source rest
  let (argument, rest) ← readField source rest
  let (directObject, rest) ← readField source rest
  let (preposition, rest) ← readField source rest
  let (indirectObject, rest) ← readField source rest
  let rest ← readToken source ")" rest
  let rest := trimStart rest
  if rest.isEmpty then
    return {
      owner, verb, player, direct, indirect
      command :=
        { verb := verbWord, argument, directObject, preposition,
          indirectObject } }
  else
    throw (unexpected source "end of fragment" rest)

end VerbCall

end TextWorld
