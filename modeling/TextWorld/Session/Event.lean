import TextWorld.Json.Quote
import TextWorld.Json.Tree

/-!
# Events of a session

What a session sends to the connection of its user: lines of output, and
changes of the prompt.  An event is written as a JSON object that names its
kind and holds its text.
-/

namespace TextWorld

/-- Something a session sends to its user. -/
inductive Event where
  | output (text : String)
  /-- The prompt of the given user is to be shown. -/
  | setPrompt (user : String)
deriving DecidableEq, Inhabited

namespace Event

/-- The kinds of event. -/
inductive Kind where
  | output
  | setPrompt
deriving DecidableEq

/-- The written name of a kind. -/
def Kind.name : Kind → String
  | .output => "output"
  | .setPrompt => "set-prompt"

/-- The event of a kind with the given text. -/
def ofKind : Kind → String → Event
  | .output, text => .output text
  | .setPrompt, user => .setPrompt user

/-- The kind of an event. -/
def kind : Event → Kind
  | .output _ => .output
  | .setPrompt _ => .setPrompt

/-- The text of an event. -/
def data : Event → String
  | .output text => text
  | .setPrompt user => user

/-- The line of output, if the event is one. -/
def output? : Event → Option String
  | .output text => some text
  | .setPrompt _ => none

/-- The event as compact JSON text. -/
def jsonText (event : Event) : String :=
  Json.object [("type", Json.quote event.kind.name),
    ("data", Json.quote event.data)]

/-- The kind of the given name. -/
def Kind.ofName? (name : String) : Option Kind :=
  [Kind.output, Kind.setPrompt].find? (·.name == name)

/-- The kind that a tree names, as a string or as the only key of an object
without content. -/
def Kind.ofTree? : Json.Tree → Option Kind
  | .string (some name) => Kind.ofName? name
  | .object [(some name, .null)] => Kind.ofName? name
  | _ => none

/-- Reads an event from a JSON tree: an object that may have other members, or
an array of two strings. -/
def ofTree? : Json.Tree → Option Event
  | .object given => do
      let members ← Json.Tree.keyed? given
      let kind ← (← Json.Tree.uniqueMember "type" members)
      let data ← (← Json.Tree.uniqueMember "data" members)
      return ofKind (← Kind.ofTree? kind) (← data.string?)
  | .array [.string (some name), data] => do
      return ofKind (← Kind.ofName? name) (← data.string?)
  | _ => none

/-- Reads an event from JSON text. -/
def ofJsonText? (text : String) : Option Event :=
  (Json.Tree.ofText? text).bind ofTree?

end Event

end TextWorld
