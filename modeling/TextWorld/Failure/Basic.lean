import TextWorld.Entity.Id
import TextWorld.Text.Quoted

/-!
# Failures

What went wrong, and where.  A failure is shown in three ways: its message
alone, the full diagnostic that a programmer sees, and the report that is
written to the log.
-/

namespace TextWorld

open TextWorld.Text

/-- The kinds of failure, each with what it is about. -/
inductive Failure.Kind where
  /-- No object of the world has the id. -/
  | entityNotFound (id : EntityId)
  /-- The text is not a written id. -/
  | invalidEntityId (text : String)
  /-- World code that ran under the label failed. -/
  | script (label message : String)
  /-- A hook failed. -/
  | hook (name message : String)
  /-- Objects or a verb could not be matched. -/
  | resolution (message : String)
  /-- A literal or a fragment of code is malformed. -/
  | literal (message : String)
  /-- A state that should not have been reached. -/
  | internal (message : String)
deriving DecidableEq, Inhabited

/-- The stable name of a kind of failure. -/
def Failure.Kind.name : Failure.Kind → String
  | .entityNotFound _ => "EntityNotFound"
  | .invalidEntityId _ => "InvalidEntityId"
  | .script _ _ => "ScriptError"
  | .hook _ _ => "HookError"
  | .resolution _ => "ResolutionError"
  | .literal _ => "LiteralError"
  | .internal _ => "InternalError"

/-- The message of a failure of this kind. -/
def Failure.Kind.message : Failure.Kind → String
  | .entityNotFound id => "entity not found: " ++ id.text
  | .invalidEntityId text => "invalid entity id: " ++ quoted text
  | .script label message => message ++ " (in " ++ label ++ ")"
  | .hook name message => "hook " ++ name ++ " failed: " ++ message
  | .resolution message => "resolution failed: " ++ message
  | .literal message => "malformed literal: " ++ message
  | .internal message => "internal error: " ++ message

/-- Where a failure arose. -/
structure Failure.Context where
  /-- The label or file. -/
  source : Option String := none
  line : Option Nat := none
  column : Option Nat := none
  /-- The calls that were running, innermost first. -/
  stack : List String := []
deriving DecidableEq, Inhabited

/-- The context with one more call around it. -/
def Failure.Context.within (context : Failure.Context) (frame : String) :
    Failure.Context :=
  { context with stack := context.stack ++ [frame] }

/-- Whether there is neither a source nor a call to show. -/
def Failure.Context.isEmpty (context : Failure.Context) : Bool :=
  context.source.isNone && context.stack.isEmpty

/-- The line that shows the source; the position follows when line and column
are both known. -/
def Failure.Context.sourceLine (context : Failure.Context) : Option String :=
  context.source.map fun source =>
    match context.line, context.column with
    | some line, some column =>
        "    at " ++ source ++ ":" ++ decimal line ++ ":" ++ decimal column
    | _, _ => "    at " ++ source

/-- The line that shows one call. -/
def Failure.frameLine (frame : String) : String :=
  "    in " ++ frame

/-- The lines of a context: its source, if any, and then its calls. -/
def Failure.Context.lines (context : Failure.Context) : List String :=
  context.sourceLine.toList ++ context.stack.map Failure.frameLine

/-- The context as text, one line below the other. -/
def Failure.Context.text (context : Failure.Context) : String :=
  "\n".intercalate context.lines

/-- Something that went wrong. -/
structure Failure where
  kind : Failure.Kind
  context : Option Failure.Context := none
deriving DecidableEq, Inhabited

namespace Failure

/-- No object of the world has the id. -/
def entityNotFound (id : EntityId) : Failure :=
  ⟨.entityNotFound id, none⟩

/-- The text is not a written id. -/
def invalidEntityId (text : String) : Failure :=
  ⟨.invalidEntityId text, none⟩

/-- World code that ran under the label failed. -/
def script (label message : String) : Failure :=
  ⟨.script label message, none⟩

/-- A literal or a fragment of code is malformed. -/
def literal (message : String) : Failure :=
  ⟨.literal message, none⟩

/-- A state that should not have been reached. -/
def internal (message : String) : Failure :=
  ⟨.internal message, none⟩

/-- The message without name and context. -/
def message (failure : Failure) : String :=
  failure.kind.message

/-- The failure seen from the call that surrounds it. -/
def within (failure : Failure) (frame : String) : Failure :=
  { failure with context := some ((failure.context.getD {}).within frame) }

/-- Name and message on the first line, then the lines of the context
when it has any. -/
def diagnostic (failure : Failure) : String :=
  let head := failure.kind.name ++ ": " ++ failure.message
  match failure.context with
  | some context =>
      if context.isEmpty then
        head
      else
        head ++ "\n" ++ context.text
  | none => head

end Failure

/-- What the log is told about a failure. -/
structure Failure.Report where
  name : String
  message : String
  source : Option String
  /-- The calls that were running, innermost first. -/
  stack : List String
deriving DecidableEq

/-- The report of a failure; without a context it has no source and no calls. -/
def Failure.report (failure : Failure) : Failure.Report where
  name := failure.kind.name
  message := failure.message
  source := failure.context.bind (·.source)
  stack := (failure.context.map (·.stack)).getD []

end TextWorld
