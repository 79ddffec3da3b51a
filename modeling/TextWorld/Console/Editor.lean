/-!
# A scripted line editor

A line editor that returns given lines one after the other, and remembers the
history it is told.
-/

namespace TextWorld

/-- The lines that are still to come, and the history. -/
structure ScriptedEditor where
  lines : List String
  history : List String := []

namespace ScriptedEditor

/-- The next line, if there is one, and the editor after it. -/
def read (editor : ScriptedEditor) : Option String × ScriptedEditor :=
  match editor.lines with
  | [] => (none, editor)
  | line :: rest => (some line, { editor with lines := rest })

/-- The editor with one more line in its history. -/
def addHistory (editor : ScriptedEditor) (line : String) : ScriptedEditor :=
  { editor with history := editor.history ++ [line] }

end ScriptedEditor

end TextWorld
