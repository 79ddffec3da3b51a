import TextWorld.Command.Vocabulary

/-!
# Highlighting of typed lines

While a line is typed, its verb is shown bold, a leading shortcut magenta,
quoted text yellow and written ids cyan.  The line is first marked up with
the places where styles begin and end; the marks are then written as
terminal sequences.
-/

namespace TextWorld.Highlight

open TextWorld.Text

/-- The styles of a highlighted line. -/
inductive Ink where
  | bold
  | magenta
  | yellow
  | cyan
deriving DecidableEq

/-- A character of the line, or a place where a style begins or ends. -/
inductive Mark where
  | character (character : Char)
  | on (ink : Ink)
  | off
deriving DecidableEq

/-- The number of a style in terminal sequences. -/
def Ink.code : Ink → String
  | .bold => "1"
  | .magenta => "35"
  | .yellow => "33"
  | .cyan => "36"

/-- A mark as it is sent to the terminal. -/
def Mark.characters : Mark → List Char
  | .character shown => [shown]
  | .on ink => ("\x1b[" ++ ink.code ++ "m").toList
  | .off => "\x1b[0m".toList

/-- The characters, each on its own. -/
def plain (characters : List Char) : List Mark :=
  characters.map .character

/-- What the characters of a line belong to, after its verb. -/
inductive Region where
  | plain
  | quoted
  /-- In the digits of a written id. -/
  | entity
deriving DecidableEq

/-- Whether the characters start with a digit. -/
def startsWithDigit : List Char → Bool
  | [] => false
  | character :: _ => character.isDigit

/-- The marks of the part of a line after its verb. -/
def markRest : Region → List Char → List Mark
  | .plain, [] => []
  | _, [] => [.off]
  | .plain, character :: rest =>
      if character = '"' then
        .on .yellow :: .character character :: markRest .quoted rest
      else if character = '#' ∧ startsWithDigit rest then
        .on .cyan :: .character character :: markRest .entity rest
      else
        .character character :: markRest .plain rest
  | .quoted, '\\' :: next :: rest =>
      .character '\\' :: .character next :: markRest .quoted rest
  | .quoted, character :: rest =>
      if character = '"' then
        .character character :: .off :: markRest .plain rest
      else
        .character character :: markRest .quoted rest
  | .entity, character :: rest =>
      if startsWithDigit rest then
        .character character :: markRest .entity rest
      else
        .character character :: .off :: markRest .plain rest

/-- The marks of a line without leading blanks. -/
def markTrimmed (vocabulary : Vocabulary) (line : List Char) : List Mark :=
  let verb := line.takeWhile (!isBlank ·)
  let withVerb :=
    .on .bold :: plain verb ++ .off :: markRest .plain (line.drop verb.length)
  match line with
  | [] => withVerb
  | leader :: rest =>
      if (vocabulary.shortcut? leader).isSome then
        .on .magenta :: .character leader :: .off :: plain rest
      else
        withVerb

/-- The marks of a line. -/
def marks (vocabulary : Vocabulary) (line : List Char) : List Mark :=
  if line.isEmpty then
    []
  else
    plain (line.takeWhile isBlank) ++ markTrimmed vocabulary (trimStart line)

/-- The line with terminal sequences. -/
def highlight (vocabulary : Vocabulary) (line : String) : String :=
  String.ofList ((marks vocabulary line.toList).flatMap Mark.characters)

end TextWorld.Highlight
