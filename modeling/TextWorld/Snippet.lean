import TextWorld.Entity.Id
import TextWorld.Text.Alphanumeric
import TextWorld.Text.Blank

/-!
# Snippets of code to evaluate

A programmer types free-standing statements and expects the value of the last
expression.  A snippet is read into pieces, without its comments; the pieces are
divided into statements at the semicolons outside strings and brackets; and the
statements are put into the body of a function that knows the programmer as
`player` and returns the last expression.
-/

namespace TextWorld.Snippet

open TextWorld.Text

/-- A character of a snippet that is not part of a comment. -/
inductive Piece where
  /-- Outside string literals. -/
  | code (character : Char)
  /-- In a string literal, its quotes included. -/
  | quoted (character : Char)
deriving DecidableEq

/-- The character of a piece. -/
def Piece.character : Piece → Char
  | .code character => character
  | .quoted character => character

/-- What kind of text a place in a snippet belongs to. -/
inductive Region where
  | code
  /-- A string that the given quote closes; `escaped` after a backslash. -/
  | string (quote : Char) (escaped : Bool)
  | lineComment
  /-- A comment that `*` and `/` close; `afterStar` when the `*`
  was just read. -/
  | blockComment (afterStar : Bool)
deriving DecidableEq

/-- Whether the character opens a string or a template literal. -/
def isQuote (character : Char) : Bool :=
  character == '"' || character == '\x27' || character == '\x60'

/-- The pieces of a text that starts in the given region.  In the place of a
comment stands a space, or the line break that ends it. -/
def pieces : Region → List Char → List Piece
  | _, [] => []
  | .code, '/' :: '/' :: rest => pieces .lineComment rest
  | .code, '/' :: '*' :: rest => pieces (.blockComment false) rest
  | .code, character :: rest =>
      if isQuote character then
        .quoted character :: pieces (.string character false) rest
      else
        .code character :: pieces .code rest
  | .string quote true, character :: rest =>
      .quoted character :: pieces (.string quote false) rest
  | .string quote false, character :: rest =>
      if character == '\\' then
        .quoted character :: pieces (.string quote true) rest
      else if character == quote then
        .quoted character :: pieces .code rest
      else
        .quoted character :: pieces (.string quote false) rest
  | .lineComment, character :: rest =>
      if character == '\n' then
        .code character :: pieces .code rest
      else
        pieces .lineComment rest
  | .blockComment afterStar, character :: rest =>
      if afterStar && character == '/' then
        .code ' ' :: pieces .code rest
      else
        pieces (.blockComment (character == '*')) rest

/-- Whether the character opens a bracket. -/
def isOpening (character : Char) : Bool :=
  character == '(' || character == '[' || character == '\x7b'

/-- Whether the character closes a bracket. -/
def isClosing (character : Char) : Bool :=
  character == ')' || character == ']' || character == '\x7d'

/--
The texts between the semicolons outside brackets, given how many brackets
are open and the text since the last such semicolon.  A closing bracket too
many changes nothing.
-/
def divide (depth : Nat) (current : List Char) : List Piece → List (List Char)
  | [] => [current]
  | .quoted character :: rest => divide depth (current ++ [character]) rest
  | .code character :: rest =>
      if isOpening character then
        divide (depth + 1) (current ++ [character]) rest
      else if isClosing character then
        divide (depth - 1) (current ++ [character]) rest
      else if character == ';' && depth == 0 then
        current :: divide 0 [] rest
      else
        divide depth (current ++ [character]) rest

/-- The statements of a snippet, without comments, surrounding blanks and
empty statements. -/
def statements (source : List Char) : List (List Char) :=
  ((divide 0 [] (pieces .code source)).map trim).filter (!·.isEmpty)

/-- The words that start a statement which is no expression. -/
def statementWords : List String :=
  [ "let", "const", "var", "if", "for", "while", "do", "return", "function",
    "class", "throw", "try", "switch", "break", "continue" ]

/-- Whether the character can stand in a name. -/
def isNameCharacter (character : Char) : Bool :=
  isAlphanumeric character || character == '_' || character == '$'

/-- Whether a statement can be returned: it is no block, and starts with no
statement word. -/
def isExpression (statement : List Char) : Bool :=
  match statement with
  | '\x7b' :: _ => false
  | _ =>
      !statementWords.contains
        (String.ofList (statement.takeWhile isNameCharacter))

/-- A statement as a line of the function body. -/
def statementLine (statement : List Char) : String :=
  "  " ++ String.ofList statement ++ ";\n"

/-- The last statement as a line of the function body; an
expression is returned. -/
def lastLine (statement : List Char) : String :=
  if isExpression statement then
    "  return (" ++ String.ofList statement ++ ");\n"
  else
    statementLine statement

/-- The lines of the function body. -/
def bodyLines : List (List Char) → List String
  | [] => []
  | [last] => [lastLine last]
  | statement :: rest => statementLine statement :: bodyLines rest

/-- What stands before the body of the function. -/
def opening : String := "(function (player) \x7b\n"

/-- What stands after the body of the function: its call with the player. -/
def closing (player : EntityId) : String := "\x7d)(" ++ player.text ++ ")"

/-- The code that evaluates a snippet for a player. -/
def unit (source : String) (player : EntityId) : String :=
  opening ++
    String.join (bodyLines (statements source.toList)) ++ closing player

/-- The label under which a snippet of the player runs. -/
def label (player : EntityId) : String :=
  "Eval::" ++ player.text

end TextWorld.Snippet
