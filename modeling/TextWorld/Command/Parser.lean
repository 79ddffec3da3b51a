import TextWorld.Command.Basic
import TextWorld.Command.Token
import TextWorld.Command.Vocabulary

/-!
# From a line to a command

Every line is some command.  A leading shortcut is written out first; the first
word is then the verb, and the first preposition among the other words divides
the direct from the indirect object.
-/

namespace TextWorld

open TextWorld.Text

/-- The line without leading blanks, its leading shortcut replaced by the
verb and a space. -/
def Vocabulary.expand (vocabulary : Vocabulary)
    (line : List Char) : List Char :=
  match trimStart line with
  | [] => []
  | leader :: rest =>
      match vocabulary.shortcut? leader with
      | some verb => verb.toList ++ ' ' :: rest
      | none => leader :: rest

namespace Command

/-- The words with a space between each two. -/
def joined (words : List String) : String :=
  " ".intercalate words

/-- The command of a verb, the text after it, and the words of that text. -/
def ofWords
    (vocabulary : Vocabulary)
    (verb argument : String)
    (words : List String) :
    Command :=
  match vocabulary.findPreposition words with
  | some (index, preposition) =>
      let after := index + preposition.length
      { verb
        argument
        directObject := joined (words.take index)
        preposition := joined ((words.take after).drop index)
        indirectObject := joined (words.drop after) }
  | none => { verb, argument, directObject := joined words }

/-- The command that a line stands for. -/
def parse (vocabulary : Vocabulary) (line : String) : Command :=
  let text := vocabulary.expand line.toList
  match Token.ofLine text with
  | [] => {}
  | first :: rest =>
      ofWords vocabulary first.text
        (String.ofList (trimStart (dropBytes first.stop text)))
        (rest.map (·.text))

end Command

end TextWorld
