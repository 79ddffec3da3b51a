import TextWorld.Table
import TextWorld.Text.Blank
import TextWorld.Text.Lowercase

/-!
# Vocabularies

What the command parser knows of words: phrases that count as prepositions, and
leading characters that stand for a whole verb.  Phrases are kept longest first,
so that of two phrases that match at the same word the longer one is found.
-/

namespace TextWorld

open TextWorld.Text

/-- Whether two texts are equal when the case of ASCII letters is ignored. -/
def equalIgnoringCase (left right : String) : Bool :=
  left.toList.map Char.toLower == right.toList.map Char.toLower

/-- A phrase of lower-case words. -/
structure Preposition where
  words : List String
deriving DecidableEq, Inhabited

namespace Preposition

/-- The phrase of the words of a text, put into lower case. -/
def ofPhrase (phrase : String) : Preposition :=
  ⟨(blankSeparated phrase).map lowercase⟩

/-- How many words the phrase has. -/
def length (preposition : Preposition) : Nat :=
  preposition.words.length

/-- Whether the phrase has no words. -/
def isEmpty (preposition : Preposition) : Bool :=
  preposition.words.isEmpty

/-- Whether the second list starts with the first, the case of ASCII
letters ignored. -/
def startsWith : List String → List String → Bool
  | [], _ => true
  | _ :: _, [] => false
  | expected :: others, word :: rest =>
      equalIgnoringCase expected word && startsWith others rest

/-- Whether the words start with the phrase; an empty phrase matches nowhere. -/
def matchesAt (preposition : Preposition) (words : List String) : Bool :=
  !preposition.isEmpty && startsWith preposition.words words

end Preposition

/-- The words and leading characters that a command parser knows. -/
structure Vocabulary where
  /-- The phrases, longest first. -/
  prepositions : List Preposition := []
  /-- The verbs of leading characters. -/
  shortcuts : Table Char String := []
deriving Inhabited

namespace Vocabulary

/-- The vocabulary without any words. -/
def empty : Vocabulary := {}

/-- The phrase put behind all phrases that are at least as long. -/
def insertByLength (preposition : Preposition) :
    List Preposition → List Preposition
  | [] => [preposition]
  | other :: rest =>
      if other.length < preposition.length then
        preposition :: other :: rest
      else
        other :: insertByLength preposition rest

/-- The vocabulary with one more phrase; a blank or known one
changes nothing. -/
def withPreposition (vocabulary : Vocabulary) (phrase : String) : Vocabulary :=
  let preposition := Preposition.ofPhrase phrase
  if preposition.isEmpty || vocabulary.prepositions.contains preposition then
    vocabulary
  else
    { vocabulary with
      prepositions := insertByLength preposition vocabulary.prepositions }

/-- The vocabulary with the phrases added in order. -/
def withPrepositions (vocabulary : Vocabulary)
    (phrases : List String) : Vocabulary :=
  phrases.foldl withPreposition vocabulary

/-- The vocabulary in which the leading character stands for the verb. -/
def withShortcut (vocabulary : Vocabulary) (leader : Char)
    (verb : String) : Vocabulary :=
  { vocabulary with shortcuts := vocabulary.shortcuts.set leader verb }

/-- The vocabulary without any leading characters. -/
def withoutShortcuts (vocabulary : Vocabulary) : Vocabulary :=
  { vocabulary with shortcuts := [] }

/-- The verb for which a leading character stands. -/
def shortcut? (vocabulary : Vocabulary) (leader : Char) : Option String :=
  vocabulary.shortcuts.get? leader

/-- The longest phrase that starts the words. -/
def prepositionAt? (vocabulary : Vocabulary) (words : List String) :
    Option Preposition :=
  vocabulary.prepositions.find? (·.matchesAt words)

/-- The first place at which a phrase matches, and the longest phrase there. -/
def findPreposition (vocabulary : Vocabulary) :
    List String → Option (Nat × Preposition)
  | [] => none
  | word :: rest =>
      match vocabulary.prepositionAt? (word :: rest) with
      | some preposition => some (0, preposition)
      | none =>
          (vocabulary.findPreposition rest).map fun (index, preposition) =>
            (index + 1, preposition)

/-- The customary prepositions of text worlds. -/
def customaryPrepositions : List String :=
  [ "with", "using", "at", "to", "in front of", "in", "inside", "into",
    "on top of", "on", "onto", "upon", "out of", "from inside", "from", "over",
    "through", "under", "underneath", "beneath", "behind", "beside", "for",
    "about", "is", "as", "off of", "off" ]

/-- The customary prepositions, and leading characters for speech, gesture
and evaluation. -/
def customary : Vocabulary :=
  (empty.withPrepositions customaryPrepositions)
    |>.withShortcut '"' "say"
    |>.withShortcut ':' "emote"
    |>.withShortcut ';' "eval"

end Vocabulary

end TextWorld
