import TextWorld.Proofs.Command.Phrases
import TextWorld.Proofs.Command.Shortcut

/-!
# The parts of a command

A command says all that its line says: its verb and its argument are the line,
from the first word on, and the words of the argument are those of its direct
object, its preposition and its indirect object, one after the other.  Only a
leading shortcut is replaced, by the word that it stands for.
-/

namespace TextWorld.Command

open TextWorld.Text

/-- The words are divided into these parts at the first preposition, the
longest one there. -/
structure Divided
    (vocabulary : Vocabulary)
    (words direct preposition indirect : List String) :
    Prop where
  words_eq : words = direct ++ preposition ++ indirect
  missing : preposition = [] → indirect = [] ∧ vocabulary.NoneFound words
  found : preposition ≠ [] → ∃ phrase, phrase.length = preposition.length ∧
    vocabulary.FoundAt words direct.length phrase

variable {vocabulary : Vocabulary} {line verb : String}
  {text behind rest : List Char} {leader : Char} {first : Token}
  {others : List Token}

/-- The words of a command are divided at the preposition. -/
theorem exists_divided
    (built : vocabulary.Built)
    (verb argument : String)
    (words : List String) :
    ∃ direct preposition indirect,
      Divided vocabulary words direct preposition indirect ∧
        ofWords vocabulary verb argument words =
          ⟨verb, argument, joined direct, joined preposition,
            joined indirect⟩ := by
  rw [ofWords]
  cases search : vocabulary.findPreposition words with
  | none =>
      refine ⟨words, [], [], ?_, rfl⟩
      exact
        { words_eq := by simp
          missing :=
            fun _ => ⟨rfl, Vocabulary.noneFound_of_findPreposition search⟩
          found := fun nonempty => absurd rfl nonempty }
  | some result =>
      rcases result with ⟨index, phrase⟩
      have foundAt :=
        Vocabulary.foundAt_of_findPreposition built.longestFirst search
      rcases Preposition.length_of_matchesAt foundAt.isMatch with
        ⟨positive, bounded⟩
      rw [List.length_drop] at bounded
      have directLength : (words.take index).length = index := by
        rw [List.length_take]
        omega
      have phraseLength :
          ((words.take (index + phrase.length)).drop index).length =
            phrase.length := by
        rw [List.length_drop, List.length_take]
        omega
      refine ⟨words.take index, (words.take (index + phrase.length)).drop index,
        words.drop (index + phrase.length), ⟨?_, ?_, ?_⟩, rfl⟩
      · have earlier : (words.take (index + phrase.length)).take index =
            words.take index := by
          rw [List.take_take,
            Nat.min_eq_left (Nat.le_add_right index phrase.length)]
        rw [← earlier, List.take_append_drop, List.take_append_drop]
      · intro nothing
        rw [nothing, List.length_nil] at phraseLength
        omega
      · intro _
        refine ⟨phrase, phraseLength.symm, ?_⟩
        rwa [directLength]

end TextWorld.Command
