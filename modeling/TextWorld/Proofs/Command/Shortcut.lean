import TextWorld.Command.Parser
import TextWorld.Proofs.Command.Words

/-!
# Lines that start with a shortcut

A leading character that stands for a verb is written out before the line is
divided into words.  When the verb is a plain word, the command has this verb,
and its argument is what was typed after the leading character.
-/

namespace TextWorld

open TextWorld.Text

/-- A word without blanks, quotes and backslashes. -/
def Token.PlainWord (word : List Char) : Prop :=
  word ≠ [] ∧ ∀ character ∈ word, isBlank character = false ∧ character ≠ '"' ∧
    character ≠ '\\'

variable {word : List Char} {character : Char}

/-! ## Words -/

theorem Token.spells_of_plain
    (plain : ∀ character ∈ word,
      isBlank character = false ∧ character ≠ '"' ∧ character ≠ '\\') :
    Spells false false word word := by
  induction word with
  | nil => exact .nil fun _ => rfl
  | cons first others inductive_step =>
      rcases plain first List.mem_cons_self with
        ⟨notBlank, notQuote, notBackslash⟩
      have later :=
        fun other member => plain other (List.mem_cons_of_mem first member)
      exact .plain notBackslash notQuote (by simp [notBlank])
        (inductive_step later)

/-- A plain word before a space is the first word of a line. -/
theorem Token.ofLine_append_space
    (plain : PlainWord word)
    (rest : List Char) :
    ofLine (word ++ ' ' :: rest) =
      ⟨String.ofList word, 0, byteLength word⟩ ::
        scan (byteLength word) none false (' ' :: rest) := by
  have ends : Ends false (' ' :: rest) := .blank (by decide)
  have read := (spells_of_plain plain.2).scan_none_append plain.1 ends 0
  rwa [Nat.zero_add] at read

/-! ## Commands -/

namespace Command

theorem ofWords_fields
    (vocabulary : Vocabulary)
    (verb argument : String)
    (words : List String) :
    (ofWords vocabulary verb argument words).verb = verb ∧
      (ofWords vocabulary verb argument words).argument = argument := by
  unfold ofWords
  split
  · exact ⟨rfl, rfl⟩
  · exact ⟨rfl, rfl⟩

/-- The command of a line that starts with a shortcut. -/
theorem parse_shortcut
    {vocabulary : Vocabulary}
    {line verb : String}
    {rest : List Char}
    (written : line.toList = character :: rest)
    (notBlank : isBlank character = false)
    (shortcut : vocabulary.shortcut? character = some verb)
    (plain : Token.PlainWord verb.toList) :
    (parse vocabulary line).verb = verb ∧
      (parse vocabulary line).argument = String.ofList (trimStart rest) := by
  have expanded :
      vocabulary.expand line.toList = verb.toList ++ ' ' :: rest := by
    rw [written, Vocabulary.expand, trimStart_cons_of_not_isBlank notBlank]
    simp only [shortcut]
  rw [parse, expanded]
  simp only [Token.ofLine_append_space plain, String.ofList_toList,
    dropBytes_append]
  rw [trimStart_cons_of_isBlank (by decide)]
  exact ofWords_fields _ _ _ _

end Command

end TextWorld
