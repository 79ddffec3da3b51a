import TextWorld.Proofs.Command.Words

/-!
# Words in quotes

Any words can be typed.  Between quotes, with a backslash in front of every
quote and backslash, a word is read as it is, whatever blanks or control
characters it has, and even when it is empty.
-/

namespace TextWorld.Token

open TextWorld.Text

/-- How a character of a word is written between quotes. -/
def quotedCharacter (character : Char) : List Char :=
  if character = '"' ∨ character = '\\' then ['\\', character] else [character]

/-- The word as it is written between quotes. -/
def quotedWord (word : String) : List Char :=
  '"' :: (word.toList.flatMap quotedCharacter ++ ['"'])

/-- What separates words: one blank or more. -/
structure Gap where
  characters : List Char
  nonempty : characters ≠ []
  blank : AllBlank characters

/-- The words in quotes, one after the other, with the first gap after
the first word. -/
def quotedLine : (gaps : Nat → Gap) → (words : List String) → List Char
  | _, [] => []
  | _, [word] => quotedWord word
  | gaps, word :: next :: rest =>
      quotedWord word ++
        ((gaps 0).characters ++ quotedLine (fun index => gaps (index + 1))
          (next :: rest))

variable {written text : List Char}

theorem Spells.quotedCharacter_append
    (spells : Spells false true written text)
    (character : Char) :
    Spells false true (quotedCharacter character ++ written)
      (character :: text) := by
  unfold quotedCharacter
  split
  · exact .escaped spells
  · next plain =>
      rw [not_or] at plain
      exact .plain plain.2 plain.1 (fun _ => rfl) spells

/-- A word in quotes spells the word. -/
theorem spells_quotedWord (word : String) :
    Spells false false (quotedWord word) word.toList := by
  have closing : Spells false true ['"'] [] := .quote (.nil fun _ => rfl)
  refine .quote ?_
  induction word.toList with
  | nil => exact closing
  | cons character rest inductive_step =>
      rw [List.flatMap_cons, List.append_assoc]
      exact inductive_step.quotedCharacter_append character

theorem Gap.ends_append (gap : Gap) (rest : List Char) :
    Ends false (gap.characters ++ rest) := by
  rcases List.exists_cons_of_ne_nil gap.nonempty with ⟨first, others, same⟩
  have blank := gap.blank
  rw [same] at blank ⊢
  exact .blank (blank first List.mem_cons_self)

theorem texts_scan_quotedLine (offset : Nat) (gaps : Nat → Gap)
    (words : List String) :
    (scan offset none false (quotedLine gaps words)).map (·.text) = words := by
  induction words generalizing offset gaps with
  | nil => rw [quotedLine, scan_nil, finish, List.map_nil]
  | cons word rest inductive_step =>
      have nonempty : quotedWord word ≠ [] := List.cons_ne_nil _ _
      cases rest with
      | nil =>
          have read := (spells_quotedWord word).ofEnd.scan_none_append
            nonempty .line offset
          rw [List.append_nil, scan_nil] at read
          rw [quotedLine, read]
          simp [finish]
      | cons next others =>
          have ends := (gaps 0).ends_append
          rw [quotedLine,
            (spells_quotedWord word).scan_none_append nonempty (ends _),
            scan_none_append (gaps 0).blank, List.map_cons, inductive_step,
            String.ofList_toList]

/-- Words in quotes are the words of their line, whatever blanks
separate them. -/
theorem wordsOfLine_quotedLine (gaps : Nat → Gap) (words : List String) :
    wordsOfLine (quotedLine gaps words) = words :=
  texts_scan_quotedLine 0 gaps words

end TextWorld.Token
