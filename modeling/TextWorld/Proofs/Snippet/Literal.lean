import TextWorld.Proofs.Literal.Grammar
import TextWorld.Proofs.Snippet.Lines

/-!
# Literals as snippets

A literal is a snippet with a single statement, itself, and that is an
expression.  No escape has a space in it, so that a mark which starts with a
space occurs in the literal for a text only where it occurs in the text.
-/

namespace TextWorld.Snippet

open TextWorld.Json
open TextWorld.Literal
open TextWorld.Text

variable {mark content : List Char}

/-! ## Escapes -/

/-- A character stands for itself, or its escape has neither a space nor
another quote in it. -/
inductive Escaped (character : Char) : List Char → Prop where
  | plain (notQuote : character ≠ '"') (notBackslash : character ≠ '\\') :
      Escaped character [character]
  | escape {letter : Char} {digits : List Char}
      (noSpace : ' ' ∉ letter :: digits)
      (noEnd : ∀ digit ∈ digits, digit ≠ '"' ∧ digit ≠ '\\') :
      Escaped character ('\\' :: letter :: digits)

theorem escaped_escapeCharacter (character : Char) :
    Escaped character (escapeCharacter character) := by
  have kind := writtenAs_escapeCharacter character
  generalize escapeCharacter character = written at kind ⊢
  cases kind with
  | @letter letter meant =>
      have noSpace : ' ' ≠ letter := by
        rintro rfl
        cases meant
      exact .escape (by simp [noSpace]) (by simp)
  | number control =>
      have small :=
        Nat.lt_trans (toNat_lt_of_isControl control) (by decide : 0xA0 < 65536)
      rcases upperHexDigits_eq small with
        ⟨first, second, third, fourth, digits, value⟩
      have noSpace := ne_of_fourHexValue value (rfl : hexValue ' ' = none)
      have noQuote := ne_of_fourHexValue value (rfl : hexValue '"' = none)
      have noBackslash := ne_of_fourHexValue value (rfl : hexValue '\\' = none)
      rw [digits]
      refine .escape ?_ fun digit member =>
        ⟨noQuote digit member, noBackslash digit member⟩
      rw [List.mem_cons, not_or]
      exact ⟨by decide, fun member => noSpace ' ' member rfl⟩
  | plain notQuote notBackslash => exact .plain notQuote notBackslash

/-! ## Marks in literals -/

theorem prefix_of_prefix_escape
    (noEscape : ∀ character ∈ mark, character ≠ '"' ∧ character ≠ '\\')
    (starts : mark <+: content.flatMap escapeCharacter ++ ['"']) :
    mark <+: content := by
  induction content generalizing mark with
  | nil =>
      cases mark with
      | nil => exact List.nil_prefix
      | cons first others =>
          have same := (List.cons_prefix_cons.mp starts).1
          exact absurd same (noEscape first List.mem_cons_self).1
  | cons character rest inductive_step =>
      cases mark with
      | nil => exact List.nil_prefix
      | cons first others =>
          rw [List.flatMap_cons, List.append_assoc] at starts
          have later := fun other member =>
            noEscape other (List.mem_cons_of_mem first member)
          have kind := escaped_escapeCharacter character
          generalize escapeCharacter character = written at starts kind
          cases kind with
          | plain notQuote notBackslash =>
              rcases List.cons_prefix_cons.mp starts with ⟨rfl, remaining⟩
              exact List.cons_prefix_cons.mpr ⟨rfl,
                inductive_step later remaining⟩
          | escape noSpace noEnd =>
              have same := (List.cons_prefix_cons.mp starts).1
              exact absurd same (noEscape first List.mem_cons_self).2

theorem infix_of_infix_append
    {first : Char}
    {left right others : List Char}
    (absent : first ∉ left)
    (occurs : first :: others <:+: left ++ right) :
    first :: others <:+: right := by
  induction left with
  | nil => exact occurs
  | cons character rest inductive_step =>
      rcases List.infix_cons_iff.mp occurs with here | later
      · have same := (List.cons_prefix_cons.mp here).1
        exact absurd (same ▸ List.mem_cons_self) absent
      · exact inductive_step (fun member =>
            absent (List.mem_cons_of_mem _ member)) later

/-- A mark that starts with a space occurs between the quotes of a literal only
where it occurs in the text. -/
theorem infix_of_infix_escape
    (noEscape : ∀ character ∈ ' ' :: mark, character ≠ '"' ∧ character ≠ '\\')
    (occurs : ' ' :: mark <:+: content.flatMap escapeCharacter ++ ['"']) :
    ' ' :: mark <:+: content := by
  induction content with
  | nil =>
      have noQuote : ' ' ∉ ['"'] := by decide
      exact infix_of_infix_append noQuote occurs
  | cons character rest inductive_step =>
      have atStart (starts : ' ' :: mark <+:
            (character :: rest).flatMap escapeCharacter ++ ['"']) :
          ' ' :: mark <+: character :: rest :=
        prefix_of_prefix_escape noEscape starts
      rw [List.flatMap_cons, List.append_assoc] at occurs atStart
      have kind := escaped_escapeCharacter character
      generalize escapeCharacter character = written at occurs atStart kind
      cases kind with
      | plain notQuote notBackslash =>
          rcases List.infix_cons_iff.mp occurs with here | later
          · exact (atStart here).isInfix
          · exact (inductive_step later).trans
              (List.suffix_cons character rest).isInfix
      | @escape letter digits noSpace noEnd =>
          have absent : ' ' ∉ '\\' :: letter :: digits := by
            rintro member
            rcases List.mem_cons.mp member with same | member
            · cases same
            · exact noSpace member
          have later := infix_of_infix_append absent occurs
          exact (inductive_step later).trans
            (List.suffix_cons character rest).isInfix

/-! ## The statement of a literal -/

theorem pieces_string_cons
    {character : Char}
    (notQuote : character ≠ '"')
    (notBackslash : character ≠ '\\')
    (rest : List Char) :
    pieces (.string '"' false) (character :: rest) =
      .quoted character :: pieces (.string '"' false) rest := by
  simp [pieces, notQuote, notBackslash]

theorem pieces_string_append
    {digits : List Char}
    (noEnd : ∀ digit ∈ digits, digit ≠ '"' ∧ digit ≠ '\\')
    (rest : List Char) :
    pieces (.string '"' false) (digits ++ rest) =
      digits.map .quoted ++ pieces (.string '"' false) rest := by
  induction digits with
  | nil => rfl
  | cons digit others inductive_step =>
      rcases noEnd digit List.mem_cons_self with ⟨notQuote, notBackslash⟩
      have later :=
        fun other member => noEnd other (List.mem_cons_of_mem digit member)
      rw [List.cons_append, pieces_string_cons notQuote notBackslash,
        inductive_step later]
      rfl

theorem pieces_escape (content : List Char) :
    pieces (.string '"' false) (content.flatMap escapeCharacter ++ ['"']) =
      (content.flatMap escapeCharacter ++ ['"']).map .quoted := by
  induction content with
  | nil => rfl
  | cons character rest inductive_step =>
      rw [List.flatMap_cons, List.append_assoc, List.map_append,
        ← inductive_step]
      have kind := escaped_escapeCharacter character
      generalize escapeCharacter character = written at kind
      cases kind with
      | plain notQuote notBackslash =>
          exact pieces_string_cons notQuote notBackslash _
      | @escape letter digits noSpace noEnd =>
          have plain :=
            pieces_string_append noEnd (rest.flatMap escapeCharacter ++ ['"'])
          simp [pieces, plain]

theorem divide_quoted (depth : Nat) (current characters : List Char) :
    divide depth current (characters.map .quoted) =
      [current ++ characters] := by
  induction characters generalizing current with
  | nil => simp [divide]
  | cons character rest inductive_step =>
      rw [List.map_cons, divide, inductive_step, List.append_assoc]
      rfl

/-- A literal is a snippet of one statement. -/
theorem statements_escapeCharacters (content : List Char) :
    statements (escapeCharacters content) = [escapeCharacters content] := by
  have quoted :
      pieces .code (escapeCharacters content) =
        (escapeCharacters content).map .quoted := by
    rw [escapeCharacters, List.cons_append, List.map_cons, ← pieces_escape]
    simp [pieces, isQuote]
  have trimmed : trim (escapeCharacters content) = escapeCharacters content :=
    trim_eq_self rfl List.getLast?_concat (by decide) (by decide)
  have nonempty : (escapeCharacters content).isEmpty = false := rfl
  simp [statements, quoted, divide_quoted, trimmed, nonempty]

theorem isExpression_escapeCharacters (content : List Char) :
    isExpression (escapeCharacters content) = true := by
  have noName : isNameCharacter '"' = false := by decide
  simp [isExpression, escapeCharacters, noName, statementWords]

end TextWorld.Snippet
