import Mathlib.Data.List.Infix
import TextWorld.Proofs.Snippet.Lines
import TextWorld.Proofs.Snippet.Reading
import TextWorld.Proofs.Text.Marks

/-!
# No code is lost

A snippet is a sequence of strings, comments and single characters of code.  Its
statements, one after the other, are all its strings and all its code, except
for the semicolons that divide them.  Only blanks may differ, since statements
are trimmed and a comment may leave one in its place.
-/

namespace TextWorld.Snippet

open TextWorld.Text

/-! ## The grammar of snippets -/

/-- A part of a snippet as it is written. -/
inductive Lexeme where
  /-- A character outside strings and comments. -/
  | code (character : Char)
  /-- A string or template literal with its quotes. -/
  | string (written : List Char)
  | comment (written : List Char)

def Lexeme.written : Lexeme → List Char
  | .code character => [character]
  | .string written => written
  | .comment written => written

/-- What stands between two quotes: characters after backslashes, and others
that are no quote. -/
inductive Inside (quote : Char) : List Char → Prop where
  | nil : Inside quote []
  | plain {character : Char} {rest : List Char}
      (notBackslash : character ≠ '\\')
      (notQuote : character ≠ quote)
      (others : Inside quote rest) :
      Inside quote (character :: rest)
  | escaped {character : Char} {rest : List Char} (others : Inside quote rest) :
      Inside quote ('\\' :: character :: rest)

/-- The text is made up of these lexemes.  At its end a string or a comment
may be left open. -/
inductive Lexed : List Char → List Lexeme → Prop where
  | nil : Lexed [] []
  | code {character : Char} {rest : List Char} {lexemes : List Lexeme}
      (noQuote : character ∉ quotes)
      (noComment : character = '/' →
        ∀ next ∈ rest.head?, next ≠ '/' ∧ next ≠ '*')
      (others : Lexed rest lexemes) :
      Lexed (character :: rest) (.code character :: lexemes)
  | string {quote : Char} {inside rest : List Char} {lexemes : List Lexeme}
      (opens : quote ∈ quotes)
      (within : Inside quote inside)
      (others : Lexed rest lexemes) :
      Lexed (quote :: (inside ++ quote :: rest))
        (.string (quote :: (inside ++ [quote])) :: lexemes)
  | openString {quote : Char} {inside stop : List Char}
      (opens : quote ∈ quotes)
      (within : Inside quote inside)
      (stops : stop = [] ∨ stop = ['\\']) :
      Lexed (quote :: (inside ++ stop)) [.string (quote :: (inside ++ stop))]
  | lineComment {inside rest : List Char} {lexemes : List Lexeme}
      (within : '\n' ∉ inside)
      (ends : ∀ next ∈ rest.head?, next = '\n')
      (others : Lexed rest lexemes) :
      Lexed ('/' :: '/' :: (inside ++ rest))
        (.comment ('/' :: '/' :: inside) :: lexemes)
  | blockComment {inside rest : List Char} {lexemes : List Lexeme}
      (within : ¬ ['*', '/'] <:+: inside)
      (others : Lexed rest lexemes) :
      Lexed ('/' :: '*' :: (inside ++ '*' :: '/' :: rest))
        (.comment ('/' :: '*' :: (inside ++ ['*', '/'])) :: lexemes)
  | openComment {inside : List Char} (within : ¬ ['*', '/'] <:+: inside) :
      Lexed ('/' :: '*' :: inside) [.comment ('/' :: '*' :: inside)]

/-- How many brackets are open after a lexeme.  A closing bracket too many
leaves none open. -/
def Lexeme.depthAfter (depth : Nat) : Lexeme → Nat
  | .code character =>
      if character ∈ openingBrackets then
        depth + 1
      else if character ∈ closingBrackets then
        depth - 1
      else
        depth
  | _ => depth

/-- What is kept of a lexeme: no comment, and no semicolon outside brackets. -/
def Lexeme.kept (depth : Nat) : Lexeme → List Char
  | .code character => if character = ';' ∧ depth = 0 then [] else [character]
  | .string written => written
  | .comment _ => []

/-- What is kept of lexemes, the first of which stands in so many brackets. -/
def kept (depth : Nat) : List Lexeme → List Char
  | [] => []
  | lexeme :: rest => lexeme.kept depth ++ kept (lexeme.depthAfter depth) rest

/-- The characters that are not blank. -/
def withoutBlanks (text : List Char) : List Char :=
  text.filter (!isBlank ·)

variable {quote : Char} {source inside text rest : List Char}
  {lexemes : List Lexeme}

/-! ## Every text is made up of lexemes -/

theorem Lexed.flatMap_written (lexed : Lexed source lexemes) :
    lexemes.flatMap Lexeme.written = source := by
  induction lexed with
  | nil => rfl
  | code _ _ _ inductive_step => simp [inductive_step, Lexeme.written]
  | string _ _ _ inductive_step => simp [inductive_step, Lexeme.written]
  | openString => simp [Lexeme.written]
  | lineComment _ _ _ inductive_step => simp [inductive_step, Lexeme.written]
  | blockComment _ _ inductive_step => simp [inductive_step, Lexeme.written]
  | openComment => simp [Lexeme.written]

/-- After the quote, the text goes on in a string that is closed in it, or left
open at its end. -/
def StartsInString (quote : Char) (text : List Char) : Prop :=
  ∃ inside, Inside quote inside ∧
    ((∃ rest, text = inside ++ quote :: rest) ∨
      ∃ stop, text = inside ++ stop ∧ (stop = [] ∨ stop = ['\\']))

theorem StartsInString.cons
    {character : Char}
    (notBackslash : character ≠ '\\')
    (starts : StartsInString quote rest) :
    StartsInString quote (character :: rest) := by
  by_cases same : character = quote
  · subst same
    exact ⟨[], .nil, .inl ⟨rest, rfl⟩⟩
  · rcases starts with ⟨inside, within, ⟨after, rfl⟩ | ⟨stop, rfl, stops⟩⟩
    · exact ⟨character :: inside, .plain notBackslash same within,
        .inl ⟨after, rfl⟩⟩
    · exact ⟨character :: inside, .plain notBackslash same within,
        .inr ⟨stop, rfl, stops⟩⟩

theorem startsInString (quote : Char) (text : List Char) :
    StartsInString quote text := by
  have nothing : StartsInString quote [] := ⟨[], .nil, .inr ⟨[], rfl, .inl rfl⟩⟩
  induction text using List.twoStepInduction with
  | nil => exact nothing
  | singleton character =>
      by_cases backslash : character = '\\'
      · subst backslash
        exact ⟨[], .nil, .inr ⟨['\\'], rfl, .inr rfl⟩⟩
      · exact nothing.cons backslash
  | cons_cons character next others skip_step inductive_step =>
      by_cases backslash : character = '\\'
      · subst backslash
        rcases skip_step with
          ⟨inside, within, ⟨after, rfl⟩ | ⟨stop, rfl, stops⟩⟩
        · exact ⟨'\\' :: next :: inside, .escaped within, .inl ⟨after, rfl⟩⟩
        · exact ⟨'\\' :: next :: inside, .escaped within,
            .inr ⟨stop, rfl, stops⟩⟩
      · exact (inductive_step next).cons backslash

/-- A character starts a comment with the text after it, or it does not. -/
theorem comment_cases (character : Char) (text : List Char) :
    (character = '/' ∧ ∃ rest, text = '/' :: rest) ∨
      (character = '/' ∧ ∃ rest, text = '*' :: rest) ∨
      (character = '/' → ∀ next ∈ text.head?, next ≠ '/' ∧ next ≠ '*') := by
  cases text with
  | nil => exact .inr (.inr fun _ _ absurd => nomatch absurd)
  | cons next rest =>
      by_cases slash : character = '/' ∧ next = '/'
      · exact .inl ⟨slash.1, rest, by rw [slash.2]⟩
      · by_cases star : character = '/' ∧ next = '*'
        · exact .inr (.inl ⟨star.1, rest, by rw [star.2]⟩)
        · refine .inr (.inr ?_)
          rintro isSlash _ ⟨⟩
          exact ⟨fun same => slash ⟨isSlash, same⟩, fun same =>
              star ⟨isSlash, same⟩⟩

/-- A line comment ends before the first line break, or at the
end of the text. -/
theorem exists_lineComment (text : List Char) :
    ∃ inside rest, text = inside ++ rest ∧ '\n' ∉ inside ∧ ∀ next ∈ rest.head?,
      next = '\n' := by
  refine ⟨text.takeWhile (· != '\n'), text.dropWhile (· != '\n'),
    List.takeWhile_append_dropWhile.symm, ?_, ?_⟩
  · intro member
    cases List.mem_takeWhile_imp member
  · intro next starts
    have stops := List.head?_dropWhile_not (· != '\n') text
    rw [Option.mem_def.mp starts] at stops
    simpa using stops

/-- Every text can be read as lexemes. -/
theorem exists_lexed (source : List Char) :
    ∃ lexemes, Lexed source lexemes := by
  induction size : source.length using Nat.strongRecOn generalizing source with
  | ind size smaller =>
    subst size
    have later (rest : List Char) (shorter : rest.length < source.length) :
        ∃ lexemes, Lexed rest lexemes :=
      smaller rest.length shorter rest rfl
    cases source with
    | nil => exact ⟨[], .nil⟩
    | cons character text =>
        rcases comment_cases character text with
          ⟨rfl, body, rfl⟩ | ⟨rfl, body, rfl⟩ | noComment
        · rcases exists_lineComment body with ⟨inside, rest, rfl, within, ends⟩
          rcases later rest (by simp; omega) with ⟨lexemes, lexed⟩
          exact ⟨_, .lineComment within ends lexed⟩
        · by_cases closed : ['*', '/'] <:+: body
          · rcases exists_first_infix closed (by simp) with
              ⟨inside, rest, rfl, first⟩
            rcases later rest (by simp; omega) with ⟨lexemes, lexed⟩
            exact ⟨_, .blockComment first lexed⟩
          · exact ⟨_, .openComment closed⟩
        · by_cases opens : character ∈ quotes
          · rcases startsInString character text with
              ⟨inside, within, ⟨rest, rfl⟩ | ⟨stop, rfl, stops⟩⟩
            · rcases later rest (by simp; omega) with ⟨lexemes, lexed⟩
              exact ⟨_, .string opens within lexed⟩
            · exact ⟨_, .openString opens within stops⟩
          · rcases later text (by simp) with ⟨lexemes, lexed⟩
            exact ⟨_, .code opens noComment lexed⟩

/-! ## Reading a lexeme -/

theorem Inside.pieces_append (within : Inside quote inside) (rest : List Char) :
    pieces (.string quote false) (inside ++ rest) =
      inside.map .quoted ++ pieces (.string quote false) rest := by
  induction within with
  | nil => rfl
  | plain notBackslash notQuote _ inductive_step =>
      simp [pieces, notBackslash, notQuote, inductive_step]
  | escaped _ inductive_step => simp [pieces, inductive_step]

theorem pieces_lineComment_append (within : '\n' ∉ inside) (rest : List Char) :
    pieces .lineComment (inside ++ rest) = pieces .lineComment rest := by
  induction inside with
  | nil => rfl
  | cons character others inductive_step =>
      rw [List.mem_cons, not_or] at within
      simp [pieces, Ne.symm within.1, inductive_step within.2]

/-- The line break that ends a comment is code. -/
theorem pieces_lineComment_of_ends (ends : ∀ next ∈ rest.head?, next = '\n') :
    pieces .lineComment rest = pieces .code rest := by
  cases rest with
  | nil => rfl
  | cons next others =>
      cases ends next rfl
      simp [pieces, isQuote]

/-- Text in a block comment leaves nothing, and the comment goes
on behind it. -/
theorem exists_pieces_blockComment_append
    (afterStar : Bool)
    (within : ¬ ['*', '/'] <:+: inside)
    (noSlash : afterStar = true → ∀ next ∈ inside.head?, next ≠ '/') :
    ∃ last, ∀ rest,
      pieces (.blockComment afterStar) (inside ++ rest) =
        pieces (.blockComment last) rest := by
  induction inside generalizing afterStar with
  | nil => exact ⟨afterStar, fun _ => rfl⟩
  | cons character others inductive_step =>
      rw [List.infix_cons_iff, not_or] at within
      have stays : ¬ (afterStar && character == '/') = true := by
        rw [Bool.and_eq_true, beq_iff_eq]
        rintro ⟨star, slash⟩
        exact noSlash star character rfl slash
      have noSlashNext :
          (character == '*') = true → ∀ next ∈ others.head?, next ≠ '/' := by
        rintro star next starts rfl
        rcases List.head?_eq_some_iff.mp starts with ⟨more, rfl⟩
        apply within.1
        rw [beq_iff_eq.mp star]
        exact ⟨more, rfl⟩
      rcases inductive_step _ within.2 noSlashNext with ⟨last, goesOn⟩
      refine ⟨last, fun rest => ?_⟩
      rw [List.cons_append, pieces, if_neg stays, goesOn]

theorem pieces_blockComment_close (afterStar : Bool) (rest : List Char) :
    pieces (.blockComment afterStar) ('*' :: '/' :: rest) =
      .code ' ' :: pieces .code rest := by
  simp [pieces]

/-! ## What the statements keep -/

/-- A piece as a lexeme. -/
def Piece.lexeme : Piece → Lexeme
  | .code character => .code character
  | .quoted character => .string [character]

/-- A character of code divides a snippet, or it belongs to the part
that it is read in. -/
theorem divide_code (depth : Nat) (current : List Char) (character : Char)
    (rest : List Piece) :
    divide depth current (.code character :: rest) =
      if character = ';' ∧ depth = 0 then
        current :: divide 0 [] rest
      else
        divide ((Lexeme.code character).depthAfter depth)
          (current ++ [character]) rest := by
  by_cases divides : character = ';' ∧ depth = 0
  · rcases divides with ⟨rfl, rfl⟩
    rfl
  · have goesOn : ¬ (character == ';' && depth == 0) = true := by
      rwa [Bool.and_eq_true, beq_iff_eq, beq_iff_eq]
    rw [if_neg divides, divide, if_neg goesOn, Lexeme.depthAfter]
    simp only [isOpening_iff, isClosing_iff]
    split
    · rfl
    · split <;> rfl

/-- The parts of pieces are these pieces without the semicolons
that divide them. -/
theorem flatten_divide (depth : Nat) (current : List Char)
    (pieces : List Piece) :
    (divide depth current pieces).flatten =
      current ++ kept depth (pieces.map Piece.lexeme) := by
  induction pieces generalizing depth current with
  | nil => simp [divide, kept]
  | cons piece others inductive_step =>
      rw [List.map_cons, kept]
      cases piece with
      | quoted character =>
          rw [divide, inductive_step, List.append_assoc]
          rfl
      | code character =>
          rw [divide_code, Piece.lexeme, Lexeme.kept]
          split
          · next divides =>
              rcases divides with ⟨rfl, rfl⟩
              rw [List.flatten_cons, inductive_step]
              rfl
          · rw [inductive_step, List.append_assoc]

theorem withoutBlanks_append (text rest : List Char) :
    withoutBlanks (text ++ rest) = withoutBlanks text ++ withoutBlanks rest :=
  List.filter_append text rest

theorem withoutBlanks_of_allBlank (blank : AllBlank text) :
    withoutBlanks text = [] := by
  rw [withoutBlanks, List.filter_eq_nil_iff]
  intro character member
  simp [blank character member]

theorem withoutBlanks_trim (text : List Char) :
    withoutBlanks (trim text) = withoutBlanks text := by
  rcases exists_trim text with
    ⟨leading, trailing, leadingBlank, trailingBlank, parted⟩
  have same := congrArg withoutBlanks parted
  rw [withoutBlanks_append, withoutBlanks_append,
    withoutBlanks_of_allBlank leadingBlank,
    withoutBlanks_of_allBlank trailingBlank, List.nil_append,
    List.append_nil] at same
  exact same.symm

/-- Trimming the parts of a snippet and leaving out the empty ones
loses only blanks. -/
theorem withoutBlanks_statements (source : List Char) :
    withoutBlanks (statements source).flatten =
      withoutBlanks (kept 0 ((pieces .code source).map Piece.lexeme)) := by
  have parts := flatten_divide 0 [] (pieces .code source)
  rw [List.nil_append] at parts
  have trimmed : withoutBlanks ∘ trim = withoutBlanks :=
    funext withoutBlanks_trim
  rw [← parts, statements, List.flatten_filter_not_isEmpty]
  calc withoutBlanks ((divide 0 [] (pieces .code source)).map trim).flatten
    _ = (((divide 0 [] (pieces .code source)).map trim).map
      withoutBlanks).flatten :=
      List.filter_flatten
    _ = ((divide 0 [] (pieces .code source)).map withoutBlanks).flatten := by
      rw [List.map_map, trimmed]
    _ = withoutBlanks (divide 0 [] (pieces .code source)).flatten :=
      List.filter_flatten.symm

/-- The characters of a string are all kept. -/
theorem kept_string_append (depth : Nat) (text : List Char)
    (rest : List Piece) :
    kept depth ((text.map Piece.quoted ++ rest).map Piece.lexeme) =
      text ++ kept depth (rest.map Piece.lexeme) := by
  induction text with
  | nil => rfl
  | cons character others inductive_step =>
      exact congrArg (character :: ·) inductive_step

/-- The pieces of a text keep of it what its lexemes keep, but for blanks. -/
theorem Lexed.withoutBlanks_kept (lexed : Lexed source lexemes) (depth : Nat) :
    withoutBlanks (kept depth ((pieces .code source).map Piece.lexeme)) =
      withoutBlanks (kept depth lexemes) := by
  induction lexed generalizing depth with
  | nil => rfl
  | code noQuote noComment _ inductive_step =>
      rw [pieces_code noQuote fun same => noComment (Piece.code.inj same),
        List.map_cons, kept, kept, withoutBlanks_append, withoutBlanks_append,
        Piece.lexeme, inductive_step]
  | @string quote inside rest lexemes opens within _ inductive_step =>
      have read : pieces .code (quote :: (inside ++ quote :: rest)) =
          (quote :: (inside ++ [quote])).map .quoted ++ pieces .code rest := by
        rw [pieces_openString opens, within.pieces_append]
        simp [pieces, ne_backslash_of_mem_quotes opens]
      rw [read, kept_string_append, kept, withoutBlanks_append,
        withoutBlanks_append, inductive_step]
      rfl
  | @openString quote inside stop opens within stops =>
      have read : pieces .code (quote :: (inside ++ stop)) =
          (quote :: (inside ++ stop)).map .quoted ++ [] := by
        rw [pieces_openString opens, within.pieces_append]
        rcases stops with rfl | rfl <;> simp [pieces]
      rw [read, kept_string_append]
      rfl
  | lineComment within ends _ inductive_step =>
      rw [pieces, pieces_lineComment_append within,
        pieces_lineComment_of_ends ends, inductive_step]
      rfl
  | @blockComment inside rest lexemes within _ inductive_step =>
      rcases exists_pieces_blockComment_append false within (by simp) with
        ⟨last, goesOn⟩
      have space : withoutBlanks ((Piece.code ' ').lexeme.kept depth) = [] := by
        simp [Piece.lexeme, Lexeme.kept, withoutBlanks, isBlank]
      rw [pieces, goesOn, pieces_blockComment_close, List.map_cons, kept,
        withoutBlanks_append, space]
      exact inductive_step depth
  | @openComment inside within =>
      rcases exists_pieces_blockComment_append false within (by simp) with
        ⟨last, goesOn⟩
      have read := goesOn []
      rw [List.append_nil] at read
      rw [pieces, read]
      simp [pieces, kept, Lexeme.kept]

/--
Every snippet is made up of lexemes, and however it is read as such, its
statements, one after the other and without blanks, are the lexemes without
blanks, without the comments and without the semicolons outside brackets.  No
statement is empty, and none has blanks at its ends.
-/
theorem statements_keep_code (source : List Char) :
    (∃ lexemes, Lexed source lexemes) ∧
    (∀ lexemes, Lexed source lexemes →
      lexemes.flatMap Lexeme.written = source ∧
        withoutBlanks (statements source).flatten =
          withoutBlanks (kept 0 lexemes)) ∧
    ∀ statement ∈ statements source, Tight statement := by
  refine ⟨exists_lexed source, ?_, fun statement => tight_of_mem_statements⟩
  intro lexemes lexed
  have kept :=
    (withoutBlanks_statements source).trans (lexed.withoutBlanks_kept 0)
  exact ⟨lexed.flatMap_written, kept⟩

end TextWorld.Snippet
