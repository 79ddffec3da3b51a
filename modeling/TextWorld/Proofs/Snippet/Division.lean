import Mathlib.Data.List.Induction
import TextWorld.Proofs.Snippet.Lines
import TextWorld.Proofs.Snippet.Reading

/-!
# The parts of a snippet

A snippet with nested brackets is divided at exactly those semicolons that have
nested brackets before them, so that the brackets of every part are nested as
well.  The statements are these parts without the blanks at their ends.
-/

namespace TextWorld.Snippet

open TextWorld.Text

/-- No semicolon outside strings and brackets occurs in the pieces. -/
def Undivided (part : List Piece) : Prop :=
  ∀ before after, part = before ++ .code ';' :: after → ¬ Nested before

/-- The pieces are divided into parts by the semicolons outside
strings and brackets. -/
inductive Divided :
    (pieces : List Piece) → (parts : List (List Piece)) → Prop where
  | last {part : List Piece} (nested : Nested part)
      (undivided : Undivided part) :
      Divided part [part]
  | cons {part rest : List Piece} {parts : List (List Piece)}
      (nested : Nested part)
      (undivided : Undivided part)
      (others : Divided rest parts) :
      Divided (part ++ .code ';' :: rest) (part :: parts)

variable {expected : List Char} {current part rest : List Piece}
  {parts : List (List Piece)} {piece : Piece} {character : Char}
  {source : List Char}

/-- The pieces so far leave the given brackets to be closed. -/
def Leaves (expected : List Char) (current : List Piece) : Prop :=
  ∀ rest, closes [] (current ++ rest) = closes expected rest

theorem leaves_nil : Leaves [] [] := fun _ => rfl

theorem Leaves.nested_iff (leaves : Leaves expected current) :
    Nested current ↔ expected = [] := by
  have here := leaves []
  rw [List.append_nil, closes_nil] at here
  rw [nested_iff_closes, here, List.isEmpty_iff]

theorem Leaves.concat
    {remaining : List Char}
    (leaves : Leaves expected current)
    (step : ∀ rest, closes expected (piece :: rest) = closes remaining rest) :
    Leaves remaining (current ++ [piece]) := by
  intro rest
  rw [List.append_assoc, leaves]
  exact step rest

theorem undivided_nil : Undivided [] := by
  intro before after parted
  cases before <;> cases parted

theorem Undivided.concat
    (undivided : Undivided current)
    (nestedNot : piece = .code ';' → ¬ Nested current) :
    Undivided (current ++ [piece]) := by
  intro before after parted
  rcases List.eq_nil_or_concat after with rfl | ⟨others, last, rfl⟩
  · rcases List.append_inj' parted rfl with ⟨rfl, same⟩
    cases same
    exact nestedNot rfl
  · rw [List.concat_eq_append, ← List.cons_append,
      ← List.append_assoc] at parted
    exact undivided before others (List.append_inj' parted rfl).1

/-! ## One piece after the other -/

/-- The piece belongs to the part that it is read in, and changes which
brackets are expected. -/
structure Continues (expected : List Char) (piece : Piece)
    (remaining : List Char) : Prop where
  closes_cons : ∀ rest, closes expected (piece :: rest) = closes remaining rest
  divide_cons : ∀ current rest,
    divide expected.length current (piece :: rest) =
      divide remaining.length (current ++ [piece.character]) rest
  not_dividing : piece = .code ';' → expected ≠ []

theorem continues_opening (opens : character ∈ openingBrackets) :
    Continues expected (.code character) (closer character :: expected) where
  closes_cons _ := closes_opening opens
  divide_cons current rest := by
    rw [divide, if_pos (isOpening_iff.mpr opens)]
    rfl
  not_dividing := by
    rintro ⟨⟩
    exact absurd opens (by decide)

theorem continues_closing (closing : character ∈ closingBrackets) :
    Continues (character :: expected) (.code character) expected where
  closes_cons rest := by
    rw [closes_closing_cons closing, beq_self_eq_true, Bool.true_and]
  divide_cons current rest := by
    rw [divide,
      if_neg (mt isOpening_iff.mp (notMem_opening_of_closing closing)),
      if_pos (isClosing_iff.mpr closing)]
    rfl
  not_dividing _ := List.cons_ne_nil character expected

theorem continues_other
    (noBracket : (Piece.code character).isBracket = false)
    (notDividing : character = ';' → expected ≠ []) :
    Continues expected (.code character) expected where
  closes_cons _ := closes_other noBracket
  divide_cons current rest := by
    rcases isBracket_code_eq_false_iff.mp noBracket with
      ⟨notOpening, notClosing⟩
    have goesOn : ¬ (character == ';' && expected.length == 0) = true := by
      rw [Bool.and_eq_true, beq_iff_eq, beq_iff_eq, List.length_eq_zero_iff]
      rintro ⟨semicolon, nothing⟩
      exact notDividing semicolon nothing
    rw [divide, if_neg (mt isOpening_iff.mp notOpening),
      if_neg (mt isClosing_iff.mp notClosing), if_neg goesOn]
    rfl
  not_dividing same := by
    cases same
    exact notDividing rfl

/-- A piece belongs to its part, unless it is a semicolon outside brackets. -/
theorem continues_or_divides (closed : closes expected (piece :: rest) = true) :
    (∃ remaining, Continues expected piece remaining) ∨
      piece = .code ';' ∧ expected = [] := by
  cases piece with
  | quoted character =>
      exact .inl ⟨expected, fun _ => rfl, fun _ _ => rfl, by rintro ⟨⟩⟩
  | code character =>
      cases noBracket : (Piece.code character).isBracket with
      | false =>
          by_cases divides : character = ';' ∧ expected = []
          · exact .inr (divides.imp_left (congrArg Piece.code))
          · exact .inl ⟨expected,
              continues_other noBracket fun semicolon nothing =>
                divides ⟨semicolon, nothing⟩⟩
      | true =>
          rcases List.mem_append.mp (of_decide_eq_true noBracket) with
            opens | closing
          · exact .inl ⟨_, continues_opening opens⟩
          · cases expected with
            | nil =>
                rw [closes_closing_nil closing] at closed
                cases closed
            | cons innermost outer =>
                rw [closes_closing_cons closing, Bool.and_eq_true,
                  beq_iff_eq] at closed
                rcases closed with ⟨rfl, -⟩
                exact .inl ⟨outer, continues_closing closing⟩

/-- Dividing goes on as it does from the start, with the pieces
so far in front. -/
theorem exists_divided_append
    (leaves : Leaves expected current)
    (undivided : Undivided current)
    (closed : closes expected rest = true) :
    ∃ parts, Divided (current ++ rest) parts ∧
      divide expected.length (characters current) rest =
        parts.map characters := by
  induction rest generalizing expected current with
  | nil =>
      have nothing : expected = [] := List.isEmpty_iff.mp closed
      refine ⟨[current], ?_, rfl⟩
      rw [List.append_nil]
      exact .last (leaves.nested_iff.mpr nothing) undivided
  | cons piece others inductive_step =>
      rcases continues_or_divides closed with
        ⟨remaining, continues⟩ | ⟨rfl, rfl⟩
      · have notDividing : piece = .code ';' → ¬ Nested current := by
          intro semicolon nested
          exact continues.not_dividing semicolon (leaves.nested_iff.mp nested)
        rw [continues.closes_cons] at closed
        rcases inductive_step (leaves.concat continues.closes_cons)
          (undivided.concat notDividing)
          closed with ⟨parts, divided, same⟩
        refine ⟨parts, ?_, ?_⟩
        · rwa [List.append_assoc] at divided
        · rw [continues.divide_cons, ← same, characters_append]
          rfl
      · rcases inductive_step leaves_nil undivided_nil closed with
          ⟨parts, divided, same⟩
        refine ⟨current :: parts, ?_, ?_⟩
        · exact .cons (leaves.nested_iff.mpr rfl) undivided divided
        · exact congrArg (characters current :: ·) same

theorem exists_divided {pieces : List Piece} (nested : Nested pieces) :
    ∃ parts, Divided pieces parts ∧ divide 0 [] pieces = parts.map characters :=
  exists_divided_append leaves_nil undivided_nil (nested_iff_closes.mp nested)

/-- The statements of a snippet with nested brackets are its parts, trimmed. -/
theorem exists_divided_statements (nested : Nested (pieces .code source)) :
    ∃ parts, Divided (pieces .code source) parts ∧
      statements source =
        (parts.map fun part => trim (characters part)).filter (!·.isEmpty) := by
  rcases exists_divided nested with ⟨parts, divided, same⟩
  refine ⟨parts, divided, ?_⟩
  rw [statements, same, List.map_map]
  rfl

/-! ## Each part on its own -/

/-- The pieces are read from their characters, and their brackets are nested. -/
structure Sound (pieces : List Piece) : Prop where
  legible : Legible .code pieces
  nested : Nested pieces

theorem Divided.sound
    (divided : Divided rest parts)
    (legible : Legible .code rest) :
    ∀ part ∈ parts, Sound part := by
  induction divided with
  | last nested _ =>
      intro part member
      rw [List.mem_singleton.mp member]
      exact ⟨legible, nested⟩
  | cons nested _ _ inductive_step =>
      rcases legible.of_append_code with ⟨here, later⟩
      intro part member
      rcases List.mem_cons.mp member with rfl | member
      · exact ⟨here, nested⟩
      · exact inductive_step later part member

theorem isBracket_of_isBlank (blank : isBlank piece.character = true) :
    piece.isBracket = false := by
  cases piece with
  | quoted _ => rfl
  | code _ => exact isBracket_code_of (by decide) blank

theorem nested_of_allBlank (blank : AllBlank (characters rest)) :
    Nested rest := by
  apply nested_of_noBracket
  intro piece member
  exact isBracket_of_isBlank (blank _ (List.mem_map_of_mem member))

/-- Trimmed sound pieces are sound. -/
theorem Sound.exists_trim (sound : Sound part) :
    ∃ rest, characters rest = trim (characters part) ∧ Sound rest := by
  rcases exists_trimmed part with
    ⟨before, trimmed, after, rfl, same, blank, blankToo⟩
  have inside := (nested_of_allBlank blank).of_append sound.nested
  have nested := (nested_of_allBlank blankToo).of_append_right inside
  rcases (legible_iff.mp sound.legible).of_trimmed blank blankToo with
    ⟨_, through, outside⟩
  obtain rfl := outside rfl
  exact ⟨trimmed, same, legible_iff.mpr through, nested⟩

/-- A statement of a well-formed snippet is read as it stands. -/
theorem exists_sound_of_mem_statements
    (wellFormed : WellFormed source)
    {statement : List Char}
    (member : statement ∈ statements source) :
    ∃ rest, characters rest = statement ∧ Sound rest := by
  have legible : Legible .code (pieces .code source) :=
    legible_pieces (Region.quoted_of_isString rfl) wellFormed.closed
  rcases exists_divided_statements wellFormed.nested with ⟨parts, divided, same⟩
  rw [same] at member
  rcases List.mem_map.mp (List.mem_filter.mp member).1 with ⟨part, isPart, rfl⟩
  exact (divided.sound legible part isPart).exists_trim

end TextWorld.Snippet
