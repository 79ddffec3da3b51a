import TextWorld.Snippet

/-!
# Nested brackets

The brackets of a snippet are nested when each one is closed by its counterpart,
with nested brackets between the two.  Which bracket closes which is then
settled: reading from left to right with a stack of the brackets still to be
closed finds the same pairs.
-/

namespace TextWorld.Snippet

/-- The characters that open and close strings and template literals. -/
def quotes : List Char := ['"', '\x27', '\x60']

/-- The brackets that open. -/
def openingBrackets : List Char := ['(', '[', '\x7b']

/-- The brackets that close. -/
def closingBrackets : List Char := [')', ']', '\x7d']

/-- The bracket that closes an opening one. -/
def closer : Char → Char
  | '(' => ')'
  | '[' => ']'
  | _ => '\x7d'

/-- Whether the piece is a bracket outside strings. -/
def Piece.isBracket : Piece → Bool
  | .code character => character ∈ openingBrackets ++ closingBrackets
  | .quoted _ => false

/-- Every bracket outside strings is closed by its counterpart, and nothing
else is closed. -/
inductive Nested : List Piece → Prop where
  | nil : Nested []
  | other {piece : Piece} {rest : List Piece}
      (noBracket : piece.isBracket = false)
      (others : Nested rest) :
      Nested (piece :: rest)
  | bracket {character : Char} {inside after : List Piece}
      (opens : character ∈ openingBrackets)
      (within : Nested inside)
      (others : Nested after) :
      Nested (.code character :: (inside ++ .code (closer character) :: after))

/-- Whether the pieces close the brackets that are expected to be closed, the
innermost first, and all that they open themselves. -/
def closes (expected : List Char) : List Piece → Bool
  | [] => expected.isEmpty
  | .quoted _ :: rest => closes expected rest
  | .code character :: rest =>
      if character ∈ openingBrackets then
        closes (closer character :: expected) rest
      else if character ∈ closingBrackets then
        expected.head? == some character && closes expected.tail rest
      else
        closes expected rest

variable {character : Char} {piece : Piece} {expected : List Char}
  {inside rest : List Piece}

theorem isQuote_iff : isQuote character = true ↔ character ∈ quotes := by
  simp [isQuote, quotes, or_assoc]

theorem isQuote_eq_false_iff :
    isQuote character = false ↔ character ∉ quotes := by
  rw [← isQuote_iff, Bool.not_eq_true]

theorem isOpening_iff :
    isOpening character = true ↔ character ∈ openingBrackets := by
  simp [isOpening, openingBrackets, or_assoc]

theorem isClosing_iff :
    isClosing character = true ↔ character ∈ closingBrackets := by
  simp [isClosing, closingBrackets, or_assoc]

theorem notMem_opening_of_closing (closing : character ∈ closingBrackets) :
    character ∉ openingBrackets := by
  simp only [closingBrackets, List.mem_cons, List.not_mem_nil,
    or_false] at closing
  rcases closing with rfl | rfl | rfl <;> decide

theorem closer_mem (opens : character ∈ openingBrackets) :
    closer character ∈ closingBrackets := by
  simp only [openingBrackets, List.mem_cons, List.not_mem_nil,
    or_false] at opens
  rcases opens with rfl | rfl | rfl <;> decide

/-- A character of code is no bracket if it is none that opens and
none that closes. -/
theorem isBracket_code_eq_false_iff :
    (Piece.code character).isBracket = false ↔
      character ∉ openingBrackets ∧ character ∉ closingBrackets := by
  rw [Piece.isBracket, decide_eq_false_iff_not, List.mem_append, not_or]

/-- No character of a kind that no bracket has is a bracket. -/
theorem isBracket_code_of
    {kind : Char → Bool}
    (none : (openingBrackets ++ closingBrackets).all (!kind ·) = true)
    (isKind : kind character = true) :
    (Piece.code character).isBracket = false := by
  cases bracket : (Piece.code character).isBracket with
  | false => rfl
  | true =>
      have member : character ∈ openingBrackets ++ closingBrackets :=
        of_decide_eq_true bracket
      have absent := List.all_eq_true.mp none character member
      rw [isKind] at absent
      cases absent

/-! ## One step of the reader -/

@[simp]
theorem closes_nil : closes expected [] = expected.isEmpty := rfl

theorem closes_other (noBracket : piece.isBracket = false) :
    closes expected (piece :: rest) = closes expected rest := by
  cases piece with
  | quoted _ => rfl
  | code character =>
      rcases isBracket_code_eq_false_iff.mp noBracket with
        ⟨notOpening, notClosing⟩
      rw [closes, if_neg notOpening, if_neg notClosing]

theorem closes_opening (opens : character ∈ openingBrackets) :
    closes expected (.code character :: rest) =
      closes (closer character :: expected) rest := by
  rw [closes, if_pos opens]

theorem closes_closing_nil (closing : character ∈ closingBrackets) :
    closes [] (.code character :: rest) = false := by
  rw [closes, if_neg (notMem_opening_of_closing closing), if_pos closing]
  rfl

theorem closes_closing_cons (closing : character ∈ closingBrackets)
    (innermost : Char) :
    closes (innermost :: expected) (.code character :: rest) =
      (innermost == character && closes expected rest) := by
  rw [closes, if_neg (notMem_opening_of_closing closing), if_pos closing]
  rfl

/-! ## The reader finds the pairs -/

/-- Nested brackets leave the expected ones as they are. -/
theorem Nested.closes_append (nested : Nested inside) (expected : List Char)
    (rest : List Piece) :
    closes expected (inside ++ rest) = closes expected rest := by
  induction nested generalizing expected rest with
  | nil => rfl
  | other noBracket _ inductive_step =>
      rw [List.cons_append, closes_other noBracket, inductive_step]
  | bracket opens _ _ withinStep othersStep =>
      rw [List.cons_append, List.append_assoc, closes_opening opens,
        withinStep, List.cons_append, closes_closing_cons (closer_mem opens),
        beq_self_eq_true, Bool.true_and, othersStep]

/-- The expected brackets stand one after the other, with nested
ones in between. -/
def ClosedInTurn : (expected : List Char) → List Piece → Prop
  | [], pieces => Nested pieces
  | innermost :: outer, pieces =>
      ∃ inside after,
        Nested inside ∧ pieces = inside ++ .code innermost :: after ∧
          ClosedInTurn outer after

theorem ClosedInTurn.other
    (noBracket : piece.isBracket = false)
    (closed : ClosedInTurn expected rest) :
    ClosedInTurn expected (piece :: rest) := by
  cases expected with
  | nil => exact .other noBracket closed
  | cons innermost outer =>
      rcases closed with ⟨inside, after, within, rfl, others⟩
      exact ⟨piece :: inside, after, .other noBracket within, rfl, others⟩

theorem ClosedInTurn.opening
    (opens : character ∈ openingBrackets)
    (closed : ClosedInTurn (closer character :: expected) rest) :
    ClosedInTurn expected (.code character :: rest) := by
  rcases closed with ⟨inside, after, within, rfl, others⟩
  cases expected with
  | nil => exact .bracket opens within others
  | cons innermost outer =>
      rcases others with ⟨insideToo, afterToo, withinToo, rfl, othersToo⟩
      refine ⟨_, afterToo, .bracket opens within withinToo, ?_, othersToo⟩
      simp

theorem closedInTurn_of_closes (closed : closes expected rest = true) :
    ClosedInTurn expected rest := by
  induction rest generalizing expected with
  | nil =>
      rw [closes_nil, List.isEmpty_iff] at closed
      rw [closed]
      exact .nil
  | cons piece rest inductive_step =>
      cases noBracket : piece.isBracket with
      | false =>
          rw [closes_other noBracket] at closed
          exact (inductive_step closed).other noBracket
      | true =>
          cases piece with
          | quoted _ => cases noBracket
          | code character =>
              rcases List.mem_append.mp (of_decide_eq_true noBracket) with
                opens | closing
              · rw [closes_opening opens] at closed
                exact (inductive_step closed).opening opens
              · cases expected with
                | nil =>
                    rw [closes_closing_nil closing] at closed
                    cases closed
                | cons innermost outer =>
                    rw [closes_closing_cons closing, Bool.and_eq_true,
                      beq_iff_eq] at closed
                    rcases closed with ⟨rfl, closed⟩
                    exact ⟨[], rest, .nil, rfl, inductive_step closed⟩

theorem nested_iff_closes : Nested rest ↔ closes [] rest = true := by
  constructor
  · intro nested
    have whole := nested.closes_append [] []
    rwa [List.append_nil, closes_nil] at whole
  · exact closedInTurn_of_closes

instance (pieces : List Piece) : Decidable (Nested pieces) :=
  decidable_of_iff _ nested_iff_closes.symm

/-! ## Pieces one after the other -/

theorem Nested.append (before : Nested inside) (after : Nested rest) :
    Nested (inside ++ rest) := by
  rw [nested_iff_closes, before.closes_append]
  exact nested_iff_closes.mp after

theorem Nested.of_append (before : Nested inside)
    (whole : Nested (inside ++ rest)) :
    Nested rest := by
  rw [nested_iff_closes, before.closes_append] at whole
  exact nested_iff_closes.mpr whole

/-- Nested brackets at the end can be left out. -/
theorem closes_append_nested (after : Nested rest) (expected : List Char)
    (before : List Piece) :
    closes expected (before ++ rest) = closes expected before := by
  induction before generalizing expected with
  | nil =>
      have alone := after.closes_append expected []
      rwa [List.append_nil] at alone
  | cons piece others inductive_step =>
      cases piece <;> simp [closes, inductive_step]

theorem Nested.of_append_right (after : Nested rest)
    (whole : Nested (inside ++ rest)) :
    Nested inside := by
  rw [nested_iff_closes, closes_append_nested after] at whole
  exact nested_iff_closes.mpr whole

theorem nested_of_noBracket
    (noBracket : ∀ piece ∈ rest, piece.isBracket = false) :
    Nested rest := by
  induction rest with
  | nil => exact .nil
  | cons piece others inductive_step =>
      refine .other (noBracket piece List.mem_cons_self) (inductive_step ?_)
      intro other member
      exact noBracket other (List.mem_cons_of_mem piece member)

/-- Nothing is closed by a bracket that nested brackets come before. -/
theorem not_nested_append_closing
    (before : Nested inside)
    (closing : character ∈ closingBrackets)
    (rest : List Piece) :
    ¬ Nested (inside ++ .code character :: rest) := by
  rw [nested_iff_closes, before.closes_append, closes_closing_nil closing]
  exact Bool.false_ne_true

/-- The bracket that is still open at the start of the pieces is closed in
one place only. -/
theorem Nested.closing_unique
    {closing other : Char}
    {within after afterToo : List Piece}
    (nested : Nested inside)
    (closes : closing ∈ closingBrackets)
    (nestedToo : Nested within)
    (closesToo : other ∈ closingBrackets)
    (same :
      inside ++ .code closing :: after = within ++ .code other :: afterToo) :
    within = inside ∧ other = closing ∧ afterToo = after := by
  rcases List.append_eq_append_iff.mp same with
    ⟨between, rfl, parted⟩ | ⟨between, rfl, parted⟩
  · cases between with
    | nil =>
        cases parted
        exact ⟨List.append_nil _, rfl, rfl⟩
    | cons first others =>
        cases parted
        exact absurd nestedToo (not_nested_append_closing nested closes others)
  · cases between with
    | nil =>
        cases parted
        exact ⟨(List.append_nil _).symm, rfl, rfl⟩
    | cons first others =>
        cases parted
        exact absurd nested
          (not_nested_append_closing nestedToo closesToo others)

end TextWorld.Snippet
