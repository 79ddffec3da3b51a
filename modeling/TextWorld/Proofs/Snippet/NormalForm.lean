import TextWorld.Proofs.Snippet.Division
import TextWorld.Proofs.Snippet.Lexemes

/-!
# Statements are a normal form

A statement is read again as it stands, also when its last string is left open
or its brackets are not nested: nothing that was left out of it or around it
makes a new comment, a new string or a new dividing semicolon.  So dividing a
statement again leaves it whole, and the statements with semicolons put between
them are divided into the same statements.
-/

namespace TextWorld.Snippet

open TextWorld.Text

/-- None of the pieces is a semicolon that divides a snippet; so many brackets
are open in front of them, and so many behind them. -/
inductive Whole : (depth : Nat) → List Piece → (stop : Nat) → Prop where
  | nil {depth : Nat} : Whole depth [] depth
  | cons {depth stop : Nat} {piece : Piece} {rest : List Piece}
      (notDividing : ¬ (piece = .code ';' ∧ depth = 0))
      (others : Whole (piece.lexeme.depthAfter depth) rest stop) :
      Whole depth (piece :: rest) stop

/-- The pieces are read from their characters and are not divided. -/
structure Portion (part : List Piece) (last : Region) (stop : Nat) : Prop where
  through : ReadsThrough .code part last
  whole : Whole 0 part stop

/-- Every part but the last ends outside strings and brackets, so that
others may follow it. -/
inductive Portions : List (List Piece) → Prop where
  | nil : Portions []
  | last {part : List Piece} {last : Region} {stop : Nat}
      (portion : Portion part last stop) :
      Portions [part]
  | cons {part : List Piece} {parts : List (List Piece)}
      (portion : Portion part .code 0)
      (others : Portions parts) :
      Portions (part :: parts)

variable {depth middle stop : Nat} {last : Region} {piece : Piece}
  {current part rest : List Piece} {parts : List (List Piece)}

/-! ## Dividing -/

/-- A piece divides a snippet, or it belongs to the part that it is read in. -/
theorem divide_cons (depth : Nat) (current : List Char) (piece : Piece)
    (rest : List Piece) :
    divide depth current (piece :: rest) =
      if piece = .code ';' ∧ depth = 0 then
        current :: divide 0 [] rest
      else
        divide (piece.lexeme.depthAfter depth)
          (current ++ [piece.character]) rest := by
  cases piece with
  | quoted character => rfl
  | code character =>
      simp only [divide_code, Piece.code.injEq]
      rfl

theorem Whole.divide_append
    (whole : Whole depth part stop)
    (current : List Char)
    (rest : List Piece) :
    divide depth current (part ++ rest) =
      divide stop (current ++ characters part) rest := by
  induction whole generalizing current with
  | nil => rw [List.nil_append, characters_nil, List.append_nil]
  | cons notDividing _ inductive_step =>
      rw [List.cons_append, divide_cons, if_neg notDividing, inductive_step,
        List.append_assoc]
      rfl

theorem Whole.divide_eq (whole : Whole depth part stop) :
    divide depth [] part = [characters part] := by
  have alone := whole.divide_append [] []
  rwa [List.append_nil] at alone

theorem Whole.append
    (whole : Whole depth part middle)
    (others : Whole middle rest stop) :
    Whole depth (part ++ rest) stop := by
  induction whole with
  | nil => exact others
  | cons notDividing _ inductive_step =>
      exact .cons notDividing (inductive_step others)

theorem Whole.of_append (whole : Whole depth (part ++ rest) stop) :
    ∃ middle, Whole depth part middle ∧ Whole middle rest stop := by
  induction part generalizing depth with
  | nil => exact ⟨depth, .nil, whole⟩
  | cons piece others inductive_step =>
      cases whole with
      | cons notDividing whole =>
          rcases inductive_step whole with ⟨middle, before, after⟩
          exact ⟨middle, .cons notDividing before, after⟩

/-! ## Blanks at the ends -/

theorem depthAfter_of_isBlank (blank : isBlank piece.character = true)
    (depth : Nat) :
    piece.lexeme.depthAfter depth = depth := by
  have noBracket := isBracket_of_isBlank blank
  cases piece with
  | quoted character => rfl
  | code character =>
      rcases isBracket_code_eq_false_iff.mp noBracket with
        ⟨notOpening, notClosing⟩
      rw [Piece.lexeme, Lexeme.depthAfter, if_neg notOpening, if_neg notClosing]

theorem Whole.eq_of_allBlank
    (whole : Whole depth part stop)
    (blank : AllBlank (characters part)) :
    stop = depth := by
  induction whole with
  | nil => rfl
  | cons _ _ inductive_step =>
      rw [inductive_step fun other member =>
          blank other (List.mem_cons_of_mem _ member)]
      exact depthAfter_of_isBlank (blank _ List.mem_cons_self) _

theorem Portion.exists_trim (portion : Portion part last stop) :
    ∃ trimmed region, characters trimmed = trim (characters part) ∧
      Portion trimmed region stop ∧ (last = .code → region = .code) := by
  rcases exists_trimmed part with
    ⟨before, trimmed, after, rfl, same, blank, blankToo⟩
  rcases portion.through.of_trimmed blank blankToo with
    ⟨region, through, outside⟩
  rcases portion.whole.of_append with ⟨_, wholeBefore, whole⟩
  obtain rfl := wholeBefore.eq_of_allBlank blank
  rcases whole.of_append with ⟨_, wholeTrimmed, wholeAfter⟩
  obtain rfl := wholeAfter.eq_of_allBlank blankToo
  exact ⟨trimmed, region, same, ⟨through, wholeTrimmed⟩, outside⟩

/-! ## The portions of a snippet -/

/-- Dividing goes on as it does from the start, with the pieces
so far in front. -/
theorem exists_portions_append
    (current : List Piece)
    (through : ReadsThrough .code (current ++ rest) last)
    (whole : Whole 0 current depth) :
    ∃ parts, Portions parts ∧
      divide depth (characters current) rest = parts.map characters := by
  induction rest generalizing current depth with
  | nil =>
      rw [List.append_nil] at through
      exact ⟨[current], .last ⟨through, whole⟩, rfl⟩
  | cons piece others inductive_step =>
      rw [divide_cons]
      split
      · next divides =>
          rcases divides with ⟨rfl, rfl⟩
          rcases through.of_append_code with ⟨here, later⟩
          rcases inductive_step [] later .nil with ⟨parts, portions, same⟩
          exact ⟨current :: parts, .cons ⟨here, whole⟩ portions,
            congrArg (characters current :: ·) same⟩
      · next notDividing =>
          rw [List.append_cons] at through
          rcases inductive_step _ through
            (whole.append (.cons notDividing .nil)) with ⟨parts, portions, same⟩
          refine ⟨parts, portions, ?_⟩
          rw [← same, characters_append]
          rfl

theorem Portions.exists_trim (portions : Portions parts) :
    ∃ trimmed, Portions trimmed ∧
      (parts.map fun part => trim (characters part)).filter (!·.isEmpty) =
        trimmed.map characters := by
  induction portions with
  | nil => exact ⟨[], .nil, rfl⟩
  | @last part _ _ portion =>
      rcases portion.exists_trim with ⟨trimmed, region, same, portion, -⟩
      rw [List.map_singleton, ← same]
      cases empty : (characters trimmed).isEmpty with
      | true => exact ⟨[], .nil, by simp [empty]⟩
      | false => exact ⟨[trimmed], .last portion, by simp [empty]⟩
  | @cons part parts portion _ inductive_step =>
      rcases portion.exists_trim with ⟨trimmed, region, same, portion, outside⟩
      obtain rfl := outside rfl
      rcases inductive_step with ⟨others, portions, sameOthers⟩
      rw [List.map_cons, ← same, List.filter_cons, sameOthers]
      cases (characters trimmed).isEmpty with
      | true => exact ⟨others, portions, rfl⟩
      | false => exact ⟨trimmed :: others, .cons portion portions, rfl⟩

theorem exists_portions_statements (source : List Char) :
    ∃ parts, Portions parts ∧ statements source = parts.map characters := by
  have outside : Region.code.Quoted := Region.quoted_of_isString rfl
  have through := readsThrough_pieces outside source
  rcases exists_portions_append [] through .nil with ⟨parts, portions, same⟩
  rcases portions.exists_trim with ⟨trimmed, portionsToo, sameToo⟩
  refine ⟨trimmed, portionsToo, ?_⟩
  rw [← sameToo, statements, ← characters_nil, same, List.map_map]
  rfl

/-! ## Putting statements together -/

theorem characters_intercalate (separator : List Piece)
    (parts : List (List Piece)) :
    characters (separator.intercalate parts) =
      (characters separator).intercalate (parts.map characters) := by
  induction parts with
  | nil => rfl
  | cons first others inductive_step =>
      cases others with
      | nil => simp
      | cons second more =>
          rw [List.intercalate_cons_cons, characters_append,
            characters_append, inductive_step]
          exact List.intercalate_cons_cons.symm

/-- Portions with semicolons between them are read and divided as they are. -/
theorem Portions.divide_intercalate (portions : Portions parts)
    (nonempty : parts ≠ []) :
    (∃ last, ReadsThrough .code ([.code ';'].intercalate parts) last) ∧
      divide 0 [] ([.code ';'].intercalate parts) = parts.map characters := by
  induction portions with
  | nil => exact absurd rfl nonempty
  | last portion =>
      rw [List.intercalate_singleton]
      exact ⟨⟨_, portion.through⟩, portion.whole.divide_eq⟩
  | @cons part parts portion _ inductive_step =>
      cases parts with
      | nil =>
          rw [List.intercalate_singleton]
          exact ⟨⟨_, portion.through⟩, portion.whole.divide_eq⟩
      | cons second more =>
          rcases inductive_step (List.cons_ne_nil second more) with
            ⟨⟨last, through⟩, divided⟩
          rw [List.intercalate_cons_cons, List.append_assoc]
          constructor
          · have semicolon : ReadsThrough .code (.code ';' :: _) last :=
              .cons (.code (by decide)) (separated_of_ne (by decide) _) through
            exact ⟨last,
              portion.through.append semicolon (by rintro next ⟨⟩; decide)⟩
          · rw [portion.whole.divide_append, List.singleton_append, divide_cons,
              if_pos ⟨rfl, rfl⟩, divided]
            rfl

/-- What is divided into texts without blanks at their ends has these as
its statements. -/
theorem statements_characters
    (through : ReadsThrough .code part last)
    {texts : List (List Char)}
    (divided : divide 0 [] part = texts)
    (tight : ∀ text ∈ texts, Tight text) :
    statements (characters part) = texts := by
  have trimmed : ∀ text ∈ texts, trim text = text :=
    fun text member => (tight text member).trim_eq
  have kept : ∀ text ∈ texts, (!text.isEmpty) = true := by
    intro text member
    rcases (tight text member).start with ⟨first, starts, -⟩
    cases text with
    | nil => cases starts
    | cons _ _ => rfl
  rw [statements, through.pieces_characters, divided,
    List.map_congr_left trimmed, List.map_id', List.filter_eq_self.mpr kept]

theorem Portions.statements_of_mem
    (portions : Portions parts)
    (tight : ∀ part ∈ parts, Tight (characters part)) :
    ∀ part ∈ parts, statements (characters part) = [characters part] := by
  have alone {part : List Piece} {last : Region} {stop : Nat}
      (portion : Portion part last stop)
      (isTight : Tight (characters part)) :
        statements (characters part) = [characters part] :=
    statements_characters portion.through portion.whole.divide_eq
      (by simpa using isTight)
  induction portions with
  | nil => exact nofun
  | last portion => simpa using alone portion (tight _ List.mem_cons_self)
  | cons portion _ inductive_step =>
      rw [List.forall_mem_cons] at tight ⊢
      exact ⟨alone portion tight.1, inductive_step tight.2⟩

/--
Whatever the snippet is, a statement of it is a snippet with itself as the only
statement; its statements with semicolons between them are a snippet with these
statements, and with the same unit for every player.
-/
theorem statements_are_normal_form (source : String) :
    let joined := [';'].intercalate (statements source.toList)
    (∀ statement ∈ statements source.toList,
      statements statement = [statement]) ∧
      statements joined = statements source.toList ∧
      ∀ player, unit (String.ofList joined) player = unit source player := by
  intro joined
  rcases exists_portions_statements source.toList with ⟨parts, portions, same⟩
  have tight : ∀ text ∈ parts.map characters, Tight text := by
    intro text member
    exact tight_of_mem_statements (same ▸ member)
  have again : statements joined = statements source.toList := by
    rcases eq_or_ne parts [] with rfl | nonempty
    · have nothing : joined = [] := congrArg [';'].intercalate same
      rw [nothing, same]
      rfl
    · rcases portions.divide_intercalate nonempty with
        ⟨⟨last, through⟩, divided⟩
      have whole := statements_characters through divided tight
      rwa [characters_intercalate, ← same] at whole
  refine ⟨?_, again, ?_⟩
  · rw [same]
    intro statement member
    rcases List.mem_map.mp member with ⟨part, isPart, rfl⟩
    refine portions.statements_of_mem ?_ part isPart
    intro part member
    exact tight _ (List.mem_map_of_mem member)
  · intro player
    rw [unit, unit, String.toList_ofList, again]

/-- What is left around a comment does not make a comment, and what a quote
opens stays inside. -/
example :
    statements "a /;/* b ; */ c) ; 'd ; ".toList =
      ["a /".toList, "c)".toList, "'d ;".toList] := by
  decide +kernel

end TextWorld.Snippet
