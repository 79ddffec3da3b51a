import Mathlib.Data.List.Forall2
import TextWorld.Proofs.Snippet.Division

/-!
# Snippets stay in their units

Whatever the statements of a well-formed snippet say, they are read in its unit
as they are read alone.  So nothing in them closes the function around them, and
no comment or string that starts in one of them reaches what follows.
-/

namespace TextWorld.Snippet

open TextWorld.Text

/-- The pieces of generated code. -/
def generated (text : String) : List Piece :=
  text.toList.map .code

/-- The pieces of a statement on its line, where it may be returned. -/
inductive Segment (statement : List Char) : List Piece → Prop where
  | line : Segment statement
      (generated "  " ++ (pieces .code statement ++ generated ";\n"))
  | returned :
      Segment statement
        (generated "  return (" ++ (pieces .code statement ++ generated ");\n"))

/-- The text is read as it stands, with nothing in comments. -/
structure Plain (text : List Char) : Prop where
  uncommented : Uncommented text
  wellFormed : WellFormed text
  characters_pieces : characters (pieces .code text) = text

/-- What stands after the brace that closes the function. -/
def call (player : EntityId) : List Piece :=
  generated (")(" ++ player.text ++ ")")

/-- The call of a function that has the given pieces in its braces. -/
def wrapped (inside : List Piece) (player : EntityId) : List Piece :=
  generated "(function (player) " ++
    .code '\x7b' :: (inside ++ .code '\x7d' :: call player)

/-- The unit calls a function that has the given pieces in its braces and ends
at the last one. -/
structure Encloses (unit : List Char) (inside : List Piece)
    (player : EntityId) : Prop where
  plain : Plain unit
  pieces_eq : pieces .code unit = wrapped inside player
  nested : Nested inside
  /-- No earlier bracket closes the function. -/
  closed_last : ∀ within character after,
    inside ++ .code '\x7d' :: call player = within ++ .code character :: after →
      character ∈ closingBrackets → Nested within → within = inside

/-- The statements of a snippet, and nothing else, lie in its unit one
after the other. -/
structure KeepsStatements
    (source unit : List Char)
    (player : EntityId)
    (segments : List (List Piece)) :
    Prop where
  encloses : Encloses unit (.code '\n' :: segments.flatten) player
  areSegments : List.Forall₂ Segment (statements source) segments
  nested : ∀ segment ∈ segments, Nested segment
  plain : ∀ statement ∈ statements source, Plain statement
  /-- The statements are what stands between the semicolons outside
  strings and brackets. -/
  divided : ∃ parts, Divided (pieces .code source) parts ∧
    statements source =
      (parts.map fun part => trim (characters part)).filter (!·.isEmpty)

variable {source statement : List Char}
  {segment rest : List Piece} {text : String} {others : List (List Char)}
  {segments : List (List Piece)}

theorem Sound.pieces_eq (sound : Sound rest) :
    pieces .code (characters rest) = rest :=
  sound.legible.pieces_characters

theorem Sound.plain (sound : Sound rest) : Plain (characters rest) where
  uncommented := sound.legible.uncommented
  wellFormed := by
    constructor
    · rw [sound.legible.ending_characters]
      rfl
    · rw [sound.pieces_eq]
      exact sound.nested
  characters_pieces := by rw [sound.pieces_eq]

theorem plain_of_mem_statements (wellFormed : WellFormed source)
    (member : statement ∈ statements source) : Plain statement := by
  rcases exists_sound_of_mem_statements wellFormed member with
    ⟨rest, rfl, sound⟩
  exact sound.plain

theorem Plain.legible (plain : Plain statement) :
    Legible .code (pieces .code statement) :=
  legible_pieces (Region.quoted_of_isString rfl) plain.wellFormed.closed

/-! ## Segments -/

theorem Legible.generated_append
    (legible : Legible .code rest)
    (harmless : text.toList.all isHarmless = true) :
    Legible .code (generated text ++ rest) :=
  legible.code_append harmless

/-- A line for a statement takes nothing of what follows. -/
theorem Segment.legible_append
    (isSegment : Segment statement segment)
    (plain : Plain statement)
    (legible : Legible .code rest) :
    Legible .code (segment ++ rest) := by
  cases isSegment with
  | line =>
      rw [List.append_assoc, List.append_assoc]
      have stop : Legible .code (generated ";\n" ++ rest) :=
        legible.generated_append (by decide)
      exact (plain.legible.append stop
        (by rintro next ⟨⟩; decide)).generated_append (by decide)
  | returned =>
      rw [List.append_assoc, List.append_assoc]
      have stop : Legible .code (generated ");\n" ++ rest) :=
        legible.generated_append (by decide)
      exact (plain.legible.append stop
        (by rintro next ⟨⟩; decide)).generated_append (by decide)

theorem Segment.nested
    (isSegment : Segment statement segment)
    (plain : Plain statement) :
    Nested segment := by
  have inside := plain.wellFormed.nested
  cases isSegment with
  | line =>
      have start : Nested (generated "  ") := by decide
      have stop : Nested (generated ";\n") := by decide
      exact start.append (inside.append stop)
  | returned =>
      have start : Nested (generated "  return ") := by decide
      have stop : Nested (generated ";\n") := by decide
      exact start.append (.bracket (by decide) inside stop)

theorem characters_generated (text : String) :
    characters (generated text) = text.toList :=
  characters_code text.toList

theorem exists_segment_statementLine (plain : Plain statement) :
    ∃ segment, Segment statement segment ∧
      characters segment = (statementLine statement).toList := by
  refine ⟨_, .line, ?_⟩
  simp only [characters_append, characters_generated, plain.characters_pieces,
    statementLine, String.toList_append, String.toList_ofList,
    List.append_assoc]

theorem exists_segment_lastLine (plain : Plain statement) :
    ∃ segment, Segment statement segment ∧
      characters segment = (lastLine statement).toList := by
  unfold lastLine
  split
  · refine ⟨_, .returned, ?_⟩
    simp only [characters_append, characters_generated, plain.characters_pieces,
      String.toList_append, String.toList_ofList, List.append_assoc]
  · exact exists_segment_statementLine plain

/-- The lines of the function body are segments, one for each statement. -/
theorem exists_segments (plain : ∀ statement ∈ others, Plain statement) :
    ∃ segments, List.Forall₂ Segment others segments ∧
      characters segments.flatten =
        (String.join (bodyLines others)).toList := by
  induction others with
  | nil => exact ⟨[], .nil, rfl⟩
  | cons first rest inductive_step =>
      have here := plain first List.mem_cons_self
      rcases inductive_step fun other member =>
        plain other (List.mem_cons_of_mem first member) with
        ⟨segments, areSegments, same⟩
      cases rest with
      | nil =>
          rcases exists_segment_lastLine here with
            ⟨segment, isSegment, sameLine⟩
          cases areSegments
          refine ⟨[segment], .cons isSegment .nil, ?_⟩
          simp [bodyLines, sameLine]
      | cons second more =>
          rcases exists_segment_statementLine here with
            ⟨segment, isSegment, sameLine⟩
          refine ⟨segment :: segments, .cons isSegment areSegments, ?_⟩
          rw [bodyLines, List.flatten_cons, characters_append, same, sameLine]
          · simp
          · exact List.cons_ne_nil second more

theorem legible_segments_append
    (areSegments : List.Forall₂ Segment others segments)
    (plain : ∀ statement ∈ others, Plain statement)
    (legible : Legible .code rest) :
    Legible .code (segments.flatten ++ rest) := by
  induction areSegments with
  | nil => exact legible
  | @cons first _ segment _ isSegment _ inductive_step =>
      have later := inductive_step fun other member =>
        plain other (List.mem_cons_of_mem first member)
      rw [List.flatten_cons, List.append_assoc]
      exact isSegment.legible_append (plain first List.mem_cons_self) later

theorem nested_segments
    (areSegments : List.Forall₂ Segment others segments)
    (plain : ∀ statement ∈ others, Plain statement) :
    ∀ segment ∈ segments, Nested segment := by
  induction areSegments with
  | nil =>
      intro segment member
      cases member
  | @cons first _ segment _ isSegment _ inductive_step =>
      intro other member
      rcases List.mem_cons.mp member with rfl | member
      · exact isSegment.nested (plain first List.mem_cons_self)
      · exact inductive_step (fun statement isStatement =>
          plain statement (List.mem_cons_of_mem first isStatement)) other member

theorem nested_flatten (nested : ∀ segment ∈ segments, Nested segment) :
    Nested segments.flatten := by
  induction segments with
  | nil => exact .nil
  | cons segment others inductive_step =>
      have later := inductive_step fun other member =>
        nested other (List.mem_cons_of_mem segment member)
      exact (nested segment List.mem_cons_self).append later

/-! ## The function around the segments -/

theorem isHarmless_of_isDigit {character : Char}
    (digit : character.isDigit = true) :
    isHarmless character = true := by
  cases harmless : isHarmless character with
  | true => rfl
  | false =>
      simp only [isHarmless, quotes, decide_eq_false_iff_not, not_not,
        List.mem_cons, List.not_mem_nil, or_false] at harmless
      rcases harmless with rfl | rfl | rfl | rfl <;> cases digit

theorem call_eq (player : EntityId) :
    call player =
      generated ")(#" ++
        ((decimalDigits player.number.toNat).map .code ++ generated ")") := by
  simp [call, generated, EntityId.characters]

theorem legible_call (player : EntityId) : Legible .code (call player) := by
  rw [call_eq]
  have stop : Legible .code (generated ")" ++ []) :=
    Legible.nil.generated_append (by decide)
  have digits : Legible .code
      ((decimalDigits player.number.toNat).map .code ++ generated ")") :=
    stop.code_append (List.all_eq_true.mpr fun character member =>
      isHarmless_of_isDigit (isDigit_of_mem_decimalDigits member))
  exact digits.generated_append (by decide)

theorem closes_call (player : EntityId) :
    closes [')'] (call player) = true := by
  have digits : Nested ((decimalDigits player.number.toNat).map .code) := by
    apply nested_of_noBracket
    intro piece member
    rcases List.mem_map.mp member with ⟨character, isDigit, rfl⟩
    exact isBracket_code_of (by decide) (isDigit_of_mem_decimalDigits isDigit)
  have start (rest : List Piece) :
      closes [')'] (generated ")(#" ++ rest) = closes [')'] rest := rfl
  rw [call_eq, start, digits.closes_append]
  rfl

theorem nested_wrapped {inside : List Piece} (nested : Nested inside)
    (player : EntityId) :
    Nested (wrapped inside player) := by
  have start (rest : List Piece) :
      closes [] (generated "(function (player) " ++ .code '\x7b' :: rest) =
        closes ['\x7d', ')'] rest :=
    rfl
  have stop : closes ['\x7d', ')'] (.code '\x7d' :: call player) =
      closes [')'] (call player) := rfl
  rw [nested_iff_closes, wrapped, start, nested.closes_append,
    stop, closes_call]

/-- Nested pieces cannot leave the function that they are put into. -/
theorem encloses_wrapped
    {inside : List Piece}
    {player : EntityId}
    (nested : Nested inside)
    (legible :
      Legible .code (.code '\x7b' :: (inside ++ .code '\x7d' :: call player))) :
    Encloses (characters (wrapped inside player)) inside player := by
  have sound : Sound (wrapped inside player) :=
    ⟨legible.generated_append (by decide), nested_wrapped nested player⟩
  refine ⟨sound.plain, sound.pieces_eq, nested, ?_⟩
  intro within character after same closing nestedToo
  exact (nested.closing_unique (by decide) nestedToo closing same).1

/-- The statements of a well-formed snippet lie in its unit one after the
other, each read as it is alone, and the function around them is closed
only where it ends. -/
theorem unit_keeps_statements
    {source : String}
    (wellFormed : WellFormed source.toList)
    (player : EntityId) :
    ∃ segments,
      KeepsStatements source.toList (unit source player).toList
        player segments := by
  have plain :=
    fun statement => @plain_of_mem_statements source.toList statement wellFormed
  rcases exists_segments plain with ⟨segments, areSegments, same⟩
  have nested := nested_segments areSegments plain
  have stop : Legible .code (generated "\x7d" ++ call player) :=
    (legible_call player).generated_append (by decide)
  have inside := legible_segments_append areSegments plain stop
  have start : Legible .code (generated "\x7b\n" ++ (segments.flatten ++ _)) :=
    inside.generated_append (by decide)
  have text :
      (unit source player).toList =
        characters (wrapped (.code '\n' :: segments.flatten) player) := by
    simp [unit, wrapped, opening, closing, call, characters_generated, same,
      Piece.character]
  rw [text]
  exact
    ⟨segments,
      { encloses :=
          encloses_wrapped (.other (by decide) (nested_flatten nested)) start
        areSegments
        nested
        plain
        divided := exists_divided_statements wellFormed.nested }⟩

/-- Brackets in a string and in comments leave the unit as it is. -/
theorem call_after_comment_is_kept :
    WellFormed "let t = [\")\"; 1]; /* ) */ f(t[0]) // ]".toList ∧
      ∃ segments,
        KeepsStatements
          "let t = [\")\"; 1]; /* ) */ f(t[0]) // ]".toList
          "(function (player) \x7b\n  let t = [\")\"; 1];\n  return (f(t[0]));\n\x7d)(#7)".toList
          (.ofNat 7) segments := by
  have wellFormed :
      WellFormed "let t = [\")\"; 1]; /* ) */ f(t[0]) // ]".toList :=
    ⟨by decide +kernel, by decide +kernel⟩
  have keeps := unit_keeps_statements wellFormed (.ofNat 7)
  have text :
      unit "let t = [\")\"; 1]; /* ) */ f(t[0]) // ]" (.ofNat 7) =
        "(function (player) \x7b\n  let t = [\")\"; 1];\n  return (f(t[0]));\n\x7d)(#7)" := by
    decide +kernel
  rw [text] at keeps
  exact ⟨wellFormed, keeps⟩

end TextWorld.Snippet
