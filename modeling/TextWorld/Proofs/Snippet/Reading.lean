import TextWorld.Proofs.Snippet.Brackets
import TextWorld.Proofs.Text.Layout

/-!
# Texts that are read as they stand

Leaving out the comments of a text gives one that has none.  Its pieces are
legible: no slash among them would start a comment, and every string is closed,
so that they are read again as they stand, alone or between other pieces.
-/

namespace TextWorld.Snippet

open TextWorld.Text

/-! ## Places in a text -/

/-- The region in which a text ends that starts in the given one. -/
def ending : Region → List Char → Region
  | region, [] => region
  | .code, '/' :: '/' :: rest => ending .lineComment rest
  | .code, '/' :: '*' :: rest => ending (.blockComment false) rest
  | .code, character :: rest =>
      if character ∈ quotes then
        ending (.string character false) rest
      else
        ending .code rest
  | .string quote true, _ :: rest => ending (.string quote false) rest
  | .string quote false, character :: rest =>
      if character == '\\' then
        ending (.string quote true) rest
      else if character == quote then
        ending .code rest
      else
        ending (.string quote false) rest
  | .lineComment, character :: rest =>
      if character == '\n' then
        ending .code rest
      else
        ending .lineComment rest
  | .blockComment afterStar, character :: rest =>
      if afterStar && character == '/' then
        ending .code rest
      else
        ending (.blockComment (character == '*')) rest

/-- Whether a place in the region is in a string. -/
def Region.isString : Region → Bool
  | .string _ _ => true
  | _ => false

/-- Whether a place in the region is in a comment. -/
def Region.isComment : Region → Bool
  | .lineComment | .blockComment _ => true
  | _ => false

/-- No place in the text is in a comment. -/
def Uncommented (text : List Char) : Prop :=
  ∀ before, before <+: text → (ending .code before).isComment = false

/-- All strings of the text are closed, and its brackets outside strings and
comments are nested. -/
structure WellFormed (text : List Char) : Prop where
  closed : (ending .code text).isString = false
  nested : Nested (pieces .code text)

/-! ## Legible pieces -/

/-- Reading the character of a piece leads from the one region to the other. -/
inductive Reads : Region → Piece → Region → Prop where
  | code {character : Char} (noQuote : character ∉ quotes) :
      Reads .code (.code character) .code
  | openString {quote : Char} (quote_mem : quote ∈ quotes) :
      Reads .code (.quoted quote) (.string quote false)
  | backslash {quote : Char} : Reads (.string quote false) (.quoted '\\')
      (.string quote true)
  | escaped {quote character : Char} :
      Reads (.string quote true) (.quoted character) (.string quote false)
  | inString {quote character : Char}
      (notBackslash : character ≠ '\\')
      (notQuote : character ≠ quote) :
      Reads (.string quote false) (.quoted character) (.string quote false)
  | closeString {quote : Char} (quote_mem : quote ∈ quotes) :
      Reads (.string quote false) (.quoted quote) .code

/-- The text does not make the piece in front of it the start of a comment. -/
def Separated (piece : Piece) (text : List Char) : Prop :=
  piece = .code '/' → ∀ next ∈ text.head?, next ≠ '/' ∧ next ≠ '*'

/-- The characters of pieces. -/
def characters (pieces : List Piece) : List Char :=
  pieces.map Piece.character

/-- The pieces, starting in the region, are read from their characters, and end
outside strings. -/
inductive Legible : Region → List Piece → Prop where
  | nil : Legible .code []
  | cons {region next : Region} {piece : Piece} {rest : List Piece}
      (reads : Reads region piece next)
      (separated : Separated piece (characters rest))
      (others : Legible next rest) :
      Legible region (piece :: rest)

/-- The pieces, starting in the one region, are read from their characters, and
end in the other. -/
inductive ReadsThrough : Region → List Piece → Region → Prop where
  | nil {region : Region} : ReadsThrough region [] region
  | cons {region next last : Region} {piece : Piece} {rest : List Piece}
      (reads : Reads region piece next)
      (separated : Separated piece (characters rest))
      (others : ReadsThrough next rest last) :
      ReadsThrough region (piece :: rest) last

variable {region next middle last : Region}
  {character quote : Char} {piece : Piece} {text : List Char}
  {before rest : List Piece}

@[simp]
theorem characters_nil : characters [] = [] := rfl

@[simp]
theorem characters_cons :
    characters (piece :: rest) = piece.character :: characters rest := rfl

@[simp]
theorem characters_append :
    characters (before ++ rest) = characters before ++ characters rest :=
  List.map_append

@[simp]
theorem characters_code (text : List Char) :
    characters (text.map .code) = text := by
  simp [characters, Function.comp_def, Piece.character]

theorem ne_backslash_of_mem_quotes (quote_mem : quote ∈ quotes) :
    quote ≠ '\\' := by
  rintro rfl
  exact absurd quote_mem (by decide)

theorem isBlank_of_mem_quotes (quote_mem : quote ∈ quotes) :
    isBlank quote = false := by
  simp only [quotes, List.mem_cons, List.not_mem_nil, or_false] at quote_mem
  rcases quote_mem with rfl | rfl | rfl <;> decide

theorem separated_of_ne (notSlash : piece ≠ .code '/') (text : List Char) :
    Separated piece text :=
  fun slash => absurd slash notSlash

theorem Separated.of_prefix
    {start : List Char}
    (separated : Separated piece text)
    (starts : start <+: text) :
    Separated piece start := by
  intro slash next member
  rcases List.head?_eq_some_iff.mp member with ⟨others, rfl⟩
  rcases starts with ⟨others, rfl⟩
  exact separated slash next rfl

/-! ## One step of the reader -/

theorem pieces_code
    (noQuote : character ∉ quotes)
    (separated : Separated (.code character) text) :
    pieces .code (character :: text) =
      .code character :: pieces .code text := by
  rw [pieces.eq_def]
  split
  · next nothing => cases nothing
  · next same =>
      cases same
      exact absurd rfl (separated rfl '/' rfl).1
  · next same =>
      cases same
      exact absurd rfl (separated rfl '*' rfl).2
  · next same =>
      cases same
      rw [isQuote_eq_false_iff.mpr noQuote]
      rfl
  all_goals contradiction

theorem ending_code
    (noQuote : character ∉ quotes)
    (separated : Separated (.code character) text) :
    ending .code (character :: text) = ending .code text := by
  rw [ending.eq_def]
  split
  · next nothing => cases nothing
  · next same =>
      cases same
      exact absurd rfl (separated rfl '/' rfl).1
  · next same =>
      cases same
      exact absurd rfl (separated rfl '*' rfl).2
  · next same =>
      cases same
      rw [if_neg noQuote]
  all_goals contradiction

theorem pieces_openString (quote_mem : quote ∈ quotes) (text : List Char) :
    pieces .code (quote :: text) =
      .quoted quote :: pieces (.string quote false) text := by
  rw [pieces, if_pos (isQuote_iff.mpr quote_mem)]
  · rintro _ rfl -
    exact absurd quote_mem (by decide)
  · rintro _ rfl -
    exact absurd quote_mem (by decide)

theorem ending_openString (quote_mem : quote ∈ quotes) (text : List Char) :
    ending .code (quote :: text) = ending (.string quote false) text := by
  rw [ending, if_pos quote_mem]
  · rintro _ rfl -
    exact absurd quote_mem (by decide)
  · rintro _ rfl -
    exact absurd quote_mem (by decide)

theorem Reads.pieces_cons (reads : Reads region piece next)
    (separated : Separated piece text) :
    pieces region (piece.character :: text) = piece :: pieces next text := by
  cases reads with
  | code noQuote => exact pieces_code noQuote separated
  | openString quote_mem => exact pieces_openString quote_mem text
  | backslash | escaped => simp [pieces, Piece.character]
  | inString notBackslash notQuote =>
      simp [pieces, Piece.character, notBackslash, notQuote]
  | closeString quote_mem =>
      simp [pieces, Piece.character, ne_backslash_of_mem_quotes quote_mem]

theorem Reads.ending_cons (reads : Reads region piece next)
    (separated : Separated piece text) :
    ending region (piece.character :: text) = ending next text := by
  cases reads with
  | code noQuote => exact ending_code noQuote separated
  | openString quote_mem => exact ending_openString quote_mem text
  | backslash | escaped => simp [ending, Piece.character]
  | inString notBackslash notQuote =>
      simp [ending, Piece.character, notBackslash, notQuote]
  | closeString quote_mem =>
      simp [ending, Piece.character, ne_backslash_of_mem_quotes quote_mem]

/-! ## Reading the characters of legible pieces -/

/-- Legible pieces are those that are read through and end outside strings. -/
theorem legible_iff : Legible region rest ↔ ReadsThrough region rest .code := by
  constructor
  · intro legible
    induction legible with
    | nil => exact .nil
    | cons reads separated _ inductive_step =>
        exact .cons reads separated inductive_step
  · intro through
    induction rest generalizing region with
    | nil =>
        cases through
        exact .nil
    | cons piece others inductive_step =>
        cases through with
        | cons reads separated through =>
            exact .cons reads separated (inductive_step through)

theorem ReadsThrough.pieces_characters
    (through : ReadsThrough region rest last) :
    pieces region (characters rest) = rest := by
  induction through with
  | nil => cases region <;> rfl
  | cons reads separated _ inductive_step =>
      rw [characters_cons, reads.pieces_cons separated, inductive_step]

/-- Legible pieces are read from their characters. -/
theorem Legible.pieces_characters (legible : Legible region rest) :
    pieces region (characters rest) = rest :=
  (legible_iff.mp legible).pieces_characters

theorem Legible.ending_characters (legible : Legible region rest) :
    ending region (characters rest) = .code := by
  induction legible with
  | nil => rfl
  | cons reads separated _ inductive_step =>
      rw [characters_cons, reads.ending_cons separated, inductive_step]

theorem Legible.isComment_region (legible : Legible region rest) :
    region.isComment = false := by
  cases legible with
  | nil => rfl
  | cons reads _ _ => cases reads <;> rfl

/-- No place among legible pieces is in a comment. -/
theorem Legible.isComment_ending
    (legible : Legible region rest)
    {start : List Char}
    (starts : start <+: characters rest) :
    (ending region start).isComment = false := by
  induction legible generalizing start with
  | nil =>
      rw [List.prefix_nil.mp starts]
      rfl
  | cons reads separated others inductive_step =>
      cases start with
      | nil => exact (Legible.cons reads separated others).isComment_region
      | cons first later =>
          rcases List.cons_prefix_cons.mp starts with ⟨rfl, within⟩
          rw [reads.ending_cons (separated.of_prefix within)]
          exact inductive_step within

theorem Legible.uncommented (legible : Legible .code rest) :
    Uncommented (characters rest) :=
  fun _ starts => legible.isComment_ending starts

/-! ## Reading makes texts legible -/

/-- The region of the pieces that are read in the given one. -/
def Region.ofPieces : Region → Region
  | .string quote escaped => .string quote escaped
  | _ => .code

/-- Only a quote opens a string. -/
def Region.Quoted (region : Region) : Prop :=
  ∀ quote escaped, region = .string quote escaped → quote ∈ quotes

theorem Region.quoted_of_isString (outside : region.isString = false) :
    region.Quoted := by
  rintro quote escaped rfl
  cases outside

theorem Reads.quoted (reads : Reads region piece next)
    (quoted : region.Quoted) : next.Quoted := by
  cases reads with
  | code | closeString => exact Region.quoted_of_isString rfl
  | openString quote_mem =>
      rintro _ _ ⟨⟩
      exact quote_mem
  | backslash | escaped | inString =>
      rintro _ _ ⟨⟩
      exact quoted _ _ rfl

/-- What does not start a comment in a text does not start one in its pieces. -/
theorem Separated.characters_pieces (separated : Separated piece text) :
    Separated piece (characters (pieces .code text)) := by
  intro slash next starts
  cases text with
  | nil => cases starts
  | cons first others =>
      have apart := separated slash first rfl
      have notSlash : Piece.code first ≠ .code '/' :=
        fun same => apart.1 (Piece.code.inj same)
      by_cases first_mem : first ∈ quotes
      · rw [pieces_openString first_mem] at starts
        cases starts
        exact apart
      · rw [pieces_code first_mem (separated_of_ne notSlash others)] at starts
        cases starts
        exact apart

theorem Reads.readsThrough_cons
    (reads : Reads region piece next)
    (separated : Separated piece text)
    (quoted : region.Quoted)
    (others : next.Quoted →
      ReadsThrough next.ofPieces (pieces next text)
        (ending next text).ofPieces) :
    ReadsThrough region.ofPieces (pieces region (piece.character :: text))
      (ending region (piece.character :: text)).ofPieces := by
  have through := others (reads.quoted quoted)
  rw [reads.ending_cons separated, reads.pieces_cons separated]
  cases reads with
  | code noQuote =>
      exact .cons (.code noQuote) separated.characters_pieces through
  | openString quote_mem =>
      exact .cons (.openString quote_mem)
        (separated_of_ne (by rintro ⟨⟩) _) through
  | backslash =>
      exact .cons .backslash (separated_of_ne (by rintro ⟨⟩) _) through
  | escaped => exact .cons .escaped (separated_of_ne (by rintro ⟨⟩) _) through
  | inString notBackslash notQuote =>
      exact .cons (.inString notBackslash notQuote)
        (separated_of_ne (by rintro ⟨⟩) _) through
  | closeString quote_mem =>
      exact .cons (.closeString quote_mem)
        (separated_of_ne (by rintro ⟨⟩) _) through

/-- The pieces of a text are read again from their characters, and end
where the text does. -/
theorem readsThrough_pieces (quoted : region.Quoted) (text : List Char) :
    ReadsThrough region.ofPieces (pieces region text)
      (ending region text).ofPieces := by
  have separated (character : Char) (text : List Char) :
      Separated (.quoted character) text :=
    separated_of_ne (by rintro ⟨⟩) text
  induction region, text using pieces.induct with
  | case1 region => cases region <;> exact .nil
  | case2 rest inductive_step | case3 rest inductive_step =>
      exact inductive_step (Region.quoted_of_isString rfl)
  | case4 character rest _ _ isQuote_character inductive_step =>
      have quote_mem := isQuote_iff.mp isQuote_character
      exact (Reads.openString quote_mem).readsThrough_cons (separated _ _)
        quoted inductive_step
  | case5 character rest noLine noBlock noQuote inductive_step =>
      have apart : Separated (.code character) rest := by
        rintro ⟨⟩ next starts
        rcases List.head?_eq_some_iff.mp starts with ⟨others, rfl⟩
        exact ⟨fun same => noLine others rfl (same ▸ rfl),
          fun same => noBlock others rfl (same ▸ rfl)⟩
      exact (Reads.code (mt isQuote_iff.mpr noQuote)).readsThrough_cons
        apart quoted
        inductive_step
  | case6 quote character rest inductive_step =>
      exact Reads.escaped.readsThrough_cons (separated character rest)
        quoted inductive_step
  | case7 quote character rest backslash inductive_step =>
      have same := beq_iff_eq.mp backslash
      subst same
      exact Reads.backslash.readsThrough_cons (separated _ rest)
        quoted inductive_step
  | case8 quote character rest notBackslash closes inductive_step =>
      have same := beq_iff_eq.mp closes
      subst same
      exact (Reads.closeString (quoted character false rfl)).readsThrough_cons
        (separated _ rest)
        quoted inductive_step
  | case9 quote character rest notBackslash notQuote inductive_step =>
      have reads : Reads (.string quote false) (.quoted character)
          (.string quote false) :=
        .inString (mt beq_iff_eq.mpr notBackslash) (mt beq_iff_eq.mpr notQuote)
      exact reads.readsThrough_cons (separated _ rest) quoted inductive_step
  | case10 character rest lineBreak inductive_step =>
      rw [ending, if_pos lineBreak, pieces, if_pos lineBreak,
        beq_iff_eq.mp lineBreak]
      exact .cons (.code (by decide)) (separated_of_ne (by decide) _)
        (inductive_step (Region.quoted_of_isString rfl))
  | case11 character rest noLineBreak inductive_step =>
      rw [ending, if_neg noLineBreak, pieces, if_neg noLineBreak]
      exact inductive_step (Region.quoted_of_isString rfl)
  | case12 afterStar character rest ends inductive_step =>
      rw [ending, if_pos ends, pieces, if_pos ends]
      exact .cons (.code (by decide)) (separated_of_ne (by decide) _)
        (inductive_step (Region.quoted_of_isString rfl))
  | case13 afterStar character rest continues inductive_step =>
      rw [ending, if_neg continues, pieces, if_neg continues]
      exact inductive_step (Region.quoted_of_isString rfl)

/-- The pieces of a text whose strings are closed are legible. -/
theorem legible_pieces
    (quoted : region.Quoted)
    (closed : (ending region text).isString = false) :
    Legible region.ofPieces (pieces region text) := by
  have outside : (ending region text).ofPieces = .code := by
    cases stop : ending region text with
    | string quote escaped =>
        rw [stop] at closed
        cases closed
    | _ => rfl
  rw [legible_iff, ← outside]
  exact readsThrough_pieces quoted text

/-! ## Parts of legible pieces -/

/-- Pieces that are read through can be cut anywhere. -/
theorem ReadsThrough.of_append
    (through : ReadsThrough region (before ++ rest) last) :
    ∃ middle,
      ReadsThrough region before middle ∧ ReadsThrough middle rest last := by
  induction before generalizing region with
  | nil => exact ⟨region, .nil, through⟩
  | cons piece others inductive_step =>
      cases through with
      | cons reads separated through =>
          rcases inductive_step through with ⟨middle, start, stop⟩
          refine ⟨middle, .cons reads (separated.of_prefix ?_) start, stop⟩
          exact characters_append ▸ List.prefix_append _ _

/-- Pieces are read through one after the other, unless a slash between them
starts a comment. -/
theorem ReadsThrough.append
    (through : ReadsThrough region before middle)
    (others : ReadsThrough middle rest last)
    (apart : ∀ next ∈ (characters rest).head?, next ≠ '/' ∧ next ≠ '*') :
    ReadsThrough region (before ++ rest) last := by
  induction through with
  | nil => exact others
  | @cons region next last piece remaining reads separated _ inductive_step =>
      refine .cons reads ?_ (inductive_step others)
      intro slash first member
      cases remaining with
      | nil => exact apart first member
      | cons second more => exact separated slash first member

/-- Code divides pieces that are read through into pieces outside strings. -/
theorem ReadsThrough.of_append_code
    (through : ReadsThrough region (before ++ .code character :: rest) last) :
    ReadsThrough region before .code ∧ ReadsThrough .code rest last := by
  rcases through.of_append with ⟨middle, start, stop⟩
  cases stop with
  | cons reads _ others =>
      cases reads
      exact ⟨start, others⟩

/-- Code divides legible pieces into legible ones. -/
theorem Legible.of_append_code
    (legible : Legible region (before ++ .code character :: rest)) :
    Legible region before ∧ Legible .code rest := by
  rw [legible_iff, legible_iff]
  exact (legible_iff.mp legible).of_append_code

/-- Legible pieces stay so in front of others, unless a slash between them
starts a comment. -/
theorem Legible.append
    (legible : Legible region before)
    (others : Legible .code rest)
    (apart : ∀ next ∈ (characters rest).head?, next ≠ '/' ∧ next ≠ '*') :
    Legible region (before ++ rest) :=
  legible_iff.mpr
    ((legible_iff.mp legible).append (legible_iff.mp others) apart)

/-- Whether the character starts neither a string nor a comment. -/
def isHarmless (character : Char) : Bool :=
  character ∉ '/' :: quotes

/-- Code without quotes and slashes stands in front of anything legible. -/
theorem Legible.code_append
    (legible : Legible .code rest)
    (harmless : text.all isHarmless = true) :
    Legible .code (text.map .code ++ rest) := by
  induction text with
  | nil => exact legible
  | cons character others inductive_step =>
      simp only [List.all_cons, isHarmless, Bool.and_eq_true, decide_eq_true_eq,
        List.mem_cons, not_or] at harmless
      rcases harmless with ⟨⟨noSlash, noQuote⟩, later⟩
      have separated :=
        separated_of_ne fun same => noSlash (Piece.code.inj same)
      exact .cons (.code noQuote) (separated _) (inductive_step later)

/-- No blank opens a string. -/
theorem Reads.of_isBlank
    (reads : Reads .code piece next)
    (blank : isBlank piece.character = true) :
    next = .code := by
  cases reads with
  | code _ => rfl
  | openString quote_mem =>
      rw [Piece.character, isBlank_of_mem_quotes quote_mem] at blank
      cases blank

/-- No blank closes a string. -/
theorem Reads.of_isBlank_code
    (reads : Reads region piece .code)
    (blank : isBlank piece.character = true) :
    region = .code := by
  cases reads with
  | code _ => rfl
  | closeString quote_mem =>
      rw [Piece.character, isBlank_of_mem_quotes quote_mem] at blank
      cases blank

theorem ReadsThrough.eq_code_of_allBlank
    (through : ReadsThrough .code rest last)
    (blank : AllBlank (characters rest)) :
    last = .code := by
  induction rest with
  | nil =>
      cases through
      rfl
  | cons piece others inductive_step =>
      cases through with
      | cons reads _ through =>
          obtain rfl := reads.of_isBlank (blank _ List.mem_cons_self)
          exact inductive_step through fun other member =>
            blank other (List.mem_cons_of_mem _ member)

theorem ReadsThrough.eq_code_of_allBlank_of_code
    (through : ReadsThrough region rest .code)
    (blank : AllBlank (characters rest)) :
    region = .code := by
  induction rest generalizing region with
  | nil =>
      cases through
      rfl
  | cons piece others inductive_step =>
      cases through with
      | cons reads _ through =>
          obtain rfl := inductive_step through fun other member =>
            blank other (List.mem_cons_of_mem _ member)
          exact reads.of_isBlank_code (blank _ List.mem_cons_self)

/-- Trimming the characters of pieces leaves the characters of some pieces
between the others. -/
theorem exists_trimmed (part : List Piece) :
    ∃ before trimmed after,
      part = before ++ (trimmed ++ after) ∧
        characters trimmed = trim (characters part) ∧
        AllBlank (characters before) ∧ AllBlank (characters after) := by
  rcases exists_trim (characters part) with
    ⟨leading, trailing, blank, blankToo, parted⟩
  rcases List.map_eq_append_iff.mp parted with ⟨before, others, rfl, rfl, kept⟩
  rcases List.map_eq_append_iff.mp kept with ⟨trimmed, after, rfl, same, rfl⟩
  exact ⟨before, trimmed, after, rfl, same, blank, blankToo⟩

/-- Only a string that is left open can have blanks at its end, and it stays
open without them. -/
theorem ReadsThrough.of_trimmed
    {trimmed after : List Piece}
    (through : ReadsThrough .code (before ++ (trimmed ++ after)) last)
    (blank : AllBlank (characters before))
    (blankToo : AllBlank (characters after)) :
    ∃ region,
      ReadsThrough .code trimmed region ∧ (last = .code → region = .code) := by
  rcases through.of_append with ⟨_, throughBefore, through⟩
  obtain rfl := throughBefore.eq_code_of_allBlank blank
  rcases through.of_append with ⟨region, throughTrimmed, throughAfter⟩
  refine ⟨region, throughTrimmed, ?_⟩
  rintro rfl
  exact throughAfter.eq_code_of_allBlank_of_code blankToo

end TextWorld.Snippet
