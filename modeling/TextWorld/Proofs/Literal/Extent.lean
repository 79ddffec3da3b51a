import TextWorld.Proofs.Literal.Grammar

/-!
# Where a literal ends

The scanner that looks for the end of a literal knows of escapes only that a
backslash takes the next character with it.  The reader knows what every escape
means, and allows blanks around a literal.  The two agree on where a literal
ends: a prefix of a text that begins and ends with a quote and is accepted by
the reader is what the scanner finds, whatever comes after it, and no shorter
prefix is accepted.
-/

namespace TextWorld.Literal

open TextWorld.Json
open TextWorld.Text

/-- The text begins and ends with a double quote. -/
def Quoted (text : String) : Prop :=
  text.toList.head? = some '"' ∧ text.toList.getLast? = some '"'

variable {body content rest : List Char}
  {text token meant : String} {length : Nat}

/-- What is decoded and begins with a quote is a literal, with
blanks after it. -/
theorem exists_spells_of_decode
    (starts : text.toList.head? = some '"')
    (decoded : decode text = .ok meant) :
    ∃ body blanks, text.toList = '"' :: (body ++ '"' :: blanks) ∧
      Spells body meant.toList ∧
      ∀ character ∈ blanks, isJsonBlank character = true := by
  rcases List.head?_eq_some_iff.mp starts with ⟨after, parted⟩
  have start : skipBlanks ('"' :: after) = '"' :: after := rfl
  rw [decode, parted, decodeCharacters, start] at decoded
  cases read : readString after with
  | error mistake =>
      simp only [read] at decoded
      cases decoded
  | ok found =>
      rcases found with ⟨content, blanks⟩
      rcases readString_eq_ok_iff.mp read with ⟨body, rfl, spells⟩
      cases trailing : skipBlanks blanks with
      | cons extra others =>
          simp only [read, trailing] at decoded
          cases decoded
      | nil =>
          simp only [read, trailing] at decoded
          cases decoded
          rw [String.toList_ofList]
          exact ⟨body, blanks, parted, spells,
            List.dropWhile_eq_nil_iff.mp trailing⟩

/-- The size of what is spelled, with its quotes, is found whatever
comes after it. -/
theorem literalLength_of_spells
    (spells : Spells body content)
    (parted : text.toList = '"' :: (body ++ '"' :: rest)) :
    literalLength text = some (byteLength ('"' :: (body ++ ['"']))) := by
  rw [literalLength, parted, leadingLiteral, literalEnd_of_spells spells]
  rfl

/-- A decoded start of a text that begins with a quote holds the literal that
the scanner finds. -/
theorem exists_literalLength_of_decode
    (starts : token.toList.head? = some '"')
    (decoded : decode token = .ok meant)
    (after : String) :
    ∃ body blanks, token.toList = '"' :: (body ++ ['"']) ++ blanks ∧
      (∀ character ∈ blanks, isJsonBlank character = true) ∧
      literalLength (token ++ after) =
        some (byteLength ('"' :: (body ++ ['"']))) := by
  rcases exists_spells_of_decode starts decoded with
    ⟨body, blanks, parted, spells, blank⟩
  have extended :
      (token ++ after).toList =
        '"' :: (body ++ '"' :: (blanks ++ after.toList)) := by
    simp [parted]
  exact ⟨body,
    blanks, by simp [parted], blank, literalLength_of_spells spells extended⟩

/-- The scanner finds the whole of a decoded text between quotes. -/
theorem literalLength_of_decode
    (quoted : Quoted token)
    (decoded : decode token = .ok meant)
    (after : String) :
    literalLength (token ++ after) = some token.utf8ByteSize := by
  rcases exists_literalLength_of_decode quoted.1 decoded after with
    ⟨body, blanks, parted, blank, found⟩
  -- the text ends with a quote, so that no blank stands after the literal
  have none : blanks = [] := by
    rcases List.eq_nil_or_concat blanks with none | ⟨others, last, rfl⟩
    · exact none
    · have stops := quoted.2
      rw [parted, List.concat_eq_append, ← List.append_assoc,
        List.getLast?_concat] at stops
      cases stops
      have isBlank_quote := blank '"' (by simp)
      cases isBlank_quote
  rw [found, ← byteLength_toList, parted, none, List.append_nil]

/-- A decoded start of a text is not shorter than the literal that the
scanner finds there. -/
theorem literalLength_le_of_decode
    {after : String}
    (found : literalLength (token ++ after) = some length)
    (starts : (token ++ after).toList.head? = some '"')
    (decoded : decode token = .ok meant) :
    length ≤ token.utf8ByteSize := by
  have startsToo : token.toList.head? = some '"' := by
    cases characters : token.toList with
    | nil =>
        rw [String.toList_eq_nil_iff.mp characters] at decoded
        cases decoded
    | cons first others =>
        rw [String.toList_append, characters] at starts
        exact starts
  rcases exists_literalLength_of_decode startsToo decoded after with
    ⟨body, blanks, parted, -, foundToo⟩
  calc
    length = byteLength ('"' :: (body ++ ['"'])) :=
      Option.some.inj (found.symm.trans foundToo)
    _ ≤ byteLength token.toList := by
        rw [parted, byteLength_append]
        exact Nat.le_add_right _ _
    _ = token.utf8ByteSize := byteLength_toList token

/-- What the scanner finds is a part of the text, from quote to quote. -/
theorem exists_quoted_of_literalLength
    (found : literalLength text = some length) :
    ∃ token after, text = token ++ after ∧ token.utf8ByteSize = length ∧
      Quoted token := by
  rcases Option.map_eq_some_iff.mp found with ⟨characters, leads, rfl⟩
  rcases exists_of_leadingLiteral leads with ⟨body, rest, rfl, parted⟩
  refine ⟨String.ofList ('"' :: (body ++ ['"'])), String.ofList rest, ?_,
    utf8ByteSize_ofList _, ?_⟩
  · rw [← String.ofList_append, ← parted, String.ofList_toList]
  · constructor
    · rw [String.toList_ofList]
      rfl
    · rw [String.toList_ofList, ← List.cons_append, List.getLast?_concat]

/--
The scanner finds the size of every prefix that is decoded and stands between
quotes.  What it finds ends between two characters, stands between quotes, and
has no shorter prefix that is decoded.
-/
theorem scanner_agrees_with_reader (text : String) :
    (∀ token after meant, text = token ++ after → Quoted token →
      decode token = .ok meant → literalLength text = some token.utf8ByteSize) ∧
    ∀ length, literalLength text = some length →
      (String.Pos.Raw.mk length).IsValid text ∧
      (∃ token after,
        text = token ++ after ∧ token.utf8ByteSize = length ∧ Quoted token) ∧
      ∀ shorter after meant, text = shorter ++ after →
        shorter.utf8ByteSize < length → decode shorter ≠ .ok meant := by
  constructor
  · rintro token after meant rfl quoted decoded
    exact literalLength_of_decode quoted decoded after
  · intro length found
    rcases exists_quoted_of_literalLength found with
      ⟨token, after, parted, size, quoted⟩
    refine ⟨?_, ⟨token, after, parted, size, quoted⟩, ?_⟩
    · rw [String.Pos.Raw.isValid_iff_exists_append]
      exact ⟨token, after, parted, congrArg String.Pos.Raw.mk size.symm⟩
    · rintro shorter others meant same small decoded
      have starts : text.toList.head? = some '"' := by
        rw [parted, String.toList_append, List.head?_append, quoted.1]
        rfl
      subst same
      exact Nat.not_lt.mpr
        (literalLength_le_of_decode found starts decoded) small

/-- A literal with a number and a run of backslashes in it ends at its last
quote, though another literal comes after it. -/
theorem literal_ends_before_next :
    literalLength (escape "\x1b\\" ++ ", \"b\"") = some 10 ∧
      ∀ shorter after meant,
        escape "\x1b\\" ++ ", \"b\"" = shorter ++ after →
        shorter.utf8ByteSize < 10 →
          decode shorter ≠ .ok meant := by
  have agreed := scanner_agrees_with_reader (escape "\x1b\\" ++ ", \"b\"")
  have size : (escape "\x1b\\").utf8ByteSize = 10 := by decide +kernel
  have found := agreed.1 _ _ _ rfl ⟨by decide +kernel, by decide +kernel⟩
    (decode_escape "\x1b\\")
  rw [size] at found
  exact ⟨found, (agreed.2 _ found).2.2⟩

end TextWorld.Literal
