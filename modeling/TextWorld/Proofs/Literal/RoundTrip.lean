import TextWorld.Literal

/-!
# Literals are read back

`escape` writes a text as a literal and `decode` reads a literal as a text.
The two are separate scanners, and a third one, `leadingLiteral`, cuts a
literal out of the code around it.  Each of them is followed here over one
escaped character at a time.

The main statements are `decode_escape`, that decoding undoes escaping, and
`leadingLiteral_escapeCharacters_append`, that a literal ends where it was
written to end, whatever code comes after it.
-/

namespace TextWorld.Literal

open TextWorld.Text
open TextWorld.Json

/-! ## Ways of writing a character -/

/-- A character is written with a letter of its own, with its
number, or as itself. -/
inductive WrittenAs (character : Char) : List Char → Prop where
  | letter {letter : Char} (meant : shortEscape letter = some character) :
      WrittenAs character ['\\', letter]
  | number (control : isControl character = true) :
      WrittenAs character ('\\' :: 'u' :: upperHexDigits character.toNat)
  | plain
      (notQuote : character ≠ '"')
      (notBackslash : character ≠ '\\')
      (notControl : isControl character = false) :
      WrittenAs character [character]

theorem writtenAs_escapeCharacter (character : Char) :
    WrittenAs character (escapeCharacter character) := by
  unfold escapeCharacter
  split
  · exact .letter rfl
  · exact .letter rfl
  · exact .letter rfl
  · exact .letter rfl
  · exact .letter rfl
  · next notQuote notBackslash _ _ _ =>
    split
    · next control => exact .number control
    · next notControl =>
        exact .plain notQuote notBackslash (Bool.eq_false_iff.mpr notControl)

/-! ## The digits of an escaped control character -/

/-- The value of a written digit does not depend on its case. -/
theorem hexValue_toUpper_digitChar {digit : Nat} (small : digit < 16) :
    hexValue (Nat.digitChar digit).toUpper = some digit := by
  have all : ∀ other ∈ List.range 16,
      hexValue (Nat.digitChar other).toUpper = some other := by decide
  exact all digit (List.mem_range.mpr small)

theorem upperHexDigits_eq {number : Nat} (small : number < 65536) :
    ∃ first second third fourth,
      upperHexDigits number = [first, second, third, fourth] ∧
        fourHexValue first second third fourth = some number := by
  have below (size : Nat) : size % 16 < 16 := Nat.mod_lt size (by decide)
  refine ⟨_, _, _, _, rfl, ?_⟩
  simp only [fourHexValue, hexValue_toUpper_digitChar (below _),
    Option.bind_eq_bind, Option.bind_some, Option.pure_def, Option.some.injEq]
  omega

/-- Digits with a value are none of the characters without one. -/
theorem ne_of_fourHexValue
    {first second third fourth other : Char}
    {unit : Nat}
    (value : fourHexValue first second third fourth = some unit)
    (noDigit : hexValue other = none) :
    ∀ digit ∈ [first, second, third, fourth], digit ≠ other := by
  have differs {digit : Char} {value : Nat}
      (hexadecimal : hexValue digit = some value) :
      digit ≠ other := by
    rintro rfl
    rw [hexadecimal] at noDigit
    cases noDigit
  simp only [fourHexValue, Option.bind_eq_bind,
    Option.bind_eq_some_iff] at value
  rcases value with
    ⟨_, firstValue, _, secondValue, _, thirdValue, _, fourthValue, -⟩
  simp [differs firstValue, differs secondValue, differs thirdValue,
    differs fourthValue]

/-- A control character lies below the surrogates. -/
theorem toNat_lt_of_isControl {character : Char}
    (control : isControl character = true) :
    character.toNat < 0xA0 := by
  simp only [isControl, Bool.or_eq_true, Bool.and_eq_true,
    decide_eq_true_eq] at control
  omega

/-! ## Reading one escaped character -/

/-- A character that is neither a quote, a backslash nor a control
stands for itself. -/
theorem readString_cons
    {character : Char}
    (notQuote : character ≠ '"')
    (notBackslash : character ≠ '\\')
    (printed : 0x20 ≤ character.toNat)
    (rest : List Char) :
    readString (character :: rest) =
      addCharacter character (readString rest) := by
  rw [readString, if_neg (Nat.not_lt.mpr printed)]
  · exact notQuote
  -- every other reading starts with a backslash
  all_goals
    intros
    contradiction

/-- The escape of a code unit that is no surrogate stands for the
character of that code. -/
theorem readString_unit
    {first second third fourth : Char}
    {unit : Nat}
    (value : fourHexValue first second third fourth = some unit)
    (noSurrogate : unit < 0xD800 ∨ 0xDFFF < unit)
    (rest : List Char) :
    readString ('\\' :: 'u' :: first :: second :: third :: fourth :: rest) =
      addCharacter (Char.ofNat unit) (readString rest) := by
  have notTrailing : isTrailingSurrogate unit = false := by
    simp only [isTrailingSurrogate, Bool.and_eq_false_imp, decide_eq_true_eq,
      decide_eq_false_iff_not]
    omega
  have notLeading : isLeadingSurrogate unit = false := by
    simp only [isLeadingSurrogate, Bool.and_eq_false_imp, decide_eq_true_eq,
      decide_eq_false_iff_not]
    omega
  simp [readString, value, notTrailing, notLeading]

theorem readString_letter
    {letter meant : Char}
    (escape : shortEscape letter = some meant)
    (rest : List Char) :
    readString ('\\' :: letter :: rest) =
      addCharacter meant (readString rest) := by
  have notUnit : letter ≠ 'u' := by
    rintro rfl
    cases escape
  rw [readString]
  · simp only [escape]
  · intro _ _ _ _ _ same
    exact absurd same notUnit
  · exact notUnit

/-- One escaped character is read as that character. -/
theorem readString_escapeCharacter_append (character : Char)
    (rest : List Char) :
    readString (escapeCharacter character ++ rest) =
      addCharacter character (readString rest) := by
  have kind := writtenAs_escapeCharacter character
  generalize escapeCharacter character = written at kind ⊢
  cases kind with
  | letter meant => exact readString_letter meant rest
  | number control =>
      have small := toNat_lt_of_isControl control
      obtain ⟨first, second, third, fourth, digits, value⟩ :=
        upperHexDigits_eq (Nat.lt_trans small (by decide))
      have read :=
        readString_unit value (.inl (Nat.lt_trans small (by decide))) rest
      rw [Char.ofNat_toNat] at read
      rwa [digits]
  | plain notQuote notBackslash notControl =>
      have printed : 0x20 ≤ character.toNat := by
        simp only [isControl, Bool.or_eq_false_iff,
          decide_eq_false_iff_not] at notControl
        exact Nat.not_lt.mp notControl.1
      exact readString_cons notQuote notBackslash printed rest

/-! ## Reading a literal -/

/-- An escaped text up to the closing quote is read as the text. -/
theorem readString_escape (characters rest : List Char) :
    readString (characters.flatMap escapeCharacter ++ '"' :: rest) =
      .ok (characters, rest) := by
  induction characters with
  | nil =>
      simp [readString]
  | cons character others inductive_step =>
      rw [List.flatMap_cons, List.append_assoc,
        readString_escapeCharacter_append, inductive_step]
      rfl

/-- The characters of a literal are decoded to the characters it
was written for. -/
theorem decodeCharacters_escapeCharacters (characters : List Char) :
    decodeCharacters (escapeCharacters characters) = .ok characters := by
  have start :
      skipBlanks (escapeCharacters characters) =
        '"' :: (characters.flatMap escapeCharacter ++ ['"']) := by
    rfl
  rw [decodeCharacters, start]
  simp [readString_escape, skipBlanks]

/-- Decoding undoes escaping. -/
@[simp]
theorem decode_escape (text : String) :
    decode (escape text) = .ok text := by
  simp [decode, escape, decodeCharacters_escapeCharacters]

/-! ## Finding the end of a literal -/

/-- A character that neither ends nor escapes anything belongs
to the literal. -/
theorem literalEnd_cons
    {character : Char}
    (notQuote : character ≠ '"')
    (notBackslash : character ≠ '\\')
    (rest : List Char) :
    literalEnd false (character :: rest) =
      (literalEnd false rest).map (character :: ·) := by
  rw [literalEnd.eq_def]
  split <;> simp_all

theorem literalEnd_unit
    {first second third fourth : Char}
    {unit : Nat}
    (value : fourHexValue first second third fourth = some unit)
    (rest : List Char) :
    literalEnd false
      ('\\' :: 'u' :: first :: second :: third :: fourth :: rest) =
      (literalEnd false rest).map
        ('\\' :: 'u' :: first :: second :: third :: fourth :: ·) := by
  have noQuote := ne_of_fourHexValue value (rfl : hexValue '"' = none)
  have noBackslash := ne_of_fourHexValue value (rfl : hexValue '\\' = none)
  simp only [List.forall_mem_cons] at noQuote noBackslash
  simp [literalEnd, literalEnd_cons, noQuote, noBackslash, Function.comp_def]

/-- One escaped character never ends a literal. -/
theorem literalEnd_escapeCharacter_append (character : Char)
    (rest : List Char) :
    literalEnd false (escapeCharacter character ++ rest) =
      (literalEnd false rest).map (escapeCharacter character ++ ·) := by
  have kind := writtenAs_escapeCharacter character
  generalize escapeCharacter character = written at kind ⊢
  cases kind with
  | letter => simp [literalEnd, Function.comp_def]
  | number control =>
      obtain ⟨first, second, third, fourth, digits, value⟩ :=
        upperHexDigits_eq
          (Nat.lt_trans (toNat_lt_of_isControl control) (by decide))
      rw [digits]
      exact literalEnd_unit value rest
  | plain notQuote notBackslash =>
      exact literalEnd_cons notQuote notBackslash rest

/-- The end of a literal is the first quote that is not escaped. -/
theorem literalEnd_escape (characters rest : List Char) :
    literalEnd false (characters.flatMap escapeCharacter ++ '"' :: rest) =
      some (characters.flatMap escapeCharacter ++ ['"']) := by
  induction characters with
  | nil =>
      simp [literalEnd]
  | cons character others inductive_step =>
      rw [List.flatMap_cons, List.append_assoc,
        literalEnd_escapeCharacter_append, inductive_step]
      simp

/-- A literal ends where it was written to end, whatever follows it. -/
theorem leadingLiteral_escapeCharacters_append (characters rest : List Char) :
    leadingLiteral (escapeCharacters characters ++ rest) =
      some (escapeCharacters characters) := by
  have parted :
      escapeCharacters characters ++ rest =
        '"' :: (characters.flatMap escapeCharacter ++ '"' :: rest) := by
    simp [escapeCharacters]
  rw [parted, leadingLiteral, literalEnd_escape]
  rfl

end TextWorld.Literal
