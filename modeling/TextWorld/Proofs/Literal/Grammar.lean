import Mathlib.Data.List.TakeWhile
import TextWorld.Proofs.Literal.RoundTrip
import TextWorld.Proofs.Text.Cuts

/-!
# The grammar of literals

A literal is a JSON string.  `Spells` says which characters may stand between
its quotes and what they stand for, without saying how they are read: characters
that stand for themselves, escapes of one letter, escapes of four hexadecimal
digits, and two of the latter for a character outside the first plane.

The reader accepts exactly what is spelled in this way, and the scanner that
looks for the end of a literal without understanding its escapes finds the end
that the grammar gives it.
-/

namespace TextWorld.Literal

open TextWorld.Json
open TextWorld.Text

/-- The letters that may follow a backslash, each with what it stands for. -/
def letterEscapes : List (Char × Char) :=
  [('"', '"'), ('\\', '\\'), ('/', '/'), ('b', '\x08'), ('f', '\x0C'),
    ('n', '\n'), ('r', '\r'), ('t', '\t')]

/-- The digits of base sixteen in either case, each with its value. -/
def hexDigitValues : List (Char × Nat) :=
  [('0', 0), ('1', 1), ('2', 2), ('3', 3), ('4', 4), ('5', 5),
    ('6', 6), ('7', 7), ('8', 8), ('9', 9), ('a', 10), ('b', 11), ('c', 12),
    ('d', 13), ('e', 14), ('f', 15), ('A', 10), ('B', 11), ('C', 12), ('D', 13),
    ('E', 14), ('F', 15)]

/-- The four digits write the number in base sixteen. -/
def WritesHex (first second third fourth : Char) (number : Nat) : Prop :=
  ∃ thousands hundreds tens ones,
    (first, thousands) ∈ hexDigitValues ∧ (second, hundreds) ∈ hexDigitValues ∧
      (third, tens) ∈ hexDigitValues ∧ (fourth, ones) ∈ hexDigitValues ∧
      number = thousands * 0x1000 + hundreds * 0x100 + tens * 0x10 + ones

/-- The characters between the quotes of a literal, and the text that
they stand for. -/
inductive Spells : List Char → List Char → Prop where
  | nil : Spells [] []
  | plain {character : Char} {body content : List Char}
      (notQuote : character ≠ '"')
      (notBackslash : character ≠ '\\')
      (printed : 0x20 ≤ character.toNat)
      (rest : Spells body content) :
      Spells (character :: body) (character :: content)
  | letter {letter meant : Char} {body content : List Char}
      (listed : (letter, meant) ∈ letterEscapes)
      (rest : Spells body content) :
      Spells ('\\' :: letter :: body) (meant :: content)
  | unit {first second third fourth : Char} {unit : Nat}
      {body content : List Char}
      (writes : WritesHex first second third fourth unit)
      (noSurrogate : unit < 0xD800 ∨ 0xDFFF < unit)
      (rest : Spells body content) :
      Spells ('\\' :: 'u' :: first :: second :: third :: fourth :: body)
        (Char.ofNat unit :: content)
  | pair {first second third fourth fifth sixth seventh eighth : Char}
      {leading trailing : Nat} {body content : List Char}
      (writesLeading : WritesHex first second third fourth leading)
      (writesTrailing : WritesHex fifth sixth seventh eighth trailing)
      (leads : 0xD800 ≤ leading ∧ leading ≤ 0xDBFF)
      (trails : 0xDC00 ≤ trailing ∧ trailing ≤ 0xDFFF)
      (rest : Spells body content) :
      Spells
        ('\\' :: 'u' :: first :: second :: third :: fourth ::
          '\\' :: 'u' :: fifth :: sixth :: seventh :: eighth :: body)
        (Char.ofNat (0x10000 + (leading - 0xD800) * 0x400 +
            (trailing - 0xDC00)) :: content)

/-- The token is a literal for the text. -/
def Denotes (token : List Char) (text : String) : Prop :=
  ∃ body, token = '"' :: (body ++ ['"']) ∧ Spells body text.toList

variable {body content rest text : List Char}

theorem toList_escape (text : String) :
    (escape text).toList = escapeCharacters text.toList :=
  String.toList_ofList

theorem shortEscape_eq_some_iff {letter meant : Char} :
    shortEscape letter = some meant ↔ (letter, meant) ∈ letterEscapes := by
  constructor
  · intro escape
    unfold shortEscape at escape
    split at escape <;> cases escape <;> decide
  · intro listed
    simp only [letterEscapes, List.mem_cons, Prod.mk.injEq, List.not_mem_nil,
      or_false] at listed
    rcases listed with
      ⟨rfl, rfl⟩ | ⟨rfl, rfl⟩ | ⟨rfl, rfl⟩ | ⟨rfl, rfl⟩ | ⟨rfl, rfl⟩ |
      ⟨rfl, rfl⟩ | ⟨rfl, rfl⟩ | ⟨rfl, rfl⟩ <;> rfl

theorem toNat_le_of_hexValue {digit : Char} {value : Nat}
    (read : hexValue digit = some value) :
    digit.toNat ≤ 'f'.toNat := by
  rw [hexValue] at read
  split at read
  · next isDigit =>
      rw [Char.isDigit, Bool.and_eq_true, decide_eq_true_eq,
        decide_eq_true_eq] at isDigit
      exact Nat.le_trans isDigit.2 (by decide)
  · split at read
    · next lower => exact lower.2
    · split at read
      · next upper => exact Nat.le_trans upper.2 (by decide)
      · cases read

theorem hexValue_eq_some_iff {digit : Char} {value : Nat} :
    hexValue digit = some value ↔ (digit, value) ∈ hexDigitValues := by
  constructor
  · intro read
    have listed : ∀ code ≤ 'f'.toNat, ∀ value ∈ hexValue (Char.ofNat code),
        (Char.ofNat code, value) ∈ hexDigitValues := by
      decide +kernel
    have member := listed digit.toNat (toNat_le_of_hexValue read) value
    rw [Char.ofNat_toNat] at member
    exact member read
  · intro listed
    have read :
        ∀ entry ∈ hexDigitValues, hexValue entry.1 = some entry.2 := by decide
    exact read _ listed

theorem fourHexValue_eq_some_iff {first second third fourth : Char}
    {number : Nat} :
    fourHexValue first second third fourth = some number ↔
      WritesHex first second third fourth number := by
  simp only [fourHexValue, Option.bind_eq_bind, Option.bind_eq_some_iff,
    hexValue_eq_some_iff, Option.pure_def, Option.some.injEq, WritesHex]
  have sum (thousands hundreds tens ones : Nat) :
      ((thousands * 16 + hundreds) * 16 + tens) * 16 + ones =
        thousands * 0x1000 + hundreds * 0x100 + tens * 0x10 + ones := by
    omega
  constructor
  · rintro ⟨thousands, first, hundreds, second, tens, third, ones, fourth, rfl⟩
    exact ⟨thousands, hundreds, tens, ones, first, second,
      third, fourth, sum ..⟩
  · rintro ⟨thousands, hundreds, tens, ones, first, second, third, fourth, rfl⟩
    exact ⟨thousands, first, hundreds, second, tens, third,
      ones, fourth, sum ..⟩

theorem addCharacter_eq_ok_iff
    {character : Char}
    {reply : Except Mistake (List Char × List Char)} :
    addCharacter character reply = .ok (content, rest) ↔
      ∃ others, content = character :: others ∧ reply = .ok (others, rest) := by
  constructor
  · intro read
    cases reply with
    | error mistake => cases read
    | ok others =>
        cases read
        exact ⟨others.1, rfl, rfl⟩
  · rintro ⟨others, rfl, rfl⟩
    rfl

/-! ## The reader accepts what is spelled -/

/-- What was read was spelled, up to the closing quote. -/
theorem readString_sound
    (read : readString text = .ok (content, rest)) :
    ∃ body, text = body ++ '"' :: rest ∧ Spells body content := by
  fun_induction readString text generalizing content with
  | case2 after =>
      cases read
      exact ⟨[], rfl, .nil⟩
  | case6 first second third fourth leading leadingValue _ leads fifth sixth
      seventh eighth after
      trailing trailingValue trails inductive_step =>
      rcases addCharacter_eq_ok_iff.mp read with ⟨others, rfl, later⟩
      rcases inductive_step later with ⟨body, rfl, spells⟩
      simp only [isLeadingSurrogate, Bool.and_eq_true,
        decide_eq_true_eq] at leads
      simp only [isTrailingSurrogate, Bool.and_eq_true,
        decide_eq_true_eq] at trails
      exact ⟨_, rfl, .pair (fourHexValue_eq_some_iff.mp leadingValue)
        (fourHexValue_eq_some_iff.mp trailingValue) leads trails spells⟩
  | case9 first second third fourth after unit value notTrailing notLeading
    inductive_step =>
      rcases addCharacter_eq_ok_iff.mp read with ⟨others, rfl, later⟩
      rcases inductive_step later with ⟨body, rfl, spells⟩
      simp only [isLeadingSurrogate, Bool.and_eq_true,
        decide_eq_true_eq] at notLeading
      simp only [isTrailingSurrogate, Bool.and_eq_true,
        decide_eq_true_eq] at notTrailing
      exact ⟨_, rfl,
        .unit (fourHexValue_eq_some_iff.mp value) (by omega) spells⟩
  | case12 letter after _ _ meant escape inductive_step =>
      rcases addCharacter_eq_ok_iff.mp read with ⟨others, rfl, later⟩
      rcases inductive_step later with ⟨body, rfl, spells⟩
      exact ⟨_, rfl, .letter (shortEscape_eq_some_iff.mp escape) spells⟩
  | case15 character after notQuote _ _ notLast notEscape printed
    inductive_step =>
      rcases addCharacter_eq_ok_iff.mp read with ⟨others, rfl, later⟩
      rcases inductive_step later with ⟨body, rfl, spells⟩
      have notBackslash : character ≠ '\\' := by
        intro same
        cases left : body ++ '"' :: rest with
        | nil => exact notLast same left
        | cons next others => exact notEscape next others same left
      exact ⟨_, rfl,
        .plain notQuote notBackslash (Nat.not_lt.mp printed) spells⟩
  | _ => cases read

/-- What is spelled is read, up to the closing quote. -/
theorem readString_complete
    (spells : Spells body content)
    (rest : List Char) :
    readString (body ++ '"' :: rest) = .ok (content, rest) := by
  induction spells with
  | nil => rfl
  | plain notQuote notBackslash printed _ inductive_step =>
      rw [List.cons_append, readString_cons notQuote notBackslash printed,
        inductive_step]
      rfl
  | letter listed _ inductive_step =>
      have escape := shortEscape_eq_some_iff.mpr listed
      rw [List.cons_append, List.cons_append,
        readString_letter escape, inductive_step]
      rfl
  | unit writes noSurrogate _ inductive_step =>
      have value := fourHexValue_eq_some_iff.mpr writes
      simp only [List.cons_append,
        readString_unit value noSurrogate, inductive_step]
      rfl
  | @pair _ _ _ _ _ _ _ _ leading trailing _ _ writesLeading
      writesTrailing leads trails _
      inductive_step =>
      have leadingValue := fourHexValue_eq_some_iff.mpr writesLeading
      have trailingValue := fourHexValue_eq_some_iff.mpr writesTrailing
      have notTrailing : isTrailingSurrogate leading = false := by
        simp only [isTrailingSurrogate, Bool.and_eq_false_imp,
          decide_eq_true_eq, decide_eq_false_iff_not]
        omega
      have isLeading : isLeadingSurrogate leading = true := by
        simpa only [isLeadingSurrogate, Bool.and_eq_true,
          decide_eq_true_eq] using leads
      have isTrailing : isTrailingSurrogate trailing = true := by
        simpa only [isTrailingSurrogate, Bool.and_eq_true,
          decide_eq_true_eq] using trails
      simp only [List.cons_append, readString, leadingValue, trailingValue,
        notTrailing, isLeading, isTrailing, inductive_step]
      rfl

/-- The reader accepts a text exactly when it is spelled and a
quote closes it. -/
theorem readString_eq_ok_iff :
    readString text = .ok (content, rest) ↔
      ∃ body, text = body ++ '"' :: rest ∧ Spells body content := by
  constructor
  · exact readString_sound
  · rintro ⟨body, rfl, spells⟩
    exact readString_complete spells rest

/-! ## The end of a literal -/

/-- The scanner finds the quote that closes what is spelled. -/
theorem literalEnd_of_spells
    (spells : Spells body content)
    (rest : List Char) :
    literalEnd false (body ++ '"' :: rest) = some (body ++ ['"']) := by
  induction spells with
  | nil => rfl
  | plain notQuote notBackslash printed _ inductive_step =>
      rw [List.cons_append, literalEnd_cons notQuote notBackslash,
        inductive_step]
      rfl
  | letter listed _ inductive_step =>
      simp only [List.cons_append, literalEnd, inductive_step]
      rfl
  | unit writes noSurrogate _ inductive_step =>
      have value := fourHexValue_eq_some_iff.mpr writes
      simp only [List.cons_append, literalEnd_unit value, inductive_step]
      rfl
  | pair writesLeading writesTrailing leads trails _ inductive_step =>
      have leadingValue := fourHexValue_eq_some_iff.mpr writesLeading
      have trailingValue := fourHexValue_eq_some_iff.mpr writesTrailing
      simp only [List.cons_append, literalEnd_unit leadingValue,
        literalEnd_unit trailingValue, inductive_step]
      rfl

/-- What the scanner finds is the start of the text, up to a quote. -/
theorem exists_of_literalEnd
    {escaped : Bool}
    {found : List Char}
    (ends : literalEnd escaped text = some found) :
    ∃ body rest, found = body ++ ['"'] ∧ text = body ++ '"' :: rest := by
  have further {character : Char} {after found : List Char} {escaped : Bool}
      (inductive_step : ∀ {found}, literalEnd escaped after = some found →
        ∃ body rest, found = body ++ ['"'] ∧ after = body ++ '"' :: rest)
      (ends : (literalEnd escaped after).map (character :: ·) = some found) :
      ∃ body rest,
        found = body ++ ['"'] ∧ character :: after = body ++ '"' :: rest := by
    rcases Option.map_eq_some_iff.mp ends with ⟨others, later, rfl⟩
    rcases inductive_step later with ⟨body, rest, rfl, rfl⟩
    exact ⟨character :: body, rest, rfl, rfl⟩
  fun_induction literalEnd escaped text generalizing found with
  | case1 => cases ends
  | case2 character after inductive_step => exact further inductive_step ends
  | case3 after inductive_step => exact further inductive_step ends
  | case4 after =>
      cases ends
      exact ⟨[], after, rfl, rfl⟩
  | case5 character after _ _ inductive_step =>
      exact further inductive_step ends

theorem exists_of_leadingLiteral
    {token : List Char}
    (leads : leadingLiteral text = some token) :
    ∃ body rest, token = '"' :: (body ++ ['"']) ∧ text = token ++ rest := by
  unfold leadingLiteral at leads
  split at leads
  · next after =>
      rcases Option.map_eq_some_iff.mp leads with ⟨found, ends, rfl⟩
      rcases exists_of_literalEnd ends with ⟨body, rest, rfl, rfl⟩
      exact ⟨body, rest, rfl, by simp⟩
  · cases leads

/-- The bytes of a leading literal end between two characters, after
the closing quote. -/
theorem splitAtByte?_literalLength (text : String) :
    (literalLength text).bind (splitAtByte? · text.toList) =
      (leadingLiteral text.toList).map fun token =>
        (token, text.toList.drop token.length) := by
  rw [literalLength]
  cases leads : leadingLiteral text.toList with
  | none => rfl
  | some token =>
      rcases exists_of_leadingLiteral leads with ⟨body, rest, -, parted⟩
      rw [Option.map_some, Option.bind_some, Option.map_some, parted,
        splitAtByte?_append, List.drop_left]

/-! ## Literals as tokens -/

/-- What is between two quotes is read to the end exactly when it is spelled. -/
theorem decodeCharacters_quoted_iff :
    decodeCharacters ('"' :: (body ++ ['"'])) = .ok content ↔
      Spells body content := by
  have start :
      skipBlanks ('"' :: (body ++ ['"'])) = '"' :: (body ++ ['"']) := rfl
  rw [decodeCharacters, start]
  constructor
  · intro decoded
    cases read : readString (body ++ ['"']) with
    | error mistake =>
        simp only [read] at decoded
        cases decoded
    | ok found =>
        rcases found with ⟨characters, after⟩
        simp only [read] at decoded
        rcases readString_eq_ok_iff.mp read with ⟨spelled, parted, spells⟩
        cases blank : skipBlanks after with
        | cons extra others =>
            rw [blank] at decoded
            cases decoded
        | nil =>
            rw [blank] at decoded
            cases decoded
            -- a quote is the last character, and no blank
            rcases List.eq_nil_or_concat after with rfl | ⟨others, last, rfl⟩
            · rwa [(List.append_inj' parted rfl).1]
            · rw [List.concat_eq_append, ← List.cons_append,
                ← List.append_assoc] at parted
              have quote : ['"'] = [last] := (List.append_inj' parted rfl).2
              cases quote
              have isBlank_quote : isJsonBlank '"' = true :=
                List.dropWhile_eq_nil_iff.mp blank '"' (by simp)
              cases isBlank_quote
  · intro spells
    simp only [readString_complete spells []]
    rfl

theorem decode_eq_ok_iff_denotes
    {token : List Char}
    {text : String}
    (quoted : ∃ body, token = '"' :: (body ++ ['"'])) :
    decode (String.ofList token) = .ok text ↔ Denotes token text := by
  rcases quoted with ⟨body, rfl⟩
  have whole :
      Denotes ('"' :: (body ++ ['"'])) text ↔ Spells body text.toList := by
    constructor
    · rintro ⟨other, same, spells⟩
      rwa [(List.append_inj' (List.cons.inj same).2 rfl).1]
    · intro spells
      exact ⟨body, rfl, spells⟩
  rw [whole, ← decodeCharacters_quoted_iff, decode, String.toList_ofList]
  cases decodeCharacters ('"' :: (body ++ ['"'])) with
  | error mistake => simp
  | ok content =>
      constructor
      · intro same
        cases same
        rw [String.toList_ofList]
      · intro same
        cases same
        simp

/-- A literal is found at the start of a text, whatever comes after it. -/
theorem Denotes.leadingLiteral_append
    {token : List Char}
    {text : String}
    (denotes : Denotes token text)
    (rest : List Char) :
    leadingLiteral (token ++ rest) = some token := by
  rcases denotes with ⟨body, rfl, spells⟩
  have parted :
      ('"' :: (body ++ ['"'])) ++ rest = '"' :: (body ++ '"' :: rest) := by simp
  rw [parted, leadingLiteral, literalEnd_of_spells spells]
  rfl

end TextWorld.Literal
