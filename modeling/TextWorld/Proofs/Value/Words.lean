import TextWorld.Proofs.Literal.Grammar
import TextWorld.Proofs.Number.Positional
import TextWorld.Proofs.Value.Nesting

/-!
# Where a display ends

The display of a scalar is a literal or a word, and in the display of a
container neither is followed by a character of a word.  So it is seen where the
display of a scalar ends, and its first character or its word tells what kind of
value is displayed.
-/

namespace TextWorld.Value

open TextWorld.Number
open TextWorld.Text

/-- The characters of words: ASCII letters and digits, the point, the sign, and
the mark of ids. -/
def isWordCharacter (character : Char) : Bool :=
  character.isAlphanum || character == '.' || character ==
    '-' || character == '#'

/-- A word has characters of words only, and at least one. -/
def IsWord (text : List Char) : Prop :=
  text ≠ [] ∧ ∀ character ∈ text, isWordCharacter character = true

-- by the characters of the text, and not by all characters
instance (text : List Char) : Decidable (IsWord text) :=
  @instDecidableAnd _ _ inferInstance
    (List.decidableBAll (fun character =>
          isWordCharacter character = true) text)

/-- The text does not continue a word that it comes after. -/
def EndsWord (text : List Char) : Prop :=
  ∀ character ∈ text.head?, isWordCharacter character = false

/-- The short name of the kind of scalar that is displayed by a word. -/
def wordType (word : List Char) : String :=
  if '#' ∈ word then
    "entity"
  else if 'e' ∈ word then
    "bool"
  else if 'l' ∈ word then
    "nil"
  else if '.' ∈ word ∨ 'f' ∈ word ∨ 'N' ∈ word then
    "float"
  else
    "int"

/-- The short name of the kind of value whose display the text starts with. -/
def shownType : List Char → Option String
  | '"' :: _ => some "string"
  | '[' :: _ => some "list"
  | '\x7b' :: _ => some "object"
  | text =>
      let word := text.takeWhile isWordCharacter
      if word = [] then none else some (wordType word)

variable {limits : Limits} {budget : Nat} {value : Value}
  {left right rest other : List Char}

/-! ## Words -/

theorem takeWhile_append_of_all
    {property : Char → Bool}
    (all : ∀ character ∈ left, property character = true)
    (ends : ∀ character ∈ rest.head?, property character = false) :
    (left ++ rest).takeWhile property = left := by
  have stops : rest.takeWhile property = [] := by
    cases rest with
    | nil => rfl
    | cons first others =>
        rw [List.takeWhile_cons_of_neg]
        rw [ends first rfl]
        exact Bool.false_ne_true
  rw [List.takeWhile_append_of_pos all, stops, List.append_nil]

/-- Texts of characters with a property are the same if what follows each
of them lacks it. -/
theorem append_injective_of_all
    {property : Char → Bool}
    (all : ∀ character ∈ left, property character = true)
    (otherAll : ∀ character ∈ right, property character = true)
    (ends : ∀ character ∈ rest.head?, property character = false)
    (otherEnds : ∀ character ∈ other.head?, property character = false)
    (same : left ++ rest = right ++ other) :
    left = right ∧ rest = other := by
  have sameText : left = right := by
    rw [← takeWhile_append_of_all all ends, same,
      takeWhile_append_of_all otherAll otherEnds]
  subst sameText
  exact ⟨rfl, List.append_cancel_left same⟩

/-- A word tells the kind of the scalar that it displays. -/
theorem IsWord.shownType_append (isWord : IsWord left) (ends : EndsWord rest) :
    shownType (left ++ rest) = some (wordType left) := by
  have taken := takeWhile_append_of_all isWord.2 ends
  obtain ⟨nonempty, all⟩ := isWord
  obtain ⟨first, others, rfl⟩ := List.exists_cons_of_ne_nil nonempty
  have noMark {mark : Char} (noWord : isWordCharacter mark = false) :
      first ≠ mark := by
    rintro rfl
    rw [all _ List.mem_cons_self] at noWord
    cases noWord
  rw [List.cons_append] at taken ⊢
  unfold shownType
  split
  · next same => exact absurd (List.cons.inj same).1 (noMark (by decide))
  · next same => exact absurd (List.cons.inj same).1 (noMark (by decide))
  · next same => exact absurd (List.cons.inj same).1 (noMark (by decide))
  · rw [taken]
    exact if_neg nonempty

/-! ## Numbers -/

/-- The text has ASCII digits, points and signs only. -/
def IsNumeric (text : List Char) : Prop :=
  ∀ character ∈ text, character.isDigit = true ∨
    character = '.' ∨ character = '-'

theorem IsNumeric.isWordCharacter (isNumeric : IsNumeric left) :
    ∀ character ∈ left, isWordCharacter character = true := by
  intro character member
  rw [Value.isWordCharacter, Char.isAlphanum]
  rcases isNumeric character member with digit | rfl | rfl
  · rw [digit, Bool.or_true, Bool.true_or, Bool.true_or, Bool.true_or]
  · decide
  · decide

theorem IsNumeric.not_mem
    {letter : Char}
    (isNumeric : IsNumeric left)
    (noNumeral : ¬ (letter.isDigit = true ∨ letter = '.' ∨ letter = '-')) :
    letter ∉ left :=
  fun member => noNumeral (isNumeric letter member)

/-- The word of a number is that of a floating-point number if there
is a point in it. -/
theorem IsNumeric.wordType_eq (isNumeric : IsNumeric left) :
    wordType left = if '.' ∈ left then "float" else "int" := by
  have noF : 'f' ∉ left := isNumeric.not_mem (by decide)
  have noN : 'N' ∉ left := isNumeric.not_mem (by decide)
  rw [wordType, if_neg (isNumeric.not_mem (by decide)),
    if_neg (isNumeric.not_mem (by decide)),
    if_neg (isNumeric.not_mem (by decide))]
  simp only [noF, noN, or_false]

theorem isNumeric_decimalDigits (number : Nat) :
    IsNumeric (decimalDigits number) :=
  fun _ member => .inl (isDigit_of_mem_decimalDigits member)

theorem isNumeric_sign_append
    (negative : Prop)
    [Decidable negative]
    (isNumeric : IsNumeric left) :
    IsNumeric ((if negative then ['-'] else []) ++ left) := by
  split
  · exact List.forall_mem_cons.mpr ⟨by decide, isNumeric⟩
  · exact isNumeric

theorem toList_signedDecimal (number : Int) :
    (signedDecimal number).toList =
      (if number < 0 then ['-'] else []) ++ decimalDigits number.natAbs := by
  rw [signedDecimal]
  split
  · rw [String.toList_append, toList_decimal]
    rfl
  · exact toList_decimal _

theorem isNumeric_signedDecimal (number : Int) :
    IsNumeric (signedDecimal number).toList := by
  rw [toList_signedDecimal]
  exact isNumeric_sign_append _ (isNumeric_decimalDigits _)

theorem not_mem_point_signedDecimal (number : Int) :
    '.' ∉ (signedDecimal number).toList := by
  rw [toList_signedDecimal, List.mem_append, not_or]
  constructor
  · split <;> decide
  · exact fun member =>
      ne_point_of_isDigit (isDigit_of_mem_decimalDigits member) rfl

theorem isNumeric_displayedNumber {number : Binary64}
    (finite : number.isFinite = true) :
    IsNumeric (displayedNumber number).toList := by
  obtain ⟨size, writes, -⟩ := number.exists_writes_sizeText
  rw [toList_displayedNumber finite, Binary64.sign]
  exact isNumeric_sign_append _ fun character member =>
    (writes.characters character member).imp_right .inl

theorem mem_point_displayedNumber {number : Binary64}
    (finite : number.isFinite = true) :
    '.' ∈ (displayedNumber number).toList := by
  obtain ⟨size, writes, -⟩ := number.exists_writes_sizeText
  rw [toList_displayedNumber finite]
  exact List.mem_append_right _ writes.mem_point

/-! ## Keys -/

/-- The characters of keys that are shown without quotes. -/
def isKeyCharacter (character : Char) : Bool :=
  isAlphanumeric character || character == '_' || character == '$'

theorem characters_of_isBareKey {key : String} (bare : isBareKey key = true) :
    key.toList ≠ [] ∧ ∀ character ∈ key.toList,
      isKeyCharacter character = true := by
  unfold isBareKey at bare
  split at bare
  · cases bare
  · next first others isKey =>
      rw [isKey]
      exact ⟨List.cons_ne_nil _ _,
        List.all_eq_true.mp (Bool.and_eq_true_iff.mp bare).2⟩

/-! ## Kinds of values -/

theorem isWord_displayedNumber (number : Binary64) :
    IsWord (displayedNumber number).toList ∧
      wordType (displayedNumber number).toList = "float" := by
  rcases number.isFinite_or_isInfinite_or_isNaN with finite | infinite | invalid
  · have point := mem_point_displayedNumber finite
    have isNumeric := isNumeric_displayedNumber finite
    refine ⟨⟨List.ne_nil_of_mem point, isNumeric.isWordCharacter⟩, ?_⟩
    rw [isNumeric.wordType_eq, if_pos point]
  · rw [toList_displayedNumber_of_isInfinite infinite, Binary64.sign]
    split <;> decide
  · rw [displayedNumber_of_isNaN invalid]
    decide

theorem isWord_signedDecimal (number : Int) :
    IsWord (signedDecimal number).toList ∧
      wordType (signedDecimal number).toList = "int" := by
  have isNumeric := isNumeric_signedDecimal number
  have nonempty : (signedDecimal number).toList ≠ [] := by
    rw [toList_signedDecimal]
    exact List.append_ne_nil_of_right_ne_nil _ (decimalDigits_ne_nil _)
  refine ⟨⟨nonempty, isNumeric.isWordCharacter⟩, ?_⟩
  rw [isNumeric.wordType_eq, if_neg (not_mem_point_signedDecimal number)]

theorem isWord_entity (id : EntityId) :
    IsWord id.text.toList ∧ wordType id.text.toList = "entity" := by
  rw [EntityId.toList_text, EntityId.characters]
  refine ⟨⟨List.cons_ne_nil _ _, ?_⟩, if_pos List.mem_cons_self⟩
  exact List.forall_mem_cons.mpr
    ⟨by decide, (isNumeric_decimalDigits _).isWordCharacter⟩

/-- A scalar that is no string is displayed by a word, which tells its kind. -/
theorem isWord_displayed (scalar : value.isContainer = false)
    (noString : value.string? = none) :
    IsWord (displayed limits budget value).toList ∧
      wordType (displayed limits budget value).toList = value.typeName := by
  cases value with
  | absent =>
      rw [displayed]
      decide
  | bool value =>
      rw [displayed]
      cases value <;> decide
  | int value => exact isWord_signedDecimal value.toInt
  | float value => exact isWord_displayedNumber value
  | string => cases noString
  | entity id => exact isWord_entity id
  | list => cases scalar
  | object => cases scalar

theorem isWord_or_escape (scalar : value.isContainer = false) :
    IsWord (displayed limits budget value).toList ∨
      ∃ text, displayed limits budget value = Literal.escape text := by
  cases text? : value.string? with
  | none => exact .inl (isWord_displayed scalar text?).1
  | some text =>
      cases value <;> cases text?
      exact .inr ⟨text, rfl⟩

theorem toList_displayed_list (items : List Value) :
    (displayed limits budget (.list items)).toList =
      '[' :: (displayedEntries limits
        (entryTexts limits budget (.list items))).toList ++
        [']'] := by
  rw [displayed_of_isContainer rfl, brackets, String.toList_append,
    String.toList_append]
  rfl

theorem toList_displayed_object_nil :
    (displayed limits budget (.object [])).toList = ['\x7b', '\x7d'] := by
  rw [displayed, if_pos List.isEmpty_nil]
  decide

theorem toList_displayed_object (member : String × Value)
    (members : List (String × Value)) :
    (displayed limits budget (.object (member :: members))).toList =
      '\x7b' :: ' ' ::
        (displayedEntries limits
          (entryTexts limits budget (.object (member :: members)))).toList ++
          [' ', '\x7d'] := by
  have around :
      (object (member :: members)).brackets = ("\x7b ", " \x7d") := rfl
  rw [displayed_of_isContainer rfl, around, String.toList_append,
    String.toList_append]
  rfl

/-- A display tells the kind of the value. -/
theorem shownType_displayed_append (ends : EndsWord rest) :
    shownType ((displayed limits budget value).toList ++ rest) =
      some value.typeName := by
  cases container : value.isContainer with
  | true =>
      cases value with
      | list items =>
          rw [toList_displayed_list]
          rfl
      | object members =>
          cases members with
          | nil =>
              rw [toList_displayed_object_nil]
              rfl
          | cons member others =>
              rw [toList_displayed_object]
              rfl
      | _ => cases container
  | false =>
      cases noString : value.string? with
      | some text =>
          cases value <;> cases noString
          rw [displayed, Literal.toList_escape]
          rfl
      | none =>
          obtain ⟨isWord, type⟩ := isWord_displayed container noString
          rw [← type]
          exact isWord.shownType_append ends

end TextWorld.Value
