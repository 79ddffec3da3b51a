import TextWorld.Proofs.Invocation.RoundTrip
import TextWorld.Value.Display

/-!
# No control characters in literals

A literal holds any text without a control character of its own.  So does code
that is put together from literals and ids: it stands on one line, and nothing
in it speaks to a terminal.
-/

namespace TextWorld

open TextWorld.Text

namespace Text

/-- The character is none of the controls C0 and C1, and not DEL. -/
def NoControl (character : Char) : Prop :=
  0x20 ≤ character.toNat ∧ (character.toNat < 0x7F ∨ 0xA0 ≤ character.toNat)

instance (character : Char) : Decidable (NoControl character) :=
  inferInstanceAs (Decidable (_ ∧ _))

/-- No character of the text is a control. -/
def Printable (text : List Char) : Prop :=
  ∀ character ∈ text, NoControl character

-- by the characters of the text, and not by all characters
instance (text : List Char) : Decidable (Printable text) :=
  List.decidableBAll NoControl text

variable {character : Char} {text rest : List Char}

theorem isControl_eq_false_iff :
    isControl character = false ↔ NoControl character := by
  simp only [isControl, NoControl, Bool.or_eq_false_iff, Bool.and_eq_false_imp,
    decide_eq_true_eq, decide_eq_false_iff_not]
  omega

@[simp]
theorem printable_nil : Printable [] :=
  List.forall_mem_nil NoControl

@[simp]
theorem printable_cons_iff :
    Printable (character :: text) ↔ NoControl character ∧ Printable text :=
  List.forall_mem_cons

@[simp]
theorem printable_append_iff :
    Printable (text ++ rest) ↔ Printable text ∧ Printable rest :=
  List.forall_mem_append

theorem printable_flatMap
    {α : Type}
    {items : List α}
    {write : α → List Char}
    (printable : ∀ item ∈ items, Printable (write item)) :
    Printable (items.flatMap write) := by
  intro character member
  rcases List.mem_flatMap.mp member with ⟨item, isItem, written⟩
  exact printable item isItem character written

theorem printable_decimalDigits (number : Nat) :
    Printable (decimalDigits number) := by
  intro character member
  have digit := isDigit_of_mem_decimalDigits member
  rw [Char.isDigit, Bool.and_eq_true, decide_eq_true_eq,
    decide_eq_true_eq] at digit
  have least : 0x30 ≤ character.toNat := digit.1
  have greatest : character.toNat ≤ 0x39 := digit.2
  exact ⟨by omega, by omega⟩

end Text

namespace Literal

theorem printable_upperHexDigits (number : Nat) :
    Printable (upperHexDigits number) := by
  have all : ∀ digit < 16, NoControl (Nat.digitChar digit).toUpper := by decide
  have below (size : Nat) := all (size % 16) (Nat.mod_lt size (by decide))
  simp only [upperHexDigits, fourHexDigits, List.map_cons, List.map_nil,
    printable_cons_iff, printable_nil, below, and_self]

theorem noControl_of_shortEscape
    {letter meant : Char}
    (escape : Json.shortEscape letter = some meant) :
    NoControl letter := by
  unfold Json.shortEscape at escape
  split at escape <;> cases escape <;> decide

theorem printable_escapeCharacter (character : Char) :
    Printable (escapeCharacter character) := by
  have kind := writtenAs_escapeCharacter character
  generalize escapeCharacter character = written at kind ⊢
  have backslash : NoControl '\\' := by decide
  cases kind with
  | letter meant =>
      have letter := noControl_of_shortEscape meant
      simp [backslash, letter]
  | number =>
      have unit : NoControl 'u' := by decide
      simp [backslash, unit, printable_upperHexDigits]
  | plain _ _ notControl => simpa using isControl_eq_false_iff.mp notControl

theorem printable_escape (text : String) : Printable (escape text).toList := by
  have quote : NoControl '"' := by decide
  have inside :=
    printable_flatMap fun character (_ : character ∈ text.toList) =>
    printable_escapeCharacter character
  simp [escape, escapeCharacters, quote, inside]

end Literal

theorem EntityId.printable_characters (id : EntityId) :
    Printable id.characters :=
  printable_cons_iff.mpr ⟨by decide, printable_decimalDigits _⟩

theorem printable_objectText (bound : Option EntityId) :
    Printable (objectText bound).toList := by
  cases bound with
  | none => decide
  | some id =>
      rw [objectText, EntityId.toList_text]
      exact id.printable_characters

theorem VerbCall.printable_code (call : VerbCall) :
    Printable call.code.toList := by
  have punctuation : Printable ['[', ']', '(', ',', ' ', ')'] := by decide
  simp only [printable_cons_iff, printable_nil, and_true] at punctuation
  have fields :
      Printable (call.command.fields.flatMap fun text =>
        ',' :: ' ' :: (Literal.escape text).toList) := by
    apply printable_flatMap
    intro text _
    simp [Literal.printable_escape, punctuation]
  rw [toList_code]
  simp [punctuation, fields, EntityId.printable_characters,
    printable_objectText, Literal.printable_escape]

/-- A text is read back from its literal, which has no control character in it.
So neither the code of a verb call nor the display of a text has one. -/
theorem Literal.read_back_and_printable :
    (∀ text, Literal.decode (Literal.escape text) = .ok text ∧
      Printable (Literal.escape text).toList) ∧
    (∀ call : VerbCall, Printable call.code.toList) ∧
    ∀ limits text, Printable (Value.display limits (.string text)).toList :=
  ⟨fun text => ⟨Literal.decode_escape text, Literal.printable_escape text⟩,
    VerbCall.printable_code, fun _ text => Literal.printable_escape text⟩

end TextWorld
