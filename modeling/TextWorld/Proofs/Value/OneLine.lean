import TextWorld.Proofs.Literal.Printable
import TextWorld.Proofs.Value.Words

/-!
# Displays stand on one line

Texts and keys of a value may hold any characters.  They come into a display as
literals, and a key without quotes only when it consists of characters that are
none of the controls.  So a display is printable, and stands on one line.
-/

namespace TextWorld

open TextWorld.Number
open TextWorld.Text

namespace Text

variable {character : Char}

theorem noControl_of_isAlphanum (letter : character.isAlphanum = true) :
    NoControl character := by
  rcases (Bool.or_eq_true _ _).mp letter with alphabetic | digit
  · rcases (Bool.or_eq_true _ _).mp alphabetic with upper | lower
    · have bounds : 65 ≤ character.toNat ∧ character.toNat ≤ 90 :=
        of_decide_eq_true upper
      exact ⟨by omega, by omega⟩
    · obtain ⟨above, below⟩ := (Bool.and_eq_true _ _).mp lower
      have least : 97 ≤ character.toNat := of_decide_eq_true above
      have greatest : character.toNat ≤ 122 := of_decide_eq_true below
      exact ⟨by omega, by omega⟩
  · have bounds := isDigit_iff.mp digit
    exact ⟨by omega, by omega⟩

/-- The controls above ASCII are not alphanumeric, since the table
starts after them. -/
theorem noControl_of_isAlphanumeric (letter : isAlphanumeric character = true) :
    NoControl character := by
  rw [isAlphanumeric] at letter
  split at letter
  · exact noControl_of_isAlphanum letter
  · obtain ⟨range, listed, above, -⟩ :=
      (CharacterRanges.holds_eq_true_iff _ _).mp letter
    have first : ∀ range ∈ wideAlphanumerics, 0xA0 ≤ range.1 := by
      decide +kernel
    have least := first range listed
    exact ⟨by omega, .inr (by omega)⟩

theorem printable_intercalate
    {texts : List String}
    (printable : ∀ text ∈ texts, Printable text.toList) :
    Printable (", ".intercalate texts).toList := by
  cases texts with
  | nil => decide
  | cons first others =>
      rw [Value.toList_intercalate_cons, printable_append_iff]
      obtain ⟨first, others⟩ := List.forall_mem_cons.mp printable
      refine ⟨first, printable_flatMap fun text isText => ?_⟩
      rw [printable_cons_iff, printable_cons_iff]
      exact ⟨by decide, by decide, others text isText⟩

end Text

namespace Value

variable {limits : Limits} {budget : Nat} {value : Value}

theorem printable_of_isWord {text : List Char} (isWord : IsWord text) :
    Printable text := by
  intro character member
  have word := isWord.2 character member
  simp only [isWordCharacter, Bool.or_eq_true, beq_iff_eq] at word
  rcases word with ((letter | rfl) | rfl) | rfl
  · exact noControl_of_isAlphanum letter
  all_goals decide

theorem printable_displayedKey (key : String) :
    Printable (displayedKey key).toList := by
  rw [displayedKey]
  split
  · next bare =>
      intro character member
      have isKey := (characters_of_isBareKey bare).2 character member
      simp only [isKeyCharacter, Bool.or_eq_true, beq_iff_eq] at isKey
      rcases isKey with (letter | rfl) | rfl
      · exact noControl_of_isAlphanumeric letter
      all_goals decide
  · exact Literal.printable_escape key

theorem printable_moreEntries (count : Nat) :
    Printable (moreEntries limits count).toList := by
  rw [moreEntries]
  split
  · simp only [String.toList_append, printable_append_iff, toList_decimal]
    refine ⟨⟨⟨by decide, printable_decimalDigits _⟩, by decide⟩, ?_⟩
    split <;> decide
  · decide

theorem printable_displayedEntries
    {texts : List String}
    (printable : ∀ text ∈ texts, Printable text.toList) :
    Printable (displayedEntries limits texts).toList := by
  rw [displayedEntries, String.toList_append, printable_append_iff]
  exact ⟨printable_intercalate fun text taken =>
      printable text (List.mem_of_mem_take taken), printable_moreEntries _⟩

theorem printable_brackets (value : Value) :
    Printable value.brackets.1.toList ∧ Printable value.brackets.2.toList := by
  unfold brackets
  split <;> decide

/-- The name of the kind that stands for a container is printable. -/
theorem printable_placeholder
    {name : String}
    (named : placeholder? value = some name) :
    Printable name.toList := by
  unfold placeholder? at named
  split at named <;> cases named <;> decide

theorem printable_entryText
    (printable : ∀ budget, Printable (displayed limits budget value).toList) :
    Printable (entryText limits budget value).toList := by
  cases budget with
  | zero =>
      rw [entryText]
      cases named : placeholder? value with
      | none => exact printable 0
      | some name => exact printable_placeholder named
  | succ below => exact printable below

theorem printable_memberText
    {member : String × Value}
    (printable : Printable (entryText limits budget member.2).toList) :
    Printable (memberText limits budget member).toList := by
  rw [memberText, String.toList_append, String.toList_append,
    printable_append_iff, printable_append_iff]
  exact ⟨⟨printable_displayedKey member.1, by decide⟩, printable⟩

/-- What is displayed of the entries of a container is printable if
each of them is. -/
theorem printable_entryTexts
    (printable : ∀ entry ∈ value.entries,
      Printable (entryText limits budget entry).toList) :
    ∀ text ∈ value.entryTexts limits budget, Printable text.toList := by
  cases value with
  | list items => exact List.forall_mem_map.mpr printable
  | object members =>
      exact List.forall_mem_map.mpr fun member isMember =>
        printable_memberText (printable member.2 (List.mem_map_of_mem isMember))
  | _ => exact List.forall_mem_nil _

theorem printable_displayed :
    Printable (displayed limits budget value).toList := by
  induction value generalizing budget with
  | step value inductive_step =>
      cases container : value.isContainer with
      | true =>
          have inside :
              Printable (displayedEntries limits
                (value.entryTexts limits budget)).toList :=
            printable_displayedEntries
              (printable_entryTexts fun entry isEntry =>
              printable_entryText fun _ => inductive_step entry isEntry)
          rw [displayed_of_isContainer container, String.toList_append,
            String.toList_append, printable_append_iff, printable_append_iff]
          exact ⟨⟨(printable_brackets value).1, inside⟩,
            (printable_brackets value).2⟩
      | false =>
          rcases isWord_or_escape container with isWord | ⟨text, written⟩
          · exact printable_of_isWord isWord
          · rw [written]
            exact Literal.printable_escape text

/-- A display has no control character in it, within any limits and whatever the
texts and keys of the value are.  So it is always one line. -/
theorem display_is_one_line (limits : Limits) (value : Value) :
    Printable (display limits value).toList ∧
      (display limits value).toList.splitOn '\n' =
        [(display limits value).toList] := by
  refine ⟨printable_displayed, List.splitOn_eq_singleton fun lineBreak => ?_⟩
  exact absurd (printable_displayed '\n' lineBreak) (by decide)

end Value

end TextWorld
