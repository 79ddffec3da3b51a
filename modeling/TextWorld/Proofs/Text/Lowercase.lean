import Mathlib
import TextWorld.Text.Lowercase

/-!
# Lower case has no ASCII capitals

Texts are put into lower case by the rules for all characters, and compared
by those for ASCII letters alone.  The first leave nothing to do for the
second.  They do more than the second exactly where a capital stands that is
not an ASCII letter.
-/

namespace TextWorld.Text

/-- A character above ASCII that has a lower-case form other than itself. -/
def CapitalBeyondAscii (character : Char) : Prop :=
  128 ≤ character.toNat ∧
    lowercase (String.singleton character) ≠ String.singleton character

instance (character : Char) : Decidable (CapitalBeyondAscii character) :=
  inferInstanceAs (Decidable (_ ∧ _))

/-- The lower-case form of a character between others, of which those before it
come nearest first. -/
def loweredBetween (passed : List Char) (character : Char)
    (rest : List Char) : List Char :=
  if character == 'Σ' then
    if meetsCased passed && !meetsCased rest then ['ς'] else ['σ']
  else
    lowerCharacter character

variable {character : Char} {text : String}

theorem isUpper_of_above (above : 'Z'.toNat < character.toNat) :
    character.isUpper = false := by
  apply decide_eq_false
  rintro ⟨-, belowZ⟩
  exact Nat.not_lt.mpr belowZ above

theorem isUpper_ofNat_of_above {code : Nat} (above : 'Z'.toNat < code) :
    (Char.ofNat code).isUpper = false := by
  by_cases valid : code.isValidChar
  · apply isUpper_of_above
    rwa [Char.toNat_ofNat code, if_pos valid]
  · rw [Char.ofNat, dif_neg valid]
    rfl

/-- The capitals above ASCII have their lower-case forms behind the
capitals of ASCII. -/
theorem target_above : ∀ run ∈ capitalRuns, 'Z'.toNat < run.target := by
  decide +kernel

theorem isUpper_of_mem_lowerCharacter
    {lowered : Char}
    (member : lowered ∈ lowerCharacter character) :
    lowered.isUpper = false := by
  unfold lowerCharacter at member
  split at member
  · rw [List.mem_singleton.mp member]
    exact Char.isUpper_toLower_eq_false character
  · next notAscii =>
    split at member
    · simp only [List.mem_cons, List.not_mem_nil, or_false] at member
      rcases member with rfl | rfl <;> rfl
    · split at member
      · next run found =>
          have above := target_above run (List.mem_of_find?_eq_some found)
          rw [List.mem_singleton.mp member]
          exact isUpper_ofNat_of_above (Nat.lt_add_right _ above)
      · rw [List.mem_singleton.mp member]
        exact isUpper_of_above
          (Nat.lt_of_lt_of_le (by decide) (Nat.not_lt.mp notAscii))

theorem isUpper_of_mem_lowerAfter
    {passed characters : List Char}
    (member : character ∈ lowerAfter passed characters) :
    character.isUpper = false := by
  induction characters generalizing passed with
  | nil => cases member
  | cons first rest inductive_step =>
      rcases List.mem_append.mp member with here | later
      · split at here
        · split at here <;> rw [List.mem_singleton.mp here] <;> rfl
        · exact isUpper_of_mem_lowerCharacter here
      · exact inductive_step later

theorem toLower_eq_of_isUpper_eq_false (notUpper : character.isUpper = false) :
    character.toLower = character :=
  Char.toLower_eq_of_not_isUpper (Bool.eq_false_iff.mp notUpper)

/-- A text in lower case is not changed by putting its ASCII letters
into lower case. -/
theorem map_toLower_lowercase (text : String) :
    (lowercase text).toList.map Char.toLower = (lowercase text).toList := by
  have unchanged : ∀ character ∈ lowerAfter [] text.toList,
      character.toLower = character := by
    intro character member
    exact toLower_eq_of_isUpper_eq_false (isUpper_of_mem_lowerAfter member)
  rw [lowercase, String.toList_ofList,
    List.map_congr_left unchanged, List.map_id']

/-! ## What only the rules for all characters change -/

theorem not_capitalBeyondAscii_iff :
    ¬ CapitalBeyondAscii character ↔
      character ≠ 'Σ' ∧ lowerCharacter character = [character.toLower] := by
  -- the lower-case form of a capital sigma does not come from `lowerCharacter`
  by_cases sigma : character = 'Σ'
  · subst sigma
    refine iff_of_false (not_not_intro ?_) fun unlike => unlike.1 rfl
    decide +kernel
  by_cases ascii : character.toNat < 128
  · refine iff_of_true (fun capital =>
        Nat.not_lt.mpr capital.1 ascii) ⟨sigma, ?_⟩
    rw [lowerCharacter, if_pos ascii]
  · have form : (lowercase (String.singleton character)).toList =
        lowerCharacter character := by
      simp [lowercase, lowerAfter, sigma]
    have unchanged : character.toLower = character := by
      apply toLower_eq_of_isUpper_eq_false
      exact isUpper_of_above
        (Nat.lt_of_lt_of_le (by decide) (Nat.not_lt.mp ascii))
    rw [CapitalBeyondAscii, not_and_not_right, ← String.toList_inj, form,
      unchanged, String.toList_singleton]
    exact ⟨fun kept =>
        ⟨sigma, kept (Nat.not_lt.mp ascii)⟩, fun kept _ => kept.2⟩

theorem lowerAfter_cons (passed rest : List Char) :
    lowerAfter passed (character :: rest) =
      loweredBetween passed character rest ++
        lowerAfter (character :: passed) rest :=
  rfl

theorem loweredBetween_ne_nil (passed : List Char) (character : Char)
    (rest : List Char) :
    loweredBetween passed character rest ≠ [] := by
  unfold loweredBetween lowerCharacter
  repeat' split
  all_goals exact List.cons_ne_nil _ _

/-- Whatever stands around it, a character is put into lower case as an ASCII
letter would be, unless it is a capital beyond ASCII. -/
theorem loweredBetween_eq_iff (passed rest : List Char) :
    loweredBetween passed character rest = [character.toLower] ↔
      ¬ CapitalBeyondAscii character := by
  rw [not_capitalBeyondAscii_iff, loweredBetween]
  by_cases sigma : character = 'Σ'
  · subst sigma
    refine iff_of_false ?_ fun unlike => unlike.1 rfl
    rw [if_pos (beq_self_eq_true _)]
    split <;> decide
  · rw [if_neg (by simpa using sigma)]
    exact (and_iff_right sigma).symm

/-- No character is lost in lower case. -/
theorem length_le_lowerAfter (passed characters : List Char) :
    characters.length ≤ (lowerAfter passed characters).length := by
  induction characters generalizing passed with
  | nil => exact Nat.zero_le _
  | cons first rest inductive_step =>
      have here :=
        List.length_pos_iff.mpr (loweredBetween_ne_nil passed first rest)
      have later := inductive_step (first :: passed)
      rw [lowerAfter_cons, List.length_append, List.length_cons]
      omega

/-- Lower case is that of ASCII letters exactly where no other
capital stands. -/
theorem lowerAfter_eq_map_toLower_iff (passed characters : List Char) :
    lowerAfter passed characters = characters.map Char.toLower ↔
      ∀ character ∈ characters, ¬ CapitalBeyondAscii character := by
  induction characters generalizing passed with
  | nil => exact iff_of_true rfl (List.forall_mem_nil _)
  | cons first rest inductive_step =>
      rw [List.forall_mem_cons, ← loweredBetween_eq_iff passed rest,
        ← inductive_step (first :: passed), lowerAfter_cons, List.map_cons]
      constructor
      · intro same
        have sizes := congrArg List.length same
        have here :=
          List.length_pos_iff.mpr (loweredBetween_ne_nil passed first rest)
        have later := length_le_lowerAfter (first :: passed) rest
        rw [List.length_append, List.length_cons, List.length_map] at sizes
        -- a form of two characters would leave too few for the rest
        have one : (loweredBetween passed first rest).length =
            [first.toLower].length := by
          rw [List.length_singleton]
          omega
        exact List.append_inj same one
      · rintro ⟨here, later⟩
        rw [here, later, List.singleton_append]

end TextWorld.Text
