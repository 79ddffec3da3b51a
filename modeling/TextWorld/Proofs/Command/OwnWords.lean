import TextWorld.Command.Vocabulary
import TextWorld.Proofs.Text.Lowercase

/-!
# A preposition in front of its own words

The words of a phrase are put into lower case by the rules for all characters,
and compared with typed words by those for ASCII letters alone.  So a phrase
matches the words it was given as exactly if no capital beyond ASCII stands in
them; with such a capital it never matches them, not even as they were written.
-/

namespace TextWorld

open TextWorld.Text

namespace Text

variable {character : Char} {text : String}

/-- The words of a text are made of its characters that are no
blanks, in order. -/
theorem flatten_blankSeparatedAfter (pending characters : List Char) :
    (blankSeparatedAfter pending characters).flatten =
      pending ++ characters.filter (!isBlank ·) := by
  induction characters generalizing pending with
  | nil => cases pending <;> simp [blankSeparatedAfter]
  | cons first rest inductive_step =>
      rw [blankSeparatedAfter]
      by_cases blank : isBlank first = true
      · cases pending <;> simp [blank, inductive_step]
      · simp [blank, inductive_step]

/-- The characters of the words of a text are those that are no blanks. -/
theorem exists_mem_blankSeparated_iff :
    (∃ word ∈ blankSeparated text, character ∈ word.toList) ↔
      character ∈ text.toList ∧ isBlank character = false := by
  have flattened := flatten_blankSeparatedAfter [] text.toList
  rw [List.nil_append] at flattened
  have member : character ∈ (blankSeparatedAfter [] text.toList).flatten ↔
      character ∈ text.toList ∧ isBlank character = false := by
    rw [flattened, List.mem_filter, Bool.not_eq_true']
  simp only [← member, blankSeparated, List.mem_map, List.mem_flatten,
    exists_exists_and_eq_and, String.toList_ofList]

/-- Blanks have no case. -/
theorem not_capitalBeyondAscii_of_isBlank (blank : isBlank character = true) :
    ¬ CapitalBeyondAscii character := by
  have all : ∀ code ∈ [0x85, 0xA0, 0x1680, 0x2000, 0x2001, 0x2002, 0x2003,
        0x2004, 0x2005, 0x2006, 0x2007, 0x2008, 0x2009, 0x200A, 0x2028, 0x2029,
        0x202F, 0x205F, 0x3000],
      ¬ CapitalBeyondAscii (Char.ofNat code) := by
    decide +kernel
  intro capital
  have notAscii := capital.1
  rw [← Char.ofNat_toNat character] at capital
  refine all character.toNat ?_ capital
  simp only [isBlank, Bool.or_eq_true, Bool.and_eq_true, decide_eq_true_eq,
    beq_iff_eq] at blank
  simp only [List.mem_cons, List.not_mem_nil, or_false]
  omega

end Text

namespace Preposition

variable {phrase : String} {words : List String}

theorem equalIgnoringCase_lowercase_iff (word : String) :
    equalIgnoringCase (lowercase word) word = true ↔
      ∀ character ∈ word.toList, ¬ CapitalBeyondAscii character := by
  rw [equalIgnoringCase, beq_iff_eq, map_toLower_lowercase, lowercase,
    String.toList_ofList, lowerAfter_eq_map_toLower_iff]

/-- Changed words match the words they were made from if each of them does. -/
theorem startsWith_map_append_iff (change : String → String)
    (own rest : List String) :
    startsWith (own.map change) (own ++ rest) = true ↔
      ∀ word ∈ own, equalIgnoringCase (change word) word = true := by
  induction own with
  | nil => exact iff_of_true rfl (List.forall_mem_nil _)
  | cons first others inductive_step =>
      rw [List.map_cons, List.cons_append, startsWith, Bool.and_eq_true,
        inductive_step, List.forall_mem_cons]

/-- A text that is not blank is a phrase with words. -/
theorem isEmpty_ofPhrase (notBlank : isBlankText phrase = false) :
    (ofPhrase phrase).isEmpty = false := by
  obtain ⟨character, member, notBlank⟩ := List.all_eq_false.mp notBlank
  obtain ⟨word, isWord, -⟩ :=
    exists_mem_blankSeparated_iff.mpr ⟨member, Bool.eq_false_iff.mpr notBlank⟩
  rw [isEmpty, ofPhrase, List.isEmpty_map]
  exact List.isEmpty_eq_false_iff_exists_mem.mpr ⟨word, isWord⟩

/--
A phrase matches its own words, as they were written, exactly if every capital
in it is an ASCII letter.
-/
theorem matches_own_words_iff
    (notBlank : isBlankText phrase = false)
    (starts : blankSeparated phrase <+: words) :
    (ofPhrase phrase).matchesAt words = true ↔
      ∀ character ∈ phrase.toList, ¬ CapitalBeyondAscii character := by
  obtain ⟨rest, rfl⟩ := starts
  have own :
      (ofPhrase phrase).words = (blankSeparated phrase).map lowercase := rfl
  rw [matchesAt, isEmpty_ofPhrase notBlank, Bool.not_false, Bool.true_and, own,
    startsWith_map_append_iff]
  constructor
  · intro same character member capital
    have inWord := exists_mem_blankSeparated_iff.mpr
      ⟨member, Bool.eq_false_iff.mpr fun blank =>
          not_capitalBeyondAscii_of_isBlank blank capital⟩
    obtain ⟨word, isWord, within⟩ := inWord
    exact (equalIgnoringCase_lowercase_iff word).mp (same word isWord)
      character within capital
  · intro noCapital word isWord
    rw [equalIgnoringCase_lowercase_iff]
    intro character within
    exact noCapital character
      (exists_mem_blankSeparated_iff.mp ⟨word, isWord, within⟩).1

/-- ASCII capitals do not keep a phrase from its own words. -/
theorem capitalized_phrase_matches :
    (ofPhrase "Près De").matchesAt ["Près", "De", "la"] = true := by
  have plain : ("Près De".toList.all fun character =>
      ¬ CapitalBeyondAscii character) = true := by
    decide +kernel
  apply (matches_own_words_iff (by decide +kernel) ⟨["la"], by
        decide +kernel⟩).mpr
  intro character member
  exact of_decide_eq_true (List.all_eq_true.mp plain character member)

/-- A phrase need not match its own words. -/
theorem accented_capital_is_not_matched :
    ¬ ∀ (phrase : String) (words : List String),
      isBlankText phrase = false → blankSeparated phrase <+: words →
        (ofPhrase phrase).matchesAt words = true := by
  intro alwaysMatches
  have matched :=
    alwaysMatches "À" ["À"] (by decide +kernel) ⟨[], by decide +kernel⟩
  have unmatched : (ofPhrase "À").matchesAt ["À"] = false := by decide +kernel
  exact Bool.false_ne_true (unmatched.symm.trans matched)

end Preposition

end TextWorld
