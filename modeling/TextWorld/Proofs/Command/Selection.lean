import TextWorld.Proofs.Command.Phrases
import TextWorld.Proofs.Text.Lowercase

/-!
# The choice of a preposition

A vocabulary knows the phrases that were added to it, each of them once, however
often and in which order they were added.  Two phrases of one length that match
the same words are the same, because phrases are kept in lower case.  So the
longest phrase at the first place where any matches is settled, and with it the
preposition that is found.
-/

namespace TextWorld

open TextWorld.Text

namespace Preposition

variable {preposition other : Preposition} {words : List String}

/-- No word of the phrase has a capital letter of ASCII. -/
def Lowered (words : List String) : Prop :=
  ∀ word ∈ words, word.toList.map Char.toLower = word.toList

theorem lowered_ofPhrase (phrase : String) :
    Lowered (ofPhrase phrase).words := by
  intro word member
  rcases List.mem_map.mp member with ⟨original, -, rfl⟩
  exact map_toLower_lowercase original

theorem Lowered.tail {first : String} (lowered : Lowered (first :: words)) :
    Lowered words :=
  fun word member => lowered word (List.mem_cons_of_mem first member)

/-- The words that match given ones are settled by their number. -/
theorem eq_of_startsWith
    {first second : List String}
    (firstLowered : Lowered first)
    (secondLowered : Lowered second)
    (sameLength : first.length = second.length)
    (firstStarts : startsWith first words = true)
    (secondStarts : startsWith second words = true) :
    first = second := by
  induction first generalizing second words with
  | nil => exact (List.length_eq_zero_iff.mp sameLength.symm).symm
  | cons expected others inductive_step =>
      cases second with
      | nil => cases sameLength
      | cons expectedToo othersToo =>
          cases words with
          | nil => cases firstStarts
          | cons word rest =>
              simp only [startsWith, Bool.and_eq_true,
                equalIgnoringCase, beq_iff_eq]
                at firstStarts secondStarts
              have sameWord : expected.toList = expectedToo.toList := by
                rw [← firstLowered expected List.mem_cons_self,
                  ← secondLowered expectedToo List.mem_cons_self,
                    firstStarts.1, secondStarts.1]
              have sameOthers : others = othersToo :=
                inductive_step firstLowered.tail secondLowered.tail
                  (Nat.succ.inj sameLength)
                  firstStarts.2 secondStarts.2
              rw [String.toList_inj.mp sameWord, sameOthers]

/-- Two phrases in lower case that match the same words are the same if they
are equally long. -/
theorem eq_of_matchesAt
    (lowered : Lowered preposition.words)
    (otherLowered : Lowered other.words)
    (sameLength : preposition.length = other.length)
    (isMatch : preposition.matchesAt words = true)
    (otherMatches : other.matchesAt words = true) :
    preposition = other := by
  rw [matchesAt, Bool.and_eq_true] at isMatch otherMatches
  have same :=
    eq_of_startsWith lowered otherLowered sameLength isMatch.2 otherMatches.2
  cases preposition
  cases other
  cases same
  rfl

end Preposition

namespace Vocabulary

variable {vocabulary second : Vocabulary} {words phrases : List String}
  {preposition other : Preposition} {prepositions : List Preposition}
  {index otherIndex : Nat}

/-! ## The phrases that are known -/

theorem insertByLength_perm (preposition : Preposition)
    (prepositions : List Preposition) :
    (insertByLength preposition prepositions).Perm
      (preposition :: prepositions) := by
  induction prepositions with
  | nil => exact .refl _
  | cons first rest inductive_step =>
      rw [insertByLength]
      split
      · exact .refl _
      · exact (inductive_step.cons first).trans (.swap preposition first rest)

theorem nodup_withPreposition (nodup : vocabulary.prepositions.Nodup)
    (phrase : String) :
    (vocabulary.withPreposition phrase).prepositions.Nodup := by
  rw [withPreposition]
  split
  · exact nodup
  · next added =>
      rw [Bool.or_eq_true, not_or, List.contains_iff_mem] at added
      exact (insertByLength_perm _ _).nodup_iff.mpr (.cons added.2 nodup)

/-- Adding a phrase adds it, unless it is blank. -/
theorem mem_withPreposition_iff (phrase : String) :
    preposition ∈ (vocabulary.withPreposition phrase).prepositions ↔
      preposition ∈ vocabulary.prepositions ∨
        preposition.isEmpty = false ∧ preposition = .ofPhrase phrase := by
  rw [withPreposition]
  split
  · next skipped =>
      rw [Bool.or_eq_true, List.contains_iff_mem] at skipped
      constructor
      · exact .inl
      · rintro (known | ⟨notEmpty, rfl⟩)
        · exact known
        · rw [notEmpty] at skipped
          exact skipped.resolve_left Bool.false_ne_true
  · next added =>
      rw [Bool.or_eq_true, not_or, Bool.not_eq_true] at added
      rw [mem_insertByLength, or_comm]
      refine or_congr_right ⟨?_, And.right⟩
      rintro rfl
      exact ⟨added.1, rfl⟩

theorem BuiltFrom.nodup (builtFrom : BuiltFrom phrases vocabulary) :
    vocabulary.prepositions.Nodup := by
  induction builtFrom with
  | empty => exact .nil
  | withPreposition _ phrase inductive_step =>
      exact nodup_withPreposition inductive_step phrase
  | withShortcut _ _ _ inductive_step => exact inductive_step
  | withoutShortcuts _ inductive_step => exact inductive_step

/-- A vocabulary knows exactly the phrases added to it that are not blank. -/
theorem BuiltFrom.mem_iff (builtFrom : BuiltFrom phrases vocabulary) :
    preposition ∈ vocabulary.prepositions ↔
      preposition.isEmpty = false ∧ ∃ phrase ∈ phrases,
        preposition = .ofPhrase phrase := by
  induction builtFrom with
  | empty => simp [Vocabulary.empty]
  | withPreposition _ phrase inductive_step =>
      rw [mem_withPreposition_iff, inductive_step, ← and_or_left]
      simp [or_and_right, exists_or]
  | withShortcut _ _ _ inductive_step => exact inductive_step
  | withoutShortcuts _ inductive_step => exact inductive_step

theorem BuiltFrom.lowered
    (builtFrom : BuiltFrom phrases vocabulary)
    (known : preposition ∈ vocabulary.prepositions) :
    Preposition.Lowered preposition.words := by
  rcases (builtFrom.mem_iff.mp known).2 with ⟨phrase, -, rfl⟩
  exact Preposition.lowered_ofPhrase phrase

/-! ## What is found -/

theorem FoundAt.not_noneFound
    (found : vocabulary.FoundAt words index preposition) :
    ¬ vocabulary.NoneFound words := by
  intro noneFound
  have missing := noneFound index preposition found.known
  rw [found.isMatch] at missing
  cases missing

theorem FoundAt.index_le (found : vocabulary.FoundAt words index preposition)
    (foundToo : vocabulary.FoundAt words otherIndex other) :
    index ≤ otherIndex := by
  refine Nat.not_lt.mp fun before => ?_
  have missing := found.earliest otherIndex before other foundToo.known
  rw [foundToo.isMatch] at missing
  cases missing

/-- At most one phrase is found, and at one place. -/
theorem FoundAt.unique
    (lowered : ∀ known ∈ vocabulary.prepositions,
      Preposition.Lowered known.words)
    (found : vocabulary.FoundAt words index preposition)
    (foundToo : vocabulary.FoundAt words otherIndex other) :
    index = otherIndex ∧ preposition = other := by
  have sameIndex :=
    Nat.le_antisymm (found.index_le foundToo) (foundToo.index_le found)
  subst sameIndex
  have sameLength :=
    Nat.le_antisymm (foundToo.longest preposition found.known found.isMatch)
    (found.longest other foundToo.known foundToo.isMatch)
  exact ⟨rfl, Preposition.eq_of_matchesAt (lowered preposition found.known)
    (lowered other foundToo.known) sameLength found.isMatch foundToo.isMatch⟩

/-- What is found lies in the words. -/
theorem FoundAt.add_length_le
    (found : vocabulary.FoundAt words index preposition) :
    index + preposition.length ≤ words.length := by
  rcases Preposition.length_of_matchesAt found.isMatch with ⟨positive, bounded⟩
  rw [List.length_drop] at bounded
  omega

/-- What is found depends on which phrases are known, and not on their order. -/
theorem FoundAt.of_same
    (same : ∀ known, known ∈ vocabulary.prepositions ↔
      known ∈ second.prepositions)
    (found : vocabulary.FoundAt words index preposition) :
    second.FoundAt words index preposition where
  known := (same preposition).mp found.known
  isMatch := found.isMatch
  earliest earlier before other known :=
    found.earliest earlier before other ((same other).mpr known)
  longest other known := found.longest other ((same other).mpr known)

theorem findPreposition_eq_some_iff (builtFrom : BuiltFrom phrases vocabulary) :
    vocabulary.findPreposition words = some (index, preposition) ↔
      vocabulary.FoundAt words index preposition := by
  have longestFirst := builtFrom.built.longestFirst
  constructor
  · exact foundAt_of_findPreposition longestFirst
  · intro found
    cases search : vocabulary.findPreposition words with
    | none =>
        exact absurd (noneFound_of_findPreposition search) found.not_noneFound
    | some result =>
        have foundToo := foundAt_of_findPreposition longestFirst search
        rcases foundToo.unique (fun _ => builtFrom.lowered) found with
          ⟨rfl, rfl⟩
        rfl

theorem findPreposition_eq_none_iff (builtFrom : BuiltFrom phrases vocabulary) :
    vocabulary.findPreposition words = none ↔ vocabulary.NoneFound words := by
  constructor
  · exact noneFound_of_findPreposition
  · intro noneFound
    cases search : vocabulary.findPreposition words with
    | none => rfl
    | some result =>
        have found :=
          foundAt_of_findPreposition builtFrom.built.longestFirst search
        exact absurd noneFound found.not_noneFound

/--
A vocabulary knows the phrases that were added to it, in lower case and but for
blank ones; it holds none twice, and none behind a shorter one.  The
preposition that it finds is the longest phrase at the first place where any
matches, within the words, and it finds none only where no phrase matches.
Another vocabulary to which the same phrases were added, in whatever order and
however often, finds the same.
-/
theorem finds_longest_at_first_place
    (builtFrom : BuiltFrom phrases vocabulary) :
    ((∀ known, known ∈ vocabulary.prepositions ↔ known.words ≠ [] ∧
        ∃ phrase ∈ phrases,
          known.words = (blankSeparated phrase).map lowercase) ∧
      (∀ known ∈ vocabulary.prepositions, known.isEmpty = false) ∧
      vocabulary.prepositions.Nodup ∧ LongestFirst vocabulary.prepositions) ∧
    (∀ words index preposition,
      (vocabulary.findPreposition words = some (index, preposition) ↔
        vocabulary.FoundAt words index preposition) ∧
      (vocabulary.findPreposition words = some (index, preposition) →
        index + preposition.length ≤ words.length)) ∧
    (∀ words, vocabulary.findPreposition words = none ↔
      vocabulary.NoneFound words) ∧
    ∀ others second, BuiltFrom others second →
      (∀ phrase, phrase ∈ others ↔ phrase ∈ phrases) →
      ∀ words,
        second.findPreposition words = vocabulary.findPreposition words := by
  refine ⟨⟨?_, fun known member =>
        (builtFrom.mem_iff.mp member).1, builtFrom.nodup,
    builtFrom.built.longestFirst⟩, ?_, fun words =>
      findPreposition_eq_none_iff builtFrom, ?_⟩
  · rintro ⟨words⟩
    rw [builtFrom.mem_iff, Preposition.isEmpty, List.isEmpty_eq_false_iff]
    simp only [Preposition.ofPhrase, Preposition.mk.injEq]
  · intro words index preposition
    have found :
        vocabulary.findPreposition words = some (index, preposition) ↔
          vocabulary.FoundAt words index preposition :=
      findPreposition_eq_some_iff builtFrom
    exact ⟨found, fun search => (found.mp search).add_length_le⟩
  · intro others second builtToo samePhrases words
    have same (known : Preposition) :
        known ∈ second.prepositions ↔ known ∈ vocabulary.prepositions := by
      rw [builtToo.mem_iff, builtFrom.mem_iff]
      simp only [samePhrases]
    apply Option.ext
    rintro ⟨index, preposition⟩
    rw [findPreposition_eq_some_iff builtToo,
      findPreposition_eq_some_iff builtFrom]
    exact ⟨.of_same same, .of_same fun known => (same known).symm⟩

/-- The customary phrases, added from the last to the first, are
chosen as ever. -/
theorem customary_reversed_finds_in_front_of :
    BuiltFrom customaryPrepositions customary ∧
      BuiltFrom customaryPrepositions.reverse
        (empty.withPrepositions customaryPrepositions.reverse) ∧
      (empty.withPrepositions customaryPrepositions.reverse).findPreposition
          ["coin", "IN", "Front", "of", "box"] =
        some (1, ⟨["in", "front", "of"]⟩) := by
  have reversed :=
    BuiltFrom.empty.withPrepositions customaryPrepositions.reverse
  refine ⟨builtFrom_customary, reversed, ?_⟩
  rw [(finds_longest_at_first_place builtFrom_customary).2.2.2 _ _ reversed
    fun _ => List.mem_reverse]
  decide +kernel

end Vocabulary

end TextWorld
