import TextWorld.Command.Vocabulary

/-!
# The preposition that is found

A vocabulary keeps its phrases longest first, however it was put together.
Searching words for a preposition therefore finds the first place at which any
phrase matches, and the longest phrase of those that match there.
-/

namespace TextWorld

namespace Preposition

variable {preposition : Preposition} {words : List String}

theorem length_le_of_startsWith
    {expected words : List String}
    (starts : startsWith expected words = true) :
    expected.length ≤ words.length := by
  induction expected generalizing words with
  | nil => exact Nat.zero_le _
  | cons first others inductive_step =>
      cases words with
      | nil => cases starts
      | cons word rest =>
          rw [startsWith, Bool.and_eq_true] at starts
          exact Nat.succ_le_succ (inductive_step starts.2)

/-- A phrase has at least one word and matches only where there
are that many. -/
theorem length_of_matchesAt (isMatch : preposition.matchesAt words = true) :
    0 < preposition.length ∧ preposition.length ≤ words.length := by
  rw [matchesAt, Bool.and_eq_true] at isMatch
  constructor
  · apply List.length_pos_iff.mpr
    simpa [isEmpty] using isMatch.1
  · exact length_le_of_startsWith isMatch.2

end Preposition

namespace Vocabulary

/-- The vocabulary was put together from the empty one. -/
inductive Built : Vocabulary → Prop where
  | empty : Built .empty
  | withPreposition {vocabulary : Vocabulary} (built : Built vocabulary)
      (phrase : String) :
      Built (vocabulary.withPreposition phrase)
  | withShortcut {vocabulary : Vocabulary}
      (built : Built vocabulary) (leader : Char)
      (verb : String) :
      Built (vocabulary.withShortcut leader verb)
  | withoutShortcuts {vocabulary : Vocabulary} (built : Built vocabulary) :
      Built vocabulary.withoutShortcuts

/-- The vocabulary was put together from the empty one, with these
phrases added in turn. -/
inductive BuiltFrom : (phrases : List String) → Vocabulary → Prop where
  | empty : BuiltFrom [] .empty
  | withPreposition {phrases : List String} {vocabulary : Vocabulary}
      (built : BuiltFrom phrases vocabulary) (phrase : String) :
      BuiltFrom (phrases ++ [phrase]) (vocabulary.withPreposition phrase)
  | withShortcut {phrases : List String} {vocabulary : Vocabulary}
      (built : BuiltFrom phrases vocabulary) (leader : Char) (verb : String) :
      BuiltFrom phrases (vocabulary.withShortcut leader verb)
  | withoutShortcuts {phrases : List String} {vocabulary : Vocabulary}
      (built : BuiltFrom phrases vocabulary) :
      BuiltFrom phrases vocabulary.withoutShortcuts

/-- No phrase stands behind a shorter one. -/
def LongestFirst (prepositions : List Preposition) : Prop :=
  prepositions.Pairwise fun earlier later => later.length ≤ earlier.length

/-- The phrase is the longest of those that match at the first place
where any does. -/
structure FoundAt
    (vocabulary : Vocabulary)
    (words : List String)
    (index : Nat)
    (preposition : Preposition) :
    Prop where
  known : preposition ∈ vocabulary.prepositions
  isMatch : preposition.matchesAt (words.drop index) = true
  earliest : ∀ earlier < index, ∀ other ∈ vocabulary.prepositions,
    other.matchesAt (words.drop earlier) = false
  longest : ∀ other ∈ vocabulary.prepositions,
    other.matchesAt (words.drop index) = true →
    other.length ≤ preposition.length

/-- No phrase matches anywhere. -/
def NoneFound (vocabulary : Vocabulary) (words : List String) : Prop :=
  ∀ index, ∀ other ∈ vocabulary.prepositions,
    other.matchesAt (words.drop index) = false

variable {vocabulary : Vocabulary} {words phrases : List String}
  {preposition other : Preposition}
  {prepositions : List Preposition} {index : Nat}

theorem BuiltFrom.built (builtFrom : BuiltFrom phrases vocabulary) :
    Built vocabulary := by
  induction builtFrom with
  | empty => exact .empty
  | withPreposition _ phrase inductive_step =>
      exact inductive_step.withPreposition phrase
  | withShortcut _ leader verb inductive_step =>
      exact inductive_step.withShortcut leader verb
  | withoutShortcuts _ inductive_step => exact inductive_step.withoutShortcuts

theorem BuiltFrom.withPrepositions
    (builtFrom : BuiltFrom phrases vocabulary)
    (more : List String) :
    BuiltFrom (phrases ++ more) (vocabulary.withPrepositions more) := by
  induction more generalizing phrases vocabulary with
  | nil => rwa [List.append_nil]
  | cons phrase rest inductive_step =>
      have later := inductive_step (builtFrom.withPreposition phrase)
      rwa [List.append_assoc] at later

theorem builtFrom_customary : BuiltFrom customaryPrepositions customary :=
  (((BuiltFrom.empty.withPrepositions customaryPrepositions).withShortcut _
      _).withShortcut _ _).withShortcut _ _

/-! ## How phrases are kept -/

theorem mem_insertByLength :
    other ∈ insertByLength preposition prepositions ↔
      other = preposition ∨ other ∈ prepositions := by
  induction prepositions with
  | nil => simp [insertByLength]
  | cons first rest inductive_step =>
      rw [insertByLength]
      split
      · exact List.mem_cons
      · rw [List.mem_cons, inductive_step, List.mem_cons]
        exact or_left_comm

theorem LongestFirst.insertByLength
    (longestFirst : LongestFirst prepositions) :
    LongestFirst (insertByLength preposition prepositions) := by
  induction prepositions with
  | nil => exact List.pairwise_singleton _ _
  | cons first rest inductive_step =>
      rcases List.pairwise_cons.mp longestFirst with
        ⟨firstLongest, restLongestFirst⟩
      rw [Vocabulary.insertByLength]
      split
      · next shorter =>
          refine .cons ?_ longestFirst
          intro later member
          rcases List.mem_cons.mp member with rfl | inRest
          · exact Nat.le_of_lt shorter
          · exact Nat.le_trans (firstLongest later inRest)
              (Nat.le_of_lt shorter)
      · next notShorter =>
          refine .cons ?_ (inductive_step restLongestFirst)
          intro later member
          rcases mem_insertByLength.mp member with rfl | inRest
          · exact Nat.le_of_not_lt notShorter
          · exact firstLongest later inRest

theorem Built.longestFirst (built : Built vocabulary) :
    LongestFirst vocabulary.prepositions := by
  induction built with
  | empty => exact .nil
  | withPreposition _ phrase inductive_step =>
      rw [Vocabulary.withPreposition]
      split
      · exact inductive_step
      · exact inductive_step.insertByLength
  | withShortcut _ _ _ inductive_step => exact inductive_step
  | withoutShortcuts _ inductive_step => exact inductive_step

/-! ## The search -/

theorem longest_of_prepositionAt?
    (longestFirst : LongestFirst vocabulary.prepositions)
    (found : vocabulary.prepositionAt? words = some preposition) :
    ∀ other ∈ vocabulary.prepositions,
      other.matchesAt words = true → other.length ≤ preposition.length := by
  intro other member isMatch
  rcases List.find?_eq_some_iff_append.mp found with
    ⟨_, before, after, parted, failed⟩
  rw [LongestFirst, parted, List.pairwise_append] at longestFirst
  rw [parted] at member
  rcases List.mem_append.mp member with earlier | later
  · have fails := failed other earlier
    rw [isMatch] at fails
    cases fails
  · rcases List.mem_cons.mp later with rfl | after
    · exact Nat.le_refl _
    · exact List.rel_of_pairwise_cons longestFirst.2.1 after

theorem not_matchesAt_of_prepositionAt?
    (missing : vocabulary.prepositionAt? words = none) :
    ∀ other ∈ vocabulary.prepositions, other.matchesAt words = false := by
  intro other member
  simpa using List.find?_eq_none.mp missing other member

/-- What is found is the longest phrase at the first place. -/
theorem foundAt_of_findPreposition
    (longestFirst : LongestFirst vocabulary.prepositions)
    (found : vocabulary.findPreposition words = some (index, preposition)) :
    vocabulary.FoundAt words index preposition := by
  induction words generalizing index with
  | nil => cases found
  | cons word rest inductive_step =>
      rw [findPreposition] at found
      split at found
      · next here =>
          cases found
          rw [prepositionAt?] at here
          have longest := longest_of_prepositionAt? longestFirst here
          refine ⟨List.mem_of_find?_eq_some here, ?_, ?_, longest⟩
          · simpa using List.find?_some here
          · intro earlier before
            exact absurd before (Nat.not_lt_zero earlier)
      · next missing =>
          rcases Option.map_eq_some_iff.mp found with
            ⟨⟨later, phrase⟩, foundLater, same⟩
          cases same
          have foundAt := inductive_step foundLater
          refine ⟨foundAt.known, foundAt.isMatch, ?_, foundAt.longest⟩
          intro earlier before
          cases earlier with
          | zero => exact not_matchesAt_of_prepositionAt? missing
          | succ earlier =>
              exact foundAt.earliest earlier (Nat.lt_of_succ_lt_succ before)

/-- When nothing is found, no phrase matches anywhere. -/
theorem noneFound_of_findPreposition
    (missing : vocabulary.findPreposition words = none) :
    vocabulary.NoneFound words := by
  have nowhere {other : Preposition} : other.matchesAt [] = false := by
    cases isMatch : other.matchesAt [] with
    | false => rfl
    | true =>
        rcases Preposition.length_of_matchesAt isMatch with ⟨positive, bounded⟩
        exact absurd positive (Nat.not_lt_of_le bounded)
  induction words with
  | nil =>
      intro index other _
      rw [List.drop_nil]
      exact nowhere
  | cons word rest inductive_step =>
      rw [findPreposition] at missing
      split at missing
      · cases missing
      · next missingHere =>
          intro index other member
          cases index with
          | zero =>
              exact not_matchesAt_of_prepositionAt? missingHere other member
          | succ index =>
              exact inductive_step (Option.map_eq_none_iff.mp missing)
                index other member

end Vocabulary

end TextWorld
