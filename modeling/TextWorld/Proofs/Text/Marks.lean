import TextWorld.Text.Search

/-!
# Occurrences of marks

What the searches for the last occurrence of a mark find, said in terms of where
the mark occurs.  A text in several parts, divided by a character that is not in
the mark, has the mark in it exactly when one of the parts has.
-/

namespace TextWorld.Text

variable {mark left right text : List Char} {character : Char}

/-! ## Where a mark occurs -/

/-- A mark that occurs in a text has a first occurrence. -/
theorem exists_first_infix (occurs : mark <:+: text) (nonempty : mark ≠ []) :
    ∃ before after, text = before ++ (mark ++ after) ∧ ¬ mark <:+: before := by
  induction text with
  | nil => exact absurd (List.infix_nil.mp occurs) nonempty
  | cons character rest inductive_step =>
      by_cases here : mark <+: character :: rest
      · rcases here with ⟨after, starts⟩
        exact ⟨[], after, starts.symm, fun again =>
            nonempty (List.infix_nil.mp again)⟩
      · rcases inductive_step
          ((List.infix_cons_iff.mp occurs).resolve_left here) with
          ⟨before, after, rfl, first⟩
        refine ⟨character :: before, after, rfl, fun again => ?_⟩
        rcases List.infix_cons_iff.mp again with starts | later
        · exact here (starts.trans (List.prefix_append _ _))
        · exact first later

theorem infix_append_cons_iff (absent : character ∉ mark) :
    mark <:+: left ++ character :: right ↔
      mark <:+: left ∨ mark <:+: right := by
  constructor
  · intro occurs
    rcases List.infix_append_iff.mp occurs with
      before | after | ⟨first, second, parted, start, stop⟩
    · exact .inl before
    · rcases List.infix_cons_iff.mp after with here | later
      · cases mark with
        | nil => exact .inl List.nil_infix
        | cons other others =>
            have same := (List.cons_prefix_cons.mp here).1
            exact absurd (same ▸ List.mem_cons_self) absent
      · exact .inr later
    · cases second with
      | nil =>
          rw [parted, List.append_nil]
          exact .inl start.isInfix
      | cons other others =>
          have same := (List.cons_prefix_cons.mp stop).1
          rw [parted, same] at absent
          exact absurd (List.mem_append_right _ List.mem_cons_self) absent
  · rintro (before | after)
    · exact before.trans (List.prefix_append _ _).isInfix
    · exact after.trans ((List.suffix_cons character right).trans
        (List.suffix_append _ _)).isInfix

theorem infix_concat_append_iff (absent : character ∉ mark) :
    mark <:+: (left ++ [character]) ++ right ↔
      mark <:+: left ++ [character] ∨ mark <:+: right := by
  rw [List.append_assoc, List.singleton_append, infix_append_cons_iff absent,
    infix_append_cons_iff absent]
  constructor
  · rintro (before | after)
    · exact .inl (.inl before)
    · exact .inr after
  · rintro ((before | none) | after)
    · exact .inl before
    · exact .inr (none.trans List.nil_infix)
    · exact .inr after

/-- A mark without line breaks occurs in lines and what follows them exactly
when it occurs in one of the lines or in what follows. -/
theorem infix_join_append_iff
    {lines : List String}
    (absent : character ∉ mark)
    (ended : ∀ line ∈ lines, ∃ body, line.toList = body ++ [character]) :
    mark <:+: (String.join lines).toList ++ right ↔
      (∃ line ∈ lines, mark <:+: line.toList) ∨ mark <:+: right := by
  induction lines with
  | nil => simp
  | cons line others inductive_step =>
      rcases ended line List.mem_cons_self with ⟨body, written⟩
      have later := inductive_step fun other member =>
        ended other (List.mem_cons_of_mem _ member)
      rw [String.join_cons, String.toList_append, List.append_assoc, written,
        infix_concat_append_iff absent, later, ← written]
      simp [or_assoc]

/-! ## What the searches find -/

theorem after?_eq_none_iff : after? mark text = none ↔ ¬ mark <+: text := by
  constructor
  · rintro nowhere ⟨rest, rfl⟩
    have found := after?_eq_some_iff.mpr (rfl : mark ++ rest = mark ++ rest)
    rw [nowhere] at found
    cases found
  · intro notPrefix
    cases found : after? mark text with
    | none => rfl
    | some rest =>
        exact absurd ⟨rest, (after?_eq_some_iff.mp found).symm⟩ notPrefix

theorem afterLast?_eq_none_iff (nonempty : mark ≠ []) :
    afterLast? mark text = none ↔ ¬ mark <:+: text := by
  induction text with
  | nil => simp [afterLast?, nonempty]
  | cons first rest inductive_step =>
      rw [List.infix_cons_iff, not_or, ← inductive_step,
        ← after?_eq_none_iff, afterLast?]
      cases afterLast? mark rest with
      | none => simp
      | some found => simp

theorem beforeLast?_eq_none_iff (nonempty : mark ≠ []) :
    beforeLast? mark text = none ↔ ¬ mark <:+: text := by
  induction text with
  | nil => simp [beforeLast?, nonempty]
  | cons first rest inductive_step =>
      rw [List.infix_cons_iff, not_or, ← inductive_step,
        ← after?_eq_none_iff, beforeLast?]
      cases beforeLast? mark rest with
      | none => simp
      | some found => simp

/-- An occurrence after which no other one starts is the last one. -/
theorem afterLast?_append
    (nonempty : mark ≠ [])
    (last : ¬ mark <:+: (mark ++ right).tail) :
    afterLast? mark (left ++ (mark ++ right)) = some right := by
  induction left with
  | nil =>
      have found := after?_eq_some_iff.mpr (rfl : mark ++ right = mark ++ right)
      cases mark with
      | nil => exact absurd rfl nonempty
      | cons first others =>
          have later := (afterLast?_eq_none_iff nonempty).mpr last
          simp only [List.cons_append, List.tail_cons] at later found
          simp only [List.nil_append, List.cons_append,
            afterLast?, later, found]
  | cons first others inductive_step =>
      simp only [List.cons_append, afterLast?, inductive_step]

theorem beforeLast?_append
    (nonempty : mark ≠ [])
    (last : ¬ mark <:+: (mark ++ right).tail) :
    beforeLast? mark (left ++ (mark ++ right)) = some left := by
  induction left with
  | nil =>
      have found := after?_eq_some_iff.mpr (rfl : mark ++ right = mark ++ right)
      cases mark with
      | nil => exact absurd rfl nonempty
      | cons first others =>
          have later := (beforeLast?_eq_none_iff nonempty).mpr last
          simp only [List.cons_append, List.tail_cons] at later found
          simp only [List.nil_append, List.cons_append,
            beforeLast?, later, found]
          rfl
  | cons first others inductive_step =>
      simp only [List.cons_append, beforeLast?, inductive_step]

end TextWorld.Text
