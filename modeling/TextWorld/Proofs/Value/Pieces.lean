import TextWorld.Proofs.Value.Words

/-!
# What stands between the brackets of a container

The pieces shown of a container are its first entries and, if there are more, a
note on how many.  They are joined by separators, but the separator before the
note is written with it, whether or not an entry comes before.  So where no
entries are shown at all, what is between the brackets starts with a separator.
-/

namespace TextWorld.Value

open TextWorld.Number
open TextWorld.Text

/-- The note on the entries that are not shown, if there are any. -/
def note (limits : Limits) (count : Nat) : List String :=
  if limits.entries < count then
    let more := count - limits.entries
    ["... " ++ decimal more ++ " more " ++
      (if more = 1 then "item" else "items")]
  else
    []

/-- What is shown of a container that is displayed with the budget,
piece by piece. -/
def pieces (limits : Limits) (budget : Nat) (value : Value) : List String :=
  (value.entryTexts limits budget).take limits.entries ++
    note limits value.entries.length

/-- In the display of a value with a budget, the container inside it is
displayed with what is left of the budget. -/
inductive OpenedIn (limits : Limits) :
    (budget : Nat) → Value → (left : Nat) → Value → Prop where
  | outermost {budget : Nat} {value : Value}
      (container : value.isContainer = true) :
      OpenedIn limits budget value budget value
  | inside {below left index : Nat} {value entry inner : Value}
      (shown : index < limits.entries)
      (isEntry : value.entries[index]? = some entry)
      (opened : OpenedIn limits below entry left inner) :
      OpenedIn limits (below + 1) value left inner

/-- The text is not empty, and has no separator at its ends. -/
structure IsPiece (text : List Char) : Prop where
  start : ∃ first ∈ text.head?, first ≠ ','
  stop : ∃ last ∈ text.getLast?, last ≠ ' '

variable {limits : Limits} {budget left : Nat} {value inner : Value}
  {texts : List String}

/-! ## Joining the pieces -/

theorem note_of_lt {count : Nat} (more : limits.entries < count) :
    ∃ text,
      note limits count = [text] ∧ moreEntries limits count = ", " ++ text := by
  refine ⟨_, if_pos more, ?_⟩
  rw [moreEntries, if_pos more]
  simp only [← String.append_assoc]
  rfl

theorem note_of_le {count : Nat} (few : count ≤ limits.entries) :
    note limits count = [] :=
  if_neg (Nat.not_lt.mpr few)

/-- The pieces are joined by separators, and one more stands before the note
if it is alone. -/
theorem displayedEntries_eq (texts : List String) :
    displayedEntries limits texts =
      (if limits.entries = 0 ∧ texts ≠ [] then ", " else "") ++
        ", ".intercalate
          (texts.take limits.entries ++ note limits texts.length) := by
  rcases Nat.lt_or_ge limits.entries texts.length with more | few
  · obtain ⟨text, noted, written⟩ := note_of_lt more
    have nonempty : texts ≠ [] :=
      List.ne_nil_of_length_pos (Nat.zero_lt_of_lt more)
    rw [displayedEntries, written, noted]
    by_cases nothing : limits.entries = 0
    · rw [if_pos ⟨nothing, nonempty⟩, nothing, List.take_zero, List.nil_append,
        String.intercalate_nil, String.intercalate_singleton,
          String.empty_append]
    · have shown : texts.take limits.entries ≠ [] :=
        mt List.take_eq_nil_iff.mp (not_or_intro nothing nonempty)
      rw [if_neg (nothing ·.1),
        String.intercalate_append_of_ne_nil shown (List.cons_ne_nil text []),
        String.intercalate_singleton, String.empty_append, String.append_assoc]
  · have notAlone : ¬ (limits.entries = 0 ∧ texts ≠ []) := by
      rintro ⟨nothing, nonempty⟩
      exact nonempty
        (List.length_eq_zero_iff.mp (Nat.le_zero.mp (nothing ▸ few)))
    rw [displayedEntries_of_length_le few, note_of_le few, if_neg notAlone,
      String.empty_append, List.append_nil, List.take_of_length_le few]

/-! ## The ends of pieces -/

theorem IsPiece.noSeparatorFirst {text : List Char} (isPiece : IsPiece text) :
    ¬ [',', ' '] <+: text := by
  rintro ⟨rest, rfl⟩
  obtain ⟨first, starts, noSeparator⟩ := isPiece.start
  exact noSeparator (Option.some.inj starts).symm

theorem IsPiece.noSeparatorLast {text : List Char} (isPiece : IsPiece text)
    (before : List Char) :
    ¬ [',', ' '] <:+ before ++ text := by
  rintro ⟨rest, same⟩
  obtain ⟨last, stops, noSeparator⟩ := isPiece.stop
  have lastOfBoth := congrArg List.getLast? same
  rw [List.getLast?_append, List.getLast?_append, stops] at lastOfBoth
  exact noSeparator (Option.some.inj lastOfBoth).symm

/-- A text is a piece if it starts and ends with pieces. -/
theorem IsPiece.append
    {first last : List Char}
    (starts : IsPiece first)
    (stops : IsPiece last)
    (between : List Char) :
    IsPiece (first ++ between ++ last) := by
  obtain ⟨firstCharacter, isFirst, noComma⟩ := starts.start
  obtain ⟨lastCharacter, isLast, noBlank⟩ := stops.stop
  refine ⟨⟨firstCharacter, ?_, noComma⟩, ⟨lastCharacter, ?_, noBlank⟩⟩
  · rw [List.append_assoc, List.head?_append, isFirst]
    rfl
  · rw [List.getLast?_append, isLast]
    rfl

theorem isPiece_enclosed
    {first last : Char}
    (noComma : first ≠ ',')
    (noBlank : last ≠ ' ')
    (between : List Char) :
    IsPiece (first :: between ++ [last]) :=
  ⟨⟨first, rfl, noComma⟩, ⟨last, List.getLast?_concat, noBlank⟩⟩

theorem isPiece_of_all
    {property : Char → Bool}
    {text : List Char}
    (noComma : property ',' = false)
    (noBlank : property ' ' = false)
    (nonempty : text ≠ [])
    (all : ∀ character ∈ text, property character = true) :
    IsPiece text := by
  constructor
  · obtain ⟨first, others, rfl⟩ := List.exists_cons_of_ne_nil nonempty
    refine ⟨first, rfl, ?_⟩
    rintro rfl
    exact absurd (all _ List.mem_cons_self) (noComma ▸ Bool.false_ne_true)
  · refine ⟨text.getLast nonempty, List.getLast?_eq_some_getLast nonempty,
      fun blank => ?_⟩
    have last := all _ (List.getLast_mem nonempty)
    rw [blank, noBlank] at last
    cases last

theorem isPiece_escape (text : String) :
    IsPiece (Literal.escape text).toList := by
  rw [Literal.toList_escape]
  exact isPiece_enclosed (by decide) (by decide) _

theorem isPiece_displayedKey (key : String) :
    IsPiece (displayedKey key).toList := by
  rw [displayedKey]
  split
  · next bare =>
      obtain ⟨nonempty, isKey⟩ := characters_of_isBareKey bare
      exact isPiece_of_all (by decide) (by decide) nonempty isKey
  · exact isPiece_escape key

theorem isPiece_displayed : IsPiece (displayed limits budget value).toList := by
  cases container : value.isContainer with
  | true =>
      cases value with
      | list items =>
          rw [toList_displayed_list]
          exact isPiece_enclosed (by decide) (by decide) _
      | object members =>
          cases members with
          | nil =>
              rw [toList_displayed_object_nil]
              exact isPiece_enclosed (by decide) (by decide) []
          | cons member others =>
              rw [toList_displayed_object, List.append_cons]
              exact isPiece_enclosed (by decide) (by decide) _
      | _ => cases container
  | false =>
      rcases isWord_or_escape container with
        ⟨nonempty, isWord⟩ | ⟨text, written⟩
      · exact isPiece_of_all (by decide) (by decide) nonempty isWord
      · rw [written]
        exact isPiece_escape text

theorem isPiece_entryText : IsPiece (entryText limits budget value).toList := by
  cases budget with
  | zero =>
      cases value with
      | list =>
          have named :
              "[List]".toList = '[' :: ['L', 'i', 's', 't'] ++ [']'] := rfl
          rw [entryText, placeholder?, Option.getD_some, named]
          exact isPiece_enclosed (by decide) (by decide) _
      | object =>
          have named : "[Object]".toList =
              '[' :: ['O', 'b', 'j', 'e', 'c', 't'] ++ [']'] := rfl
          rw [entryText, placeholder?, Option.getD_some, named]
          exact isPiece_enclosed (by decide) (by decide) _
      | _ => exact isPiece_displayed
  | succ below => exact isPiece_displayed

theorem isPiece_of_mem_note {count : Nat} :
    ∀ text ∈ note limits count, IsPiece text.toList := by
  intro text isNote
  unfold note at isNote
  split at isNote
  · rw [List.mem_singleton.mp isNote]
    have dots : IsPiece ['.', '.', '.'] :=
      ⟨⟨'.', rfl, by decide⟩, ⟨'.', rfl, by decide⟩⟩
    have noun : IsPiece
        (if count - limits.entries = 1 then "item" else "items").toList := by
      split
      · exact ⟨⟨'i', rfl, by decide⟩, ⟨'m', rfl, by decide⟩⟩
      · exact ⟨⟨'i', rfl, by decide⟩, ⟨'s', rfl, by decide⟩⟩
    have written :=
      dots.append noun
        (' ' :: (decimalDigits (count - limits.entries) ++ " more ".toList))
    simp only [String.toList_append, toList_decimal]
    simpa using written
  · cases isNote

theorem isPiece_of_mem_pieces :
    ∀ text ∈ value.pieces limits budget, IsPiece text.toList := by
  have entries :
      ∀ text ∈ value.entryTexts limits budget, IsPiece text.toList := by
    cases value with
    | list items => exact List.forall_mem_map.mpr fun _ _ => isPiece_entryText
    | object members =>
        refine List.forall_mem_map.mpr fun member _ => ?_
        rw [memberText, String.toList_append, String.toList_append]
        exact (isPiece_displayedKey member.1).append isPiece_entryText _
    | _ => exact List.forall_mem_nil _
  exact List.forall_mem_append.mpr
    ⟨fun text taken => entries text (List.mem_of_mem_take taken),
      isPiece_of_mem_note⟩

theorem isPiece_intercalate
    (nonempty : texts ≠ [])
    (pieces : ∀ text ∈ texts, IsPiece text.toList) :
    IsPiece (", ".intercalate texts).toList := by
  induction texts with
  | nil => exact absurd rfl nonempty
  | cons first others inductive_step =>
      obtain ⟨isPiece, otherPieces⟩ := List.forall_mem_cons.mp pieces
      by_cases last : others = []
      · rw [last, String.intercalate_singleton]
        exact isPiece
      · rw [String.intercalate_cons_of_ne_nil last, String.toList_append,
          String.toList_append]
        exact isPiece.append (inductive_step last otherPieces) _

theorem pieces_eq_nil_iff :
    value.pieces limits budget = [] ↔ value.entries = [] := by
  rw [pieces, List.append_eq_nil_iff,
    ← List.length_eq_zero_iff, List.length_take, length_entryTexts,
    ← List.length_eq_zero_iff (l := value.entries)]
  constructor
  · rintro ⟨none, noNote⟩
    rcases Nat.lt_or_ge limits.entries value.entries.length with more | few
    · obtain ⟨text, noted, -⟩ := note_of_lt more
      rw [noted] at noNote
      cases noNote
    · rwa [Nat.min_eq_right few] at none
  · intro none
    rw [none]
    exact ⟨Nat.min_zero _, note_of_le (Nat.zero_le _)⟩

/-! ## Containers inside containers -/

theorem isInfix_intercalate {text : String} (member : text ∈ texts) :
    text.toList <:+: (", ".intercalate texts).toList := by
  induction texts with
  | nil => cases member
  | cons first others inductive_step =>
      by_cases last : others = []
      · subst last
        rw [List.mem_singleton.mp member, String.intercalate_singleton]
      · rw [String.intercalate_cons_of_ne_nil last, String.toList_append,
          String.toList_append]
        rcases List.mem_cons.mp member with rfl | later
        · rw [List.append_assoc]
          exact (List.prefix_append _ _).isInfix
        · exact (inductive_step later).trans (List.suffix_append _ _).isInfix

/-- An entry within the limit is written in one of the pieces. -/
theorem exists_piece_of_entry
    {index : Nat}
    (shown : index < limits.entries)
    (isEntry : value.entries[index]? = some inner) :
    ∃ text ∈ (value.entryTexts limits budget).take limits.entries,
      (entryText limits budget inner).toList <:+: text.toList := by
  have isPiece {text : String}
      (isText : (value.entryTexts limits budget)[index]? = some text) :
      text ∈ (value.entryTexts limits budget).take limits.entries := by
    rw [← List.getElem?_take_of_lt shown] at isText
    exact List.mem_of_getElem? isText
  cases value with
  | list items =>
      refine ⟨entryText limits budget inner, isPiece ?_, List.infix_rfl⟩
      rw [entries] at isEntry
      rw [entryTexts, List.getElem?_map, isEntry]
      rfl
  | object members =>
      rw [entries, List.getElem?_map, Option.map_eq_some_iff] at isEntry
      obtain ⟨member, isMember, rfl⟩ := isEntry
      refine ⟨memberText limits budget member, isPiece ?_, ?_⟩
      · rw [entryTexts, List.getElem?_map, isMember]
        rfl
      · rw [memberText, String.toList_append]
        exact (List.suffix_append _ _).isInfix
  | _ => cases isEntry

/-- An entry within the limit is written in the display of its container. -/
theorem isInfix_of_entry
    {index : Nat}
    (budget : Nat)
    (shown : index < limits.entries)
    (isEntry : value.entries[index]? = some inner) :
    (entryText limits budget inner).toList <:+:
      (displayed limits budget value).toList := by
  have container : value.isContainer = true := by
    cases value <;> first | rfl | cases isEntry
  obtain ⟨text, isPiece, written⟩ := exists_piece_of_entry shown isEntry
  rw [displayed_of_isContainer container, displayedEntries]
  simp only [String.toList_append]
  refine (written.trans (isInfix_intercalate isPiece)).trans ?_
  rw [List.append_assoc, List.append_assoc]
  exact List.infix_append' _ _ _

theorem OpenedIn.isWritten (opened : OpenedIn limits budget value left inner) :
    inner.isContainer = true ∧
      (displayed limits left inner).toList <:+:
        (displayed limits budget value).toList := by
  induction opened with
  | outermost container => exact ⟨container, List.infix_rfl⟩
  | @inside below _ _ _ _ _ shown isEntry _ inductive_step =>
      exact ⟨inductive_step.1,
        inductive_step.2.trans (isInfix_of_entry (below + 1) shown isEntry)⟩

/-- What stands between the brackets of a container. -/
theorem body_eq :
    displayedEntries limits (value.entryTexts limits budget) =
      (if limits.entries = 0 ∧ value.entries ≠ [] then ", " else "") ++
        ", ".intercalate (value.pieces limits budget) := by
  have empty : value.entryTexts limits budget = [] ↔ value.entries = [] := by
    rw [← List.length_eq_zero_iff, length_entryTexts, List.length_eq_zero_iff]
  rw [displayedEntries_eq, length_entryTexts, pieces]
  simp only [ne_eq, empty]

/-- Of every container that is opened in a display, at any level, the pieces are
joined by separators between the brackets.  Only where no entries are shown at
all one more separator stands before the note, which is then the only piece; in
no other case is there a separator at an end. -/
theorem opened_container_joins_pieces
    (opened : OpenedIn limits limits.depth value left inner) :
    let body := displayedEntries limits (inner.entryTexts limits left)
    (displayed limits left inner).toList <:+: (display limits value).toList ∧
      displayed limits left inner =
        inner.brackets.1 ++ body ++ inner.brackets.2 ∧
      body =
        (if limits.entries = 0 ∧ inner.entries ≠ [] then ", " else "") ++
          ", ".intercalate (inner.pieces limits left) ∧
      (body = ", ".intercalate (inner.pieces limits left) ↔
        limits.entries ≠ 0 ∨ inner.entries = []) ∧
      ([',', ' '] <+: body.toList ↔ limits.entries = 0 ∧ inner.entries ≠ []) ∧
      ¬ [',', ' '] <:+ body.toList := by
  intro body
  obtain ⟨container, written⟩ := opened.isWritten
  have joined (some : inner.entries ≠ []) :
      IsPiece (", ".intercalate (inner.pieces limits left)).toList :=
    isPiece_intercalate (mt pieces_eq_nil_iff.mp some) isPiece_of_mem_pieces
  refine ⟨written, displayed_of_isContainer container, body_eq, ?_⟩
  have parted : body = _ := body_eq
  rw [parted]
  by_cases alone : limits.entries = 0 ∧ inner.entries ≠ []
  · rw [if_pos alone, String.toList_append]
    refine ⟨iff_of_false (fun same => ?_) (by tauto),
      iff_of_true (List.prefix_append _ _) alone,
      (joined alone.2).noSeparatorLast _⟩
    have lengths := congrArg String.length same
    have separator : ", ".length = 2 := rfl
    rw [String.length_append, separator] at lengths
    omega
  · rw [if_neg alone, String.empty_append]
    refine ⟨iff_of_true rfl (by tauto), ?_⟩
    by_cases none : inner.entries = []
    · rw [pieces_eq_nil_iff.mpr none, String.intercalate_nil]
      exact ⟨iff_of_false (by decide) alone, by decide⟩
    · exact ⟨iff_of_false (joined none).noSeparatorFirst alone,
        (joined none).noSeparatorLast []⟩

theorem inner_list_joins_pieces :
    OpenedIn ⟨1, 2⟩ 1 (.list [.list [.int 1, .int 2, .int 3], .int 4]) 0
        (.list [.int 1, .int 2, .int 3]) ∧
      display ⟨1, 2⟩ (.list [.list [.int 1, .int 2, .int 3], .int 4]) =
        "[[1, 2, ... 1 more item], 4]" ∧
      pieces ⟨1, 2⟩ 0 (.list [.int 1, .int 2, .int 3]) =
        ["1", "2", "... 1 more item"] ∧
      displayedEntries ⟨1,
        2⟩ (entryTexts ⟨1, 2⟩ 0 (.list [.int 1, .int 2, .int 3])) =
        ", ".intercalate
          (pieces ⟨1, 2⟩ 0 (.list [.int 1, .int 2, .int 3])) := by
  have opened :
      OpenedIn ⟨1, 2⟩ 1 (.list [.list [.int 1, .int 2, .int 3], .int 4]) 0
      (.list [.int 1, .int 2, .int 3]) :=
    .inside (show 0 < 2 by decide) rfl (.outermost rfl)
  obtain ⟨-, -, -, joined, -⟩ := opened_container_joins_pieces opened
  exact ⟨opened, by decide, by decide, joined.mpr (.inl (by decide))⟩

/-- The note is the only piece, and there is a separator before it. -/
theorem separator_stands_before_note :
    pieces ⟨1, 0⟩ 1 (.list [.int 1, .int 2]) = ["... 2 more items"] ∧
      display ⟨1, 0⟩ (.list [.int 1, .int 2]) = "[, ... 2 more items]" ∧
      display ⟨1, 0⟩ (.list [.int 1, .int 2]) ≠
        "[" ++ ", ".intercalate
          (pieces ⟨1, 0⟩ 1 (.list [.int 1, .int 2])) ++ "]" := by
  decide

end TextWorld.Value
