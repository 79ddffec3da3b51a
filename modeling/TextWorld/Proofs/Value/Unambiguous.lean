import TextWorld.Proofs.Literal.RoundTrip
import TextWorld.Proofs.Value.Words

/-!
# Displays in full

A value is displayed in full when every container in it is within the budget of
levels and no container has too many entries.  Such a display tells the value,
and where the display ends when something comes after it.
-/

namespace TextWorld.Value

open TextWorld.Number
open TextWorld.Text

/-- Whether the value is a bit pattern that stands for no number. -/
def isNaN : Value → Bool
  | .float number => number.isNaN
  | _ => false

/-- Nothing in the value is left out when it is displayed with the budget, and
every number in it is one. -/
structure ShownInFull (limits : Limits) (budget : Nat)
    (value : Value) : Prop where
  shallow : ∀ part ∈ value.parts, part.2.isContainer = true → part.1 ≤ budget
  short : ∀ part ∈ value.parts, part.2.entries.length ≤ limits.entries
  numbers : ∀ part ∈ value.parts, part.2.isNaN = false

/-- Values of the same kind. -/
inductive SameKind : Value → Value → Prop where
  | absent : SameKind .absent .absent
  | bool (left right : Bool) : SameKind (.bool left) (.bool right)
  | int (left right : Int64) : SameKind (.int left) (.int right)
  | float (left right : Binary64) : SameKind (.float left) (.float right)
  | string (left right : String) : SameKind (.string left) (.string right)
  | entity (left right : EntityId) : SameKind (.entity left) (.entity right)
  | list (left right : List Value) : SameKind (.list left) (.list right)
  | object (left right : List (String × Value)) :
      SameKind (.object left) (.object right)

/-- An item is told from another, and from what comes after it, by what
is written of it. -/
def ToldFrom {α : Type} (write : α → String) (item other : α) : Prop :=
  ∀ rest after, EndsWord rest → EndsWord after →
    (write item).toList ++ rest = (write other).toList ++ after →
    item = other ∧ rest = after

variable {limits : Limits} {budget : Nat} {value other : Value}
  {rest after : List Char}

theorem sameKind_of_typeName (sameType : value.typeName = other.typeName) :
    SameKind value other := by
  cases value <;> cases other <;>
    first | constructor | exact absurd sameType (by simp [typeName])

/-! ## Scalars -/

theorem signedDecimal_injective
    {left right : Int}
    (same : signedDecimal left = signedDecimal right) :
    left = right := by
  have sameText := congrArg String.toList same
  rw [toList_signedDecimal, toList_signedDecimal] at sameText
  have noSign (number : Nat) : '-' ∉ decimalDigits number :=
    fun member => absurd (isDigit_of_mem_decimalDigits member) (by decide)
  obtain ⟨sameSign, sameDigits⟩ :=
    sign_append_injective (noSign _) (noSign _) sameText
  have sameSize := congrArg readDecimal sameDigits
  rw [readDecimal_decimalDigits, readDecimal_decimalDigits,
    Option.some_inj] at sameSize
  omega

theorem escape_append_injective
    {left right : String}
    (same : (Literal.escape left).toList ++ rest =
      (Literal.escape right).toList ++ after) :
    left = right ∧ rest = after := by
  rw [Literal.toList_escape, Literal.toList_escape] at same
  have literal :=
    Literal.leadingLiteral_escapeCharacters_append left.toList rest
  rw [same, Literal.leadingLiteral_escapeCharacters_append] at literal
  have sameLiteral := Option.some.inj literal
  have decoded := Literal.decodeCharacters_escapeCharacters left.toList
  rw [← sameLiteral, Literal.decodeCharacters_escapeCharacters] at decoded
  have sameText : right = left := String.toList_inj.mp (Except.ok.inj decoded)
  subst sameText
  exact ⟨rfl, List.append_cancel_left same⟩

/-- A key and the colon after it tell the key. -/
theorem displayedKey_append_injective
    {left right : String}
    (same :
      (displayedKey left).toList ++ ':' :: rest =
        (displayedKey right).toList ++ ':' :: after) :
    left = right ∧ rest = after := by
  have ends (text : List Char) :
      ∀ character ∈ (':' :: text).head?, isKeyCharacter character = false := by
    rintro _ ⟨rfl⟩
    decide
  have noQuote {key : String} (bare : isBareKey key = true)
      (text others : List Char) :
      key.toList ++ text ≠ '"' :: others := by
    obtain ⟨nonempty, isKey⟩ := characters_of_isBareKey bare
    obtain ⟨first, others, starts⟩ := List.exists_cons_of_ne_nil nonempty
    rw [starts] at isKey ⊢
    intro same
    have first := isKey _ List.mem_cons_self
    rw [(List.cons.inj same).1] at first
    exact absurd first (by decide)
  unfold displayedKey at same
  split at same <;> split at same
  · next bare otherBare =>
      obtain ⟨sameKey, sameRest⟩ :=
        append_injective_of_all (characters_of_isBareKey bare).2
        (characters_of_isBareKey otherBare).2 (ends rest) (ends after) same
      exact ⟨String.toList_inj.mp sameKey, (List.cons.inj sameRest).2⟩
  · next bare _ =>
      rw [Literal.toList_escape] at same
      exact absurd same (noQuote bare _ _)
  · next bare =>
      rw [Literal.toList_escape] at same
      exact absurd same.symm (noQuote bare _ _)
  · obtain ⟨sameKey, sameRest⟩ := escape_append_injective same
    exact ⟨sameKey, (List.cons.inj sameRest).2⟩

/-- Scalars that are displayed by words are told from each other if
their words differ. -/
theorem toldFrom_of_words
    (scalar : value.isContainer = false)
    (otherScalar : other.isContainer = false)
    (noString : value.string? = none)
    (otherNoString : other.string? = none)
    (injective : displayed limits budget value = displayed limits budget other →
      value = other) :
    ToldFrom (displayed limits budget) value other := by
  intro rest after ends otherEnds same
  obtain ⟨⟨-, isWord⟩, -⟩ := isWord_displayed scalar noString
  obtain ⟨⟨-, otherIsWord⟩, -⟩ := isWord_displayed otherScalar otherNoString
  obtain ⟨sameWord, sameRest⟩ :=
    append_injective_of_all isWord otherIsWord ends otherEnds same
  exact ⟨injective (String.toList_inj.mp sameWord), sameRest⟩

/-- Scalars of one kind are told from each other, except for those that
are no numbers. -/
theorem toldFrom_of_scalar
    (kind : SameKind value other)
    (scalar : value.isContainer = false)
    (isNumber : value.isNaN = false)
    (otherIsNumber : other.isNaN = false) :
    ToldFrom (displayed limits budget) value other := by
  cases kind with
  | absent => exact toldFrom_of_words rfl rfl rfl rfl fun _ => rfl
  | bool left right =>
      refine toldFrom_of_words rfl rfl rfl rfl fun same => ?_
      rw [displayed, displayed] at same
      cases left <;> cases right <;> first | rfl | exact absurd same (by decide)
  | int left right =>
      refine toldFrom_of_words rfl rfl rfl rfl fun same => ?_
      rw [displayed, displayed] at same
      exact congrArg Value.int
        (Int64.toInt_inj.mp (signedDecimal_injective same))
  | float left right =>
      refine toldFrom_of_words rfl rfl rfl rfl fun same => ?_
      rw [displayed, displayed] at same
      exact congrArg Value.float
        (displayedNumber_injective isNumber otherIsNumber same)
  | string left right =>
      intro rest after _ _ same
      rw [displayed, displayed] at same
      obtain ⟨sameText, sameRest⟩ := escape_append_injective same
      exact ⟨congrArg Value.string sameText, sameRest⟩
  | entity left right =>
      refine toldFrom_of_words rfl rfl rfl rfl fun same => ?_
      rw [displayed, displayed] at same
      have read := congrArg (EntityId.ofCharacters? ·.toList) same
      simp only [EntityId.toList_text, EntityId.ofCharacters?_characters,
        Option.some_inj] at read
      exact congrArg Value.entity read
  | list => cases scalar
  | object => cases scalar

/-! ## Containers -/

theorem endsWord_cons {mark : Char} (noWord : isWordCharacter mark = false)
    (text : List Char) :
    EndsWord (mark :: text) := by
  rintro _ ⟨rfl⟩
  exact noWord

section Separated

variable {α : Type} {write : α → String} {items others : List α} {mark : Char}

/-- What comes after an entry does not continue a word. -/
theorem endsWord_separated
    (noWord : isWordCharacter mark = false)
    (items : List α)
    (rest : List Char) :
    EndsWord ((items.flatMap fun item => ',' :: ' ' :: (write item).toList) ++
      mark :: rest) := by
  cases items with
  | nil => exact endsWord_cons noWord rest
  | cons => exact endsWord_cons (by decide) _

/-- Entries with separators before them are told up to the mark after
the last of them. -/
theorem separated_injective
    (noSeparator : mark ≠ ',')
    (noWord : isWordCharacter mark = false)
    (told : ∀ item ∈ items, ∀ other ∈ others, ToldFrom write item other)
    (same :
      (items.flatMap fun item => ',' :: ' ' :: (write item).toList) ++
        mark :: rest =
        (others.flatMap fun item => ',' :: ' ' :: (write item).toList) ++
          mark :: after) :
    items = others ∧ rest = after := by
  induction items generalizing others with
  | nil =>
      cases others with
      | nil => exact ⟨rfl, (List.cons.inj same).2⟩
      | cons => exact absurd (List.cons.inj same).1 noSeparator
  | cons item items inductive_step =>
      cases others with
      | nil => exact absurd (List.cons.inj same).1.symm noSeparator
      | cons other others =>
          rw [List.flatMap_cons, List.flatMap_cons, List.append_assoc,
            List.append_assoc] at same
          have sameText := (List.cons.inj (List.cons.inj same).2).2
          obtain ⟨rfl, sameTail⟩ :=
            told item List.mem_cons_self other List.mem_cons_self _ _
            (endsWord_separated noWord items rest)
            (endsWord_separated noWord others after) sameText
          obtain ⟨rfl, sameRest⟩ := inductive_step
            (fun item isItem other isOther =>
              told item (List.mem_cons_of_mem _ isItem) other
                (List.mem_cons_of_mem _ isOther))
            sameTail
          exact ⟨rfl, sameRest⟩

/-- Entries with separators between them are told up to the mark after
the last of them. -/
theorem intercalate_injective
    {item other : α}
    (noSeparator : mark ≠ ',')
    (noWord : isWordCharacter mark = false)
    (told : ∀ entry ∈ item :: items, ∀ another ∈ other :: others,
      ToldFrom write entry another)
    (same :
      (", ".intercalate ((item :: items).map write)).toList ++ mark :: rest =
        (", ".intercalate ((other :: others).map write)).toList ++
          mark :: after) :
    item :: items = other :: others ∧ rest = after := by
  rw [List.map_cons, List.map_cons, toList_intercalate_cons,
    toList_intercalate_cons, List.flatMap_map, List.flatMap_map,
    List.append_assoc, List.append_assoc] at same
  obtain ⟨rfl, sameTail⟩ :=
    told item List.mem_cons_self other List.mem_cons_self _ _
    (endsWord_separated noWord items rest)
    (endsWord_separated noWord others after) same
  obtain ⟨rfl, sameRest⟩ := separated_injective noSeparator noWord
    (fun entry isEntry another isAnother =>
      told entry (List.mem_cons_of_mem _ isEntry) another
        (List.mem_cons_of_mem _ isAnother))
    sameTail
  exact ⟨rfl, sameRest⟩

end Separated

section Full

variable {inner : Value} {items others : List Value}
  {members otherMembers : List (String × Value)}

/-- What is right inside is displayed in full as well, with one level less. -/
theorem ShownInFull.entry
    (full : ShownInFull limits budget value)
    (isEntry : inner ∈ value.entries) :
    ShownInFull limits (budget - 1) inner where
  shallow part isPart container := by
    have deeper := (forall_mem_parts_iff.mp full.shallow).2 inner isEntry part
      isPart container
    exact Nat.le_sub_one_of_lt deeper
  short := (forall_mem_parts_iff.mp full.short).2 inner isEntry
  numbers := (forall_mem_parts_iff.mp full.numbers).2 inner isEntry

theorem ShownInFull.isNumber (full : ShownInFull limits budget value) :
    value.isNaN = false :=
  (forall_mem_parts_iff.mp full.numbers).1

/-- No entry is only named. -/
theorem ShownInFull.entryText_eq
    (full : ShownInFull limits budget value)
    (isEntry : inner ∈ value.entries) :
    entryText limits budget inner = displayed limits (budget - 1) inner := by
  cases budget with
  | zero =>
      apply entryText_of_not_isContainer
      rw [← Bool.not_eq_true]
      intro container
      have within :=
        (forall_mem_parts_iff.mp full.shallow).2 inner isEntry (0, inner)
        (parts_eq inner ▸ List.mem_cons_self) container
      exact absurd within (Nat.not_succ_le_zero 0)
  | succ below => rfl

/-- No entry is left out. -/
theorem ShownInFull.displayedEntries_eq
    (full : ShownInFull limits budget value) :
    displayedEntries limits (value.entryTexts limits budget) =
      ", ".intercalate (value.entryTexts limits budget) := by
  apply displayedEntries_of_length_le
  rw [length_entryTexts]
  exact (forall_mem_parts_iff.mp full.short).1

/-- A list with items does not end where it starts. -/
theorem ShownInFull.items_ne
    {item : Value}
    (full : ShownInFull limits budget (.list (item :: items))) :
    (", ".intercalate ((item :: items).map (entryText limits budget))).toList ++
      ']' :: rest ≠
      ']' :: after := by
  rw [List.map_cons, toList_intercalate_cons,
    full.entryText_eq List.mem_cons_self, List.flatMap_map, List.append_assoc]
  intro same
  have shown := congrArg shownType same
  rw [shownType_displayed_append (endsWord_separated (by decide) items rest)]
    at shown
  cases shown

/-- A list that is displayed in full is told if its items are. -/
theorem list_injective
    (full : ShownInFull limits budget (.list items))
    (otherFull : ShownInFull limits budget (.list others))
    (told : ∀ item ∈ items, ∀ other ∈ others,
      ToldFrom (entryText limits budget) item other)
    (same :
      (displayed limits budget (.list items)).toList ++ rest =
        (displayed limits budget (.list others)).toList ++ after) :
    items = others ∧ rest = after := by
  rw [toList_displayed_list, toList_displayed_list, full.displayedEntries_eq,
    otherFull.displayedEntries_eq, entryTexts, entryTexts, List.append_assoc,
      List.append_assoc]
    at same
  have inside := (List.cons.inj same).2
  cases items with
  | nil =>
      cases others with
      | nil => exact ⟨rfl, (List.cons.inj inside).2⟩
      | cons => exact absurd inside.symm otherFull.items_ne
  | cons =>
      cases others with
      | nil => exact absurd inside full.items_ne
      | cons => exact intercalate_injective (by decide) (by decide) told inside

/-- A member is told if its value is. -/
theorem toldFrom_member
    {member other : String × Value}
    (told : ToldFrom (entryText limits budget) member.2 other.2) :
    ToldFrom (memberText limits budget) member other := by
  intro rest after ends otherEnds same
  simp only [memberText, String.toList_append, List.append_assoc] at same
  obtain ⟨sameKey, afterKey⟩ := displayedKey_append_injective same
  obtain ⟨sameValue, sameRest⟩ :=
    told rest after ends otherEnds (List.cons.inj afterKey).2
  exact ⟨Prod.ext sameKey sameValue, sameRest⟩

/-- An object that is displayed in full is told if its members are. -/
theorem object_injective
    (full : ShownInFull limits budget (.object members))
    (otherFull : ShownInFull limits budget (.object otherMembers))
    (told : ∀ member ∈ members, ∀ other ∈ otherMembers,
      ToldFrom (memberText limits budget) member other)
    (same :
      (displayed limits budget (.object members)).toList ++ rest =
        (displayed limits budget (.object otherMembers)).toList ++ after) :
    members = otherMembers ∧ rest = after := by
  cases members with
  | nil =>
      cases otherMembers with
      | nil =>
          rw [toList_displayed_object_nil] at same
          exact ⟨rfl, List.append_cancel_left same⟩
      | cons =>
          rw [toList_displayed_object_nil, toList_displayed_object] at same
          exact absurd (List.cons.inj (List.cons.inj same).2).1 (by decide)
  | cons =>
      cases otherMembers with
      | nil =>
          rw [toList_displayed_object_nil, toList_displayed_object] at same
          exact absurd (List.cons.inj (List.cons.inj same).2).1 (by decide)
      | cons =>
          rw [toList_displayed_object, toList_displayed_object,
            full.displayedEntries_eq, otherFull.displayedEntries_eq, entryTexts,
            entryTexts, List.append_assoc, List.append_assoc] at same
          have inside := (List.cons.inj (List.cons.inj same).2).2
          obtain ⟨sameMembers, closed⟩ :=
            intercalate_injective (by decide) (by decide) told inside
          exact ⟨sameMembers, (List.cons.inj closed).2⟩

end Full

/-- Values that are displayed in full are told from each other. -/
theorem toldFrom_of_shownInFull
    (full : ShownInFull limits budget value)
    (otherFull : ShownInFull limits budget other) :
    ToldFrom (displayed limits budget) value other := by
  induction value generalizing budget other with
  | step value inductive_step =>
      intro rest after ends otherEnds same
      have told (entry : Value) (isEntry : entry ∈ value.entries)
          (another : Value)
          (isOther : another ∈ other.entries) :
          ToldFrom (entryText limits budget) entry another := by
        intro rest after ends otherEnds same
        rw [full.entryText_eq isEntry, otherFull.entryText_eq isOther] at same
        exact inductive_step entry isEntry (full.entry isEntry)
          (otherFull.entry isOther) rest after
          ends otherEnds same
      have type := congrArg shownType same
      rw [shownType_displayed_append ends, shownType_displayed_append otherEnds,
        Option.some_inj] at type
      have kind := sameKind_of_typeName type
      cases container : value.isContainer with
      | false =>
          exact toldFrom_of_scalar kind container full.isNumber
            otherFull.isNumber rest after ends
            otherEnds same
      | true =>
          cases kind with
          | list items others =>
              obtain ⟨rfl, sameRest⟩ := list_injective full otherFull told same
              exact ⟨rfl, sameRest⟩
          | object members others =>
              obtain ⟨rfl, sameRest⟩ := object_injective full otherFull
                (fun member isMember another isOther =>
                  toldFrom_member
                    (told _ (List.mem_map_of_mem isMember) _
                      (List.mem_map_of_mem isOther)))
                same
              exact ⟨rfl, sameRest⟩
          | _ => cases container

/-- A value that is displayed in full is known from its display. -/
theorem display_injective
    (full : ShownInFull limits limits.depth value)
    (otherFull : ShownInFull limits limits.depth other) :
    display limits value = display limits other ↔ value = other := by
  constructor
  · intro same
    have noRest : EndsWord [] := fun _ isHead => by cases isHead
    exact (toldFrom_of_shownInFull full otherFull [] [] noRest noRest
      (congrArg (·.toList ++ []) same)).1
  · rintro rfl
    rfl

theorem text_is_not_displayed_as_items :
    ShownInFull ⟨1, 2⟩ 1 (.object [("a: 1",
          .list [.string "1, 2", .float ⟨0x3FF0000000000000⟩])]) ∧
      ShownInFull ⟨1, 2⟩ 1 (.object [("a: 1", .list [.int 1, .int 2])]) ∧
      display ⟨1, 2⟩ (.object [("a: 1",
            .list [.string "1, 2", .float ⟨0x3FF0000000000000⟩])]) ≠
        display ⟨1, 2⟩ (.object [("a: 1", .list [.int 1, .int 2])]) := by
  have full : ShownInFull ⟨1, 2⟩ 1
      (.object [("a: 1",
            .list [.string "1, 2", .float ⟨0x3FF0000000000000⟩])]) :=
    ⟨by decide, by decide, by decide⟩
  have otherFull :
      ShownInFull ⟨1, 2⟩ 1 (.object [("a: 1", .list [.int 1, .int 2])]) :=
    ⟨by decide, by decide, by decide⟩
  exact ⟨full, otherFull,
    (display_injective full otherFull).not.mpr (by decide)⟩

end TextWorld.Value
