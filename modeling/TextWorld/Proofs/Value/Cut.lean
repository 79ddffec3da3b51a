import TextWorld.Proofs.Value.Nesting

/-!
# What a display does not depend on

A display does not go deeper into a value than its budget of levels, and not
further along a container than its number of entries.  So the value can be
cut below the budget, and two values that agree at the start of each
container are shown alike.
-/

namespace TextWorld.Value

/-- A container of the same kind without entries, for a container. -/
def emptied : Value → Value
  | .list _ => .list []
  | .object _ => .object []
  | scalar => scalar

mutual

/-- The value with all containers emptied that are more levels below it
than the budget. -/
def cut (budget : Nat) : Value → Value
  | .list items => .list (cutItems budget items)
  | .object members => .object (cutMembers budget members)
  | scalar => scalar

/-- The items of a list that is cut. -/
def cutItems (budget : Nat) : List Value → List Value
  | [] => []
  | item :: rest =>
      let left :=
        match budget with
        | 0 => emptied item
        | below + 1 => cut below item
      left :: cutItems budget rest

/-- The members of an object that is cut. -/
def cutMembers (budget : Nat) : List (String × Value) → List (String × Value)
  | [] => []
  | (key, value) :: rest =>
      let left :=
        match budget with
        | 0 => emptied value
        | below + 1 => cut below value
      (key, left) :: cutMembers budget rest

end

/-- What is left of an entry of a container that is cut. -/
def cutEntry : (budget : Nat) → Value → Value
  | 0, value => emptied value
  | below + 1, value => cut below value

/-- The values are the same, up to entries of lists and objects that come after
so many others; of those there are equally many. -/
inductive AlikeUpTo (count : Nat) : Value → Value → Prop where
  | same (value : Value) : AlikeUpTo count value value
  | list {items others : List Value}
      (equallyMany : items.length = others.length)
      (alike : ∀ index < count, ∀ item other,
        items[index]? = some item → others[index]? = some other →
        AlikeUpTo count item other) :
      AlikeUpTo count (.list items) (.list others)
  | object {members others : List (String × Value)}
      (equallyMany : members.length = others.length)
      (sameKey : ∀ index < count, ∀ member other,
        members[index]? = some member → others[index]? = some other →
        member.1 = other.1)
      (alike : ∀ index < count, ∀ member other,
        members[index]? = some member → others[index]? = some other →
          AlikeUpTo count member.2 other.2) :
      AlikeUpTo count (.object members) (.object others)

variable {limits other : Limits} {budget otherBudget level : Nat}
  {value inner : Value}

/-! ## What is left of a value that is cut -/

theorem cut_list (items : List Value) :
    cut budget (.list items) = .list (items.map (cutEntry budget)) := by
  rw [cut]
  congr 1
  induction items with
  | nil => rfl
  | cons item rest inductive_step =>
      rw [List.map_cons, ← inductive_step]
      cases budget <;> rfl

theorem cut_object (members : List (String × Value)) :
    cut budget (.object members) =
      .object (members.map fun member =>
          (member.1, cutEntry budget member.2)) := by
  rw [cut]
  congr 1
  induction members with
  | nil => rfl
  | cons member rest inductive_step =>
      rw [List.map_cons, ← inductive_step]
      cases budget <;> rfl

theorem entries_cut : (cut budget value).entries = value.entries.map
    (cutEntry budget) := by
  cases value with
  | list items => rw [cut_list, entries, entries]
  | object members =>
      rw [cut_object, entries, entries, List.map_map, List.map_map]; rfl
  | _ => rfl

theorem entries_emptied : (emptied value).entries = [] := by
  cases value <;> rfl

/-- No container that is more levels below than the budget has
any entries left. -/
theorem entries_of_mem_parts_cut :
    ∀ part ∈ (cut budget value).parts, budget < part.1 →
      part.2.entries = [] := by
  induction value generalizing budget with
  | step value inductive_step =>
      rw [forall_mem_parts_iff, entries_cut, List.forall_mem_map]
      refine ⟨fun deep =>
          absurd deep (Nat.not_lt_zero budget), fun entry isEntry => ?_⟩
      cases budget with
      | zero =>
          rw [cutEntry, forall_mem_parts_iff, entries_emptied]
          exact ⟨fun _ => rfl, List.forall_mem_nil _⟩
      | succ below =>
          intro part isPart deep
          exact inductive_step entry isEntry part isPart
            (Nat.lt_of_succ_lt_succ deep)

/-! ## Texts of values that are cut -/

theorem isContainer_cut :
    (cut budget value).isContainer = value.isContainer := by
  cases value <;> rfl

theorem brackets_cut : (cut budget value).brackets = value.brackets := by
  cases value with
  | object members => cases members <;> rfl
  | _ => rfl

theorem entryTexts_cut
    (sameText : ∀ entry ∈ value.entries,
      entryText limits budget (cutEntry budget entry) =
        entryText limits budget entry) :
    (cut budget value).entryTexts limits budget =
      value.entryTexts limits budget := by
  cases value with
  | list items =>
      rw [cut_list, entryTexts, entryTexts, List.map_map]
      exact List.map_congr_left sameText
  | object members =>
      rw [cut_object, entryTexts, entryTexts, List.map_map]
      exact List.map_congr_left fun member isMember =>
        memberText_congr rfl (sameText member.2 (List.mem_map_of_mem isMember))
  | _ => rfl

/-- Cutting a value below the budget does not change its display. -/
theorem displayed_cut :
    displayed limits budget (cut budget value) =
      displayed limits budget value := by
  induction value generalizing budget with
  | step value inductive_step =>
      have sameText (entry : Value) (isEntry : entry ∈ value.entries) :
          entryText limits budget (cutEntry budget entry) =
            entryText limits budget entry := by
        cases budget with
        | zero => cases entry <;> rfl
        | succ below => exact inductive_step entry isEntry
      cases container : value.isContainer with
      | true =>
          rw [displayed_of_isContainer container,
            displayed_of_isContainer (isContainer_cut.trans container),
              brackets_cut,
            entryTexts_cut sameText]
      | false => cases value <;> first | rfl | cases container

/-! ## Levels that are not there -/

/-- More levels than a value has make no difference to its display. -/
theorem displayed_of_shallow
    (sameEntries : limits.entries = other.entries)
    (shallow : ∀ part ∈ value.parts, part.2.isContainer = true →
      part.1 ≤ budget)
    (deeper : budget ≤ otherBudget) :
    displayed limits budget value = displayed other otherBudget value := by
  induction value generalizing budget otherBudget with
  | step value inductive_step =>
      obtain ⟨-, shallowInside⟩ := forall_mem_parts_iff.mp shallow
      have sameText (entry : Value) (isEntry : entry ∈ value.entries) :
          entryText limits budget entry =
            entryText other otherBudget entry := by
        have shallowEntry := shallowInside entry isEntry
        cases container : entry.isContainer with
        | true =>
            have positive : 0 < budget :=
              (forall_mem_parts_iff.mp shallowEntry).1 container
            cases budget with
            | zero => exact absurd positive (Nat.lt_irrefl 0)
            | succ below =>
                cases otherBudget with
                | zero => exact absurd deeper (Nat.not_succ_le_zero below)
                | succ otherBelow =>
                    exact inductive_step entry isEntry
                      (fun part isPart isContainer =>
                        Nat.le_of_succ_le_succ
                          (shallowEntry part isPart isContainer))
                      (Nat.le_of_succ_le_succ deeper)
        | false =>
            rw [entryText_of_not_isContainer container,
              entryText_of_not_isContainer container]
            exact displayed_of_not_isContainer container
      cases container : value.isContainer with
      | true =>
          rw [displayed_of_isContainer container,
            displayed_of_isContainer container, entryTexts_congr sameText,
            displayedEntries, displayedEntries, moreEntries, moreEntries,
            sameEntries]
      | false => exact displayed_of_not_isContainer container

/-! ## Entries that are not shown -/

theorem displayedEntries_congr
    {texts others : List String}
    (sameStart : texts.take limits.entries = others.take limits.entries)
    (equallyMany : texts.length = others.length) :
    displayedEntries limits texts = displayedEntries limits others := by
  rw [displayedEntries, displayedEntries, sameStart, equallyMany]

/-- Lists of equally many entries start with the same texts if their
first entries do. -/
theorem take_map_eq
    {α : Type}
    {text : α → String}
    {count : Nat}
    {entries others : List α}
    (equallyMany : entries.length = others.length)
    (sameText : ∀ index < count, ∀ entry other,
      entries[index]? = some entry → others[index]? = some other →
      text entry = text other) :
    (entries.map text).take count = (others.map text).take count := by
  apply List.ext_getElem?
  intro index
  rw [List.getElem?_take, List.getElem?_take]
  split
  · next before =>
      rw [List.getElem?_map, List.getElem?_map]
      by_cases inside : index < entries.length
      · have insideOther : index < others.length := equallyMany ▸ inside
        have found := List.getElem?_eq_getElem inside
        have foundOther := List.getElem?_eq_getElem insideOther
        rw [found, foundOther, Option.map_some, Option.map_some,
          sameText index before _ _ found foundOther]
      · rw [List.getElem?_eq_none (Nat.not_lt.mp inside),
          List.getElem?_eq_none (equallyMany ▸ Nat.not_lt.mp inside)]
  · rfl

theorem AlikeUpTo.brackets_eq
    {count : Nat}
    {another : Value}
    (alike : AlikeUpTo count value another) :
    value.brackets = another.brackets := by
  cases alike with
  | same => rfl
  | list => rfl
  | @object members others equallyMany =>
      cases members <;> cases others <;> first | rfl | cases equallyMany

theorem AlikeUpTo.entryText_eq
    {entry another : Value}
    (alike : AlikeUpTo limits.entries entry another)
    (sameDisplay : ∀ below,
      displayed limits below entry = displayed limits below another)
    (budget : Nat) :
    entryText limits budget entry = entryText limits budget another := by
  have samePlaceholder : placeholder? entry = placeholder? another := by
    cases alike <;> rfl
  cases budget with
  | zero => rw [entryText, entryText, samePlaceholder, sameDisplay]
  | succ below => exact sameDisplay below

/-- Of entries that are not shown, only their number makes a
difference to a display. -/
theorem AlikeUpTo.displayed_eq
    {another : Value}
    (alike : AlikeUpTo limits.entries value another)
    (budget : Nat) :
    displayed limits budget value = displayed limits budget another := by
  induction alike generalizing budget with
  | same value => rfl
  | list equallyMany alike inductive_step =>
      have sameStart :=
        take_map_eq equallyMany fun index before item other found foundOther =>
        (alike index before item other found foundOther).entryText_eq
          (inductive_step index before item other found foundOther) budget
      rw [displayed_of_isContainer rfl, displayed_of_isContainer rfl,
        (AlikeUpTo.list equallyMany alike).brackets_eq, entryTexts, entryTexts,
        displayedEntries_congr sameStart (by simp [equallyMany])]
  | object equallyMany sameKey alike inductive_step =>
      have sameStart := take_map_eq equallyMany fun index before member other
        found foundOther =>
        memberText_congr (sameKey index before member other found foundOther)
          ((alike index before member other found foundOther).entryText_eq
            (inductive_step index before member other found foundOther) budget)
      rw [displayed_of_isContainer rfl, displayed_of_isContainer rfl,
        (AlikeUpTo.object equallyMany sameKey alike).brackets_eq,
          entryTexts, entryTexts,
        displayedEntries_congr sameStart (by simp [equallyMany])]

/-! ## The limits of a display -/

/-- A display does not depend on what is in containers that are more
levels down than its limit, nor on a higher limit where there are none;
and of the entries of a container beyond those that are shown it depends
only on how many they are. -/
theorem display_stops_at_limits (limits : Limits) (value : Value) :
    display limits (value.cut limits.depth) = display limits value ∧
      (∀ part ∈ (value.cut limits.depth).parts, limits.depth < part.1 →
        part.2.entries = []) ∧
      (∀ another, value.cut limits.depth = another.cut limits.depth →
        display limits value = display limits another) ∧
      ((∀ part ∈ value.parts, part.2.isContainer = true →
          part.1 ≤ limits.depth) → ∀ deeper, limits.depth ≤ deeper →
        display { limits with depth := deeper } value = display limits value) ∧
      ∀ another, AlikeUpTo limits.entries value another →
        display limits value = display limits another := by
  refine ⟨displayed_cut, entries_of_mem_parts_cut, ?_, ?_, ?_⟩
  · intro another sameLeft
    calc display limits value = display limits (value.cut limits.depth) :=
      displayed_cut.symm
      _ = display limits (another.cut limits.depth) := by rw [sameLeft]
      _ = display limits another := displayed_cut
  · intro shallow deeper isDeeper
    symm
    exact displayed_of_shallow rfl shallow isDeeper
  · intro another alike
    exact alike.displayed_eq limits.depth

/-- A chest with a ring in a box, and two coins. -/
def chest : Value :=
  .list [.object [("ring", .list [.string "gold"])], .int 1, .int 2]

/-- With one level it does not matter what the ring is made of, and with
two entries it does not matter what the second coin is; two levels show
as much as three. -/
theorem chest_is_shown_in_part :
    (2, .list []) ∈ (chest.cut 1).parts ∧
      chest.cut 1 =
        (Value.list [.object [("ring", .list [])], .int 1, .int 2]).cut 1 ∧
      (∀ part ∈ chest.parts, part.2.isContainer = true → part.1 ≤ 2) ∧
      AlikeUpTo 2 chest
        (.list [.object [("ring", .list [.string "gold"])],
            .int 1, .object []]) ∧
      display ⟨1, 2⟩ chest =
        display ⟨1, 2⟩ (.list [.object [("ring", .list [])], .int 1, .int 2]) ∧
      display ⟨3, 2⟩ chest = display ⟨2, 2⟩ chest ∧
      display ⟨2, 2⟩ chest =
        display ⟨2, 2⟩ (.list [.object [("ring", .list [.string "gold"])],
            .int 1, .object []]) := by
  have sameLeft : chest.cut 1 =
      (Value.list [.object [("ring", .list [])], .int 1, .int 2]).cut 1 := rfl
  have shallow : ∀ part ∈ chest.parts, part.2.isContainer = true →
      part.1 ≤ 2 := by decide
  have alike : AlikeUpTo 2 chest
      (.list [.object [("ring", .list [.string "gold"])], .int 1,
          .object []]) := by
    refine .list rfl ?_
    rintro (_ | _ | index) before item other found foundOther
    · cases found
      cases foundOther
      exact .same _
    · cases found
      cases foundOther
      exact .same _
    · exact absurd before (by omega)
  obtain ⟨-, -, sameShown, -, -⟩ := display_stops_at_limits ⟨1, 2⟩ chest
  obtain ⟨-, -, -, sameDeeper, sameStart⟩ :=
    display_stops_at_limits ⟨2, 2⟩ chest
  exact ⟨by decide, sameLeft, shallow, alike, sameShown _ sameLeft,
    sameDeeper shallow 3 (by decide), sameStart _ alike⟩

end TextWorld.Value
