import TextWorld.Value.Display

/-!
# Values inside values

The parts of a value stand in it at levels of containers.  A display goes down
the same levels: the entries of a container are written with one level less, and
where none is left a container among them is only named.

Facts about displays are proved by `nestedInduction`, in which containers are
opened with `displayed_of_isContainer`.
-/

namespace TextWorld.Value

/-- The values right inside a container. -/
def entries : Value → List Value
  | .list items => items
  | .object members => members.map Prod.snd
  | _ => []

/-- Whether the value is a list or an object. -/
def isContainer : Value → Bool
  | .list _ => true
  | .object _ => true
  | _ => false

mutual

/-- Everything in a value and the value itself, each with how many levels of
containers below the value it stands. -/
def parts : Value → List (Nat × Value)
  | .list items => (0, .list items) :: partsOfItems items
  | .object members => (0, .object members) :: partsOfMembers members
  | scalar => [(0, scalar)]

/-- The parts of the items of a list, one level below the list. -/
def partsOfItems : List Value → List (Nat × Value)
  | [] => []
  | item :: rest =>
      (parts item).map (fun part => (part.1 + 1, part.2)) ++ partsOfItems rest

/-- The parts of the members of an object, one level below the object. -/
def partsOfMembers : List (String × Value) → List (Nat × Value)
  | [] => []
  | (_, value) :: rest =>
      (parts value).map (fun part => (part.1 + 1, part.2)) ++
        partsOfMembers rest

end

/-- Induction over values, from what is right inside a container
to the container. -/
@[induction_eliminator]
theorem nestedInduction
    {motive : Value → Prop}
    (step : ∀ value, (∀ entry ∈ value.entries, motive entry) → motive value)
    (value : Value) :
    motive value := by
  have scalar {value : Value} (noEntries : value.entries = []) : motive value :=
    step value fun _ isEntry => absurd isEntry (noEntries ▸ List.not_mem_nil)
  -- over a value, a list of values, a list of members, and one member
  exact @Value.rec
    motive
    (fun items => ∀ item ∈ items, motive item)
    (fun members => ∀ inner ∈ members.map Prod.snd, motive inner)
    (fun member => motive member.2)
    (scalar rfl) (fun _ => scalar rfl) (fun _ => scalar rfl)
    (fun _ => scalar rfl) (fun _ => scalar rfl) (fun _ => scalar rfl)
    (fun items inside => step (.list items) inside)
    (fun members inside => step (.object members) inside)
    (List.forall_mem_nil _)
    (fun _ _ first others => List.forall_mem_cons.mpr ⟨first, others⟩)
    (List.forall_mem_nil _)
    (fun _ _ first others => List.forall_mem_cons.mpr ⟨first, others⟩)
    (fun _ _ inner => inner)
    value

theorem partsOfItems_eq (items : List Value) :
    partsOfItems items =
      items.flatMap fun item => (parts item).map fun part =>
        (part.1 + 1, part.2) := by
  induction items with
  | nil => rfl
  | cons item rest inductive_step =>
      rw [partsOfItems, inductive_step, List.flatMap_cons]

theorem partsOfMembers_eq (members : List (String × Value)) :
    partsOfMembers members = partsOfItems (members.map Prod.snd) := by
  induction members with
  | nil => rfl
  | cons member rest inductive_step =>
      rw [partsOfMembers, inductive_step, List.map_cons, partsOfItems]

/-- The parts of a value are the value itself and the parts of what is
right inside it. -/
theorem parts_eq (value : Value) :
    parts value = (0, value) :: partsOfItems value.entries := by
  cases value with
  | list items => rw [parts, entries]
  | object members => rw [parts, partsOfMembers_eq, entries]
  | _ => rfl

theorem forall_mem_parts_iff {value : Value} {claim : Nat × Value → Prop} :
    (∀ part ∈ value.parts, claim part) ↔
      claim (0, value) ∧
        ∀ entry ∈ value.entries, ∀ part ∈ entry.parts,
          claim (part.1 + 1, part.2) := by
  rw [parts_eq, List.forall_mem_cons, partsOfItems_eq]
  simp only [List.forall_mem_flatMap, List.forall_mem_map]

/-! ## The entries of a container that is displayed -/

/-- What is written around the entries of a container. -/
def brackets : Value → String × String
  | .list _ => ("[", "]")
  | .object [] => ("\x7b", "\x7d")
  | .object _ => ("\x7b ", " \x7d")
  | _ => ("", "")

/-- The text of a value as an entry of a container that is displayed
with the budget. -/
def entryText (limits : Limits) : (budget : Nat) → Value → String
  | 0, value => (placeholder? value).getD (displayed limits 0 value)
  | below + 1, value => displayed limits below value

/-- The text of a member of an object that is displayed with the budget. -/
def memberText (limits : Limits) (budget : Nat)
    (member : String × Value) : String :=
  displayedKey member.1 ++ ": " ++ entryText limits budget member.2

/-- The texts of all the entries of a container that is displayed
with the budget. -/
def entryTexts (limits : Limits) (budget : Nat) : Value → List String
  | .list items => items.map (entryText limits budget)
  | .object members => members.map (memberText limits budget)
  | _ => []

variable {limits other : Limits} {budget otherBudget : Nat} {value : Value}

theorem displayedItems_eq (items : List Value) :
    displayedItems limits budget items =
      entryTexts limits budget (.list items) := by
  induction items with
  | nil => rfl
  | cons item rest inductive_step =>
      rw [entryTexts, List.map_cons, ← entryTexts, ← inductive_step]
      cases budget <;> rfl

theorem displayedMembers_eq (members : List (String × Value)) :
    displayedMembers limits budget members =
      entryTexts limits budget (.object members) := by
  induction members with
  | nil => rfl
  | cons member rest inductive_step =>
      rw [entryTexts, List.map_cons, ← entryTexts, ← inductive_step]
      cases budget <;> rfl

/-- Entries within the limit are all there is between the brackets. -/
theorem displayedEntries_of_length_le
    {texts : List String}
    (few : texts.length ≤ limits.entries) :
    displayedEntries limits texts = ", ".intercalate texts := by
  rw [displayedEntries, List.take_of_length_le few, moreEntries,
    if_neg (Nat.not_lt.mpr few), String.append_empty]

/-- A container is displayed as its entries between its brackets. -/
theorem displayed_of_isContainer (container : value.isContainer = true) :
    displayed limits budget value =
      value.brackets.1 ++
        displayedEntries limits (value.entryTexts limits budget) ++
        value.brackets.2 := by
  cases value with
  | list items => rw [displayed, displayedItems_eq, brackets]
  | object members =>
      rw [displayed, displayedMembers_eq]
      cases members with
      | nil =>
          rw [displayedEntries_of_length_le (Nat.zero_le _)]
          rfl
      | cons => rfl
  | _ => cases container

/-- The texts between separators, character by character. -/
theorem toList_intercalate_cons (first : String) (texts : List String) :
    (", ".intercalate (first :: texts)).toList =
      first.toList ++ texts.flatMap fun text => ',' :: ' ' :: text.toList := by
  induction texts generalizing first with
  | nil => rw [String.intercalate_singleton, List.flatMap_nil, List.append_nil]
  | cons next texts inductive_step =>
      rw [String.intercalate_cons_cons, String.toList_append,
        String.toList_append, inductive_step, List.flatMap_cons,
        List.append_assoc]
      rfl

theorem length_entryTexts :
    (value.entryTexts limits budget).length = value.entries.length := by
  cases value <;> simp [entryTexts, entries]

theorem memberText_congr
    {member another : String × Value}
    (sameKey : member.1 = another.1)
    (sameText : entryText limits budget member.2 =
      entryText other otherBudget another.2) :
    memberText limits budget member = memberText other otherBudget another := by
  rw [memberText, memberText, sameKey, sameText]

/-- The texts of the entries are the same when each entry is written
in the same way. -/
theorem entryTexts_congr
    (sameText : ∀ entry ∈ value.entries,
      entryText limits budget entry = entryText other otherBudget entry) :
    value.entryTexts limits budget = value.entryTexts other otherBudget := by
  cases value with
  | list items => exact List.map_congr_left sameText
  | object members =>
      exact List.map_congr_left fun member isMember =>
        memberText_congr rfl (sameText member.2 (List.mem_map_of_mem isMember))
  | _ => rfl

/-- A scalar is written in the same way everywhere. -/
theorem displayed_of_not_isContainer (scalar : value.isContainer = false) :
    displayed limits budget value = displayed other otherBudget value := by
  cases value <;> first | rfl | cases scalar

theorem entryText_of_not_isContainer (scalar : value.isContainer = false) :
    entryText limits budget value = displayed limits budget value := by
  cases budget <;> cases value <;> first | rfl | cases scalar

end TextWorld.Value
