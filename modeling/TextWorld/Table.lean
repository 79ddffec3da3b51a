/-!
# Tables

A table assigns values to keys and is held as a list of entries.  Writing a key
that is there replaces its entry in place, and a new key comes last; so entries
stay in the order in which their keys were first written.
-/

namespace TextWorld

/-- Entries of keys and values. -/
abbrev Table (κ α : Type) := List (κ × α)

namespace Table

variable {κ α : Type} [DecidableEq κ]

/-- The value of the first entry for a key. -/
def get? (table : Table κ α) (key : κ) : Option α :=
  match table with
  | [] => none
  | (other, value) :: rest =>
      if other = key then some value else Table.get? rest key

/-- The table with the value written under the key. -/
def set (table : Table κ α) (key : κ) (value : α) : Table κ α :=
  match table with
  | [] => [(key, value)]
  | (other, held) :: rest =>
      if other = key then (key, value) :: rest
      else (other, held) :: Table.set rest key value

/-- The table without the entries for the key. -/
def erase (table : Table κ α) (key : κ) : Table κ α :=
  match table with
  | [] => []
  | (other, held) :: rest =>
      if other = key then Table.erase rest key
      else (other, held) :: Table.erase rest key

/-- Whether there is an entry for the key. -/
def contains (table : Table κ α) (key : κ) : Bool :=
  (table.get? key).isSome

/-- No key has two entries. -/
def Distinct (table : Table κ α) : Prop :=
  (table.map (·.1)).Nodup

@[simp]
theorem get?_nil (key : κ) : get? ([] : Table κ α) key = none := rfl

/-- The value of a key is that of one of the entries. -/
theorem mem_of_get?_eq_some
    {table : Table κ α}
    {key : κ}
    {value : α}
    (found : table.get? key = some value) :
    (key, value) ∈ table := by
  induction table with
  | nil => cases found
  | cons entry rest inductive_step => grind [get?]

/-- A written key is read back; the other keys are as before. -/
theorem get?_set (table : Table κ α) (key probe : κ) (value : α) :
    (table.set key value).get? probe = if key = probe then some value
      else table.get? probe := by
  induction table with
  | nil => simp [set, get?]
  | cons entry rest inductive_step => grind [set, get?]

/-- An erased key has no value; the other keys are as before. -/
theorem get?_erase (table : Table κ α) (key probe : κ) :
    (table.erase key).get? probe = if key = probe then none
      else table.get? probe := by
  induction table with
  | nil => simp [erase, get?]
  | cons entry rest inductive_step => grind [erase, get?]

/-- Changing every value changes the value of each key. -/
theorem get?_map {β : Type} (table : Table κ α) (change : α → β) (key : κ) :
    Table.get? (table.map fun entry => (entry.1, change entry.2)) key =
      (table.get? key).map change := by
  induction table with
  | nil => rfl
  | cons entry rest inductive_step => grind [get?]

/-- With one entry for each key, the value of a key is that of its entry. -/
theorem Distinct.get?_eq_some_iff
    {table : Table κ α}
    (distinct : table.Distinct)
    {key : κ}
    {value : α} :
    table.get? key = some value ↔ (key, value) ∈ table := by
  refine ⟨mem_of_get?_eq_some, ?_⟩
  induction table with
  | nil => exact nofun
  | cons entry rest inductive_step =>
      rw [Distinct, List.map_cons, List.nodup_cons] at distinct
      intro member
      rcases List.mem_cons.mp member with rfl | later
      · exact if_pos rfl
      · have other : entry.1 ≠ key := by
          rintro rfl
          exact distinct.1 (List.mem_map.mpr ⟨_, later, rfl⟩)
        rw [get?, if_neg other]
        exact inductive_step distinct.2 later

/-- The keys after a value was written are those before and the written one. -/
theorem mem_keys_set {table : Table κ α} {key probe : κ} {value : α} :
    probe ∈ (table.set key value).map (·.1) ↔
      probe = key ∨ probe ∈ table.map (·.1) := by
  induction table with
  | nil => simp [set]
  | cons entry rest inductive_step =>
      rw [set]
      split <;> grind

theorem Distinct.set
    {table : Table κ α}
    (distinct : table.Distinct)
    (key : κ)
    (value : α) :
    (table.set key value).Distinct := by
  induction table with
  | nil => exact List.nodup_cons.mpr ⟨nofun, .nil⟩
  | cons entry rest inductive_step =>
      rw [Distinct, List.map_cons, List.nodup_cons] at distinct
      rw [Table.set]
      split
      · next same =>
          subst same
          exact List.nodup_cons.mpr distinct
      · next other =>
          refine List.nodup_cons.mpr ⟨?_, inductive_step distinct.2⟩
          rw [mem_keys_set]
          rintro (same | later)
          · exact other same
          · exact distinct.1 later

theorem erase_sublist (table : Table κ α) (key : κ) :
    (table.erase key).Sublist table := by
  induction table with
  | nil => exact .slnil
  | cons entry rest inductive_step =>
      rw [erase]
      split
      · exact inductive_step.cons entry
      · exact inductive_step.cons_cons entry

theorem Distinct.erase
    {table : Table κ α}
    (distinct : table.Distinct)
    (key : κ) :
    (table.erase key).Distinct :=
  distinct.sublist ((erase_sublist table key).map _)

/-- Changing the value of a key changes its one entry. -/
theorem Distinct.set_eq_map
    {table : Table κ α}
    (distinct : table.Distinct)
    {key : κ}
    {value : α}
    (found : table.get? key = some value)
    (change : α → α) :
    table.set key (change value) =
      table.map fun entry => if entry.1 = key then (entry.1, change entry.2)
        else entry := by
  induction table with
  | nil => cases found
  | cons entry rest inductive_step =>
      rw [Distinct, List.map_cons, List.nodup_cons] at distinct
      rw [get?] at found
      rw [Table.set, List.map_cons]
      split at found
      · next same =>
          have unchanged : ∀ other ∈ rest,
              (if other.1 = key then (other.1, change other.2) else other) =
                other := by
            intro other member
            apply if_neg
            rintro rfl
            exact distinct.1 (same ▸ List.mem_map_of_mem member)
          rw [if_pos same, if_pos same, List.map_congr_left unchanged,
            List.map_id', same, Option.some.inj found]
      · next other =>
          rw [if_neg other, if_neg other, inductive_step distinct.2 found]

end Table

end TextWorld
