/-!
# Members in key order

A table from strings to anything, held as a list in strictly increasing
order of the keys.  The order of strings is that of their code points.
Writing under a key that is there replaces the entry in place, so the last
of several writes counts.
-/

namespace TextWorld

/-- Entries in increasing order of their keys. -/
abbrev Members (α : Type) := List (String × α)

namespace Members

variable {α : Type}

/-- The table with the entry written. -/
def insert (key : String) (value : α) : Members α → Members α
  | [] => [(key, value)]
  | (other, held) :: rest =>
      if key < other then
        (key, value) :: (other, held) :: rest
      else if key = other then
        (key, value) :: rest
      else
        (other, held) :: insert key value rest

/-- The table of all the entries, written in the given order. -/
def ofEntries (entries : List (String × α)) : Members α :=
  entries.foldl (fun members entry => members.insert entry.1 entry.2) []

/-- What is written under the key. -/
def get? (key : String) : Members α → Option α
  | [] => none
  | (other, held) :: rest => if key = other then some held else get? key rest

/-- Reading a key that was just written gives what was written. -/
@[simp]
theorem get?_insert_self (members : Members α) (key : String) (value : α) :
    get? key (insert key value members) = some value := by
  induction members with
  | nil => simp [insert, get?]
  | cons entry rest inductive_step =>
      by_cases before : key < entry.1
      · simp [insert, get?, before]
      · by_cases equal : key = entry.1 <;>
          simp [insert, get?, before, equal, inductive_step]

/-- Writing one key leaves what is read under the others. -/
theorem get?_insert_of_ne
    (members : Members α)
    {key probe : String}
    (different : probe ≠ key)
    (value : α) :
    get? probe (insert key value members) = get? probe members := by
  induction members with
  | nil => simp [insert, get?, different]
  | cons entry rest inductive_step =>
      by_cases before : key < entry.1
      · simp [insert, get?, before, different]
      · by_cases equal : key = entry.1
        · have other : probe ≠ entry.1 := equal ▸ different
          simp [insert, get?, equal, other]
        · simp [insert, get?, before, equal, inductive_step]

end Members

end TextWorld
