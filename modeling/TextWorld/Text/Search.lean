/-!
# Finding a mark in a text
-/

namespace TextWorld.Text

/-- What follows the mark, if the characters start with it. -/
def after? : (mark : List Char) → List Char → Option (List Char)
  | [], characters => some characters
  | _ :: _, [] => none
  | expected :: others, character :: rest =>
      if character = expected then after? others rest else none

/-- The characters start with a mark exactly when they are the mark and
what follows it. -/
theorem after?_eq_some_iff {mark characters rest : List Char} :
    after? mark characters = some rest ↔ characters = mark ++ rest := by
  induction mark generalizing characters with
  | nil => simp [after?, eq_comm]
  | cons expected others inductive_step =>
      cases characters with
      | nil => simp [after?]
      | cons character remaining =>
          by_cases same : character = expected <;>
            simp [after?, same, inductive_step]

/-- What follows the last occurrence of a mark, which is not empty. -/
def afterLast? (mark : List Char) : List Char → Option (List Char)
  | [] => none
  | character :: rest =>
      match afterLast? mark rest with
      | some found => some found
      | none => after? mark (character :: rest)

/-- What stands before the last occurrence of a mark, which is not empty. -/
def beforeLast? (mark : List Char) : List Char → Option (List Char)
  | [] => none
  | character :: rest =>
      match beforeLast? mark rest with
      | some found => some (character :: found)
      | none => (after? mark (character :: rest)).map fun _ => []

end TextWorld.Text
