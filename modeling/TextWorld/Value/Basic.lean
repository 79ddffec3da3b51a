import TextWorld.Entity.Id
import TextWorld.Number.Binary64

/-!
# Values

What world code computes and what hooks are given: scalars, ids, lists,
and objects whose members are kept in the order of their keys.  Two values
are the same when they are built alike, and two floating-point numbers
when their bits agree.
-/

namespace TextWorld

open TextWorld.Number

/-- A value of the world's language. -/
inductive Value where
  /-- The absent value. -/
  | absent
  | bool (value : Bool)
  | int (value : Int64)
  | float (value : Binary64)
  | string (value : String)
  | entity (id : EntityId)
  | list (items : List Value)
  /-- Members in the order of their keys. -/
  | object (members : List (String × Value))
deriving Inhabited

namespace Value

mutual

/-- Whether two values are the same. -/
def same : Value → Value → Bool
  | .absent, .absent => true
  | .bool left, .bool right => left == right
  | .int left, .int right => left == right
  | .float left, .float right => decide (left = right)
  | .string left, .string right => left == right
  | .entity left, .entity right => decide (left = right)
  | .list left, .list right => sameItems left right
  | .object left, .object right => sameMembers left right
  | _, _ => false

/-- Whether two lists hold the same values in the same order. -/
def sameItems : List Value → List Value → Bool
  | [], [] => true
  | left :: lefts, right :: rights => same left right && sameItems lefts rights
  | _, _ => false

/-- Whether two lists of members have the same keys and values in
the same order. -/
def sameMembers : List (String × Value) → List (String × Value) → Bool
  | [], [] => true
  | (leftKey, left) :: lefts, (rightKey, right) :: rights =>
      leftKey == rightKey && same left right && sameMembers lefts rights
  | _, _ => false

end

mutual

/-- Two values are the same exactly when they are equal. -/
theorem same_eq_true_iff (left right : Value) :
    same left right = true ↔ left = right := by
  cases left <;> cases right <;>
    simp [same, sameItems_eq_true_iff, sameMembers_eq_true_iff]

theorem sameItems_eq_true_iff (left right : List Value) :
    sameItems left right = true ↔ left = right := by
  cases left <;> cases right <;>
    simp [sameItems, same_eq_true_iff, sameItems_eq_true_iff]

theorem sameMembers_eq_true_iff (left right : List (String × Value)) :
    sameMembers left right = true ↔ left = right := by
  cases left with
  | nil => cases right <;> simp [sameMembers]
  | cons first rest =>
      cases right with
      | nil => simp [sameMembers]
      | cons other others =>
          obtain ⟨firstKey, firstValue⟩ := first
          obtain ⟨otherKey, otherValue⟩ := other
          simp [sameMembers, same_eq_true_iff, sameMembers_eq_true_iff]

end

instance : DecidableEq Value := fun left right =>
  decidable_of_iff (same left right = true) (same_eq_true_iff left right)

/-- The short name of the kind of value. -/
def typeName : Value → String
  | .absent => "nil"
  | .bool _ => "bool"
  | .int _ => "int"
  | .float _ => "float"
  | .string _ => "string"
  | .entity _ => "entity"
  | .list _ => "list"
  | .object _ => "object"

/-- Whether the value counts as true: everything but the absent value, `false`,
zero, `NaN` and the empty string. -/
def isTruthy : Value → Bool
  | .absent => false
  | .bool value => value
  | .int value => value ≠ 0
  | .float value => !value.isZero && !value.isNaN
  | .string value => !value.isEmpty
  | _ => true

/-- The value for an id that may be absent. -/
def ofEntity? : Option EntityId → Value
  | some id => .entity id
  | none => .absent

/-- The truth value, if it is one. -/
def bool? : Value → Option Bool
  | .bool value => some value
  | _ => none

/-- The integer, if it is one. -/
def int? : Value → Option Int64
  | .int value => some value
  | _ => none

/-- The string, if it is one. -/
def string? : Value → Option String
  | .string value => some value
  | _ => none

/-- The id, if it is one. -/
def entity? : Value → Option EntityId
  | .entity id => some id
  | _ => none

/-- The items, if it is a list. -/
def items? : Value → Option (List Value)
  | .list items => some items
  | _ => none

/-- The members, if it is an object. -/
def members? : Value → Option (List (String × Value))
  | .object members => some members
  | _ => none

end Value

end TextWorld
