import Mathlib.Data.List.Nodup
import TextWorld.Proofs.World.Reachable
import TextWorld.World.Run

/-!
# Sequences of operations

Operations are attempted one after the other, and one that fails leaves
the world as it is.

Ids are handed out in order.  So as long as not all of them are used up they are
distinct, also when objects are removed in between, and those of existing
objects are below the next.
-/

namespace TextWorld

open World

variable {world after : World} {id : EntityId}

namespace World

/-- The world after an operation; one that fails leaves the world as it is. -/
def attempt (world : World) (mutation : Mutation) : World :=
  (world.change (world.mutate mutation)).2

/-- The world after operations, one after the other, some of which may fail. -/
def attempts (world : World) (mutations : List Mutation) : World :=
  mutations.foldl attempt world

theorem attempts_cons (world : World) (mutation : Mutation)
    (rest : List Mutation) :
    world.attempts (mutation :: rest) =
      (world.attempt mutation).attempts rest := rfl

theorem attempts_singleton (world : World) (mutation : Mutation) :
    world.attempts [mutation] = world.attempt mutation := rfl

theorem attempts_append (world : World) (first second : List Mutation) :
    world.attempts (first ++ second) = (world.attempts first).attempts second :=
  List.foldl_append

theorem mutate_attempt (world : World) (mutation : Mutation) :
    world.mutate mutation = .ok (world.attempt mutation) ∨
      ∃ failure, world.mutate mutation = .error failure ∧
        world.attempt mutation = world := by
  rw [attempt]
  cases world.mutate mutation with
  | ok after => exact .inl rfl
  | error failure => exact .inr ⟨failure, rfl, rfl⟩

theorem Reachable.attempt
    (reachable : Reachable world)
    (mutation : Mutation) :
    Reachable (world.attempt mutation) := by
  rcases mutate_attempt world mutation with done | ⟨-, -, unchanged⟩
  · exact .step reachable done
  · rw [unchanged]
    exact reachable

theorem Reachable.attempts
    (reachable : Reachable world)
    (mutations : List Mutation) :
    Reachable (world.attempts mutations) := by
  induction mutations generalizing world with
  | nil => exact reachable
  | cons mutation rest inductive_step =>
      exact inductive_step (reachable.attempt mutation)

/-! ## Ids -/

/-- The ids that an operation hands out. -/
def issued (world : World) : Mutation → List EntityId
  | .create _ => [world.nextId]
  | _ => []

/-- The ids that operations hand out, one after the other. -/
def issuedBy (world : World) : List Mutation → List EntityId
  | [] => []
  | mutation :: rest =>
      world.issued mutation ++ (world.attempt mutation).issuedBy rest

theorem has_of_update
    {change : WorldObject → WorldObject}
    (updated : world.update id change = .ok after)
    (probe : EntityId) :
    after.has probe = world.has probe := by
  rw [has, Table.contains, get?_of_update updated]
  split
  · exact Option.isSome_map
  · rfl

/-- An update changes nothing but objects. -/
theorem rest_of_update
    {change : WorldObject → WorldObject}
    (updated : world.update id change = .ok after) :
    after = { world with objects := after.objects } := by
  rw [update] at updated
  split at updated
  · cases updated
    rfl
  · cases updated

theorem created_of_update
    {change : WorldObject → WorldObject}
    (updated : world.update id change = .ok after) :
    after.created = world.created := by
  rw [rest_of_update updated]

/-- An operation counts the ids that it hands out, and adds no objects
but under these. -/
theorem created_of_mutate
    {mutation : Mutation}
    (done : world.mutate mutation = .ok after) :
    after.created = world.created + (world.issued mutation).length ∧
      ∀ id, after.has id = true →
        world.has id = true ∨ id ∈ world.issued mutation := by
  cases mutation with
  | create name =>
      cases done
      refine ⟨rfl, ?_⟩
      intro probe present
      rw [has, Table.contains, create, Table.get?_set] at present
      split at present
      · next same => exact .inr (List.mem_singleton.mpr same.symm)
      · exact .inl present
  | recycle id =>
      constructor
      · simp only [mutate, recycle] at done
        split at done
        · cases done
          rfl
        · cases done
      · intro probe present
        rw [has, Table.contains, get?_of_recycle done] at present
        split at present
        · cases present
        · exact .inl (Option.isSome_map.symm.trans present)
  | move id destination =>
      have updated := update_of_move done
      refine ⟨created_of_update updated, ?_⟩
      intro probe present
      exact .inl ((has_of_update updated probe).symm.trans present)
  | addAliases | setProgrammer | defineVerb =>
      refine ⟨created_of_update done, ?_⟩
      intro probe present
      exact .inl ((has_of_update done probe).symm.trans present)
  | registerHook | setEvaluator | tell | takeTold | enter =>
      cases done
      exact ⟨rfl, fun _ present => .inl present⟩

theorem created_attempt (world : World) (mutation : Mutation) :
    (world.attempt mutation).created =
      world.created + (world.issued mutation).length := by
  rcases mutate_attempt world mutation with done | ⟨failure, failed, unchanged⟩
  · exact (created_of_mutate done).1
  · rw [unchanged]
    cases mutation with
    | create => cases failed
    | _ => rfl

theorem created_attempts (world : World) (mutations : List Mutation) :
    (world.attempts mutations).created =
      world.created + (world.issuedBy mutations).length := by
  induction mutations generalizing world with
  | nil => rfl
  | cons mutation rest inductive_step =>
      calc ((world.attempt mutation).attempts rest).created
        _ = (world.attempt mutation).created +
          ((world.attempt mutation).issuedBy rest).length :=
          inductive_step (world.attempt mutation)
        _ = world.created + (world.issuedBy (mutation :: rest)).length := by
          rw [created_attempt, issuedBy, List.length_append, Nat.add_assoc]

/-- Ids are handed out in order. -/
theorem issuedBy_eq (world : World) (mutations : List Mutation) :
    world.issuedBy mutations =
      (List.range' world.created (world.issuedBy mutations).length).map
        .ofNat := by
  induction mutations generalizing world with
  | nil => rfl
  | cons mutation rest inductive_step =>
      have first : world.issued mutation =
          (List.range' world.created (world.issued mutation).length).map
            .ofNat := by
        cases mutation <;> rfl
      have later := inductive_step (world.attempt mutation)
      rw [created_attempt] at later
      rw [issuedBy, List.length_append, ← List.range'_append_1, List.map_append,
        ← first, ← later]

theorem toNat_ofNat
    {number : Nat}
    (bounded : number < twoTo 64) :
    (EntityId.ofNat number).number.toNat = number :=
  UInt64.toNat_ofNat_of_lt' bounded

/-- As long as not all ids are used up, no id is handed out twice. -/
theorem nodup_issuedBy
    (mutations : List Mutation)
    (few : world.created + (world.issuedBy mutations).length ≤ twoTo 64) :
    (world.issuedBy mutations).Nodup := by
  rw [issuedBy_eq]
  apply List.Nodup.map_on _ List.nodup_range'
  intro left leftIn right rightIn same
  rw [List.mem_range'_1] at leftIn rightIn
  have numbers := congrArg (fun id : EntityId => id.number.toNat) same
  rwa [toNat_ofNat (Nat.lt_of_lt_of_le leftIn.2 few),
    toNat_ofNat (Nat.lt_of_lt_of_le rightIn.2 few)] at numbers

/-- In a reachable world the number of every object is below
that of the next. -/
theorem Reachable.number_lt
    (reachable : Reachable world)
    (present : world.has id = true) :
    id.number.toNat < world.created := by
  induction reachable generalizing id with
  | empty => cases present
  | @step world after mutation reachable done inductive_step =>
      rcases created_of_mutate done with ⟨created, origin⟩
      rw [created]
      rcases origin id present with earlier | new
      · exact Nat.lt_add_right _ (inductive_step earlier)
      · cases mutation with
        | create name =>
            obtain rfl := List.mem_singleton.mp new
            -- also where the count does not fit into an id, which then
            -- is only smaller
            exact Nat.lt_succ_of_le (Nat.mod_le world.created _)
        | _ => cases new

end World

end TextWorld
