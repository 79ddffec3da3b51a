import Mathlib.Data.List.DropRight
import TextWorld.Proofs.World.Attempts

/-!
# Telling and taking

What an entity is told waits for it until it is taken.  Whatever operations are
attempted, there waits for an entity what it was told since the last taking; and
what was taken, together with what still waits, is all that the entity was told,
in order and each text once.
-/

namespace TextWorld.World

variable {world after : World} {id : EntityId}

/-- The text that an operation tells an entity, if it does. -/
def Mutation.textFor? (id : EntityId) : Mutation → Option String
  | .tell listener text => if listener = id then some text else none
  | _ => none

/-- Whether an operation takes what an entity was told. -/
def Mutation.takesFor (id : EntityId) : Mutation → Bool
  | .takeTold listener => listener = id
  | _ => false

/-- The texts that operations tell an entity. -/
def textsFor (id : EntityId) (mutations : List Mutation) : List String :=
  mutations.filterMap (Mutation.textFor? id)

/-- The operations after the last that takes what an entity was told. -/
def sinceTaken (id : EntityId) (mutations : List Mutation) : List Mutation :=
  mutations.rtakeWhile (!·.takesFor id)

/-- What waits for an entity after operations: what it was told since the last
taking, and what waited before if nothing was taken. -/
def waiting (id : EntityId) (before : List String)
    (mutations : List Mutation) : List String :=
  (if mutations.any (·.takesFor id) then [] else before) ++
    textsFor id (sinceTaken id mutations)

/-- The batches that operations take of what an entity was told. -/
def taken (id : EntityId) : World → List Mutation → List (List String)
  | _, [] => []
  | world, mutation :: rest =>
      (if mutation.takesFor id then [world.toldTo id] else []) ++
        taken id (world.attempt mutation) rest

/-! ## One operation -/

theorem told_of_mutate
    {mutation : Mutation}
    (done : world.mutate mutation = .ok after)
    (tells : ∀ listener text, mutation ≠ .tell listener text)
    (takes : ∀ listener, mutation ≠ .takeTold listener) :
    after.told = world.told := by
  cases mutation with
  | recycle id =>
      simp only [mutate, recycle] at done
      split at done
      · cases done
        rfl
      · cases done
  | move id destination => rw [rest_of_update (update_of_move done)]
  | addAliases | setProgrammer | defineVerb => rw [rest_of_update done]
  | create | registerHook | setEvaluator | enter =>
      cases done
      rfl
  | tell listener text => exact absurd rfl (tells listener text)
  | takeTold listener => exact absurd rfl (takes listener)

/-- Only telling and taking concern what waits. -/
theorem told_attempt (world : World) (mutation : Mutation) :
    (world.attempt mutation).told =
      match mutation with
      | .tell listener text => (world.tell listener text).told
      | .takeTold listener => (world.takeTold listener).told
      | _ => world.told := by
  cases mutation with
  | create | registerHook | setEvaluator | tell | takeTold | enter => rfl
  | recycle | addAliases | setProgrammer | move | defineVerb =>
      rcases mutate_attempt world _ with done | ⟨-, -, unchanged⟩
      · exact told_of_mutate done nofun nofun
      · rw [unchanged]

theorem toldTo_attempt (world : World) (id : EntityId) (mutation : Mutation) :
    (world.attempt mutation).toldTo id =
      (if mutation.takesFor id then [] else world.toldTo id) ++
        (mutation.textFor? id).toList := by
  rw [toldTo, told_attempt]
  cases mutation with
  | tell listener text =>
      simp only [tell, Table.get?_set, Mutation.takesFor, Mutation.textFor?]
      split <;> simp_all [toldTo]
  | takeTold listener =>
      simp only [takeTold, Table.get?_erase, Mutation.takesFor,
        Mutation.textFor?]
      split <;> simp_all [toldTo]
  | _ => exact (List.append_nil _).symm

/-! ## Operations one after the other -/

/-- A taking tells nothing. -/
theorem textFor?_of_takesFor
    {mutation : Mutation}
    (takes : mutation.takesFor id = true) :
    mutation.textFor? id = none := by
  cases mutation with
  | tell => cases takes
  | _ => rfl

theorem waiting_concat
    (id : EntityId)
    (before : List String)
    (mutations : List Mutation)
    (last : Mutation) :
    waiting id before (mutations ++ [last]) =
      (if last.takesFor id then [] else waiting id before mutations) ++
        (last.textFor? id).toList := by
  simp only [waiting, sinceTaken, List.rtakeWhile_concat, List.any_append]
  cases takes : last.takesFor id with
  | true => simp [takes, textsFor, textFor?_of_takesFor takes]
  | false => cases told : last.textFor? id <;> simp [takes, textsFor, told]

/-- As long as nothing is taken, everything waits. -/
theorem waiting_of_none_takes
    {mutations : List Mutation}
    (untaken : ∀ mutation ∈ mutations, mutation.takesFor id = false)
    (before : List String) :
    waiting id before mutations = before ++ textsFor id mutations := by
  have none : mutations.any (·.takesFor id) = false := by simpa using untaken
  have all : sinceTaken id mutations = mutations :=
    List.rtakeWhile_eq_self_iff.mpr (by simpa using untaken)
  rw [waiting, none, all]
  rfl

/-- What waits after operations is decided by what waited before and by
the operations. -/
theorem toldTo_attempts (world : World) (id : EntityId)
    (mutations : List Mutation) :
    (world.attempts mutations).toldTo id =
      waiting id (world.toldTo id) mutations := by
  induction mutations using List.reverseRecOn with
  | nil => exact (List.append_nil _).symm
  | append_singleton mutations last inductive_step =>
      rw [attempts_append, waiting_concat, ← inductive_step]
      exact toldTo_attempt _ id last

theorem taken_append (world : World) (id : EntityId)
    (first second : List Mutation) :
    world.taken id (first ++ second) =
      world.taken id first ++ (world.attempts first).taken id second := by
  induction first generalizing world with
  | nil => rfl
  | cons mutation rest inductive_step =>
      rw [List.cons_append, taken, taken, inductive_step,
        List.append_assoc, attempts_cons]

theorem taken_of_none_takes
    {mutations : List Mutation}
    (untaken : ∀ mutation ∈ mutations, mutation.takesFor id = false)
    (world : World) :
    world.taken id mutations = [] := by
  induction mutations generalizing world with
  | nil => rfl
  | cons mutation rest inductive_step =>
      rcases List.forall_mem_cons.mp untaken with ⟨first, later⟩
      rw [taken, first, inductive_step later]
      rfl

/-- What was taken for an entity and what still waits for it are all
that it was told. -/
theorem flatten_taken_append_toldTo (world : World) (id : EntityId)
    (mutations : List Mutation) :
    (world.taken id mutations).flatten ++ (world.attempts mutations).toldTo id =
      world.toldTo id ++ textsFor id mutations := by
  induction mutations generalizing world with
  | nil => exact (List.append_nil _).symm
  | cons mutation rest inductive_step =>
      have later := inductive_step (world.attempt mutation)
      rw [toldTo_attempt] at later
      rw [taken, List.flatten_append, List.append_assoc, attempts_cons, later]
      cases takes : mutation.takesFor id with
      | true => simp [textsFor, textFor?_of_takesFor takes]
      | false => cases told : mutation.textFor? id <;> simp [textsFor, told]

end TextWorld.World
