import TextWorld.World.Basic

/-!
# Reachable worlds

A world is reachable if the public operations lead to it from the world without
anything in it.  An operation that fails leads nowhere, as it leaves the world
as it is.  What holds in the empty world and is kept by every operation holds in
every reachable world; in this way every id is seen to have one object at most,
and the primary names of the verbs of one object to be distinct.
-/

namespace TextWorld.World

/-- A use of an operation that may change the world. -/
inductive Mutation where
  | create (name : String)
  | recycle (id : EntityId)
  | addAliases (id : EntityId) (aliases : List String)
  | setProgrammer (id : EntityId) (flag : Bool)
  | move (id destination : EntityId)
  | defineVerb (id : EntityId) (verb : Verb)
  | registerHook (scope : HookScope) (name : String)
      (body : List Value → Script)
  | setEvaluator (body : String → String → Script)
  | tell (id : EntityId) (text : String)
  | takeTold (id : EntityId)
  | enter (trace : Trace)

/-- The world after an operation, if it does not fail. -/
def mutate (world : World) : Mutation → Except Failure World
  | .create name => .ok (world.create name)
  | .recycle id => world.recycle id
  | .addAliases id aliases => world.addAliases id aliases
  | .setProgrammer id flag => world.setProgrammer id flag
  | .move id destination => world.move id destination
  | .defineVerb id verb => world.defineVerb id verb
  | .registerHook scope name body => .ok (world.registerHook scope name body)
  | .setEvaluator body => .ok (world.setEvaluator body)
  | .tell id text => .ok (world.tell id text)
  | .takeTold id => .ok (world.takeTold id)
  | .enter trace => .ok (world.enter trace)

/-- The worlds that operations lead to. -/
inductive Reachable : World → Prop where
  | empty : Reachable World.empty
  | step {world after : World} {mutation : Mutation}
      (reachable : Reachable world)
      (done : world.mutate mutation = .ok after) :
      Reachable after

variable {world after : World} {id probe : EntityId} {object : WorldObject}

/-! ## What an operation does to an object -/

/-- An update changes the given object and no other. -/
theorem get?_of_update
    {change : WorldObject → WorldObject}
    (updated : world.update id change = .ok after)
    (probe : EntityId) :
    after.objects.get? probe =
      if id = probe then (world.objects.get? probe).map change
      else world.objects.get? probe := by
  rw [update] at updated
  cases found : world.objects.get? id with
  | none =>
      rw [found] at updated
      cases updated
  | some object =>
      rw [found] at updated
      cases updated
      by_cases same : id = probe
      · subst same
        simp [Table.get?_set, found]
      · simp [Table.get?_set, same]

/-- A move changes the place of the moved object and nothing else. -/
theorem update_of_move
    {destination : EntityId}
    (moved : world.move id destination = .ok after) :
    world.update id (fun object =>
        { object with location := some destination }) = .ok after := by
  simp only [move, bind, Except.bind] at moved
  split at moved
  · cases moved
  · split at moved
    · cases moved
    · exact moved

/-- An object that was removed is gone, and what was in it is nowhere. -/
theorem get?_of_recycle
    (recycled : world.recycle id = .ok after)
    (probe : EntityId) :
    after.objects.get? probe =
      if id = probe then none
      else (world.objects.get? probe).map (·.leave id) := by
  rw [recycle] at recycled
  split at recycled
  · cases recycled
    have left := Table.get?_map (world.objects.erase id) (·.leave id) probe
    rw [Table.get?_erase] at left
    exact left.trans (apply_ite _ _ _ _)
  · cases recycled

/-- Leaving a place does not change verbs. -/
@[simp]
theorem leave_verbs (object : WorldObject) (place : EntityId) :
    (object.leave place).verbs = object.verbs := by
  rw [WorldObject.leave]
  split <;> rfl

/-- The verbs of an object are those that it had, or one verb was defined on
it, or it is new. -/
inductive VerbsFrom (world : World) (id : EntityId)
    (verbs : List Verb) : Prop where
  | new (nothing : verbs = [])
  | kept {earlier : WorldObject}
      (found : world.objects.get? id = some earlier)
      (same : verbs = earlier.verbs)
  | defined {earlier : WorldObject} {verb : Verb}
      (found : world.objects.get? id = some earlier)
      (added : verbs = (earlier.defineVerb verb).verbs)

/-- An update that leaves verbs alone keeps the verbs of every object. -/
theorem verbsFrom_of_update
    {change : WorldObject → WorldObject}
    (updated : world.update id change = .ok after)
    (leaves : ∀ earlier, (change earlier).verbs = earlier.verbs)
    (found : after.objects.get? probe = some object) :
    VerbsFrom world probe object.verbs := by
  rw [get?_of_update updated probe] at found
  split at found
  · obtain ⟨earlier, was, rfl⟩ := Option.map_eq_some_iff.mp found
    exact .kept was (leaves earlier)
  · exact .kept found rfl

/-- Where the verbs of an object come from after an operation. -/
theorem verbsFrom_of_mutate
    {mutation : Mutation}
    (done : world.mutate mutation = .ok after)
    (found : after.objects.get? probe = some object) :
    VerbsFrom world probe object.verbs := by
  cases mutation with
  | create name =>
      cases done
      rw [create, Table.get?_set] at found
      split at found
      · cases found
        exact .new rfl
      · exact .kept found rfl
  | recycle id =>
      rw [get?_of_recycle done] at found
      split at found
      · cases found
      · obtain ⟨earlier, was, rfl⟩ := Option.map_eq_some_iff.mp found
        exact .kept was (leave_verbs earlier id)
  | addAliases id aliases => exact verbsFrom_of_update done (fun _ => rfl) found
  | setProgrammer id flag => exact verbsFrom_of_update done (fun _ => rfl) found
  | move id destination =>
      exact verbsFrom_of_update (update_of_move done) (fun _ => rfl) found
  | defineVerb id verb =>
      rw [get?_of_update done] at found
      split at found
      · obtain ⟨earlier, was, rfl⟩ := Option.map_eq_some_iff.mp found
        exact .defined was rfl
      · exact .kept found rfl
  | registerHook | setEvaluator | tell | takeTold | enter =>
      -- these leave the objects alone
      cases done
      exact .kept found rfl

/-! ## One entry for each id -/

theorem distinct_of_update
    {change : WorldObject → WorldObject}
    (updated : world.update id change = .ok after)
    (distinct : world.objects.Distinct) :
    after.objects.Distinct := by
  rw [update] at updated
  split at updated
  · cases updated
    exact distinct.set id _
  · cases updated

theorem distinct_of_mutate
    {mutation : Mutation}
    (done : world.mutate mutation = .ok after)
    (distinct : world.objects.Distinct) :
    after.objects.Distinct := by
  cases mutation with
  | create name =>
      cases done
      exact distinct.set world.nextId _
  | recycle id =>
      simp only [mutate, recycle] at done
      split at done
      · cases done
        have kept := distinct.erase id
        rwa [Table.Distinct, List.map_map]
      · cases done
  | move id destination =>
      exact distinct_of_update (update_of_move done) distinct
  | addAliases | setProgrammer | defineVerb =>
      exact distinct_of_update done distinct
  | registerHook | setEvaluator | tell | takeTold | enter =>
      cases done
      exact distinct

/-- In a reachable world an id has one object at most. -/
theorem Reachable.distinct (reachable : Reachable world) :
    world.objects.Distinct := by
  induction reachable with
  | empty => exact List.nodup_nil
  | step _ done inductive_step => exact distinct_of_mutate done inductive_step

/-! ## The primary names of verbs -/

/-- Defining a verb keeps the primary names distinct, as it replaces the
verb of that name. -/
theorem nodup_names_defineVerb
    (verb : Verb)
    (distinct : (object.verbs.map (·.signature.name)).Nodup) :
    ((object.defineVerb verb).verbs.map (·.signature.name)).Nodup := by
  rw [WorldObject.defineVerb, List.map_append, List.nodup_append]
  refine ⟨distinct.sublist (List.filter_sublist.map _),
    List.nodup_cons.mpr ⟨nofun, .nil⟩, ?_⟩
  intro name kept other new same
  obtain ⟨keptVerb, remains, rfl⟩ := List.mem_map.mp kept
  obtain rfl : other = verb.signature.name := by simpa using new
  simpa [same] using (List.mem_filter.mp remains).2

/-- In a reachable world no two verbs of an object have one primary name. -/
theorem Reachable.nodup_verbNames
    (reachable : Reachable world)
    (found : world.objects.get? id = some object) :
    (object.verbs.map (·.signature.name)).Nodup := by
  induction reachable generalizing object with
  | empty => cases found
  | step reachable done inductive_step =>
      cases verbsFrom_of_mutate done found with
      | new nothing =>
          rw [nothing]
          exact List.nodup_nil
      | kept was same =>
          rw [same]
          exact inductive_step was
      | defined was added =>
          rw [added]
          exact nodup_names_defineVerb _ (inductive_step was)

end TextWorld.World
