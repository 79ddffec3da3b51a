import TextWorld.Proofs.World.Attempts
import TextWorld.Proofs.World.Nesting

/-!
# What scripts do to a world

A script has no other access to a world than its operations.  The deeds of a
script are the operations that it attempts, one after the other, those of the
code and the hooks that it runs among them.  They account for whatever the
script does to the world, also when it fails in the end.
-/

namespace TextWorld

open World

/-- The operations that running code and running a hook attempt in a world. -/
structure Deeds where
  run (code label : String) (world : World) : List Mutation
  runHook (scope : HookScope) (name : String) (arguments : List Value)
    (world : World) :
    List Mutation

/-- The operations that a script attempts in a world, in order. -/
def Script.deeds (calls : Calls) (deeds : Deeds) :
    Script → World → List Mutation
  | .done _, _ => []
  | .enter trace next, world =>
      .enter trace :: next.deeds calls deeds (world.enter trace)
  | .create text next, world =>
      .create text :: (next world.nextId).deeds calls deeds (world.create text)
  | .recycle id next, world =>
      let (answer, after) := world.change (world.recycle id)
      .recycle id :: (next answer).deeds calls deeds after
  | .has id next, world => (next (world.has id)).deeds calls deeds world
  | .name id next, world => (next (world.name id)).deeds calls deeds world
  | .addAliases id aliases next, world =>
      let (answer, after) := world.change (world.addAliases id aliases)
      .addAliases id aliases :: (next answer).deeds calls deeds after
  | .setProgrammer id flag next, world =>
      let (answer, after) := world.change (world.setProgrammer id flag)
      .setProgrammer id flag :: (next answer).deeds calls deeds after
  | .location id next, world =>
      (next (world.location id)).deeds calls deeds world
  | .contents id next, world =>
      (next (world.contents id)).deeds calls deeds world
  | .move id destination next, world =>
      let (answer, after) := world.change (world.move id destination)
      .move id destination :: (next answer).deeds calls deeds after
  | .defineVerb id signature body next, world =>
      let (answer, after) :=
        world.change (world.defineVerb id ⟨signature, body⟩)
      .defineVerb id ⟨signature, body⟩ :: (next answer).deeds calls deeds after
  | .verbNames id next, world =>
      (next (world.verbNames id)).deeds calls deeds world
  | .registerHook scope hook body next, world =>
      .registerHook scope hook body ::
        next.deeds calls deeds (world.registerHook scope hook body)
  | .setEvaluator body next, world =>
      .setEvaluator body :: next.deeds calls deeds (world.setEvaluator body)
  | .tell id text next, world =>
      .tell id text :: next.deeds calls deeds (world.tell id text)
  | .takeTold id next, world =>
      .takeTold id ::
        (next (world.toldTo id)).deeds calls deeds (world.takeTold id)
  | .load id next, world => (next (world.load id)).deeds calls deeds world
  | .run code label next, world =>
      let (answer, after) := calls.run code label world
      deeds.run code label world ++ (next answer).deeds calls deeds after
  | .runHook scope hook arguments next, world =>
      let (answer, after) := calls.runHook scope hook arguments world
      deeds.runHook scope hook arguments world ++
        (next answer).deeds calls deeds after
  | .matchObjects actor command next, world =>
      (next (world.matchObjects actor command)).deeds calls deeds world
  | .matchVerb actor command objects next, world =>
      (next (world.matchVerb actor command objects)).deeds calls deeds world

namespace World

/-- The operations that a script attempts, if there is one. -/
def deedsIn (calls : Calls) (deeds : Deeds) (script : Option Script)
    (world : World) :
    List Mutation :=
  match script with
  | some script => script.deeds calls deeds world
  | none => []

/-- What running code and hooks attempts, for a number of levels of calls
inside each other. -/
def deeds : (levels : Nat) → Deeds
  | 0 =>
      { run := fun _ _ _ => []
        runHook := fun _ _ _ _ => [] }
  | levels + 1 =>
      { run := fun code label world =>
          deedsIn (calls levels) (deeds levels) (world.started code label) world
        runHook := fun scope name arguments world =>
          deedsIn (calls levels) (deeds levels)
            ((world.hooks.get? (scope, name)).map fun body =>
                body arguments) world }

end World

/-- The deeds account for what running code and hooks does to a world. -/
structure Deeds.Account (deeds : Deeds) (calls : Calls) : Prop where
  run (code label : String) (world : World) :
    world.attempts (deeds.run code label world) = (calls.run code label world).2
  runHook (scope : HookScope) (name : String) (arguments : List Value)
    (world : World) :
    world.attempts (deeds.runHook scope name arguments world) =
      (calls.runHook scope name arguments world).2

/-- The deeds of a script account for what it does to a world. -/
theorem Script.attempts_deeds
    {calls : Calls}
    {deeds : Deeds}
    (account : deeds.Account calls)
    (script : Script)
    (world : World) :
    world.attempts (script.deeds calls deeds world) =
      (script.perform calls world).2 := by
  induction script generalizing world with
  | done => rfl
  | has | name | location | contents | verbNames | load
  | matchObjects | matchVerb =>
      -- these only look at the world
      next inductive_step => exact inductive_step _ world
  | enter _ _ inductive_step | tell _ _ _ inductive_step
  | registerHook _ _ _ _ _ inductive_step | setEvaluator _ _ _ inductive_step =>
      exact inductive_step _
  | create _ _ inductive_step | recycle _ _ inductive_step
  | addAliases _ _ _ inductive_step
  | setProgrammer _ _ _ inductive_step | move _ _ _ inductive_step
  | defineVerb _ _ _ _ _ inductive_step | takeTold _ _ inductive_step =>
      exact inductive_step _ _
  | run code label next inductive_step =>
      rw [Script.deeds, attempts_append, account.run]
      exact inductive_step _ _
  | runHook scope name arguments next inductive_step =>
      rw [Script.deeds, attempts_append, account.runHook]
      exact inductive_step _ _

@[simp]
theorem leavingBody_snd {σ α : Type} (label : String) (reply : Reply σ α) :
    (leavingBody label reply).2 = reply.2 := by
  rcases reply with ⟨_ | _, world⟩ <;> rfl

namespace World

variable {calls : Calls} {deeds : Deeds}

/-- Code that starts no body leaves the world as it is. -/
theorem runWith_snd_of_not_started
    {code label : String}
    {world : World}
    (starts : world.started code label = none) :
    (world.runWith calls code label).2 = world := by
  rw [started] at starts
  cases decoded : VerbCall.decode code with
  | ok call =>
      cases invoked : world.invoked call label with
      | ok body => simp [decoded, invoked, Except.toOption] at starts
      | error failure => simp only [runWith, decoded, invoke, invoked]
  | error failure =>
      cases evaluator : world.evaluator with
      | some body => simp [decoded, evaluator] at starts
      | none => simp only [runWith, decoded, evaluate, evaluator, leavingBody]

theorem attempts_deedsIn_started
    (account : deeds.Account calls)
    (code label : String)
    (world : World) :
    world.attempts (deedsIn calls deeds (world.started code label) world) =
      (world.runWith calls code label).2 := by
  cases starts : world.started code label with
  | some script =>
      rw [runWith_of_started starts, leavingBody_snd]
      exact script.attempts_deeds account world
  | none =>
      rw [runWith_snd_of_not_started starts]
      rfl

theorem attempts_deedsIn_hook
    (account : deeds.Account calls)
    (scope : HookScope)
    (name : String)
    (arguments : List Value)
    (world : World) :
    world.attempts
        (deedsIn calls deeds
          ((world.hooks.get? (scope, name)).map fun body =>
              body arguments) world) =
      (world.runHookWith calls scope name arguments).2 := by
  rw [runHookWith]
  cases world.hooks.get? (scope, name) with
  | none => rfl
  | some body =>
      simp only [Option.map_some, deedsIn,
        (body arguments).attempts_deeds account world]
      split
      · next ended => rw [ended]
      · next ended => rw [ended]

/-- However deeply calls are nested, their deeds account for what
they do to a world. -/
theorem account_deeds (levels : Nat) :
    (World.deeds levels).Account (World.calls levels) := by
  induction levels with
  | zero => exact ⟨fun _ _ _ => rfl, fun _ _ _ _ => rfl⟩
  | succ levels inductive_step =>
      exact ⟨attempts_deedsIn_started inductive_step,
        attempts_deedsIn_hook inductive_step⟩

end World

end TextWorld
