import TextWorld.Invocation
import TextWorld.World.Matching

/-!
# Running scripts

Code that is a verb call runs the body of that verb, and any other code goes to
the evaluator.  A failure that leaves a body has the label of the call put in
front of its calls.

A script may run code and hooks, which run scripts in turn.  `World.calls`
gives these two operations for any number of levels of such nesting;
beyond it a call fails.
-/

namespace TextWorld

/-- The failure as it leaves a body that ran under a label. -/
def Failure.leaving (failure : Failure) (label : String) : Failure :=
  let context := failure.context.getD { source := some label }
  { failure with
      context := some { context with stack := label :: context.stack } }

/-- A reply of which a failure leaves a body that ran under a label. -/
def leavingBody {σ α : Type} (label : String) : Reply σ α → Reply σ α
  | (.ok answer, world) => (.ok answer, world)
  | (.error failure, world) => (.error (failure.leaving label), world)

/-- The two operations that run bodies. -/
structure Calls where
  run (code label : String) (world : World) : Reply World Value
  runHook (scope : HookScope) (name : String) (arguments : List Value)
    (world : World) :
    Reply World HookOutcome

/-- A change of the world, which stays as it is when the change fails. -/
def World.change (world : World) : Except Failure World → Reply World Unit
  | .ok changed => (.ok (), changed)
  | .error failure => (.error failure, world)

/-- Carries out a script in a world. -/
def Script.perform (calls : Calls) : Script → World → Reply World Value
  | .done result, world => (result, world)
  | .enter trace next, world => next.perform calls (world.enter trace)
  | .create text next, world =>
      (next world.nextId).perform calls (world.create text)
  | .recycle id next, world =>
      let (answer, world) := world.change (world.recycle id)
      (next answer).perform calls world
  | .has id next, world => (next (world.has id)).perform calls world
  | .name id next, world => (next (world.name id)).perform calls world
  | .addAliases id aliases next, world =>
      let (answer, world) := world.change (world.addAliases id aliases)
      (next answer).perform calls world
  | .setProgrammer id flag next, world =>
      let (answer, world) := world.change (world.setProgrammer id flag)
      (next answer).perform calls world
  | .location id next, world => (next (world.location id)).perform calls world
  | .contents id next, world => (next (world.contents id)).perform calls world
  | .move id destination next, world =>
      let (answer, world) := world.change (world.move id destination)
      (next answer).perform calls world
  | .defineVerb id signature body next, world =>
      let (answer, world) :=
        world.change (world.defineVerb id ⟨signature, body⟩)
      (next answer).perform calls world
  | .verbNames id next, world => (next (world.verbNames id)).perform calls world
  | .registerHook scope hook body next, world =>
      next.perform calls (world.registerHook scope hook body)
  | .setEvaluator body next, world =>
      next.perform calls (world.setEvaluator body)
  | .tell id text next, world => next.perform calls (world.tell id text)
  | .takeTold id next, world =>
      (next (world.toldTo id)).perform calls (world.takeTold id)
  | .load id next, world => (next (world.load id)).perform calls world
  | .run code label next, world =>
      let (answer, world) := calls.run code label world
      (next answer).perform calls world
  | .runHook scope hook arguments next, world =>
      let (answer, world) := calls.runHook scope hook arguments world
      (next answer).perform calls world
  | .matchObjects actor command next, world =>
      (next (world.matchObjects actor command)).perform calls world
  | .matchVerb actor command objects next, world =>
      (next (world.matchVerb actor command objects)).perform calls world

/-- The call as the body of the verb sees it. -/
def VerbCall.invocation (call : VerbCall) : Invocation where
  this := call.owner
  verb := call.verb
  player := call.player
  direct := call.direct
  indirect := call.indirect
  command := call.command

namespace World

/-- The body of the verb that a call invokes: the first verb of the owner
with that name. -/
def invoked (world : World) (call : VerbCall) (label : String) :
    Except Failure (Invocation → Script) := do
  match (← world.object call.owner).verb? call.verb with
  | some verb => return verb.body
  | none =>
      throw (.script label (call.owner.text ++ "." ++ call.verb ++
        " is not a verb"))

/-- Runs the verb that a call invokes. -/
def invoke (calls : Calls) (call : VerbCall) (label : String) (world : World) :
    Reply World Value :=
  match world.invoked call label with
  | .ok body => leavingBody label ((body call.invocation).perform calls world)
  | .error failure => (.error failure, world)

/-- Hands code to the evaluator, if there is one. -/
def evaluate (calls : Calls) (code label : String) (world : World) :
    Reply World Value :=
  match world.evaluator with
  | some body => leavingBody label ((body code label).perform calls world)
  | none =>
      leavingBody label
        (.error (.script label "no evaluator is installed"), world)

/-- Runs code whose scripts use the given operations. -/
def runWith (calls : Calls) (code label : String) (world : World) :
    Reply World Value :=
  match VerbCall.decode code with
  | .ok call => invoke calls call label world
  | .error _ => evaluate calls code label world

/-- Runs a hook whose script uses the given operations; without a hook the last
argument is the outcome. -/
def runHookWith
    (calls : Calls)
    (scope : HookScope)
    (name : String)
    (arguments : List Value)
    (world : World) :
    Reply World HookOutcome :=
  match world.hooks.get? (scope, name) with
  | some body =>
      match (body arguments).perform calls world with
      | (.ok value, world) => (.ok ⟨true, value⟩, world)
      | (.error failure, world) => (.error failure, world)
  | none => (.ok ⟨false, arguments.getLast?.getD .absent⟩, world)

/-- The failure of a call inside too many others. -/
def tooDeep : Failure :=
  .internal "calls are nested too deeply"

/-- The operations that run bodies, for a number of levels of calls
inside each other. -/
def calls : (levels : Nat) → Calls
  | 0 =>
      { run := fun _ _ world => (.error tooDeep, world)
        runHook := fun _ _ _ world => (.error tooDeep, world) }
  | levels + 1 =>
      { run := fun code label world => runWith (calls levels) code label world
        runHook := fun scope name arguments world =>
          runHookWith (calls levels) scope name arguments world }

/-- The world as sessions reach it, for a number of levels of calls
inside each other. -/
def collaborators (levels : Nat) : Collaborators World where
  load id world := (world.load id, world)
  run := (calls levels).run
  runHook := (calls levels).runHook
  matchObjects actor command world := (world.matchObjects actor command, world)
  matchVerb actor command objects world :=
    (world.matchVerb actor command objects, world)

/-- How many levels of calls are customary. -/
def customaryLevels : Nat := 1000

end World

end TextWorld
