import Mathlib.Data.List.Palindrome
import Mathlib.Logic.Relation
import TextWorld.Proofs.World.CodeRouting
import TextWorld.World.Routine

/-!
# Failures inside nested calls

A body may run code whose body runs code in turn.  When the innermost body fails
and every body around it passes the failure on, each call puts its label in
front of those that the failure already carries.  So the calls of the failure
that comes out stand outermost first, although the stack of a context is meant
to be read innermost first.
-/

namespace TextWorld

open World

/-! ## Scripts, one operation at a time -/

/-- The script after its first operation, and the world after that operation. -/
def Script.step? (calls : Calls) : Script → World → Option (Script × World)
  | .done _, _ => none
  | .enter trace next, world => some (next, world.enter trace)
  | .create text next, world => some (next world.nextId, world.create text)
  | .recycle id next, world =>
      let (answer, after) := world.change (world.recycle id)
      some (next answer, after)
  | .has id next, world => some (next (world.has id), world)
  | .name id next, world => some (next (world.name id), world)
  | .addAliases id aliases next, world =>
      let (answer, after) := world.change (world.addAliases id aliases)
      some (next answer, after)
  | .setProgrammer id flag next, world =>
      let (answer, after) := world.change (world.setProgrammer id flag)
      some (next answer, after)
  | .location id next, world => some (next (world.location id), world)
  | .contents id next, world => some (next (world.contents id), world)
  | .move id destination next, world =>
      let (answer, after) := world.change (world.move id destination)
      some (next answer, after)
  | .defineVerb id signature body next, world =>
      let (answer, after) :=
        world.change (world.defineVerb id ⟨signature, body⟩)
      some (next answer, after)
  | .verbNames id next, world => some (next (world.verbNames id), world)
  | .registerHook scope hook body next, world =>
      some (next, world.registerHook scope hook body)
  | .setEvaluator body next, world => some (next, world.setEvaluator body)
  | .tell id text next, world => some (next, world.tell id text)
  | .takeTold id next, world => some (next (world.toldTo id), world.takeTold id)
  | .load id next, world => some (next (world.load id), world)
  | .run code label next, world =>
      let (answer, after) := calls.run code label world
      some (next answer, after)
  | .runHook scope hook arguments next, world =>
      let (answer, after) := calls.runHook scope hook arguments world
      some (next answer, after)
  | .matchObjects actor command next, world =>
      some (next (world.matchObjects actor command), world)
  | .matchVerb actor command objects next, world =>
      some (next (world.matchVerb actor command objects), world)

/-- Some operations of the script lead to the rest of it, in the
world as it is then. -/
def Script.ComesTo
    (calls : Calls)
    (script : Script)
    (world : World)
    (rest : Script)
    (after : World) :
    Prop :=
  Relation.ReflTransGen (fun here there : Script × World =>
      here.1.step? calls here.2 = some there)
    (script, world) (rest, after)

/-! ## Chains of calls -/

/-- The body that running code starts: that of the verb which the code calls, or
that of the evaluator. -/
def World.started (world : World) (code label : String) : Option Script :=
  match VerbCall.decode code with
  | .ok call =>
      (world.invoked call label).toOption.map fun body => body call.invocation
  | .error _ => world.evaluator.map fun body => body code label

/-- Running code fails inside a chain of calls with the given labels, the
outermost first: the innermost body ends in the failure, and each body
around it comes to running the code of the next and ends in whatever failure
it is told there. -/
inductive FailsInside : Nat → String → String → World → List String →
    Failure → Prop where
  | body {levels : Nat} {code label : String} {world after : World}
      {script : Script} {failure : Failure}
      (starts : world.started code label = some script)
      (fails :
        script.perform (World.calls levels) world = (.error failure, after)) :
      FailsInside (levels + 1) code label world [label] failure
  | call {levels : Nat} {code label inner innerLabel : String}
      {world between : World} {script : Script}
      {next : Except Failure Value → Script} {labels : List String}
      {failure : Failure}
      (starts : world.started code label = some script)
      (comes : script.ComesTo (World.calls levels) world
        (.run inner innerLabel next) between)
      (passes : ∀ told after,
        (World.calls levels).run inner innerLabel between =
          (.error told, after) →
          ((next (.error told)).perform (World.calls levels) after).1 =
            .error told)
      (inside : FailsInside levels inner innerLabel between labels failure) :
      FailsInside (levels + 1) code label world (label :: labels) failure

/-- The failure as it comes out of calls with the given labels, if it
had no context. -/
def Failure.outOf (failure : Failure) (labels : List String) : Failure where
  kind := failure.kind
  context := some { source := labels.getLast?, stack := labels }

variable {calls : Calls} {script rest : Script} {world after : World}
  {code label : String} {levels : Nat} {labels : List String}
  {failure : Failure}

theorem Script.perform_of_step?
    (stepped : script.step? calls world = some (rest, after)) :
    script.perform calls world = rest.perform calls after := by
  cases script with
  | done result => cases stepped
  | _ =>
      cases stepped
      rfl

/-- What a script ends in does not depend on how much of it was
carried out before. -/
theorem Script.ComesTo.perform_eq
    (comes : script.ComesTo calls world rest after) :
    script.perform calls world = rest.perform calls after := by
  apply Relation.ReflTransGen.head_induction_on
    (motive := fun here _ =>
        here.1.perform calls here.2 = rest.perform calls after) comes
  · rfl
  · intro here there stepped _ inductive_step
    exact (perform_of_step? stepped).trans inductive_step

/-- Code that starts a body ends as the body does, under the label. -/
theorem World.runWith_of_started
    (starts : world.started code label = some script) :
    runWith calls code label world =
      leavingBody label (script.perform calls world) := by
  rw [started] at starts
  cases decoded : VerbCall.decode code with
  | ok call =>
      cases invoked : world.invoked call label with
      | ok body =>
          simp only [decoded, invoked, Except.toOption,
            Option.map_some] at starts
          cases starts
          simp only [runWith, decoded, invoke, invoked]
      | error failure =>
          simp only [decoded, invoked, Except.toOption,
            Option.map_none] at starts
          cases starts
  | error failure =>
      cases evaluator : world.evaluator with
      | some body =>
          simp only [decoded, evaluator, Option.map_some] at starts
          cases starts
          simp only [runWith, decoded, evaluate, evaluator]
      | none =>
          simp only [decoded, evaluator, Option.map_none] at starts
          cases starts

theorem FailsInside.labels_ne_nil
    (inside : FailsInside levels code label world labels failure) :
    labels ≠ [] := by
  cases inside with
  | body | call => exact List.cons_ne_nil _ _

theorem Failure.leaving_of_bare
    (bare : failure.context = none) :
    failure.leaving label = failure.outOf [label] := by
  simp [leaving, outOf, bare]

theorem Failure.leaving_outOf
    (nonempty : labels ≠ []) :
    (failure.outOf labels).leaving label = failure.outOf (label :: labels) := by
  have last : (label :: labels).getLast? = labels.getLast? := by
    cases labels with
    | nil => exact absurd rfl nonempty
    | cons => rfl
  simp [leaving, outOf, last]

/-- A failure without context comes out of a chain of calls with the labels
of all of them. -/
theorem FailsInside.run_eq
    (inside : FailsInside levels code label world labels failure)
    (bare : failure.context = none) :
    ∃ after,
      (World.calls levels).run code label world =
        (.error (failure.outOf labels), after) := by
  induction inside with
  | @body _ _ _ _ ended _ _ starts fails =>
      refine ⟨ended, (runWith_of_started starts).trans ?_⟩
      rw [fails, leavingBody, Failure.leaving_of_bare bare]
  | @call levels code label _ _ world _ script next labels failure starts
      comes passes inside
      inductive_step =>
      rcases inductive_step bare with ⟨told, fails⟩
      have passed := passes _ _ fails
      -- the body goes on from the call that it came to, and ends in what
      -- it was told there
      have performed :
          script.perform (World.calls levels) world =
            (next (.error (failure.outOf labels))).perform
              (World.calls levels) told := by
        rw [comes.perform_eq, Script.perform, fails]
      rcases ends : (next (.error (failure.outOf labels))).perform
        (World.calls levels) told with ⟨result, final⟩
      rw [ends] at passed
      cases passed
      refine ⟨final, (runWith_of_started starts).trans ?_⟩
      rw [performed, ends, leavingBody,
        Failure.leaving_outOf inside.labels_ne_nil]

/-! ## The order of the calls -/

namespace World

/--
A failure that arises without context inside a chain of calls comes out with the
labels of all calls, the outermost first, and so it is reported and shown; its
source is the innermost call.  This is the order in which the calls of a context
are meant to be read exactly when the labels read the same in both directions.
-/
theorem calls_stand_outermost_first
    (inside : FailsInside levels code label world labels failure)
    (bare : failure.context = none) :
    ∃ told innermost after,
      (World.calls levels).run code label world = (.error told, after) ∧
        labels.getLast? = some innermost ∧
          told.report =
            ⟨failure.kind.name, failure.message, some innermost, labels⟩ ∧
            told.diagnostic =
              failure.kind.name ++ ": " ++ failure.message ++ "\n" ++
                "\n".intercalate
                  (("    at " ++ innermost) :: labels.map fun frame =>
                      "    in " ++ frame) ∧
              (told.report.stack = labels.reverse ↔ labels.Palindrome) := by
  rcases inside.run_eq bare with ⟨after, fails⟩
  have last := List.getLast?_eq_some_getLast inside.labels_ne_nil
  refine ⟨failure.outOf labels, labels.getLast inside.labels_ne_nil, after,
    fails, last, ?_, ?_, ?_⟩
  · simp [Failure.report, Failure.outOf, Failure.message, last]
  · simp only [Failure.diagnostic, Failure.outOf, Failure.message, last]
    rfl
  · constructor
    · intro same
      exact List.Palindrome.of_reverse_eq same.symm
    · intro palindrome
      exact palindrome.reverse_eq.symm

/-! ## A call inside another -/

/-- The call of a verb without any objects. -/
def plainCall (verb : String) : VerbCall where
  owner := ⟨0⟩
  verb := verb
  player := ⟨0⟩
  direct := none
  indirect := none
  command := { verb := verb }

/-- The verb that fails. -/
def breaking : Verb where
  signature := { name := "break" }
  body := Routine.verbBody [.fail (.script "break" "glass everywhere")]

/-- The verb that has the other one run. -/
def throwing : Verb where
  signature := { name := "throw" }
  body :=
    Routine.verbBody [.run (plainCall "break").code (plainCall "break").label]

/-- The world in which someone can throw what breaks, also by
evaluating any code. -/
def glasshouse : World where
  created := 1
  objects := [(⟨0⟩, { name := "Alice", verbs := [breaking, throwing] })]
  evaluator :=
    some (Routine.evaluatorBody
      [.run (plainCall "throw").code (plainCall "throw").label])

/-- What is thrown breaks inside two calls. -/
theorem breaks_inside
    (furnished : world.objects = glasshouse.objects) :
    FailsInside 2 (plainCall "throw").code (plainCall "throw").label world
      ["Verb::#0.throw", "Verb::#0.break"]
      (.script "break" "glass everywhere") := by
  have starts (verb : Verb) (name label : String) (trail : List Trace)
      (found :
        (WorldObject.verb? { name := "Alice", verbs := [breaking, throwing] }
          name) = some verb) :
      started { world with trail := trail } (plainCall name).code label =
        some (verb.body (plainCall name).invocation) := by
    simp only [started, VerbCall.decode_code, invoked, object, plainCall,
      furnished, glasshouse]
    simp [Table.get?, found, bind, Except.bind, pure, Except.pure,
      Except.toOption]
  apply FailsInside.call (starts throwing "throw" _ world.trail rfl)
  · exact .single rfl
  · intro told after _
    rfl
  · exact .body (starts breaking "break" _ _ rfl) rfl

/-- The calls of a failure do not always come out innermost first. -/
theorem calls_not_innermost_first :
    ¬ ∀ (levels : Nat) (code label : String) (world : World)
      (labels : List String)
        (failure : Failure),
      FailsInside levels code label world labels failure →
      failure.context = none →
        ∃ told after,
          (World.calls levels).run code label world = (.error told, after) ∧
            told.report.stack = labels.reverse := by
  intro innermostFirst
  have inside : FailsInside 2 _ _ glasshouse _ _ := breaks_inside rfl
  rcases innermostFirst _ _ _ _ _ _ inside rfl with ⟨told, after, fails, stack⟩
  rcases inside.run_eq rfl with ⟨ended, outermostFirst⟩
  rw [outermostFirst] at fails
  cases fails
  exact absurd stack (by decide)

/-- The order of the calls when code that is evaluated throws what breaks. -/
theorem evaluated_throw_breaks :
    ∃ told innermost after,
      (World.calls 3).run (Snippet.unit "throw" ⟨0⟩) "Eval::#0" glasshouse =
          (.error told, after) ∧
        ["Eval::#0", "Verb::#0.throw", "Verb::#0.break"].getLast? =
          some innermost ∧
          told.report =
              ⟨"ScriptError", "glass everywhere (in break)", some innermost,
                ["Eval::#0", "Verb::#0.throw", "Verb::#0.break"]⟩ ∧
            told.diagnostic =
              "ScriptError" ++ ": " ++ "glass everywhere (in break)" ++ "\n" ++
                "\n".intercalate
                  (("    at " ++ innermost) ::
                    ["Eval::#0", "Verb::#0.throw", "Verb::#0.break"].map
                      fun frame => "    in " ++ frame) ∧
              (told.report.stack =
                ["Eval::#0", "Verb::#0.throw", "Verb::#0.break"].reverse ↔
                ["Eval::#0", "Verb::#0.throw",
                  "Verb::#0.break"].Palindrome) := by
  have bare : (Failure.script "break" "glass everywhere").context = none := rfl
  apply calls_stand_outermost_first _ bare
  rcases Snippet.decode_unit "throw" ⟨0⟩ with ⟨refusal, refused⟩
  apply FailsInside.call
  · rw [started, refused]
    rfl
  · exact .single rfl
  · intro told after _
    rfl
  · exact breaks_inside rfl

end World

end TextWorld
