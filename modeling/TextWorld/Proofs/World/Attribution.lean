import TextWorld.Proofs.World.CodeRouting

/-!
# The label of a failed run

A failure that leaves a body has the label of the run at the head of its
calls, and so has that of code for which there is no evaluator.  But a call
for which there is no verb fails before any body starts, and its failure comes
out without calls.
-/

namespace TextWorld

open World

namespace World

/-- The code is a call for which there is no verb. -/
def CallsNothing (world : World) (code : String) : Prop :=
  ∃ call, VerbCall.decode code = .ok call ∧ world.callee? call = none

end World

variable {calls : Calls} {call : VerbCall} {code label : String}
  {world after : World} {failure : Failure} {reply : Reply World Value}

/-! ## Leaving a body -/

/-- A failure leaves a body with the label in front of its calls. -/
@[simp]
theorem Failure.stack_leaving (failure : Failure) (label : String) :
    (failure.leaving label).report.stack = label :: failure.report.stack := by
  cases given : failure.context with
  | none => simp [leaving, report, given]
  | some context => simp [leaving, report, given]

theorem exists_leaving_of_leavingBody
    (fails : leavingBody label reply = (.error failure, after)) :
    ∃ inner : Failure, failure = inner.leaving label := by
  rcases reply with ⟨inner | answer, ended⟩
  · rw [leavingBody] at fails
    cases fails
    exact ⟨inner, rfl⟩
  · cases fails

/-! ## How a run fails -/

namespace World

theorem runWith_of_callee?_eq_none
    (decoded : VerbCall.decode code = .ok call)
    (missing : world.callee? call = none) :
    runWith calls code label world =
      (.error (world.noVerb call label), world) := by
  simp only [runWith, decoded, invoke, invoked_eq, missing]

/-- Unless it calls a verb that there is not, code fails as a body does
that it leaves. -/
theorem exists_leaving_of_runWith
    (fails : runWith calls code label world = (.error failure, after))
    (starts : ¬ world.CallsNothing code) :
    ∃ inner : Failure, failure = inner.leaving label := by
  rw [runWith] at fails
  split at fails
  · next call decoded =>
      cases found : world.callee? call with
      | none => exact absurd ⟨call, decoded, found⟩ starts
      | some verb =>
          simp only [invoke, invoked_eq, found] at fails
          exact exists_leaving_of_leavingBody fails
  · rw [evaluate] at fails
    split at fails
    · exact exists_leaving_of_leavingBody fails
    · exact exists_leaving_of_leavingBody fails

@[simp]
theorem stack_noVerb (world : World) (call : VerbCall) (label : String) :
    (world.noVerb call label).report.stack = [] := by
  rw [noVerb]
  split <;> rfl

/--
A run that fails has its label among the calls of the failure exactly when the
code is no call for which there is no verb.  The label is then the first of the
calls.  Otherwise the failure says that the owner does not exist or has no such
verb, it has no calls, and the world is as it was.
-/
theorem failure_has_label_iff
    (fails : runWith calls code label world = (.error failure, after)) :
    (label ∈ failure.report.stack ↔ ¬ world.CallsNothing code) ∧
      (¬ world.CallsNothing code → failure.report.stack.head? = some label) ∧
      ∀ call, VerbCall.decode code = .ok call → world.callee? call = none →
        failure = world.noVerb call label ∧ failure.report.stack = [] ∧
          after = world := by
  have silent (call : VerbCall) (decoded : VerbCall.decode code = .ok call)
      (missing : world.callee? call = none) :
      failure = world.noVerb call label ∧ failure.report.stack = [] ∧
        after = world := by
    rw [runWith_of_callee?_eq_none decoded missing] at fails
    cases fails
    exact ⟨rfl, stack_noVerb world call label, rfl⟩
  have first (starts : ¬ world.CallsNothing code) :
      failure.report.stack.head? = some label := by
    rcases exists_leaving_of_runWith fails starts with ⟨inner, rfl⟩
    rw [Failure.stack_leaving, List.head?_cons]
  refine ⟨⟨?_, ?_⟩, first, silent⟩
  · rintro member ⟨call, decoded, missing⟩
    rw [(silent call decoded missing).2.1] at member
    cases member
  · intro starts
    exact List.mem_of_head? (first starts)

/-- The call of a verb of a lamp. -/
def rubbing : VerbCall where
  owner := ⟨1⟩
  verb := "rub"
  player := ⟨0⟩
  direct := none
  indirect := none
  command := { verb := "rub" }

/-- Where there is no lamp the run of rubbing it fails without its label. -/
theorem missing_lamp_fails_without_label :
    ¬ ∀ (calls : Calls) (world after : World) (code label : String)
      (failure : Failure),
      runWith calls code label world = (.error failure, after) →
        label ∈ failure.report.stack := by
  intro labelled
  have fails :
      runWith (World.calls 0) rubbing.code rubbing.label World.empty =
        (.error (World.empty.noVerb rubbing rubbing.label), World.empty) :=
    runWith_of_callee?_eq_none (VerbCall.decode_code rubbing) rfl
  have member := labelled _ _ _ _ _ _ fails
  rw [stack_noVerb] at member
  cases member

/-- The world in which there is a lamp, but nothing that can be done with it. -/
def lampRoom : World :=
  (World.empty.create "Alice").create "lamp"

/-- The failure of evaluating a snippet has its label, that of rubbing such a
lamp has no calls. -/
theorem snippet_has_label_and_rubbing_none :
    (∃ failure,
      runWith (World.calls 0) (Snippet.unit "1 + 1" ⟨0⟩) "Eval::#0" lampRoom =
          (.error failure, lampRoom) ∧
        "Eval::#0" ∈ failure.report.stack) ∧
      ∃ failure,
        runWith (World.calls 0) rubbing.code rubbing.label lampRoom =
            (.error failure, lampRoom) ∧
          failure =
              .script rubbing.label (rubbing.owner.text ++ "." ++
                rubbing.verb ++ " is not a verb") ∧
            failure.report.stack = [] := by
  constructor
  · have fails := runWith_unit (World.calls 0) "1 + 1" ⟨0⟩ "Eval::#0" lampRoom
    have starts : ¬ lampRoom.CallsNothing (Snippet.unit "1 + 1" ⟨0⟩) := by
      rintro ⟨call, decoded, -⟩
      rcases Snippet.decode_unit "1 + 1" ⟨0⟩ with ⟨refusal, refused⟩
      rw [refused] at decoded
      cases decoded
    exact ⟨_, fails, (failure_has_label_iff fails).1.mpr starts⟩
  · have decoded := VerbCall.decode_code rubbing
    have fails :
        runWith (World.calls 0) rubbing.code rubbing.label lampRoom =
          (.error (lampRoom.noVerb rubbing rubbing.label), lampRoom) :=
      runWith_of_callee?_eq_none decoded rfl
    rcases (failure_has_label_iff fails).2.2 rubbing decoded rfl with
      ⟨-, stack, -⟩
    exact ⟨_, fails, rfl, stack⟩

end World

end TextWorld
