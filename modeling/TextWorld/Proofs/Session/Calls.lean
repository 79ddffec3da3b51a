import TextWorld.Proofs.Session.Course

/-!
# The operations that a line uses

`callsOf` lists the operations that a turn uses, as a world that notes them sees
them.  Noting changes nothing else: a noted course is the course of the turn
itself, and its notes are the operations that the course names.
-/

namespace TextWorld

variable {σ : Type}

namespace Collaborators

variable {collaborators : Collaborators σ} {world after : σ × List Call}

/-- A noted reply is the reply, with the use added to the notes. -/
theorem noted_eq_iff
    {α : Type}
    {call : Call}
    {reply : Reply σ α}
    {answer : Except Failure α} :
    noted call world.2 reply = (answer, after) ↔
      reply = (answer, after.1) ∧ after.2 = world.2 ++ [call] := by
  constructor
  · intro equal
    cases equal
    exact ⟨rfl, rfl⟩
  · rintro ⟨rfl, notes⟩
    rw [noted, ← notes]

@[simp]
theorem recorded_load_eq_iff {id : EntityId} {answer : Except Failure Entity} :
    collaborators.recorded.load id world = (answer, after) ↔
      collaborators.load id world.1 = (answer, after.1) ∧
        after.2 = world.2 ++ [.load id] :=
  noted_eq_iff

@[simp]
theorem recorded_run_eq_iff {code label : String}
    {answer : Except Failure Value} :
    collaborators.recorded.run code label world = (answer, after) ↔
      collaborators.run code label world.1 = (answer, after.1) ∧
        after.2 = world.2 ++ [.run code label] :=
  noted_eq_iff

@[simp]
theorem recorded_runHook_eq_iff
    {scope : HookScope}
    {name : String}
    {arguments : List Value}
    {answer : Except Failure HookOutcome} :
    collaborators.recorded.runHook scope name arguments world =
        (answer, after) ↔
      collaborators.runHook scope name arguments world.1 = (answer, after.1) ∧
        after.2 = world.2 ++ [.runHook scope name arguments] :=
  noted_eq_iff

@[simp]
theorem recorded_matchObjects_eq_iff
    {actor : Entity}
    {command : Command}
    {answer : Except Failure BoundObjects} :
    collaborators.recorded.matchObjects actor command world = (answer, after) ↔
      collaborators.matchObjects actor command world.1 = (answer, after.1) ∧
        after.2 = world.2 ++ [.matchObjects actor command] :=
  noted_eq_iff

@[simp]
theorem recorded_matchVerb_eq_iff
    {actor : Entity}
    {command : Command}
    {objects : BoundObjects}
    {answer : Except Failure (Option VerbBinding)} :
    collaborators.recorded.matchVerb actor command objects world =
        (answer, after) ↔
      collaborators.matchVerb actor command objects world.1 =
          (answer, after.1) ∧
        after.2 = world.2 ++ [.matchVerb actor command objects] :=
  noted_eq_iff

end Collaborators

namespace Turn

open Collaborators

/-- The turn in a world that notes its uses, of which there were none yet. -/
def noting (turn : Turn σ) : Turn (σ × List Call) :=
  { turn with world := (turn.world, []) }

/-- The turn without the notes of its world. -/
def forgetting (turn : Turn (σ × List Call)) : Turn σ :=
  { turn with world := turn.world.1 }

/-- The operations that a line of input uses, in order. -/
def callsOf (collaborators : Collaborators σ) (line : String)
    (turn : Turn σ) : List Call :=
  (turn.noting.onInput collaborators.recorded line).world.2

variable {collaborators : Collaborators σ} {line : String} {player : Entity}
  {command : Command} {turn next : Turn (σ × List Call)} {calls : List Call}
  {outcome : Outcome}

/-- The objects and then a verb were matched, and both uses were noted. -/
theorem matches_of_recorded
    {world between after : σ × List Call}
    {objects : BoundObjects}
    {answer : Except Failure (Option VerbBinding)}
    (matchObjects :
      collaborators.recorded.matchObjects player command world =
        (.ok objects, between))
    (matchVerb :
      collaborators.recorded.matchVerb player command objects between =
        (answer, after)) :
    collaborators.matchObjects player command world.1 =
        (.ok objects, between.1) ∧
      collaborators.matchVerb player command objects between.1 =
        (answer, after.1) ∧
        after.2 =
          world.2 ++
            [.matchObjects player command,
              .matchVerb player command objects] := by
  obtain ⟨matchObjects, first⟩ := recorded_matchObjects_eq_iff.mp matchObjects
  obtain ⟨matchVerb, second⟩ := recorded_matchVerb_eq_iff.mp matchVerb
  exact ⟨matchObjects, matchVerb, by simp [first, second]⟩

/-- A noted matching is a matching, and its notes are the
operations that it used. -/
theorem Matching.of_recorded
    {world after : σ × List Call}
    {answer : Except Failure (Option (BoundObjects × VerbBinding))}
    (matching : Matching collaborators.recorded player command world calls
      (answer, after)) :
    Matching collaborators player command world.1 calls (answer, after.1) ∧
      after.2 = world.2 ++ calls := by
  cases matching with
  | objectsFailed matchObjects =>
      obtain ⟨matchObjects, notes⟩ :=
        recorded_matchObjects_eq_iff.mp matchObjects
      exact ⟨.objectsFailed matchObjects, notes⟩
  | verbFailed matchObjects matchVerb =>
      obtain ⟨matchObjects, matchVerb, notes⟩ :=
        matches_of_recorded matchObjects matchVerb
      exact ⟨.verbFailed matchObjects matchVerb, notes⟩
  | matched matchObjects matchVerb =>
      obtain ⟨matchObjects, matchVerb, notes⟩ :=
        matches_of_recorded matchObjects matchVerb
      exact ⟨.matched matchObjects matchVerb, notes⟩
  | nowhere matchObjects matchVerb noPlace =>
      obtain ⟨matchObjects, matchVerb, notes⟩ :=
        matches_of_recorded matchObjects matchVerb
      exact ⟨.nowhere matchObjects matchVerb noPlace, notes⟩
  | placeFailed matchObjects matchVerb somewhere load =>
      obtain ⟨matchObjects, matchVerb, notes⟩ :=
        matches_of_recorded matchObjects matchVerb
      obtain ⟨load, last⟩ := recorded_load_eq_iff.mp load
      exact ⟨.placeFailed matchObjects matchVerb somewhere load, by
          simp [notes, last]⟩
  | placeDeclined matchObjects matchVerb somewhere load declines =>
      obtain ⟨matchObjects, matchVerb, notes⟩ :=
        matches_of_recorded matchObjects matchVerb
      obtain ⟨load, last⟩ := recorded_load_eq_iff.mp load
      exact ⟨.placeDeclined matchObjects matchVerb somewhere load declines,
        by simp [notes, last]⟩
  | placeTook matchObjects matchVerb somewhere load takes =>
      obtain ⟨matchObjects, matchVerb, notes⟩ :=
        matches_of_recorded matchObjects matchVerb
      obtain ⟨load, last⟩ := recorded_load_eq_iff.mp load
      exact ⟨.placeTook matchObjects matchVerb somewhere load takes, by
          simp [notes, last]⟩

/-- Quitting notes the use of one hook, whatever comes of it. -/
theorem quit_of_recorded (turn : Turn (σ × List Call)) :
    (turn.quit collaborators.recorded player).forgetting =
        turn.forgetting.quit collaborators player ∧
      (turn.quit collaborators.recorded player).world.2 =
        turn.world.2 ++ [disconnectCall player] := by
  rcases hook : collaborators.runHook .system disconnectHook [.entity player.id]
    turn.world.1 with ⟨failure | reply, after⟩
  · simp only [quit, runHookBestEffort, Collaborators.runHookBestEffort,
      recorded, noted, forgetting, hook]
    exact ⟨rfl, rfl⟩
  · simp only [quit, runHookBestEffort, Collaborators.runHookBestEffort,
      recorded, noted, forgetting, hook]
    exact ⟨rfl, rfl⟩

/-- A noted dispatch is a dispatch, and its notes are the
operations that it used. -/
theorem Dispatched.of_recorded
    (dispatched : Dispatched collaborators.recorded player command turn
      calls outcome next) :
    Dispatched collaborators player command turn.forgetting calls outcome
        next.forgetting ∧
      next.world.2 = turn.world.2 ++ calls := by
  cases dispatched with
  | evaluated disposed run =>
      obtain ⟨run, notes⟩ := recorded_run_eq_iff.mp run
      exact ⟨.evaluated disposed run, notes⟩
  | evaluationFailed disposed run =>
      obtain ⟨run, notes⟩ := recorded_run_eq_iff.mp run
      exact ⟨.evaluationFailed disposed run, notes⟩
  | left disposed =>
      obtain ⟨ended, notes⟩ := quit_of_recorded turn
      rw [ended]
      exact ⟨.left disposed, notes⟩
  | notUnderstood disposed matching =>
      obtain ⟨matching, notes⟩ := matching.of_recorded
      exact ⟨.notUnderstood disposed matching, notes⟩
  | matchingFailed disposed matching =>
      obtain ⟨matching, notes⟩ := matching.of_recorded
      exact ⟨.matchingFailed disposed matching, notes⟩
  | performed disposed matching bound run =>
      obtain ⟨matching, notes⟩ := matching.of_recorded
      obtain ⟨run, last⟩ := recorded_run_eq_iff.mp run
      exact ⟨.performed disposed matching bound run, by simp [notes, last]⟩
  | verbFailed disposed matching bound run =>
      obtain ⟨matching, notes⟩ := matching.of_recorded
      obtain ⟨run, last⟩ := recorded_run_eq_iff.mp run
      exact ⟨.verbFailed disposed matching bound run, by simp [notes, last]⟩

/-- A noted course is a course, and its notes are the operations
that it used. -/
theorem Course.of_recorded
    (course : Course collaborators.recorded line turn calls outcome next) :
    Course collaborators line turn.forgetting calls outcome next.forgetting ∧
      next.world.2 = turn.world.2 ++ calls := by
  cases course with
  | ignored retired =>
      exact ⟨.ignored retired, (List.append_nil _).symm⟩
  | unloaded live load =>
      obtain ⟨load, notes⟩ := recorded_load_eq_iff.mp load
      exact ⟨.unloaded live load, notes⟩
  | unheard live load hook =>
      obtain ⟨load, notes⟩ := recorded_load_eq_iff.mp load
      obtain ⟨hook, further⟩ := recorded_runHook_eq_iff.mp hook
      exact ⟨.unheard live load hook, by simp [notes, further, preprocessCall]⟩
  | heard live load hook dispatched =>
      obtain ⟨load, notes⟩ := recorded_load_eq_iff.mp load
      obtain ⟨hook, further⟩ := recorded_runHook_eq_iff.mp hook
      obtain ⟨dispatched, last⟩ := dispatched.of_recorded
      exact ⟨.heard live load hook dispatched,
        by simp [notes, further, last, preprocessCall, afterHook]⟩

/-- Every line of input takes a course that names the operations it uses. -/
theorem onInput_course_callsOf
    (collaborators : Collaborators σ)
    (line : String)
    (turn : Turn σ) :
    ∃ outcome,
      Course collaborators line turn (turn.callsOf collaborators line) outcome
      (turn.onInput collaborators line) := by
  obtain ⟨calls, outcome, noted⟩ :=
    onInput_course collaborators.recorded line turn.noting
  obtain ⟨course, notes⟩ := noted.of_recorded
  have used : turn.callsOf collaborators line = calls := by
    rw [callsOf, notes]
    rfl
  have ended :
      (turn.noting.onInput collaborators.recorded line).forgetting =
        turn.onInput collaborators line :=
    course.onInput_eq.symm
  rw [used, ← ended]
  exact ⟨outcome, course⟩

end Turn

end TextWorld
