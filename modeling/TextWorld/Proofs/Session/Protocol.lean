import Mathlib.Data.List.Nodup
import TextWorld.Proofs.Session.Confinement
import TextWorld.Session.Prompted

/-!
# The protocol of a line

What a line of input asks of the world is written down here as a protocol: a
tree of operations, in which the answer to one operation decides which is used
next.  A protocol knows nothing of sessions, events or logs, and following one
stops at the first failure.  The main result is that every line of a live
session follows `lineProtocol`, whatever the world answers.
-/

namespace TextWorld

variable {σ : Type}

/-- What the world answers to a use of an operation that does not fail. -/
abbrev Call.Answer : Call → Type
  | .load _ => Entity
  | .run _ _ => Value
  | .runHook _ _ _ => HookOutcome
  | .matchObjects _ _ => BoundObjects
  | .matchVerb _ _ _ => Option VerbBinding

namespace Collaborators

/-- The reply of the world to a use of an operation. -/
def reply (collaborators : Collaborators σ) :
    (call : Call) → σ → Reply σ call.Answer
  | .load id, world => collaborators.load id world
  | .run code label, world => collaborators.run code label world
  | .runHook scope name arguments, world =>
      collaborators.runHook scope name arguments world
  | .matchObjects actor command, world =>
      collaborators.matchObjects actor command world
  | .matchVerb actor command objects, world =>
      collaborators.matchVerb actor command objects world

/-- The use of an operation fails in a state of the world. -/
def Fails (collaborators : Collaborators σ) (call : Call) (world : σ) : Prop :=
  ∃ failure after, collaborators.reply call world = (.error failure, after)

/-- The state of the world after operations were used one after the other. -/
def afterCalls (collaborators : Collaborators σ) (world : σ)
    (calls : List Call) : σ :=
  calls.foldl (fun state call => (collaborators.reply call state).2) world

@[simp]
theorem afterCalls_nil (collaborators : Collaborators σ) (world : σ) :
    collaborators.afterCalls world [] = world := rfl

@[simp]
theorem afterCalls_cons
    (collaborators : Collaborators σ)
    (world : σ)
    (call : Call)
    (calls : List Call) :
    collaborators.afterCalls world (call :: calls) =
      collaborators.afterCalls (collaborators.reply call world).2 calls := rfl

end Collaborators

/-! ## Protocols -/

/-- A way of using the operations of a world. -/
inductive Protocol where
  /-- Nothing is used. -/
  | done
  /-- One operation is used and then no other; it does not matter
  whether it fails. -/
  | notify (call : Call)
  /-- An operation is used, and its answer decides how to go on.  When it fails,
  the step of dispatch that it belongs to has failed. -/
  | ask (site : FailureSite) (call : Call) (next : call.Answer → Protocol)

/-- What came of following a protocol. -/
structure Conduct (σ : Type) where
  /-- The operations that were used, in order. -/
  calls : List Call
  /-- The step that failed, and how. -/
  failure? : Option (FailureSite × Failure)
  /-- The state of the world in the end. -/
  world : σ

/-- The conduct with earlier uses of operations. -/
def Conduct.precededBy (calls : List Call) (conduct : Conduct σ) : Conduct σ :=
  { conduct with calls := calls ++ conduct.calls }

@[simp]
theorem Conduct.precededBy_precededBy (first second : List Call)
    (conduct : Conduct σ) :
    (conduct.precededBy second).precededBy first =
      conduct.precededBy (first ++ second) := by
  simp only [precededBy, List.append_assoc]

namespace Protocol

/-- What comes of following a protocol, up to the first failure. -/
def follow (collaborators : Collaborators σ) : Protocol → σ → Conduct σ
  | .done, world => ⟨[], none, world⟩
  | .notify call, world => ⟨[call], none, (collaborators.reply call world).2⟩
  | .ask site call next, world =>
      match collaborators.reply call world with
      | (.ok answer, after) =>
          ((next answer).follow collaborators after).precededBy [call]
      | (.error failure, after) => ⟨[call], some (site, failure), after⟩

variable {collaborators : Collaborators σ} {site : FailureSite} {call : Call}
  {next : call.Answer → Protocol} {world after : σ}

theorem follow_ask_of_ok
    {answer : call.Answer}
    (answered : collaborators.reply call world = (.ok answer, after)) :
    (ask site call next).follow collaborators world =
      ((next answer).follow collaborators after).precededBy [call] := by
  rw [follow, answered]

theorem follow_ask_of_error
    {failure : Failure}
    (failed : collaborators.reply call world = (.error failure, after)) :
    (ask site call next).follow collaborators world =
      ⟨[call], some (site, failure), after⟩ := by
  rw [follow, failed]

/-- A protocol changes the world by nothing but the operations that it uses. -/
theorem follow_world
    (protocol : Protocol)
    (collaborators : Collaborators σ)
    (world : σ) :
    (protocol.follow collaborators world).world =
      collaborators.afterCalls world
        (protocol.follow collaborators world).calls := by
  induction protocol generalizing world with
  | done => rfl
  | notify call => rfl
  | ask site call next inductive_step =>
      rcases reply : collaborators.reply call world with
        ⟨failure | answer, after⟩
      · rw [follow_ask_of_error reply]
        simp [reply]
      · rw [follow_ask_of_ok reply]
        simpa [Conduct.precededBy, reply] using inductive_step answer after

theorem eq_nil_of_singleton_eq
    {only call : Call}
    {before rest : List Call}
    (equal : [only] = before ++ call :: rest) :
    rest = [] := by
  cases before with
  | nil => exact (List.cons.inj equal).2.symm
  | cons head before => simp at equal

/-- Only the last operation that a protocol uses can fail. -/
theorem eq_nil_of_fails
    {protocol : Protocol}
    {collaborators : Collaborators σ}
    {world : σ}
    {before rest : List Call}
    {call : Call}
    (used :
      (protocol.follow collaborators world).calls = before ++ call :: rest)
    (fails : collaborators.Fails call (collaborators.afterCalls world before)) :
    rest = [] := by
  induction protocol generalizing world before with
  | done => simp [follow] at used
  | notify only => exact eq_nil_of_singleton_eq used
  | ask site first next inductive_step =>
      rcases reply : collaborators.reply first world with
        ⟨failure | answer, after⟩
      · rw [follow_ask_of_error reply] at used
        exact eq_nil_of_singleton_eq used
      · rw [follow_ask_of_ok reply] at used
        cases before with
        | nil =>
            -- the first operation was answered, so it is not the one that fails
            rcases fails with ⟨failure, failed, fails⟩
            obtain ⟨rfl, -⟩ := List.cons.inj used
            cases reply.symm.trans fails
        | cons head before =>
            obtain ⟨rfl, later⟩ := List.cons.inj used
            apply inductive_step answer later
            simpa [reply] using fails

end Protocol

/-! ## How a line goes on with the world -/

/-- The objects and the verb of a command are sought, and it goes on with what
was found.  The player's location is asked only when there is no verb, and takes
the command if it has a handler for such commands. -/
def findVerb
    (player : Entity)
    (command : Command)
    (next : Option (BoundObjects × VerbBinding) → Protocol) :
    Protocol :=
  .ask .matching (.matchObjects player command) fun objects =>
    .ask .matching (.matchVerb player command objects) fun
      | some binding => next (some (objects, binding))
      | none =>
          match player.location with
          | none => next none
          | some location =>
              .ask .matching (.load location) fun place =>
                next (if place.verbMissing then
                    some (objects, .missing place.id)
                  else
                    none)

/-- The verb that was found for a command is run once; without a verb
nothing is run. -/
def runFound (player : Entity) (command : Command) :
    Option (BoundObjects × VerbBinding) → Protocol
  | some (objects, binding) =>
      let call := VerbCall.ofBinding binding player.id objects command
      .ask .runVerb (.run call.code call.label) fun _ => .done
  | none => .done

/-- A programmer's code is run once; quitting is told to the hook for it; and
any other command is sought and run. -/
def commandProtocol (player : Entity) (command : Command) : Protocol :=
  if command.verb = "eval" ∧ player.programmer = true then
    .ask .eval (.run (Snippet.unit command.argument player.id)
      ("Eval::" ++ player.id.text))
      fun _ => .done
  else if command.verb = "quit" then
    .notify (.runHook .system "onPlayerDisconnected" [.entity player.id])
  else
    findVerb player command (runFound player command)

/-- The player is loaded, the hook for lines is given the line as a literal, and
the command is parsed from what the hook returned if it ran and returned a
string, and else from the line. -/
def lineProtocol (vocabulary : Vocabulary) (id : EntityId)
    (line : String) : Protocol :=
  .ask .loadPlayer (.load id) fun player =>
    .ask .preprocess
      (.runHook .system "preprocessCommand"
        [.entity player.id, .string (Literal.escape line)])
      fun outcome =>
        commandProtocol player (.parse vocabulary (outcome.textFor line))

namespace Turn

variable {collaborators : Collaborators σ} {line : String} {player : Entity}
  {command : Command} {turn next : Turn σ} {calls : List Call}
  {outcome : Outcome} {id : EntityId}

/-- The step that failed, and how, if that is what a line came to. -/
def Outcome.failure? : Outcome → Option (FailureSite × Failure)
  | .failed site failure _ _ => some (site, failure)
  | _ => none

/-- Seeking a verb uses the operations of a matching, and stops or goes on as
the matching does. -/
theorem Matching.follow_findVerb
    {world after : σ}
    {answer : Except Failure (Option (BoundObjects × VerbBinding))}
    (matching :
      Matching collaborators player command world calls (answer, after))
    (go : Option (BoundObjects × VerbBinding) → Protocol) :
    (findVerb player command go).follow collaborators world =
      match answer with
      | .ok found => ((go found).follow collaborators after).precededBy calls
      | .error failure => ⟨calls, some (.matching, failure), after⟩ := by
  cases matching with
  | objectsFailed matchObjects =>
      simp only [findVerb, Protocol.follow, Collaborators.reply, matchObjects]
  | verbFailed matchObjects matchVerb =>
      simp only [findVerb, Protocol.follow, Collaborators.reply,
        matchObjects, matchVerb]
      rfl
  | matched matchObjects matchVerb =>
      simp only [findVerb, Protocol.follow, Collaborators.reply,
        matchObjects, matchVerb]
      rfl
  | nowhere matchObjects matchVerb noPlace =>
      simp only [findVerb, Protocol.follow, Collaborators.reply, matchObjects,
        matchVerb, noPlace]
      rfl
  | placeFailed matchObjects matchVerb somewhere load =>
      simp only [findVerb, Protocol.follow, Collaborators.reply, matchObjects,
        matchVerb, somewhere, load]
      rfl
  | placeDeclined matchObjects matchVerb somewhere load declines =>
      simp [findVerb, Protocol.follow, Collaborators.reply, matchObjects,
        matchVerb, somewhere, load, declines]
  | placeTook matchObjects matchVerb somewhere load takes =>
      simp [findVerb, Protocol.follow, Collaborators.reply, matchObjects,
        matchVerb, somewhere, load, takes]

/-- How a command goes on with the world is what is to become of it. -/
theorem commandProtocol_eq (player : Entity) (command : Command) :
    commandProtocol player command =
      match Disposition.of command player.programmer with
      | .eval =>
          .ask .eval (.run (Snippet.unit command.argument player.id)
            (Snippet.label player.id))
            fun _ => .done
      | .quit => .notify (disconnectCall player)
      | .resolve => findVerb player command (runFound player command) := by
  rw [commandProtocol, Disposition.of, evalVerb, quitVerb]
  split
  · rfl
  · split <;> rfl

theorem Dispatched.follow_commandProtocol
    (dispatched :
      Dispatched collaborators player command turn calls outcome next) :
    (commandProtocol player command).follow collaborators turn.world =
      ⟨calls, outcome.failure?, next.world⟩ := by
  rw [commandProtocol_eq]
  cases dispatched with
  | evaluated disposed run =>
      rw [disposed]
      exact Protocol.follow_ask_of_ok run
  | evaluationFailed disposed run =>
      rw [disposed]
      exact Protocol.follow_ask_of_error run
  | left disposed =>
      rw [disposed]
      have world := runHookBestEffort_world collaborators .system disconnectHook
        [.entity player.id] turn
      exact congrArg (Conduct.mk [disconnectCall player] none) world.symm
  | notUnderstood disposed matching =>
      rw [disposed]
      simp [matching.follow_findVerb, runFound, Protocol.follow,
        Conduct.precededBy, Outcome.failure?]
  | matchingFailed disposed matching =>
      rw [disposed]
      exact matching.follow_findVerb _
  | performed disposed matching bound run =>
      rw [disposed]
      subst bound
      simp [matching.follow_findVerb, runFound, Protocol.follow,
        Collaborators.reply, run, Conduct.precededBy, Outcome.failure?]
  | verbFailed disposed matching bound run =>
      rw [disposed]
      subst bound
      simp [matching.follow_findVerb, runFound, Protocol.follow,
        Collaborators.reply, run, Conduct.precededBy, Outcome.failure?]

/-- A line of a live session goes as the protocol of lines says. -/
theorem Course.follow_lineProtocol
    (live : turn.session.player = some id)
    (course : Course collaborators line turn calls outcome next) :
    (lineProtocol turn.session.vocabulary id line).follow
      collaborators turn.world =
      ⟨calls, outcome.failure?, next.world⟩ := by
  cases course with
  | ignored retired =>
      rw [live] at retired
      cases retired
  | unloaded embodied load =>
      cases live.symm.trans embodied
      exact Protocol.follow_ask_of_error load
  | unheard embodied load hook =>
      cases live.symm.trans embodied
      simp only [preprocessHook] at hook
      simp only [lineProtocol, Protocol.follow, Collaborators.reply, load, hook]
      rfl
  | heard embodied load hook dispatched =>
      cases live.symm.trans embodied
      have rest := dispatched.follow_commandProtocol
      simp only [afterHook] at rest
      simp only [preprocessHook] at hook
      simp only [lineProtocol, Protocol.follow, Collaborators.reply,
        load, hook, rest]
      rfl

/-! ## No step is taken twice -/

theorem Matching.nodup
    {world : σ}
    {reply : Reply σ (Option (BoundObjects × VerbBinding))}
    (matching : Matching collaborators player command world calls reply) :
    calls.Nodup := by
  cases matching <;> simp

/-- Matching uses nothing but the two kinds of matching and the
player's location. -/
theorem Matching.mem_cases
    {world : σ}
    {reply : Reply σ (Option (BoundObjects × VerbBinding))}
    {call : Call}
    (matching : Matching collaborators player command world calls reply)
    (used : call ∈ calls) :
    call = .matchObjects player command ∨
      (∃ objects, call = .matchVerb player command objects) ∨
        ∃ location,
          player.location = some location ∧ call = .load location := by
  cases matching <;> simp at used <;> grind

theorem Dispatched.nodup
    (dispatched :
      Dispatched collaborators player command turn calls outcome next) :
    calls.Nodup := by
  cases dispatched with
  | evaluated | evaluationFailed | left => exact List.nodup_singleton _
  | notUnderstood disposed matching => exact matching.nodup
  | matchingFailed disposed matching => exact matching.nodup
  | performed disposed matching bound run
  | verbFailed disposed matching bound run =>
      apply matching.nodup.append (List.nodup_singleton _)
      intro call used again
      have cases := matching.mem_cases used
      simp_all

/-- A dispatched command does not use the hook for lines, and loads nothing but
the player's location. -/
theorem Dispatched.mem_cases
    {call : Call}
    (dispatched :
      Dispatched collaborators player command turn calls outcome next)
    (used : call ∈ calls) :
    (∀ line, call ≠ preprocessCall player line) ∧
      ∀ place, call = .load place → player.location = some place := by
  simp only [preprocessCall]
  cases dispatched with
  | evaluated | evaluationFailed =>
      obtain rfl := List.mem_singleton.mp used
      simp
  | left =>
      obtain rfl := List.mem_singleton.mp used
      simp [disconnectCall, disconnectHook, preprocessHook]
  | notUnderstood disposed matching | matchingFailed disposed matching =>
      have cases := matching.mem_cases used
      grind
  | performed disposed matching bound run
  | verbFailed disposed matching bound run =>
      rcases List.mem_append.mp used with matched | ran
      · have cases := matching.mem_cases matched
        grind
      · obtain rfl := List.mem_singleton.mp ran
        simp

/-- After the player is loaded, a line uses no operation twice, and it loads
nothing but the player's location. -/
theorem Course.exists_calls
    (live : turn.session.player = some id)
    (course : Course collaborators line turn calls outcome next) :
    ∃ rest, calls = .load id :: rest ∧ rest.Nodup ∧
      ∀ place, .load place ∈ rest →
        ∃ player loaded,
          collaborators.load id turn.world = (.ok player, loaded) ∧
          player.location = some place := by
  cases course with
  | ignored retired =>
      rw [live] at retired
      cases retired
  | unloaded embodied load =>
      cases live.symm.trans embodied
      exact ⟨[], rfl, List.nodup_nil, nofun⟩
  | @unheard _ player _ _ _ embodied load hook =>
      cases live.symm.trans embodied
      exact ⟨[preprocessCall player line], rfl,
        List.nodup_singleton _, by simp [preprocessCall]⟩
  | @heard _ player _ _ _ calls _ _ embodied load hook dispatched =>
      cases live.symm.trans embodied
      refine ⟨preprocessCall player line :: calls, rfl, ?_, ?_⟩
      · apply List.nodup_cons.mpr
        constructor
        · intro again
          exact (dispatched.mem_cases again).1 line rfl
        · exact dispatched.nodup
      · intro place used
        rcases List.mem_cons.mp used with first | later
        · simp [preprocessCall] at first
        · exact ⟨_, _, load, (dispatched.mem_cases later).2 place rfl⟩

theorem Dispatched.length_runsOf_le
    (dispatched :
      Dispatched collaborators player command turn calls outcome next) :
    (runsOf calls).length ≤ 1 := by
  cases dispatched with
  | evaluated | evaluationFailed => exact Nat.le_refl 1
  | left => exact Nat.zero_le 1
  | notUnderstood disposed matching | matchingFailed disposed matching =>
      rw [matching.runsOf_eq_nil]
      exact Nat.zero_le 1
  | performed disposed matching bound run
  | verbFailed disposed matching bound run =>
      rw [runsOf_append, matching.runsOf_eq_nil]
      exact Nat.le_refl 1

theorem Course.length_runsOf_le
    (course : Course collaborators line turn calls outcome next) :
    (runsOf calls).length ≤ 1 := by
  cases course with
  | ignored | unloaded | unheard => exact Nat.zero_le 1
  | heard live load hook dispatched =>
      rw [runsOf_append]
      exact dispatched.length_runsOf_le

/-! ## The main result -/

/--
A line of a live session uses the operations that the protocol of lines uses,
one after the other, and changes the world by nothing else.  Nothing is used
after a failure.  After the player was loaded, no operation is used twice, and
the player itself is loaded again only as its own location.  Code is run once
at most.  Unless the line is a command to quit, the session and the registry
stay as they were.
-/
theorem line_follows_protocol
    (live : turn.session.player = some id) :
    turn.callsOf collaborators line =
        ((lineProtocol turn.session.vocabulary id line).follow collaborators
          turn.world).calls ∧
      (turn.onInput collaborators line).world =
        collaborators.afterCalls turn.world (turn.callsOf collaborators line) ∧
      (∀ before call rest,
        turn.callsOf collaborators line = before ++ call :: rest →
        collaborators.Fails call (collaborators.afterCalls turn.world before) →
        rest = []) ∧
      (∃ rest, turn.callsOf collaborators line = .load id :: rest ∧ rest.Nodup ∧
        ∀ place, .load place ∈ rest →
          ∃ player loaded,
            collaborators.load id turn.world = (.ok player, loaded) ∧
            player.location = some place) ∧
      (runsOf (turn.callsOf collaborators line)).length ≤ 1 ∧
      (¬ turn.Quits collaborators line →
        (turn.onInput collaborators line).session = turn.session ∧
          (turn.onInput collaborators line).registry = turn.registry) := by
  rcases onInput_course_callsOf collaborators line turn with ⟨outcome, course⟩
  have followed := course.follow_lineProtocol live
  have used :
      ((lineProtocol turn.session.vocabulary id line).follow collaborators
        turn.world).calls =
        turn.callsOf collaborators line := by
    rw [followed]
  refine ⟨used.symm, ?_, ?_, course.exists_calls live,
    course.length_runsOf_le, ?_⟩
  · rw [← used, ← Protocol.follow_world, followed]
  · intro before call rest split fails
    exact Protocol.eq_nil_of_fails (used.trans split) fails
  · intro stays
    have notLeft : outcome ≠ .left :=
      fun left => stays (course.left_iff.mp left)
    rw [course.session_eq, outcome.session_eq_of_ne_left turn.session notLeft]
    exact ⟨rfl, course.registry_eq notLeft⟩

/-- A user is about to type in a place that takes what nothing else takes, but
whose handler for that fails.  The hook for lines corrects the spelling. -/
def misspelling : Turn PromptedWorld where
  session := .start "anna" ⟨7⟩ {}
  registry := .register {} ⟨7⟩ "anna"
  world :=
    { entities :=
        [(⟨7⟩, { id := ⟨7⟩, location := some ⟨1⟩ }),
          (⟨1⟩, { id := ⟨1⟩, verbMissing := true })]
      hooks := [("preprocessCommand", .ok ⟨true, .string "dance"⟩)]
      value := .error (.internal "the floor is wet") }

/-- A corrected line that nothing matches is run by the place, after all that
the protocol asks. -/
theorem corrected_line_is_run_by_place :
    let command : Command := { verb := "dance" }
    let player : Entity := { id := ⟨7⟩, location := some ⟨1⟩ }
    let calls := misspelling.callsOf PromptedWorld.collaborators "dnace"
    calls =
        [.load ⟨7⟩,
          .runHook .system "preprocessCommand"
            [.entity ⟨7⟩, .string "\"dnace\""],
          .matchObjects player command,
          .matchVerb player command {},
          .load ⟨1⟩,
          .run
            "#1[\"verbMissing\"](#7, void 0, void 0, \"dance\", \"\", \"\", \"\", \"\")"
            "Verb::#1.verbMissing"] ∧
      (∀ before call rest, calls = before ++ call :: rest →
        PromptedWorld.collaborators.Fails call
          (PromptedWorld.collaborators.afterCalls misspelling.world before) →
          rest = []) ∧
      (¬ misspelling.Quits PromptedWorld.collaborators "dnace" →
        (misspelling.onInput PromptedWorld.collaborators "dnace").session =
            misspelling.session ∧
          (misspelling.onInput PromptedWorld.collaborators "dnace").registry =
            misspelling.registry) := by
  have live : misspelling.session.player = some ⟨7⟩ := rfl
  rcases line_follows_protocol live with ⟨used, -, ends, -, -, unchanged⟩
  refine ⟨used.trans ?_, ends, unchanged⟩
  decide +kernel

end Turn

end TextWorld
