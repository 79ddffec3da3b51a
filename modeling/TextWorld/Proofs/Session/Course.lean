import TextWorld.Session.Dispatch

/-!
# The course of a turn

A line of input can go in ten ways, from being ignored to having a verb run.
`Course` lists them: each case names the replies of the world on which it
depends, the operations that were used, in order, and what the line came to.
Every turn takes one of these courses, so that a statement about turns is a case
analysis over them.
-/

namespace TextWorld

variable {σ : Type}

/-- The text to parse when the hook gave this outcome for a line: the string
that a hook returned which ran, and the line in every other case. -/
def HookOutcome.textFor (outcome : HookOutcome) (line : String) : String :=
  match outcome with
  | { ran := true, value := .string text } => text
  | _ => line

/-- What is logged about an outcome of the hook for lines. -/
def HookOutcome.notes (outcome : HookOutcome) (spans : List LogSpan) :
    List LogRecord :=
  match outcome with
  | { ran := false, value := _ } => []
  | { ran := true, value := .string _ } => []
  | { ran := true, value } =>
      [{ level := .debug
         message := "preprocess hook returned a non-string; parsing raw input"
         fields := [("returned", value.typeName)]
         spans := spans }]

namespace Turn

/-! ## Changes of a turn -/

section Changes

variable (turn : Turn σ) (world : σ) (event : Event) (level : LogLevel)
  (message : String)
  (fields : List (String × String)) (site : FailureSite) (failure : Failure)
  (player : EntityId) (privileged : Bool)

@[simp]
theorem inWorld_session : (turn.inWorld world).session = turn.session := rfl

@[simp]
theorem inWorld_world : (turn.inWorld world).world = world := rfl

@[simp]
theorem inWorld_events : (turn.inWorld world).events = turn.events := rfl

@[simp]
theorem emit_session : (turn.emit event).session = turn.session := rfl

@[simp]
theorem emit_world : (turn.emit event).world = turn.world := rfl

@[simp]
theorem emit_events : (turn.emit event).events = turn.events ++ [event] := rfl

@[simp]
theorem log_session :
    (turn.log level message fields).session = turn.session := rfl

@[simp]
theorem log_world : (turn.log level message fields).world = turn.world := rfl

@[simp]
theorem log_events : (turn.log level message fields).events = turn.events := rfl

@[simp]
theorem contain_session :
    (turn.contain site failure player privileged).session = turn.session := rfl

@[simp]
theorem contain_world :
    (turn.contain site failure player privileged).world = turn.world := rfl

@[simp]
theorem contain_events :
    (turn.contain site failure player privileged).events =
      turn.events ++
        [.output (Style.error turn.session.config.color
            (failure.disclosed privileged))] := rfl

end Changes

/-! ## What a turn comes to -/

/-- What a line of input came to. -/
inductive Outcome where
  /-- The session was retired. -/
  | ignored
  /-- A step failed, and the player was told with or without privilege. -/
  | failed (site : FailureSite) (failure : Failure) (player : EntityId)
      (privileged : Bool)
  /-- Code of a programmer gave a value. -/
  | evaluated (value : Value)
  /-- The player quit. -/
  | left
  /-- No verb was found. -/
  | notUnderstood
  /-- A verb ran. -/
  | performed

/-- The turn after the hook for lines gave an outcome. -/
def afterHook (outcome : HookOutcome) (world : σ) (turn : Turn σ) : Turn σ :=
  { turn with
    world := world
    records := turn.records ++ outcome.notes turn.session.spans }

/-- What is logged when a command is not evaluated for want of privilege. -/
def declineNotes (command : Command) (spans : List LogSpan) : List LogRecord :=
  if command.verb = evalVerb then
    [{ level := .debug, message := "eval declined for non-programmer",
       spans := spans }]
  else
    []

/-- The turn in which a command is to be resolved. -/
def resolving (command : Command) (turn : Turn σ) : Turn σ :=
  { turn with
      records := turn.records ++ declineNotes command turn.session.spans }

/-- The use of the hook that may replace a line. -/
def preprocessCall (player : Entity) (line : String) : Call :=
  .runHook .system preprocessHook
    [.entity player.id, .string (Literal.escape line)]

/-- The use of the hook that is told when a player quits. -/
def disconnectCall (player : Entity) : Call :=
  .runHook .system disconnectHook [.entity player.id]

/-- How the objects and the verb of a command are matched, with the
operations used. -/
inductive Matching
    (collaborators : Collaborators σ)
    (player : Entity)
    (command : Command)
    (world : σ) :
    List Call → Reply σ (Option (BoundObjects × VerbBinding)) → Prop where
  | objectsFailed {failure : Failure} {after : σ}
      (matchObjects : collaborators.matchObjects player command world =
        (.error failure, after)) :
      Matching collaborators player command world
        [.matchObjects player command] (.error failure, after)
  | verbFailed {objects : BoundObjects} {between : σ}
      {failure : Failure} {after : σ}
      (matchObjects : collaborators.matchObjects player command world =
        (.ok objects, between))
      (matchVerb :
        collaborators.matchVerb player command objects between =
          (.error failure, after)) :
      Matching collaborators player command world
        [.matchObjects player command, .matchVerb player command objects]
        (.error failure, after)
  | matched {objects : BoundObjects} {between : σ}
      {binding : VerbBinding} {after : σ}
      (matchObjects : collaborators.matchObjects player command world =
        (.ok objects, between))
      (matchVerb :
        collaborators.matchVerb player command objects between =
          (.ok (some binding), after)) :
      Matching collaborators player command world
        [.matchObjects player command, .matchVerb player command objects]
        (.ok (some (objects, binding)), after)
  | nowhere {objects : BoundObjects} {between after : σ}
      (matchObjects : collaborators.matchObjects player command world =
        (.ok objects, between))
      (matchVerb : collaborators.matchVerb player command objects between =
        (.ok none, after))
      (noPlace : player.location = none) :
      Matching collaborators player command world
        [.matchObjects player command, .matchVerb player command objects]
        (.ok none, after)
  | placeFailed {objects : BoundObjects} {between unmatched : σ}
      {location : EntityId} {failure : Failure} {after : σ}
      (matchObjects : collaborators.matchObjects player command world =
        (.ok objects, between))
      (matchVerb : collaborators.matchVerb player command objects between =
        (.ok none, unmatched))
      (somewhere : player.location = some location)
      (load : collaborators.load location unmatched = (.error failure, after)) :
      Matching collaborators player command world
        [.matchObjects player command,
          .matchVerb player command objects, .load location]
        (.error failure, after)
  | placeDeclined {objects : BoundObjects} {between unmatched : σ}
      {location : EntityId} {place : Entity} {after : σ}
      (matchObjects : collaborators.matchObjects player command world =
        (.ok objects, between))
      (matchVerb : collaborators.matchVerb player command objects between =
        (.ok none, unmatched))
      (somewhere : player.location = some location)
      (load : collaborators.load location unmatched = (.ok place, after))
      (declines : place.verbMissing = false) :
      Matching collaborators player command world
        [.matchObjects player command,
          .matchVerb player command objects, .load location]
        (.ok none, after)
  | placeTook {objects : BoundObjects} {between unmatched : σ}
      {location : EntityId} {place : Entity} {after : σ}
      (matchObjects : collaborators.matchObjects player command world =
        (.ok objects, between))
      (matchVerb : collaborators.matchVerb player command objects between =
        (.ok none, unmatched))
      (somewhere : player.location = some location)
      (load : collaborators.load location unmatched = (.ok place, after))
      (takes : place.verbMissing = true) :
      Matching collaborators player command world
        [.matchObjects player command,
          .matchVerb player command objects, .load location]
        (.ok (some (objects, .missing place.id)), after)

/-- The ways in which a command is dispatched, each with the operations that it
uses, what it comes to, and the turn in which it ends. -/
inductive Dispatched
    (collaborators : Collaborators σ)
    (player : Entity)
    (command : Command)
    (turn : Turn σ) :
    List Call → Outcome → Turn σ → Prop where
  | evaluated {value : Value} {after : σ}
      (disposed : Disposition.of command player.programmer = .eval)
      (run : collaborators.run (Snippet.unit command.argument player.id)
        (Snippet.label player.id) turn.world = (.ok value, after)) :
      Dispatched collaborators player command turn
        [.run (Snippet.unit command.argument player.id)
          (Snippet.label player.id)]
        (.evaluated value)
        (((turn.log .debug "eval"
          [("code", Snippet.unit command.argument player.id)]).inWorld
          after).emit
            (.output
              (value.display { depth := turn.session.config.evalDepth })))
  | evaluationFailed {failure : Failure} {after : σ}
      (disposed : Disposition.of command player.programmer = .eval)
      (run : collaborators.run (Snippet.unit command.argument player.id)
        (Snippet.label player.id) turn.world = (.error failure, after)) :
      Dispatched collaborators player command turn
        [.run (Snippet.unit command.argument player.id)
          (Snippet.label player.id)]
        (.failed .eval failure player.id true)
        (((turn.log .debug "eval"
          [("code", Snippet.unit command.argument player.id)]).inWorld
          after).contain
            .eval failure player.id true)
  | left
      (disposed : Disposition.of command player.programmer = .quit) :
      Dispatched collaborators player command turn [disconnectCall player] .left
        (turn.quit collaborators player)
  | notUnderstood {calls : List Call} {after : σ}
      (disposed : Disposition.of command player.programmer = .resolve)
      (matching : Matching collaborators player command turn.world calls
        (.ok none, after)) :
      Dispatched collaborators player command turn calls .notUnderstood
        (((turn.resolving command).inWorld after).emit
          (.output (Style.muted turn.session.config.color
              turn.session.config.notUnderstood)))
  | matchingFailed {calls : List Call} {failure : Failure} {after : σ}
      (disposed : Disposition.of command player.programmer = .resolve)
      (matching : Matching collaborators player command turn.world calls
        (.error failure, after)) :
      Dispatched collaborators player command turn calls
        (.failed .matching failure player.id player.programmer)
        (((turn.resolving command).inWorld after).contain
          .matching failure player.id player.programmer)
  | performed {calls : List Call} {objects : BoundObjects}
      {binding : VerbBinding} {matched : σ} {call : VerbCall}
      {value : Value} {after : σ}
      (disposed : Disposition.of command player.programmer = .resolve)
      (matching : Matching collaborators player command turn.world calls
        (.ok (some (objects, binding)), matched))
      (bound : call = .ofBinding binding player.id objects command)
      (run :
        collaborators.run call.code call.label matched = (.ok value, after)) :
      Dispatched collaborators player command turn
        (calls ++ [.run call.code call.label])
        .performed
        ((((turn.resolving command).inWorld matched).log .debug "run verb"
          [("code", call.code)]).inWorld after)
  | verbFailed {calls : List Call} {objects : BoundObjects}
      {binding : VerbBinding} {matched : σ} {call : VerbCall}
      {failure : Failure} {after : σ}
      (disposed : Disposition.of command player.programmer = .resolve)
      (matching : Matching collaborators player command turn.world calls
        (.ok (some (objects, binding)), matched))
      (bound : call = .ofBinding binding player.id objects command)
      (run : collaborators.run call.code call.label matched =
        (.error failure, after)) :
      Dispatched collaborators player command turn
        (calls ++ [.run call.code call.label])
        (.failed .runVerb failure player.id player.programmer)
        (((((turn.resolving command).inWorld matched).log .debug "run verb"
          [("code", call.code)]).inWorld after).contain
            .runVerb failure player.id player.programmer)

/-- The ways in which a line of input goes, each with the operations that it
uses, what it comes to, and the turn in which it ends. -/
inductive Course
    (collaborators : Collaborators σ)
    (line : String)
    (turn : Turn σ) :
    List Call → Outcome → Turn σ → Prop where
  | ignored
      (retired : turn.session.player = none) :
      Course collaborators line turn [] .ignored
        (turn.log .debug "input after quit ignored" [])
  | unloaded {id : EntityId} {failure : Failure} {after : σ}
      (live : turn.session.player = some id)
      (load : collaborators.load id turn.world = (.error failure, after)) :
      Course collaborators line turn [.load id]
        (.failed .loadPlayer failure id false)
        ((turn.inWorld after).contain .loadPlayer failure id false)
  | unheard {id : EntityId} {player : Entity} {loaded : σ}
      {failure : Failure} {after : σ}
      (live : turn.session.player = some id)
      (load : collaborators.load id turn.world = (.ok player, loaded))
      (hook : collaborators.runHook .system preprocessHook
        [.entity player.id, .string (Literal.escape line)] loaded =
          (.error failure, after)) :
      Course collaborators line turn [.load id, preprocessCall player line]
        (.failed .preprocess failure player.id player.programmer)
        ((turn.inWorld after).contain .preprocess failure player.id
          player.programmer)
  | heard {id : EntityId} {player : Entity} {loaded : σ}
      {reply : HookOutcome} {after : σ} {calls : List Call}
      {outcome : Outcome} {next : Turn σ}
      (live : turn.session.player = some id)
      (load : collaborators.load id turn.world = (.ok player, loaded))
      (hook : collaborators.runHook .system preprocessHook
        [.entity player.id, .string (Literal.escape line)] loaded =
          (.ok reply, after))
      (dispatched : Dispatched collaborators player
        (.parse turn.session.vocabulary (reply.textFor line))
        (turn.afterHook reply after)
          calls outcome next) :
      Course collaborators line turn
        ([.load id, preprocessCall player line] ++ calls) outcome next

/-! ## Every turn takes a course -/

/-- A hook for lines that fails leaves nothing to parse. -/
theorem preprocess_of_error
    {collaborators : Collaborators σ}
    {player : Entity}
    {line : String}
    {turn : Turn σ}
    {failure : Failure}
    {after : σ}
    (hook : collaborators.runHook .system preprocessHook
      [.entity player.id, .string (Literal.escape line)] turn.world =
        (.error failure, after)) :
    turn.preprocess collaborators player line =
      (.error failure, turn.inWorld after) := by
  simp only [preprocess, hook]

/-- A hook for lines that gives an outcome gives the text to parse. -/
theorem preprocess_of_ok
    {collaborators : Collaborators σ}
    {player : Entity}
    {line : String}
    {turn : Turn σ}
    {reply : HookOutcome}
    {after : σ}
    (hook : collaborators.runHook .system preprocessHook
      [.entity player.id, .string (Literal.escape line)] turn.world =
        (.ok reply, after)) :
    turn.preprocess collaborators player line =
      (.ok (reply.textFor line), turn.afterHook reply after) := by
  rcases reply with ⟨ran, value⟩
  simp only [preprocess, hook, HookOutcome.ranValue?]
  cases ran with
  | false => simp [HookOutcome.textFor, HookOutcome.notes, afterHook, inWorld]
  | true =>
      cases value <;> simp [HookOutcome.textFor, HookOutcome.notes, afterHook,
        inWorld, log, write]

/-- Every command is matched in one of the ways. -/
theorem matchCommand_matching
    (collaborators : Collaborators σ)
    (player : Entity)
    (command : Command)
    (world : σ) :
    ∃ calls, Matching collaborators player command world calls
      (matchCommand collaborators player command world) := by
  rcases matchObjects : collaborators.matchObjects player command world with
    ⟨failure | objects, between⟩
  · simp only [matchCommand, matchObjects]
    exact ⟨_, .objectsFailed matchObjects⟩
  rcases matchVerb : collaborators.matchVerb player command objects between with
    ⟨failure | _ | binding, unmatched⟩
  · simp only [matchCommand, matchObjects, matchVerb]
    exact ⟨_, .verbFailed matchObjects matchVerb⟩
  · cases somewhere : player.location with
    | none =>
        simp only [matchCommand, matchObjects, matchVerb, somewhere]
        exact ⟨_, .nowhere matchObjects matchVerb somewhere⟩
    | some location =>
        rcases load : collaborators.load location unmatched with
          ⟨failure | place, after⟩
        · simp only [matchCommand, matchObjects, matchVerb, somewhere, load]
          exact ⟨_, .placeFailed matchObjects matchVerb somewhere load⟩
        cases takes : place.verbMissing with
        | false =>
            simp only [matchCommand, matchObjects, matchVerb,
              somewhere, load, takes]
            exact ⟨_,
              .placeDeclined matchObjects matchVerb somewhere load takes⟩
        | true =>
            simp only [matchCommand, matchObjects, matchVerb,
              somewhere, load, takes]
            exact ⟨_, .placeTook matchObjects matchVerb somewhere load takes⟩
  · simp only [matchCommand, matchObjects, matchVerb]
    exact ⟨_, .matched matchObjects matchVerb⟩

@[simp]
theorem resolving_session (command : Command) (turn : Turn σ) :
    (turn.resolving command).session = turn.session := rfl

@[simp]
theorem resolving_world (command : Command) (turn : Turn σ) :
    (turn.resolving command).world = turn.world := rfl

@[simp]
theorem resolving_events (command : Command) (turn : Turn σ) :
    (turn.resolving command).events = turn.events := rfl

/-- A command that is neither evaluated nor quits is resolved, with a note if
it was declined. -/
theorem dispatch_of_resolve
    {collaborators : Collaborators σ}
    {player : Entity}
    {command : Command}
    {turn : Turn σ}
    (disposed : Disposition.of command player.programmer = .resolve) :
    turn.dispatch collaborators player command =
      (turn.resolving command).resolve collaborators player command := by
  by_cases declined : command.verb = evalVerb
  · simp only [dispatch, disposed, resolving, declineNotes, if_pos declined]
    rfl
  · simp only [dispatch, disposed, resolving, declineNotes, if_neg declined,
      List.append_nil]

/-- Every command is dispatched in one of the ways. -/
theorem dispatch_dispatched
    (collaborators : Collaborators σ)
    (player : Entity)
    (command : Command)
    (turn : Turn σ) :
    ∃ calls outcome, Dispatched collaborators player command turn calls outcome
      (turn.dispatch collaborators player command) := by
  cases disposed : Disposition.of command player.programmer with
  | eval =>
      rcases run : collaborators.run (Snippet.unit command.argument player.id)
        (Snippet.label player.id) turn.world with ⟨failure | value, after⟩
      · simp only [dispatch, disposed, eval, log_world, run]
        exact ⟨_, _, .evaluationFailed disposed run⟩
      · simp only [dispatch, disposed, eval, log_world, run]
        exact ⟨_, _, .evaluated disposed run⟩
  | quit =>
      simp only [dispatch, disposed]
      exact ⟨_, _, .left disposed⟩
  | resolve =>
      obtain ⟨calls, matching⟩ :=
        matchCommand_matching collaborators player command turn.world
      rw [dispatch_of_resolve disposed]
      rcases reply : matchCommand collaborators player command turn.world with
        ⟨failure | _ | ⟨objects, binding⟩, matched⟩
      · rw [reply] at matching
        simp only [resolve, resolving_world, reply]
        exact ⟨_, _, .matchingFailed disposed matching⟩
      · rw [reply] at matching
        simp only [resolve, resolving_world, resolving_session, reply]
        exact ⟨_, _, .notUnderstood disposed matching⟩
      · rw [reply] at matching
        simp only [resolve, resolving_world, reply, runVerb,
          log_world, inWorld_world]
        generalize bound :
            VerbCall.ofBinding binding player.id objects command = call
        rcases run : collaborators.run call.code call.label matched with
          ⟨failure | value, after⟩
        · exact ⟨_, _, .verbFailed disposed matching bound.symm run⟩
        · exact ⟨_, _, .performed disposed matching bound.symm run⟩

/-- Every line of input takes one of the courses. -/
theorem onInput_course
    (collaborators : Collaborators σ)
    (line : String)
    (turn : Turn σ) :
    ∃ calls outcome, Course collaborators line turn calls outcome
      (turn.onInput collaborators line) := by
  cases live : turn.session.player with
  | none =>
      rw [onInput_of_retired collaborators line live]
      exact ⟨_, _, .ignored live⟩
  | some id =>
      rcases load : collaborators.load id turn.world with
        ⟨failure | player, loaded⟩
      · simp only [onInput, live, load]
        exact ⟨_, _, .unloaded live load⟩
      rcases hook : collaborators.runHook .system preprocessHook
        [.entity player.id, .string (Literal.escape line)] loaded with
          ⟨failure | reply, after⟩
      · have failed :
            (turn.inWorld loaded).preprocess collaborators player line =
              (.error failure, turn.inWorld after) :=
          preprocess_of_error hook
        simp only [onInput, live, load, onLine, failed]
        exact ⟨_, _, .unheard live load hook⟩
      · have heard :
            (turn.inWorld loaded).preprocess collaborators player line =
              (.ok (reply.textFor line), turn.afterHook reply after) :=
          preprocess_of_ok hook
        simp only [onInput, live, load, onLine, heard]
        obtain ⟨calls, outcome, dispatched⟩ :=
          dispatch_dispatched collaborators player
            (.parse turn.session.vocabulary (reply.textFor line))
            (turn.afterHook reply after)
        exact ⟨_, _, .heard live load hook dispatched⟩

/-! ## A course determines the turn -/

variable {collaborators : Collaborators σ} {line : String} {player : Entity}
  {command : Command} {turn next : Turn σ} {calls : List Call}
  {outcome : Outcome}

/-- The reply of a matching is the one that the command gets. -/
theorem Matching.matchCommand_eq
    {world : σ}
    {reply : Reply σ (Option (BoundObjects × VerbBinding))}
    (matching : Matching collaborators player command world calls reply) :
    matchCommand collaborators player command world = reply := by
  cases matching with
  | objectsFailed matchObjects => simp only [matchCommand, matchObjects]
  | verbFailed matchObjects matchVerb =>
      simp only [matchCommand, matchObjects, matchVerb]
  | matched matchObjects matchVerb =>
      simp only [matchCommand, matchObjects, matchVerb]
  | nowhere matchObjects matchVerb noPlace =>
      simp only [matchCommand, matchObjects, matchVerb, noPlace]
  | placeFailed matchObjects matchVerb somewhere load =>
      simp only [matchCommand, matchObjects, matchVerb, somewhere, load]
  | placeDeclined matchObjects matchVerb somewhere load declines =>
      simp [matchCommand, matchObjects, matchVerb, somewhere, load, declines]
  | placeTook matchObjects matchVerb somewhere load takes =>
      simp only [matchCommand, matchObjects, matchVerb, somewhere,
        load, takes, if_true]

/-- A dispatch ends in the turn that the command ends in. -/
theorem Dispatched.dispatch_eq
    (dispatched :
      Dispatched collaborators player command turn calls outcome next) :
    turn.dispatch collaborators player command = next := by
  cases dispatched with
  | evaluated disposed run =>
      simp only [dispatch, disposed, eval, log_world, run]; rfl
  | evaluationFailed disposed run =>
      simp only [dispatch, disposed, eval, log_world, run]
  | left disposed => simp only [dispatch, disposed]
  | notUnderstood disposed matching =>
      rw [dispatch_of_resolve disposed]
      simp only [resolve, resolving_world, matching.matchCommand_eq,
        resolving_session]
  | matchingFailed disposed matching =>
      rw [dispatch_of_resolve disposed]
      simp only [resolve, resolving_world, matching.matchCommand_eq]
  | performed disposed matching bound run =>
      rw [dispatch_of_resolve disposed]
      simp only [resolve, resolving_world, matching.matchCommand_eq, runVerb,
        ← bound, log_world, inWorld_world, run]
  | verbFailed disposed matching bound run =>
      rw [dispatch_of_resolve disposed]
      simp only [resolve, resolving_world, matching.matchCommand_eq, runVerb,
        ← bound, log_world, inWorld_world, run]

/-- A course ends in the turn that the line ends in. -/
theorem Course.onInput_eq
    (course : Course collaborators line turn calls outcome next) :
    turn.onInput collaborators line = next := by
  cases course with
  | ignored retired => exact onInput_of_retired collaborators line retired
  | unloaded live load => simp only [onInput, live, load]
  | unheard live load hook =>
      simp only [onInput, live, load, onLine]
      rw [preprocess_of_error hook]
      rfl
  | heard live load hook dispatched =>
      simp only [onInput, live, load, onLine]
      rw [preprocess_of_ok hook]
      exact dispatched.dispatch_eq

/-- Once the player is loaded, the hook for lines fails, or the
command is dispatched. -/
theorem Course.of_load
    {id : EntityId}
    {loaded : σ}
    (live : turn.session.player = some id)
    (load : collaborators.load id turn.world = (.ok player, loaded))
    (course : Course collaborators line turn calls outcome next) :
    (∃ failure after,
        collaborators.runHook .system preprocessHook
            [.entity player.id, .string (Literal.escape line)] loaded =
                (.error failure, after) ∧
          calls = [.load id, preprocessCall player line]) ∨
      ∃ reply after dispatched,
        collaborators.runHook .system preprocessHook
            [.entity player.id, .string (Literal.escape line)] loaded =
                (.ok reply, after) ∧
          calls = [.load id, preprocessCall player line] ++ dispatched ∧
          Dispatched collaborators player
            (.parse turn.session.vocabulary (reply.textFor line))
            (turn.afterHook reply after)
              dispatched outcome next := by
  cases course with
  | ignored retired =>
      rw [live] at retired
      cases retired
  | unloaded embodied failed =>
      cases live.symm.trans embodied
      cases load.symm.trans failed
  | unheard embodied found hook =>
      cases live.symm.trans embodied
      cases load.symm.trans found
      exact .inl ⟨_, _, hook, rfl⟩
  | heard embodied found hook dispatched =>
      cases live.symm.trans embodied
      cases load.symm.trans found
      exact .inr ⟨_, _, _, hook, rfl, dispatched⟩

/-! ## What a turn sends, and what becomes of the session -/

/-- What is sent when a line comes to the outcome. -/
def Outcome.events (session : Session) : Outcome → List Event
  | .ignored => []
  | .failed _ failure _ privileged =>
      [.output
        (Style.error session.config.color (failure.disclosed privileged))]
  | .evaluated value =>
      [.output (value.display { depth := session.config.evalDepth })]
  | .left => [.setPrompt session.user, .output session.config.farewell]
  | .notUnderstood =>
      [.output (Style.muted session.config.color session.config.notUnderstood)]
  | .performed => []

/-- The session after a line came to the outcome. -/
def Outcome.session (session : Session) : Outcome → Session
  | .left => session.retired
  | _ => session

@[simp]
theorem quit_events
    (collaborators : Collaborators σ)
    (player : Entity)
    (turn : Turn σ) :
    (turn.quit collaborators player).events =
      turn.events ++
        [.setPrompt turn.session.user,
          .output turn.session.config.farewell] := by
  simp [quit, runHookBestEffort]

@[simp]
theorem quit_session
    (collaborators : Collaborators σ)
    (player : Entity)
    (turn : Turn σ) :
    (turn.quit collaborators player).session = turn.session.retired := rfl

/-- A dispatched command sends what its outcome says. -/
theorem Dispatched.events_eq
    (dispatched :
      Dispatched collaborators player command turn calls outcome next) :
    next.events = turn.events ++ outcome.events turn.session := by
  cases dispatched <;> simp [Outcome.events]

/-- A line of input sends what its outcome says. -/
theorem Course.events_eq
    (course : Course collaborators line turn calls outcome next) :
    next.events = turn.events ++ outcome.events turn.session := by
  cases course with
  | ignored retired => simp [Outcome.events]
  | unloaded live load => simp [Outcome.events]
  | unheard live load hook => simp [Outcome.events]
  | heard live load hook dispatched => exact dispatched.events_eq

/-- A dispatched command leaves the session as its outcome says. -/
theorem Dispatched.session_eq
    (dispatched :
      Dispatched collaborators player command turn calls outcome next) :
    next.session = outcome.session turn.session := by
  cases dispatched <;> simp [Outcome.session]

/-- A line of input leaves the session as its outcome says. -/
theorem Course.session_eq
    (course : Course collaborators line turn calls outcome next) :
    next.session = outcome.session turn.session := by
  cases course with
  | ignored retired => rfl
  | unloaded live load => rfl
  | unheard live load hook => rfl
  | heard live load hook dispatched => exact dispatched.session_eq

/-! ## Quitting -/

/-- A hook leaves the world as it does, even when it fails and
nobody waits for it. -/
theorem runHookBestEffort_world
    (collaborators : Collaborators σ)
    (scope : HookScope)
    (name : String)
    (arguments : List Value)
    (turn : Turn σ) :
    (turn.runHookBestEffort collaborators scope name arguments).world =
      (collaborators.runHook scope name arguments turn.world).2 := by
  rw [runHookBestEffort, Collaborators.runHookBestEffort]
  rcases collaborators.runHook scope name arguments turn.world with
    ⟨_ | _, _⟩ <;> rfl

/-- The line is a command to quit: the player is loaded, the hook for lines does
not fail, and the command that is parsed is disposed of by quitting. -/
def Quits (collaborators : Collaborators σ) (line : String)
    (turn : Turn σ) : Prop :=
  ∃ id player loaded reply heard,
    turn.session.player = some id ∧
      collaborators.load id turn.world = (.ok player, loaded) ∧
        collaborators.runHook .system preprocessHook
            [.entity player.id, .string (Literal.escape line)] loaded =
                (.ok reply, heard) ∧
          Disposition.of (.parse turn.session.vocabulary (reply.textFor line))
            player.programmer = .quit

/-- A dispatched command makes the player quit if that is what is
to become of it. -/
theorem Dispatched.left_iff
    (dispatched :
      Dispatched collaborators player command turn calls outcome next) :
    outcome = .left ↔ Disposition.of command player.programmer = .quit := by
  cases dispatched <;> simp [*]

/-- A line makes the player quit if it is a command to quit. -/
theorem Course.left_iff
    (course : Course collaborators line turn calls outcome next) :
    outcome = .left ↔ turn.Quits collaborators line := by
  constructor
  · intro left
    cases course with
    | ignored retired => cases left
    | unloaded live load => cases left
    | unheard live load hook => cases left
    | heard live load hook dispatched =>
        exact ⟨_, _, _, _, _, live, load, hook, dispatched.left_iff.mp left⟩
  · rintro ⟨id, player, loaded, reply, heard, live, load, hook, quits⟩
    rcases course.of_load live load with
      ⟨failure, after, failed, -⟩ | ⟨_, _, _, answered, -, rest⟩
    · cases hook.symm.trans failed
    · cases hook.symm.trans answered
      exact rest.left_iff.mpr quits

theorem Dispatched.registry_eq
    (dispatched :
      Dispatched collaborators player command turn calls outcome next)
    (stays : outcome ≠ .left) :
    next.registry = turn.registry := by
  cases dispatched with
  | left disposed => exact absurd rfl stays
  | _ => rfl

/-- A line leaves the registry alone, unless the player quits. -/
theorem Course.registry_eq
    (course : Course collaborators line turn calls outcome next)
    (stays : outcome ≠ .left) :
    next.registry = turn.registry := by
  cases course with
  | ignored retired => rfl
  | unloaded live load => rfl
  | unheard live load hook => rfl
  | heard live load hook dispatched => exact dispatched.registry_eq stays

/-- A line that does not come to quitting leaves the session alone. -/
theorem Outcome.session_eq_of_ne_left
    (session : Session)
    (stays : outcome ≠ .left) :
    outcome.session session = session := by
  cases outcome with
  | left => exact absurd rfl stays
  | _ => rfl

end Turn

end TextWorld
