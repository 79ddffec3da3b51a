import TextWorld.Proofs.Session.Acts
import TextWorld.Proofs.Session.Protocol

/-!
# The boundary that failures do not pass

A step of dispatch that fails is told to the player once and logged once, and
then it is over: what was sent and logged before makes no difference to later
lines, and nothing else of a failed line is left in the session or the registry.
-/

namespace TextWorld

/-- The steps of dispatch that can fail. -/
def FailureSite.all : List FailureSite :=
  [.loadPlayer, .preprocess, .matching, .runVerb, .eval]

theorem FailureSite.mem_all (site : FailureSite) : site ∈ all := by
  cases site <;> decide

/-- The record is the warning that a step of dispatch failed. -/
def LogRecord.isBoundary (record : LogRecord) : Bool :=
  record.level = .warn ∧
    record.message ∈ FailureSite.all.map FailureSite.message

/-- A hook that fails where nobody waits for it is no failure of a
step of dispatch. -/
@[simp]
theorem isBoundary_hookFailure
    (spans : List LogSpan)
    (scope : HookScope)
    (name : String)
    (failure : Failure) :
    (hookFailure spans scope name failure).isBoundary = false := by
  simp [LogRecord.isBoundary, hookFailure, FailureSite.all, FailureSite.message]

namespace Turn

variable {σ : Type}

/-! ## What was sent and logged before -/

/-- The turn, with more that was sent and logged before it. -/
def following (events : List Event) (records : List LogRecord)
    (turn : Turn σ) : Turn σ :=
  { turn with
    events := events ++ turn.events
    records := records ++ turn.records }

/-- The turn in which nothing was sent and logged yet. -/
def afresh (turn : Turn σ) : Turn σ :=
  { turn with
    events := []
    records := [] }

@[simp]
theorem afresh_following (turn : Turn σ) :
    turn.afresh.following turn.events turn.records = turn := by
  simp [afresh, following]

section Following

variable (earlier : List Event) (notes : List LogRecord) (turn : Turn σ)

theorem following_session :
    (turn.following earlier notes).session = turn.session := rfl

theorem following_inWorld (world : σ) :
    (turn.inWorld world).following earlier notes =
      (turn.following earlier notes).inWorld world := rfl

theorem following_emit (event : Event) :
    (turn.emit event).following earlier notes =
      (turn.following earlier notes).emit event := by
  simp [following, emit]

theorem following_log (level : LogLevel) (message : String)
    (fields : List (String × String)) :
    (turn.log level message fields).following earlier notes =
      (turn.following earlier notes).log level message fields := by
  simp [following, log, write]

theorem following_contain
    (site : FailureSite)
    (failure : Failure)
    (player : EntityId)
    (privileged : Bool) :
    (turn.contain site failure player privileged).following earlier notes =
      (turn.following earlier notes).contain site failure player
        privileged := by
  simp only [contain, following_log, following_emit]
  rfl

theorem following_afterHook (reply : HookOutcome) (world : σ) :
    (turn.afterHook reply world).following earlier notes =
      (turn.following earlier notes).afterHook reply world := by
  simp [following, afterHook]

theorem following_resolving (command : Command) :
    (turn.resolving command).following earlier notes =
      (turn.following earlier notes).resolving command := by
  simp [following, resolving]

theorem following_runHookBestEffort
    (collaborators : Collaborators σ)
    (scope : HookScope)
    (name : String)
    (arguments : List Value) :
    (turn.runHookBestEffort collaborators scope name arguments).following
      earlier notes =
      (turn.following earlier notes).runHookBestEffort collaborators scope
        name arguments := by
  simp [following, runHookBestEffort]

theorem following_quit (collaborators : Collaborators σ) (player : Entity) :
    (turn.quit collaborators player).following earlier notes =
      (turn.following earlier notes).quit collaborators player := by
  simp [following, quit, runHookBestEffort, emit, log, write]

end Following

variable {collaborators : Collaborators σ} {line : String} {player : Entity}
  {command : Command} {turn next : Turn σ} {calls : List Call}
  {outcome : Outcome} {id : EntityId}

theorem Dispatched.following
    (dispatched :
      Dispatched collaborators player command turn calls outcome next)
    (earlier : List Event)
    (notes : List LogRecord) :
    Dispatched collaborators player command
      (turn.following earlier notes) calls outcome
      (next.following earlier notes) := by
  cases dispatched with
  | evaluated disposed run =>
      rw [following_emit, following_inWorld, following_log]
      exact evaluated disposed run
  | evaluationFailed disposed run =>
      rw [following_contain, following_inWorld, following_log]
      exact evaluationFailed disposed run
  | left disposed =>
      rw [following_quit]
      exact left disposed
  | notUnderstood disposed matching =>
      rw [following_emit, following_inWorld, following_resolving]
      exact notUnderstood disposed matching
  | matchingFailed disposed matching =>
      rw [following_contain, following_inWorld, following_resolving]
      exact matchingFailed disposed matching
  | performed disposed matching bound run =>
      rw [following_inWorld, following_log, following_inWorld,
        following_resolving]
      exact performed disposed matching bound run
  | verbFailed disposed matching bound run =>
      rw [following_contain, following_inWorld, following_log,
        following_inWorld, following_resolving]
      exact verbFailed disposed matching bound run

/-- How a line goes does not depend on what was sent and logged before. -/
theorem Course.following
    (course : Course collaborators line turn calls outcome next)
    (earlier : List Event)
    (notes : List LogRecord) :
    Course collaborators line (turn.following earlier notes) calls outcome
      (next.following earlier notes) := by
  cases course with
  | ignored retired =>
      rw [following_log]
      exact ignored retired
  | unloaded live load =>
      rw [following_contain, following_inWorld]
      exact unloaded live load
  | unheard live load hook =>
      rw [following_contain, following_inWorld]
      exact unheard live load hook
  | heard live load hook dispatched =>
      have rest := dispatched.following earlier notes
      rw [following_afterHook] at rest
      exact heard live load hook rest

theorem following_act
    (collaborators : Collaborators σ)
    (act : Act σ)
    (turn : Turn σ)
    (earlier : List Event)
    (notes : List LogRecord) :
    (turn.act collaborators act).following earlier notes =
      (turn.following earlier notes).act collaborators act := by
  cases act with
  | line text =>
      rcases onInput_course collaborators text turn with
        ⟨calls, outcome, course⟩
      exact (course.following earlier notes).onInput_eq.symm
  | tab direction =>
      rw [Turn.act, Turn.act, onTab, onTab, following_session]
      cases turn.session.player with
      | none => rfl
      | some player => exact following_runHookBestEffort ..
  | meanwhile change => rfl

/-- What becomes of a run does not depend on what was sent and logged before. -/
theorem following_run
    (collaborators : Collaborators σ)
    (acts : List (Act σ))
    (turn : Turn σ)
    (earlier : List Event)
    (notes : List LogRecord) :
    (turn.run collaborators acts).following earlier notes =
      (turn.following earlier notes).run collaborators acts := by
  induction acts generalizing turn with
  | nil => rfl
  | cons act acts inductive_step =>
      have rest := inductive_step (turn.act collaborators act)
      rw [following_act] at rest
      exact rest

/-! ## What the boundary writes -/

/-- The records that a line writes. -/
def writtenBy (collaborators : Collaborators σ) (turn : Turn σ)
    (text : String) : List LogRecord :=
  (turn.onInput collaborators text).records.drop turn.records.length

/-- What is written about a line that came to the outcome, as far as a step of
dispatch failed. -/
def Outcome.warnings (session : Session) : Outcome → List LogRecord
  | .failed site failure player _ =>
      [{ level := .warn
         message := site.message
         fields :=
           [("user", session.user), ("player", player.text),
             ("err", failure.report.text)]
         spans := session.spans }]
  | _ => []

/-- The warnings of the boundary among the records of a turn. -/
def warnings (turn : Turn σ) : List LogRecord :=
  turn.records.filter LogRecord.isBoundary

section Warnings

variable (turn : Turn σ)

@[simp]
theorem warnings_inWorld (world : σ) :
    (turn.inWorld world).warnings = turn.warnings := rfl

@[simp]
theorem warnings_emit (event : Event) :
    (turn.emit event).warnings = turn.warnings := rfl

@[simp]
theorem warnings_log_debug (message : String)
    (fields : List (String × String)) :
    (turn.log .debug message fields).warnings = turn.warnings := by
  simp [warnings, log, write, LogRecord.isBoundary]

@[simp]
theorem warnings_log_info (message : String) (fields : List (String × String)) :
    (turn.log .info message fields).warnings = turn.warnings := by
  simp [warnings, log, write, LogRecord.isBoundary]

@[simp]
theorem warnings_contain
    (site : FailureSite)
    (failure : Failure)
    (player : EntityId)
    (privileged : Bool) :
    (turn.contain site failure player privileged).warnings =
      turn.warnings ++ (Outcome.failed site failure player privileged).warnings
        turn.session := by
  simp [warnings, contain, log, write, emit, LogRecord.isBoundary,
    FailureSite.mem_all, Outcome.warnings]

@[simp]
theorem warnings_afterHook (reply : HookOutcome) (world : σ) :
    (turn.afterHook reply world).warnings = turn.warnings := by
  have none :
      (reply.notes turn.session.spans).filter LogRecord.isBoundary = [] := by
    unfold HookOutcome.notes
    split <;> simp [LogRecord.isBoundary]
  simp [warnings, afterHook, none]

@[simp]
theorem warnings_resolving (command : Command) :
    (turn.resolving command).warnings = turn.warnings := by
  have none : (declineNotes command turn.session.spans).filter
      LogRecord.isBoundary = [] := by
    rw [declineNotes]
    split <;> simp [LogRecord.isBoundary]
  simp [warnings, resolving, none]

@[simp]
theorem warnings_runHookBestEffort
    (collaborators : Collaborators σ)
    (scope : HookScope)
    (name : String)
    (arguments : List Value) :
    (turn.runHookBestEffort collaborators scope name arguments).warnings =
      turn.warnings := by
  rcases hook : collaborators.runHook scope name arguments turn.world with
    ⟨failure | reply, after⟩
  · simp only [warnings, runHookBestEffort, Collaborators.runHookBestEffort,
      hook, List.filter_append, List.filter_singleton, isBoundary_hookFailure,
      cond_false, List.append_nil]
  · simp only [warnings, runHookBestEffort, Collaborators.runHookBestEffort,
      hook, List.append_nil]

@[simp]
theorem warnings_quit (collaborators : Collaborators σ) (player : Entity) :
    (turn.quit collaborators player).warnings = turn.warnings := by
  rw [quit, warnings_log_info]
  exact warnings_runHookBestEffort turn collaborators .system disconnectHook
    [.entity player.id]

end Warnings

theorem Dispatched.warnings_eq
    (dispatched :
      Dispatched collaborators player command turn calls outcome next) :
    next.warnings = turn.warnings ++ outcome.warnings turn.session := by
  cases dispatched with
  | evaluated disposed run => simp [Outcome.warnings]
  | evaluationFailed disposed run => simp
  | left disposed => simp [Outcome.warnings]
  | notUnderstood disposed matching => simp [Outcome.warnings]
  | matchingFailed disposed matching => simp
  | performed disposed matching bound run => simp [Outcome.warnings]
  | verbFailed disposed matching bound run => simp

/-- A line has the boundary write what its outcome says. -/
theorem Course.warnings_eq
    (course : Course collaborators line turn calls outcome next) :
    next.warnings = turn.warnings ++ outcome.warnings turn.session := by
  cases course with
  | ignored retired => simp [Outcome.warnings]
  | unloaded live load => simp
  | unheard live load hook => simp
  | heard live load hook dispatched =>
      rw [dispatched.warnings_eq, warnings_afterHook]
      rfl

theorem onInput_records (collaborators : Collaborators σ) (turn : Turn σ)
    (text : String) :
    (turn.onInput collaborators text).records =
      turn.records ++ turn.writtenBy collaborators text := by
  have split := following_act collaborators (.line text) turn.afresh
    turn.events turn.records
  rw [afresh_following] at split
  rw [writtenBy, ← act, ← split]
  simp [following]

/-- The warnings that a line writes are those that its outcome says. -/
theorem Course.warnings_writtenBy
    (course : Course collaborators line turn calls outcome next) :
    (turn.writtenBy collaborators line).filter LogRecord.isBoundary =
      outcome.warnings turn.session := by
  have split := course.warnings_eq
  rw [← course.onInput_eq, warnings, onInput_records,
    List.filter_append] at split
  exact List.append_cancel_left split

/-! ## Who is told how much -/

/-- The entity that is loaded for a line, if that does not fail. -/
def loaded? (collaborators : Collaborators σ) (id : EntityId) (turn : Turn σ) :
    Option Entity :=
  (collaborators.load id turn.world).1.toOption

theorem programmer_of_eval
    {programmer : Bool}
    (disposed : Disposition.of command programmer = .eval) :
    programmer = true := by
  cases programmer with
  | true => rfl
  | false => exact absurd disposed (Disposition.of_ne_eval command)

theorem Dispatched.of_failed
    {site : FailureSite}
    {failure : Failure}
    {actor : EntityId}
    {privileged : Bool}
    (dispatched : Dispatched collaborators player command turn calls
      (.failed site failure actor privileged) next) :
    actor = player.id ∧ privileged = player.programmer := by
  cases dispatched with
  | evaluationFailed disposed run =>
      exact ⟨rfl, (programmer_of_eval disposed).symm⟩
  | matchingFailed disposed matching => exact ⟨rfl, rfl⟩
  | verbFailed disposed matching bound run => exact ⟨rfl, rfl⟩

/-- A step that fails is told with the privilege of the entity that was loaded,
if there is one. -/
theorem Course.of_failed
    {site : FailureSite}
    {failure : Failure}
    {actor : EntityId}
    {privileged : Bool}
    (live : turn.session.player = some id)
    (course : Course collaborators line turn calls
      (.failed site failure actor privileged) next) :
    actor = (turn.loaded? collaborators id).elim id (·.id) ∧
      privileged = (turn.loaded? collaborators id).any (·.programmer) := by
  cases course with
  | unloaded embodied load =>
      cases live.symm.trans embodied
      simp [loaded?, load, Except.toOption]
  | unheard embodied load hook =>
      cases live.symm.trans embodied
      simp [loaded?, load, Except.toOption]
  | heard embodied load hook dispatched =>
      cases live.symm.trans embodied
      simpa [loaded?, load, Except.toOption] using dispatched.of_failed

/-! ## The main result -/

/-- A line that was brought to an end by the failure of a step, with no
other consequence. -/
structure Contained
    (collaborators : Collaborators σ)
    (turn : Turn σ)
    (id : EntityId)
    (line : String)
    (site : FailureSite)
    (failure : Failure) :
    Prop where
  sends :
    turn.sentBy collaborators line =
      [.output (Style.error turn.session.config.color
        (if (turn.loaded? collaborators id).any (·.programmer) then
          failure.diagnostic
        else
          "An internal error occurred."))]
  writes :
    (turn.writtenBy collaborators line).filter LogRecord.isBoundary =
      [{ level := .warn
         message := site.message
         fields :=
           [("user", turn.session.user),
             ("player", ((turn.loaded? collaborators id).elim id (·.id)).text),
             ("err", failure.report.text)]
         spans := turn.session.spans }]
  session : (turn.onInput collaborators line).session = turn.session
  registry : (turn.onInput collaborators line).registry = turn.registry
  /-- What happens later is what happens without the line, in the world as it is
  after the line. -/
  later :
    ∀ acts, ∃ rest : Turn σ,
      (turn.inWorld (turn.onInput collaborators line).world).run
        collaborators acts =
          rest.following turn.events turn.records ∧
        (turn.onInput collaborators line).run collaborators acts =
          rest.following
            (turn.events ++ turn.sentBy collaborators line)
            (turn.records ++ turn.writtenBy collaborators line)

/-- After a line that left the session and the registry alone, everything
happens as it would have happened without the line. -/
theorem exists_rest_of_unchanged
    (session : (turn.onInput collaborators line).session = turn.session)
    (registry : (turn.onInput collaborators line).registry = turn.registry)
    (acts : List (Act σ)) :
    ∃ rest : Turn σ,
      (turn.inWorld (turn.onInput collaborators line).world).run
        collaborators acts =
          rest.following turn.events turn.records ∧
        (turn.onInput collaborators line).run collaborators acts =
          rest.following
            (turn.events ++ turn.sentBy collaborators line)
            (turn.records ++ turn.writtenBy collaborators line) := by
  let without := turn.inWorld (turn.onInput collaborators line).world
  -- but for what was sent and logged, the line might as well not
  -- have been typed
  have same : (turn.onInput collaborators line).afresh = without.afresh := by
    simp [afresh, without, inWorld, session, registry]
  refine ⟨without.afresh.run collaborators acts, ?_, ?_⟩
  · rw [following_run]
    exact congrArg (run collaborators · acts) (afresh_following without).symm
  · rw [following_run, ← same, ← onInput_events, ← onInput_records,
      afresh_following]

/--
When a step of dispatch fails, the line sends one output, which shows the
failure to a programmer and the notice to everyone else, and the boundary writes
one warning, of the step that failed, the user, the player and the report of
this failure.  The session and the registry are as they were, and so is
everything that happens later.  When no step fails, the boundary writes nothing.
-/
theorem failures_end_at_boundary
    (live : turn.session.player = some id) :
    (∀ site failure,
      ((lineProtocol turn.session.vocabulary id line).follow
          collaborators turn.world).failure? = some (site, failure) →
        Contained collaborators turn id line site failure) ∧
      (((lineProtocol turn.session.vocabulary id line).follow
          collaborators turn.world).failure? = none →
        (turn.writtenBy collaborators line).filter
          LogRecord.isBoundary = []) := by
  rcases onInput_course collaborators line turn with ⟨calls, outcome, course⟩
  rw [course.follow_lineProtocol live]
  constructor
  · intro site failure failed
    cases outcome with
    | failed _ _ actor privileged =>
        cases failed
        rcases course.of_failed live with ⟨rfl, rfl⟩
        have session :
            (turn.onInput collaborators line).session = turn.session :=
          course.session_eq
        have registry :
            (turn.onInput collaborators line).registry = turn.registry :=
          course.registry_eq nofun
        exact ⟨course.sentBy_eq, course.warnings_writtenBy, session, registry,
          exists_rest_of_unchanged session registry⟩
    | _ => cases failed
  · intro unfailed
    rw [course.warnings_writtenBy]
    cases outcome with
    | failed => cases unfailed
    | _ => rfl

/-- A programmer is about to type in a place that has gone. -/
def displaced : Turn PromptedWorld where
  session := .start "anna" ⟨7⟩ {}
  registry := .register {} ⟨7⟩ "anna"
  world :=
    { entities :=
        [(⟨7⟩, { id := ⟨7⟩, programmer := true, location := some ⟨1⟩ })] }

/-- The failure to find the place is told in full, as a failure of matching. -/
theorem missing_place_is_contained :
    Contained PromptedWorld.collaborators displaced ⟨7⟩ "look" .matching
      (.entityNotFound ⟨1⟩) := by
  have live : displaced.session.player = some ⟨7⟩ := rfl
  apply (failures_end_at_boundary live).1
  decide +kernel

end Turn

end TextWorld
