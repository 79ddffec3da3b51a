import TextWorld.Proofs.Session.Acts
import TextWorld.Proofs.Session.Confinement

/-!
# Retirement

A live session stays as it is until a line is a command to quit.  That line
retires it, and nothing that is done in a retired session has any consequence,
whatever becomes of the world and of the registry in the meantime.  So a session
is retired once at most and for good.
-/

namespace TextWorld

/-- Something that happens while a session is open and others have the
registry as well. -/
inductive Occurrence (σ : Type) where
  | act (act : Act σ)
  /-- Others change the registry. -/
  | registering (change : Registry → Registry)

/-- The call tells the hook for it that a player quits. -/
def Call.isDisconnect : Call → Bool
  | .runHook .system name _ => name = "onPlayerDisconnected"
  | _ => false

namespace Turn

variable {σ : Type}

/-- The turn after an occurrence. -/
def occur (collaborators : Collaborators σ) (turn : Turn σ) :
    Occurrence σ → Turn σ
  | .act act => turn.act collaborators act
  | .registering change => { turn with registry := change turn.registry }

/-- The turn after occurrences, one after the other. -/
def through
    (collaborators : Collaborators σ)
    (turn : Turn σ)
    (occurrences : List (Occurrence σ)) :
    Turn σ :=
  occurrences.foldl (occur collaborators) turn

/-- Every act among the occurrences has a property in the turn in which
it takes place. -/
def Always
    (collaborators : Collaborators σ)
    (holds : Turn σ → Act σ → Prop)
    (turn : Turn σ) :
    List (Occurrence σ) → Prop
  | [] => True
  | .act act :: rest =>
      holds turn act ∧
        (turn.act collaborators act).Always collaborators holds rest
  | .registering change :: rest =>
      (turn.occur collaborators (.registering change)).Always
        collaborators holds rest

/-- The operations that an act uses, in order. -/
def callsOfAct (collaborators : Collaborators σ) (turn : Turn σ) :
    Act σ → List Call
  | .line text => turn.callsOf collaborators text
  | .tab direction =>
      (turn.noting.onTab collaborators.recorded direction).world.2
  | .meanwhile _ => []

/-- An act that is no command to quit, tells nobody so, and leaves the session
and the registry alone. -/
structure Stays (collaborators : Collaborators σ) (turn : Turn σ)
    (act : Act σ) : Prop where
  goesOn : ∀ text, act = .line text → ¬ turn.Quits collaborators text
  disconnects :
    (turn.callsOfAct collaborators act).filter Call.isDisconnect = []
  session : (turn.act collaborators act).session = turn.session
  registry : (turn.act collaborators act).registry = turn.registry

/-- A line that retires the session of a player. -/
structure Retires
    (collaborators : Collaborators σ)
    (turn : Turn σ)
    (player : EntityId)
    (text : String) :
    Prop where
  quits : turn.Quits collaborators text
  disconnects :
    (turn.callsOf collaborators text).filter Call.isDisconnect =
      [.runHook .system "onPlayerDisconnected" [.entity player]]
  sends :
    turn.sentBy collaborators text =
      [.setPrompt turn.session.user, .output turn.session.config.farewell]
  session : (turn.onInput collaborators text).session = turn.session.retired
  registry :
    (turn.onInput collaborators text).registry = turn.registry.remove player
  user? :
    ∀ other, (turn.onInput collaborators text).registry.user? other =
      if player = other then none else turn.registry.user? other

/-- An act that uses no operation, sends nothing, and leaves the session and the
registry alone. -/
structure Idle (collaborators : Collaborators σ) (turn : Turn σ)
    (act : Act σ) : Prop where
  calls : turn.callsOfAct collaborators act = []
  events : (turn.act collaborators act).events = turn.events
  session : (turn.act collaborators act).session = turn.session
  registry : (turn.act collaborators act).registry = turn.registry

variable {collaborators : Collaborators σ} {turn next : Turn σ}
  {player : EntityId} {line : String} {calls : List Call} {outcome : Outcome}

/-! ## In a live session -/

@[simp]
theorem onTab_registry (direction : TabDirection) :
    (turn.onTab collaborators direction).registry = turn.registry := by
  rw [onTab]
  split <;> rfl

theorem filter_isDisconnect_tab (direction : TabDirection) :
    (turn.callsOfAct collaborators (.tab direction)).filter
      Call.isDisconnect = [] := by
  rw [callsOfAct, onTab]
  cases turn.noting.session.player with
  | none => rfl
  | some player =>
      simp only [runHookBestEffort_world]
      rfl

/-- A line that makes the player quit tells so to the hook for it, and takes out
the player's entry in the registry. -/
theorem Course.of_left
    (requested : collaborators.LoadsRequested)
    (live : turn.session.player = some player)
    (course : Course collaborators line turn calls .left next) :
    calls.filter Call.isDisconnect =
        [.runHook .system "onPlayerDisconnected" [.entity player]] ∧
      next.registry = turn.registry.remove player := by
  cases course with
  | @heard _ entity _ _ _ _ _ _ embodied load hook dispatched =>
      cases live.symm.trans embodied
      obtain rfl : entity.id = player := requested _ _ _ _ load
      cases dispatched with
      | left disposed =>
          exact ⟨by simp [preprocessCall, disconnectCall, Call.isDisconnect,
              preprocessHook, disconnectHook], rfl⟩

theorem retires_of_quits
    (requested : collaborators.LoadsRequested)
    (live : turn.session.player = some player)
    (quits : turn.Quits collaborators line) :
    Retires collaborators turn player line := by
  rcases onInput_course_callsOf collaborators line turn with ⟨outcome, course⟩
  obtain rfl := course.left_iff.mpr quits
  rcases course.of_left requested live with ⟨disconnects, registry⟩
  refine ⟨quits, disconnects, course.sentBy_eq, course.session_eq, registry, ?_⟩
  intro other
  rw [registry]
  exact Registry.user?_remove turn.registry player other

/-- Nobody is told that the player quits, unless it comes to that. -/
theorem Dispatched.filter_isDisconnect
    {player : Entity}
    {command : Command}
    (dispatched :
      Dispatched collaborators player command turn calls outcome next)
    (stays : outcome ≠ .left) :
    calls.filter Call.isDisconnect = [] := by
  have unmatched {world : σ} {calls : List Call}
      {reply : Reply σ (Option (BoundObjects × VerbBinding))}
      (matching : Matching collaborators player command world calls reply) :
      calls.filter Call.isDisconnect = [] := by
    cases matching <;> rfl
  cases dispatched with
  | evaluated | evaluationFailed => rfl
  | left => exact absurd rfl stays
  | notUnderstood disposed matching | matchingFailed disposed matching =>
      exact unmatched matching
  | performed disposed matching bound run
  | verbFailed disposed matching bound run =>
      rw [List.filter_append, unmatched matching]
      rfl

theorem Course.filter_isDisconnect
    (course : Course collaborators line turn calls outcome next)
    (stays : outcome ≠ .left) :
    calls.filter Call.isDisconnect = [] := by
  cases course with
  | ignored | unloaded | unheard => rfl
  | heard live load hook dispatched =>
      rw [List.filter_append, dispatched.filter_isDisconnect stays]
      rfl

theorem stays_of_not_quits
    (goesOn : ¬ turn.Quits collaborators line) :
    Stays collaborators turn (.line line) := by
  rcases onInput_course_callsOf collaborators line turn with ⟨outcome, course⟩
  have notLeft : outcome ≠ .left := fun left => goesOn (course.left_iff.mp left)
  constructor
  · intro text same
    cases same
    exact goesOn
  · exact course.filter_isDisconnect notLeft
  · rw [act, course.session_eq,
      outcome.session_eq_of_ne_left turn.session notLeft]
  · exact course.registry_eq notLeft

/-- An act in a live session leaves it alone, unless it is a line that
retires the session. -/
theorem stays_or_retires
    (requested : collaborators.LoadsRequested)
    (live : turn.session.player = some player)
    (act : Act σ) :
    Stays collaborators turn act ∨
      ∃ text, act = .line text ∧ Retires collaborators turn player text := by
  cases act with
  | line text =>
      by_cases quits : turn.Quits collaborators text
      · exact .inr ⟨text, rfl, retires_of_quits requested live quits⟩
      · exact .inl (stays_of_not_quits quits)
  | tab direction =>
      refine .inl ⟨nofun, ?_, onTab_session collaborators turn direction,
        onTab_registry direction⟩
      exact filter_isDisconnect_tab direction
  | meanwhile change => exact .inl ⟨nofun, rfl, rfl, rfl⟩

/-! ## In a retired session -/

theorem idle_of_retired
    (retired : turn.session.player = none)
    (act : Act σ) :
    Idle collaborators turn act := by
  have noted : turn.noting.session.player = none := retired
  cases act with
  | line text =>
      have ignored := onInput_of_retired collaborators text retired
      have ignoredNoted := onInput_of_retired collaborators.recorded text noted
      constructor
      · rw [callsOfAct, callsOf, ignoredNoted]
        rfl
      · rw [Turn.act, ignored, log_events]
      · rw [Turn.act, ignored, log_session]
      · rw [Turn.act, ignored]
        rfl
  | tab direction =>
      have ignored := onTab_of_retired collaborators direction retired
      have ignoredNoted :=
        onTab_of_retired collaborators.recorded direction noted
      constructor
      · rw [callsOfAct, ignoredNoted]
        rfl
      · rw [Turn.act, ignored]
      · rw [Turn.act, ignored]
      · rw [Turn.act, ignored]
  | meanwhile change => exact ⟨rfl, rfl, rfl, rfl⟩

/-- Once a session is retired, no act has any consequence. -/
theorem always_idle_of_retired
    (retired : turn.session.player = none)
    (occurrences : List (Occurrence σ)) :
    turn.Always collaborators (Idle collaborators) occurrences := by
  induction occurrences generalizing turn with
  | nil => trivial
  | cons occurrence rest inductive_step =>
      cases occurrence with
      | act act =>
          have idle : Idle collaborators turn act := idle_of_retired retired act
          refine ⟨idle, inductive_step ?_⟩
          rw [idle.session]
          exact retired
      | registering change => exact inductive_step retired

/-! ## The main result -/

/--
The session of a player stays as it is, and with it the registry as far as the
session is concerned, either for good or until a line that is a command to
quit.  Before that line there is no other such line.  The line tells the hook
for it once that the player quits, even if the hook fails; it sends the prompt
and the farewell and nothing else; and it takes the player's entry out of the
registry and leaves the other entries.  After it, nothing that is done in the
session has any consequence.
-/
theorem retires_once_and_for_good
    (requested : collaborators.LoadsRequested)
    (live : turn.session.player = some player)
    (occurrences : List (Occurrence σ)) :
    (turn.Always collaborators (Stays collaborators) occurrences ∧
        (turn.through collaborators occurrences).session = turn.session) ∨
      ∃ before text after,
        occurrences = before ++ .act (.line text) :: after ∧
          turn.Always collaborators (Stays collaborators) before ∧
            (turn.through collaborators before).session = turn.session ∧
              Retires collaborators
                (turn.through collaborators before) player text ∧
                ((turn.through collaborators before).onInput
                  collaborators text).Always
                  collaborators (Idle collaborators) after := by
  induction occurrences generalizing turn with
  | nil => exact .inl ⟨trivial, rfl⟩
  | cons occurrence rest inductive_step =>
      cases occurrence with
      | registering change =>
          -- the session does not take part in what others do to the registry
          have embodied :
              (turn.occur collaborators (.registering change)).session.player =
                some player :=
            live
          rcases inductive_step embodied with
            stays | ⟨before, text, after, rfl, others⟩
          · exact .inl stays
          · exact .inr ⟨.registering change :: before, text, after, rfl, others⟩
      | act act =>
          rcases stays_or_retires requested live act with
            stays | ⟨text, rfl, retires⟩
          · have embodied :
                (turn.act collaborators act).session.player = some player := by
              rw [stays.session]
              exact live
            rcases inductive_step embodied with
              ⟨always, same⟩ | ⟨before, text, after, rfl, always, same, later⟩
            · exact .inl ⟨⟨stays, always⟩, same.trans stays.session⟩
            · exact .inr ⟨.act act :: before, text, after, rfl, ⟨stays, always⟩,
                same.trans stays.session, later⟩
          · refine .inr ⟨[], text, rest, rfl, trivial, rfl, retires, ?_⟩
            apply always_idle_of_retired
            rw [through, List.foldl_nil, retires.session]
            rfl

/-- The small world, in which the hook for quitting fails. -/
def brokenFarewell : Turn World where
  session := .start "anna" Demo.player {}
  registry := .register {} Demo.player "anna"
  world :=
    (Demo.world false).registerHook .system disconnectHook fun _ =>
      .done (.error (.internal "the door is stuck"))

/-- A stay that ends in spite of the failing hook.  Afterwards the same player
is registered for another user, and the retired session goes on being used. -/
def longStay : List (Occurrence World) :=
  [.act (.line "look"), .act (.tab .forward),
    .registering (·.register ⟨9⟩ "berta"), .act (.line "\"quit\" now"),
    .registering (·.register Demo.player "carla"), .act (.line "quit"),
    .act (.tab .backward)]

/-- The failing hook does not keep the player from quitting, and the
other user stays. -/
theorem failing_hook_does_not_keep_player :
    ∃ before text after,
      longStay = before ++ .act (.line text) :: after ∧
        brokenFarewell.Always (World.collaborators 1)
          (Stays (World.collaborators 1)) before ∧
          (brokenFarewell.through (World.collaborators 1) before).session =
              brokenFarewell.session ∧
            Retires (World.collaborators 1)
              (brokenFarewell.through (World.collaborators 1) before)
                Demo.player text ∧
              ((brokenFarewell.through (World.collaborators 1) before).onInput
                (World.collaborators 1) text).Always
                  (World.collaborators 1)
                  (Idle (World.collaborators 1)) after := by
  have requested := World.collaborators_loadsRequested 1
  have live : brokenFarewell.session.player = some Demo.player := rfl
  refine (retires_once_and_for_good requested live longStay).resolve_left ?_
  rintro ⟨-, same⟩
  have gone :
      (brokenFarewell.through (World.collaborators 1) longStay).session.player =
      none := by
    decide +kernel
  rw [same, live] at gone
  cases gone

end Turn

end TextWorld
