import TextWorld.Proofs.Session.Course
import TextWorld.Proofs.World.Registration

/-!
# Lines that a hook replaces

The hook for lines may change the world before it gives the text to parse.  The
command is matched in the changed world, but the player's privilege and place
are still those from before the hook.  So the turn goes on as if the text had
been typed after those changes, if they leave the privilege and the place alone
and nothing else asks for the hook.
-/

namespace TextWorld

open World

/-- What the hook for lines is registered under. -/
def preprocessKey : HookScope × String :=
  (.system, preprocessHook)

namespace Turn

/-- The turn in the world without the hook for lines. -/
def withoutPreprocess (turn : Turn World) : Turn World :=
  turn.inWorld (turn.world.withoutHook preprocessKey)

/-- What a command of the player runs asks for the hook for lines. -/
def AsksForPreprocess
    (levels : Nat)
    (player : Entity)
    (command : Command)
    (turn : Turn World) :
    Prop :=
  let asking := askingAt preprocessKey levels
  match Disposition.of command player.programmer with
  | .eval =>
      asking.run (Snippet.unit command.argument player.id)
        (Snippet.label player.id) turn.world
  | .quit =>
      asking.runHook .system disconnectHook [.entity player.id] turn.world
  | .resolve =>
      ∃ objects binding,
        (matchCommand (World.collaborators levels) player
          command turn.world).1 =
            .ok (some (objects, binding)) ∧
          let call := VerbCall.ofBinding binding player.id objects command
          asking.run call.code call.label turn.world

variable {levels : Nat} {turn : Turn World} {world other : World}
  {player : Entity} {command : Command}

/-! ## Worlds that differ in the hook -/

theorem withoutPreprocess_inWorld (alike : world.AlikeBut preprocessKey other)
    (turn : Turn World) :
    (turn.inWorld world).withoutPreprocess =
      (turn.inWorld other).withoutPreprocess := by
  simp only [withoutPreprocess, inWorld,
    show world.withoutHook preprocessKey = _ from alike]

/-- Matching only looks at the world. -/
theorem matchCommand_eq (levels : Nat) (player : Entity) (command : Command)
    (world : World) :
    matchCommand (World.collaborators levels) player command world =
      ((do
        let objects ← world.matchObjects player command
        match ← world.matchVerb player command objects with
        | some binding => return some (objects, binding)
        | none =>
            match player.location with
            | none => return none
            | some location =>
                let place ← world.load location
                return if place.verbMissing then
                    some (objects, .missing place.id)
                  else
                    none),
        world) := by
  simp only [matchCommand, World.collaborators, bind, Except.bind,
    pure, Except.pure]
  cases world.matchObjects player command with
  | error failure => rfl
  | ok objects =>
      cases matched : world.matchVerb player command objects with
      | error failure => simp only [matched]
      | ok found =>
          cases found with
          | some binding => simp only [matched]
          | none =>
              cases place : player.location with
              | none => simp only [matched]
              | some location =>
                  cases load : world.load location with
                  | error failure => simp only [matched, load]
                  | ok place =>
                      simp only [matched, load]
                      split <;> rfl

theorem exists_matchCommand_eq
    (alike : world.AlikeBut preprocessKey other)
    (levels : Nat)
    (player : Entity)
    (command : Command) :
    ∃ result, matchCommand (World.collaborators levels) player command world =
        (result, world) ∧
      matchCommand (World.collaborators levels) player command other =
        (result, other) := by
  rcases alike.exists_hooks with ⟨hooks, rfl, -⟩
  exact ⟨_, matchCommand_eq levels player command world,
    matchCommand_eq levels player command _⟩

variable {scope : HookScope} {name source : String} {arguments : List Value}
  {call : VerbCall}

theorem runHookBestEffort_alike
    (agree : AgreeBut preprocessKey
      ((World.collaborators levels).runHook scope name arguments turn.world)
      ((World.collaborators levels).runHook scope name arguments other)) :
    (turn.runHookBestEffort (World.collaborators levels) scope name
      arguments).withoutPreprocess =
      ((turn.inWorld other).runHookBestEffort
        (World.collaborators levels) scope name
        arguments).withoutPreprocess := by
  rcases agree.exists_eq with ⟨result, after, otherAfter, ends, endsToo, alike⟩
  have same : after.withoutHook preprocessKey =
      otherAfter.withoutHook preprocessKey := alike
  simp only [runHookBestEffort, Collaborators.runHookBestEffort,
    inWorld_world, ends, endsToo]
  cases result <;> simp only [withoutPreprocess, inWorld, same]

theorem eval_alike
    (agree : AgreeBut preprocessKey
      ((World.collaborators levels).run (Snippet.unit source player.id)
        (Snippet.label player.id) turn.world)
      ((World.collaborators levels).run (Snippet.unit source player.id)
        (Snippet.label player.id) other)) :
    (turn.eval (World.collaborators levels) player source).withoutPreprocess =
      ((turn.inWorld other).eval (World.collaborators levels) player
        source).withoutPreprocess := by
  rcases agree.exists_eq with ⟨result, after, otherAfter, ends, endsToo, alike⟩
  simp only [eval, log_world, inWorld_world, ends, endsToo]
  cases result with
  | ok value => exact congrArg (emit · _) (withoutPreprocess_inWorld alike _)
  | error failure =>
      exact congrArg (contain · _ _ _ _) (withoutPreprocess_inWorld alike _)

theorem runVerb_alike
    (agree : AgreeBut preprocessKey
      ((World.collaborators levels).run call.code call.label turn.world)
      ((World.collaborators levels).run call.code call.label other)) :
    (turn.runVerb (World.collaborators levels) player call).withoutPreprocess =
      ((turn.inWorld other).runVerb (World.collaborators levels) player
        call).withoutPreprocess := by
  rcases agree.exists_eq with ⟨result, after, otherAfter, ends, endsToo, alike⟩
  simp only [runVerb, log_world, inWorld_world, ends, endsToo]
  cases result with
  | ok value => exact withoutPreprocess_inWorld alike _
  | error failure =>
      exact congrArg (contain · _ _ _ _) (withoutPreprocess_inWorld alike _)

theorem quit_alike
    (agree : AgreeBut preprocessKey
      ((World.collaborators levels).runHook .system disconnectHook
        [.entity player.id] turn.world)
      ((World.collaborators levels).runHook .system disconnectHook
        [.entity player.id] other)) :
    (turn.quit (World.collaborators levels) player).withoutPreprocess =
      ((turn.inWorld other).quit (World.collaborators levels)
        player).withoutPreprocess := by
  have told := runHookBestEffort_alike agree
  exact congrArg
    (fun turn : Turn World =>
      let turn := turn.emit (.setPrompt turn.session.user)
      let turn := turn.emit (.output turn.session.config.farewell)
      { turn with
        registry := turn.registry.remove player.id
        session :=
          turn.session.retired : Turn World }.log .info "player quit" [])
    told

theorem resolve_alike
    (alike : turn.world.AlikeBut preprocessKey other)
    (quiet : ∀ objects binding,
      (matchCommand (World.collaborators levels) player command turn.world).1 =
          .ok (some (objects, binding)) →
        ¬ (askingAt preprocessKey levels).run
          (VerbCall.ofBinding binding player.id objects command).code
          (VerbCall.ofBinding binding player.id objects command).label
          turn.world) :
    (turn.resolve (World.collaborators levels) player
      command).withoutPreprocess =
      ((turn.inWorld other).resolve (World.collaborators levels) player
        command).withoutPreprocess := by
  rcases exists_matchCommand_eq alike levels player command with
    ⟨result, matched, matchedToo⟩
  rw [matched] at quiet
  simp only [resolve, inWorld_world, matched, matchedToo]
  cases result with
  | error failure =>
      exact congrArg (contain · _ _ _ _) (withoutPreprocess_inWorld alike turn)
  | ok found =>
      cases found with
      | none => exact congrArg (emit · _) (withoutPreprocess_inWorld alike turn)
      | some pair =>
          have overlook := overlook_calls preprocessKey levels
          exact runVerb_alike (overlook.run _ _ alike (quiet pair.1 pair.2 rfl))

theorem dispatch_alike
    (alike : turn.world.AlikeBut preprocessKey other)
    (quiet : ¬ turn.AsksForPreprocess levels player command) :
    (turn.dispatch (World.collaborators levels) player
      command).withoutPreprocess =
      ((turn.inWorld other).dispatch (World.collaborators levels) player
        command).withoutPreprocess := by
  have overlook := overlook_calls preprocessKey levels
  rw [AsksForPreprocess] at quiet
  cases disposed : Disposition.of command player.programmer with
  | eval =>
      rw [disposed] at quiet
      simp only [dispatch, disposed]
      exact eval_alike (overlook.run _ _ alike quiet)
  | quit =>
      rw [disposed] at quiet
      simp only [dispatch, disposed]
      exact quit_alike (overlook.runHook _ _ _ alike quiet)
  | resolve =>
      simp only [disposed, not_exists, not_and] at quiet
      have resolved :=
        @resolve_alike levels (turn.resolving command) other player command
      rw [dispatch_of_resolve disposed, dispatch_of_resolve disposed]
      exact resolved alike quiet

/-- Of the player, dispatching a command reads the id, the
privilege and the place. -/
theorem dispatch_congr
    {before after : Entity}
    (sameId : after.id = before.id)
    (samePrivilege : after.programmer = before.programmer)
    (samePlace : after.location = before.location)
    (turn : Turn World) :
    turn.dispatch (World.collaborators levels) after command =
      turn.dispatch (World.collaborators levels) before command := by
  cases before
  cases after
  cases sameId
  cases samePrivilege
  cases samePlace
  rfl

/-! ## Lines with and without the hook -/

theorem id_of_load {id : EntityId} {entity : Entity}
    (load : world.load id = .ok entity) :
    entity.id = id := by
  rw [World.load] at load
  cases found : world.object id with
  | error failure =>
      rw [found] at load
      cases load
  | ok object =>
      rw [found] at load
      cases load
      rfl

/-- A line for which the hook gave an outcome is dispatched in the world
that the hook left. -/
theorem onInput_of_reply
    {id : EntityId}
    {line : String}
    {reply : HookOutcome}
    {after : World}
    (live : turn.session.player = some id)
    (load : turn.world.load id = .ok player)
    (hook : (World.collaborators levels).runHook .system preprocessHook
      [.entity id, .string (Literal.escape line)] turn.world =
        (.ok reply, after)) :
    turn.onInput (World.collaborators levels) line =
      (turn.afterHook reply after).dispatch (World.collaborators levels) player
        (.parse turn.session.vocabulary (reply.textFor line)) := by
  have loaded : (World.collaborators levels).load id turn.world =
      (.ok player, turn.world) :=
    congrArg (·, turn.world) load
  rw [← id_of_load load] at hook
  have heard :
      (turn.inWorld turn.world).preprocess
        (World.collaborators levels) player line =
        (.ok (reply.textFor line), turn.afterHook reply after) :=
    preprocess_of_ok hook
  simp only [onInput, live, loaded, onLine, heard]
  rfl

theorem runHook_withoutHook (world : World) (arguments : List Value) :
    (World.collaborators (levels + 1)).runHook .system preprocessHook arguments
        (world.withoutHook preprocessKey) =
      (.ok ⟨false, arguments.getLast?.getD .absent⟩,
        world.withoutHook preprocessKey) := by
  have unregistered :
      (world.withoutHook preprocessKey).hooks.get? (.system, preprocessHook) =
        none := by
    rw [withoutHook, Table.get?_erase]
    exact if_pos rfl
  simp only [World.collaborators, calls, runHookWith, unregistered]

/-- A hook whose outcome needs no note changes nothing but the world. -/
theorem afterHook_of_no_notes
    {reply : HookOutcome}
    (silent : reply.notes turn.session.spans = [])
    (world : World) :
    turn.afterHook reply world = turn.inWorld world := by
  rw [afterHook, silent, List.append_nil]
  rfl

/-- Where the hook is not registered, a line is dispatched as it is typed. -/
theorem onInput_withoutHook
    {id : EntityId}
    (live : turn.session.player = some id)
    (load : world.load id = .ok player)
    (text : String) :
    (turn.inWorld (world.withoutHook preprocessKey)).onInput
      (World.collaborators (levels + 1))
        text =
      (turn.inWorld (world.withoutHook preprocessKey)).dispatch
        (World.collaborators (levels + 1))
        player (.parse turn.session.vocabulary text) := by
  have loaded : (world.withoutHook preprocessKey).load id = .ok player := load
  have unran := @runHook_withoutHook levels world
    [.entity id, .string (Literal.escape text)]
  have dispatches := @onInput_of_reply (levels + 1)
    (turn.inWorld (world.withoutHook preprocessKey)) player id text _ _
    live loaded unran
  rw [afterHook_of_no_notes rfl] at dispatches
  exact dispatches

/--
A line that the hook replaced is dispatched in the world that the hook left, for
the player as it was before the hook.  So it is as if the replacement had been
typed there without the hook, if the player's privilege and place are what they
were and nothing that runs asks for the hook.
-/
theorem replaced_line_is_as_typed
    {id : EntityId}
    {before : Entity}
    {changed : World}
    {line text : String}
    (live : turn.session.player = some id)
    (load : turn.world.load id = .ok before)
    (hook : (World.collaborators levels).runHook .system preprocessHook
      [.entity id, .string (Literal.escape line)] turn.world =
        (.ok ⟨true, .string text⟩, changed))
    (quiet : ¬ (turn.inWorld changed).AsksForPreprocess levels before
      (.parse turn.session.vocabulary text)) :
    let replaced := turn.onInput (World.collaborators levels) line
    let unhooked := turn.inWorld (changed.withoutHook preprocessKey)
    let typed := unhooked.onInput (World.collaborators levels) text
    let dispatched (player : Entity) :=
      unhooked.dispatch (World.collaborators levels) player
        (.parse turn.session.vocabulary text)
    replaced.withoutPreprocess = (dispatched before).withoutPreprocess ∧
      ∀ after, changed.load id = .ok after →
        typed = dispatched after ∧
          (after.programmer = before.programmer →
            after.location = before.location →
            replaced.withoutPreprocess = typed.withoutPreprocess) := by
  intro replaced unhooked typed dispatched
  have same : replaced =
      (turn.inWorld changed).dispatch (World.collaborators levels) before
      (.parse turn.session.vocabulary text) := by
    have dispatches := onInput_of_reply live load hook
    rw [afterHook_of_no_notes rfl] at dispatches
    exact dispatches
  have overlooked :
      replaced.withoutPreprocess = (dispatched before).withoutPreprocess := by
    rw [same]
    exact dispatch_alike (alikeBut_withoutHook changed) quiet
  refine ⟨overlooked, ?_⟩
  intro after loadAfter
  have heard : typed = dispatched after := by
    cases levels with
    | zero => cases hook
    | succ levels => exact onInput_withoutHook live loadAfter text
  refine ⟨heard, ?_⟩
  intro samePrivilege samePlace
  have sameId : after.id = before.id :=
    (id_of_load loadAfter).trans (id_of_load load).symm
  rw [overlooked, heard]
  exact congrArg withoutPreprocess
    (dispatch_congr sameId samePrivilege samePlace unhooked).symm

/-- A verb that tells the player a text. -/
def telling (text : String) : Verb where
  signature := { name := VerbBinding.missingVerb }
  body := fun invocation => .tell invocation.player text (.done (.ok .absent))

/-- A programmer in the hall types while a hook replaces lines. -/
def watched (hook : Script) : Turn World where
  session := .start "alice" (.ofNat 0) .plain .empty
  registry := .register {} (.ofNat 0) "alice"
  world :=
    { created := 3
      objects :=
        [(.ofNat 0,
            { name := "Alice", location := some (.ofNat 1),
              programmer := true }),
          (.ofNat 1,
            { name := "hall",
              verbs := [telling "Nobody does that in the hall."] }),
          (.ofNat 2,
            { name := "cellar",
              verbs := [telling "Nobody does that in the cellar."] })]
      hooks := [(preprocessKey, fun _ => hook)]
      evaluator := some fun _ _ => .done (.ok (.string "done")) }

/-- The hook tells the player something and leaves it where it is. -/
def encouraging : Script :=
  .tell (.ofNat 0) "Go on." (.done (.ok (.string "dance")))

/-- The player in the hall, whom the hook told something. -/
def encouraged : World :=
  (watched encouraging).world.tell (.ofNat 0) "Go on."

theorem encouraged_asks_not :
    ¬ ((watched encouraging).inWorld encouraged).AsksForPreprocess 1
      { id := .ofNat 0, location := some (.ofNat 1), programmer := true }
      (.parse .empty "dance") := by
  have disposed : Disposition.of (.parse .empty "dance") true = .resolve := by
    decide +kernel
  have matched :
      (matchCommand (World.collaborators 1)
        { id := .ofNat 0, location := some (.ofNat 1), programmer := true }
        (.parse .empty "dance") encouraged).1 =
          .ok (some ({}, .missing (.ofNat 1))) := by
    decide +kernel
  simp only [AsksForPreprocess, disposed]
  rintro ⟨objects, binding, matchedToo, script, starts, asks⟩
  rw [inWorld_world, matched] at matchedToo
  cases matchedToo
  simp only [World.started, VerbCall.decode_code] at starts
  cases starts
  rcases (Script.asks_iff_of_step? rfl).mp asks with first | later
  · exact first
  · exact Script.not_asks_done _ later

/-- The turn ends as if the player had been told something and then typed
the replacement. -/
theorem encouraged_line_is_as_typed :
    ((watched encouraging).onInput
        (World.collaborators 1) "hello").withoutPreprocess =
      (((watched encouraging).inWorld
          (encouraged.withoutHook preprocessKey)).onInput
        (World.collaborators 1) "dance").withoutPreprocess :=
  ((replaced_line_is_as_typed rfl rfl rfl encouraged_asks_not).2 _ rfl).2
    rfl rfl

/-- The hook takes the player's privilege. -/
def demoting : Script :=
  .setProgrammer (.ofNat 0) false fun _ => .done (.ok (.string "eval 1"))

/-- The hook takes the player elsewhere. -/
def displacing : Script :=
  .move (.ofNat 0) (.ofNat 2) fun _ => .done (.ok (.string "dance"))

/-- Code is evaluated for a player who is no longer a programmer, and a command
is handled by a place where the player no longer is. -/
theorem hook_outdates_player :
    (∃ changed,
      (World.collaborators 1).runHook .system preprocessHook
          [.entity (.ofNat 0), .string (Literal.escape "hello")]
          (watched demoting).world =
        (.ok ⟨true, .string "eval 1"⟩, changed) ∧
      ((watched demoting).onInput (World.collaborators 1) "hello").events =
        [.output "\"done\""] ∧
      (((watched demoting).inWorld (changed.withoutHook preprocessKey)).onInput
        (World.collaborators 1) "eval 1").events = []) ∧
    ∃ changed,
      (World.collaborators 1).runHook .system preprocessHook
          [.entity (.ofNat 0), .string (Literal.escape "hello")]
          (watched displacing).world =
        (.ok ⟨true, .string "dance"⟩, changed) ∧
      ((watched displacing).onInput (World.collaborators 1)
        "hello").world.toldTo (.ofNat 0) =
        ["Nobody does that in the hall."] ∧
      (((watched displacing).inWorld
          (changed.withoutHook preprocessKey)).onInput (World.collaborators 1)
        "dance").world.toldTo (.ofNat 0) =
          ["Nobody does that in the cellar."] := by
  constructor
  · exact ⟨_, rfl, by decide +kernel, by decide +kernel⟩
  · exact ⟨_, rfl, by decide +kernel, by decide +kernel⟩

end Turn

end TextWorld
