import TextWorld.Demo
import TextWorld.Proofs.Invocation.RoundTrip
import TextWorld.Proofs.Session.Calls
import TextWorld.World.Run

/-!
# What an unprivileged player can have run

A line of input is free text, and a hook may replace it by other text.
Neither text is ever part of the code that is run, except inside the literals
of a verb call: whatever an unprivileged player types, the world is handed at
most one fragment, and the fragment is decoded to the call that the replies of
the world ask for.
-/

namespace TextWorld

open TextWorld.Text

variable {σ : Type}

/-- Every entity that is loaded carries the id that was asked for. -/
def Collaborators.LoadsRequested (collaborators : Collaborators σ) : Prop :=
  ∀ (id : EntityId) (world : σ) (entity : Entity) (after : σ),
    collaborators.load id world = (.ok entity, after) → entity.id = id

/-- An entity that a world in memory loads carries the id that was asked for. -/
theorem World.collaborators_loadsRequested (levels : Nat) :
    (World.collaborators levels).LoadsRequested := by
  intro id world entity after load
  have answer : world.load id = .ok entity := congrArg Prod.fst load
  rw [World.load] at answer
  cases object : world.object id with
  | error failure =>
      rw [object] at answer
      cases answer
  | ok found =>
      rw [object] at answer
      cases answer
      rfl

/-- The code and the label, if the operation runs code. -/
def Call.run? : Call → Option (String × String)
  | .run code label => some (code, label)
  | _ => none

/-- The codes that are run by a list of operations, each with its label. -/
def runsOf (calls : List Call) : List (String × String) :=
  calls.filterMap Call.run?

@[simp]
theorem runsOf_append (first second : List Call) :
    runsOf (first ++ second) = runsOf first ++ runsOf second :=
  List.filterMap_append

/-- Verb calls and evaluations run under different labels. -/
theorem VerbCall.label_ne_snippetLabel (call : VerbCall) (player : EntityId) :
    call.label ≠ Snippet.label player := by
  intro equal
  have start :
      call.label.toList.head? = (Snippet.label player).toList.head? := by
    rw [equal]
  simp [VerbCall.label, Snippet.label] at start

namespace Turn

/--
The call that the replies of the world to a line ask for.  The text is the
string that the hook returned, if it ran and returned one, and else the
line; the objects are those that were matched; and the verb is the one
that was matched, or else the handler of the player's location for
commands that nothing matched.
-/
inductive Asked
    (collaborators : Collaborators σ)
    (vocabulary : Vocabulary)
    (id : EntityId)
    (player : Entity)
    (line : String)
    (world : σ) :
    VerbCall → Prop where
  | matched {reply : HookOutcome} {heard : σ} {command : Command}
      {objects : BoundObjects} {between : σ} {binding : VerbBinding} {after : σ}
      (hook : collaborators.runHook .system "preprocessCommand"
        [.entity id, .string (Literal.escape line)] world = (.ok reply, heard))
      (parsed : command = .parse vocabulary (reply.textFor line))
      (stays : command.verb ≠ "quit")
      (matchObjects : collaborators.matchObjects player command heard =
        (.ok objects, between))
      (matchVerb :
        collaborators.matchVerb player command objects between =
          (.ok (some binding), after)) :
      Asked collaborators vocabulary id player line world
        { owner := binding.owner
          verb := binding.verb
          player := id
          direct := objects.direct
          indirect := objects.indirect
          command := command }
  | missing {reply : HookOutcome} {heard : σ} {command : Command}
      {objects : BoundObjects} {between unmatched : σ} {location : EntityId}
      {place : Entity} {after : σ}
      (hook : collaborators.runHook .system "preprocessCommand"
        [.entity id, .string (Literal.escape line)] world = (.ok reply, heard))
      (parsed : command = .parse vocabulary (reply.textFor line))
      (stays : command.verb ≠ "quit")
      (matchObjects : collaborators.matchObjects player command heard =
        (.ok objects, between))
      (matchVerb : collaborators.matchVerb player command objects between =
        (.ok none, unmatched))
      (somewhere : player.location = some location)
      (load : collaborators.load location unmatched = (.ok place, after))
      (takes : place.verbMissing = true) :
      Asked collaborators vocabulary id player line world
        { owner := location
          verb := "verbMissing"
          player := id
          direct := objects.direct
          indirect := objects.indirect
          command := command }

variable {collaborators : Collaborators σ} {line : String} {player : Entity}
  {command : Command} {turn next : Turn σ} {calls : List Call}
  {outcome : Outcome}

/-- Matching runs no code. -/
theorem Matching.runsOf_eq_nil
    {world : σ}
    {reply : Reply σ (Option (BoundObjects × VerbBinding))}
    (matching : Matching collaborators player command world calls reply) :
    runsOf calls = [] := by
  cases matching <;> rfl

/-- The call that a command of an unprivileged player is resolved to. -/
def Resolved
    (collaborators : Collaborators σ)
    (player : Entity)
    (command : Command)
    (world : σ)
    (call : VerbCall) :
    Prop :=
  command.verb ≠ quitVerb ∧
    ∃ calls objects binding after,
      Matching collaborators player command world calls
          (.ok (some (objects, binding)), after) ∧
        call = .ofBinding binding player.id objects command

/-- The replies to a line ask for the call that the command of the line
is resolved to. -/
theorem asked_iff
    (requested : collaborators.LoadsRequested)
    {vocabulary : Vocabulary}
    {world : σ}
    {call : VerbCall} :
    Asked collaborators vocabulary player.id player line world call ↔
      ∃ reply heard,
        collaborators.runHook .system preprocessHook
            [.entity player.id, .string (Literal.escape line)] world =
                (.ok reply, heard) ∧
          Resolved collaborators player (.parse vocabulary (reply.textFor line))
            heard call := by
  constructor
  · intro asked
    cases asked with
    | matched hook parsed stays matchObjects matchVerb =>
        subst parsed
        exact ⟨_, _, hook, stays, _, _, _, _,
          .matched matchObjects matchVerb, rfl⟩
    | missing hook parsed stays matchObjects matchVerb somewhere load takes =>
        subst parsed
        refine ⟨_, _, hook, stays, _, _, _, _,
          .placeTook matchObjects matchVerb somewhere load takes, ?_⟩
        rw [requested _ _ _ _ load]
        rfl
  · rintro ⟨reply, heard, hook, stays, calls, objects, binding,
      after, matching, rfl⟩
    cases matching with
    | matched matchObjects matchVerb =>
        exact .matched hook rfl stays matchObjects matchVerb
    | placeTook matchObjects matchVerb somewhere load takes =>
        rw [VerbCall.ofBinding, VerbBinding.missing, requested _ _ _ _ load]
        exact .missing hook rfl stays matchObjects matchVerb
          somewhere load takes

/-- A command whose matching found nothing is resolved to no call. -/
theorem Matching.not_resolved
    {world after : σ}
    {answer : Except Failure (Option (BoundObjects × VerbBinding))}
    (matching :
      Matching collaborators player command world calls (answer, after))
    (unmatched : ∀ found, answer ≠ .ok (some found))
    (call : VerbCall) :
    ¬ Resolved collaborators player command world call := by
  rintro ⟨_, _, objects, binding, _, found, _⟩
  have same := matching.matchCommand_eq.symm.trans found.matchCommand_eq
  exact unmatched _ (congrArg Prod.fst same)

/-- A dispatched command of an unprivileged player runs the call it is resolved
to, or no code. -/
theorem Dispatched.runsOf_cases
    (unprivileged : player.programmer = false)
    (dispatched :
      Dispatched collaborators player command turn calls outcome next) :
    (runsOf calls = [] ∧ ∀ call,
      ¬ Resolved collaborators player command turn.world call) ∨
      ∃ call, Resolved collaborators player command turn.world call ∧
        runsOf calls = [(call.code, call.label)] := by
  have resolves :=
    Disposition.eq_resolve_iff_of_unprivileged unprivileged command
  have notEval := Disposition.ne_eval_of_unprivileged unprivileged command
  cases dispatched with
  | evaluated disposed run => exact absurd disposed notEval
  | evaluationFailed disposed run => exact absurd disposed notEval
  | left disposed =>
      refine .inl ⟨rfl, ?_⟩
      rintro call ⟨stays, _⟩
      have resolved := resolves.mpr stays
      rw [disposed] at resolved
      cases resolved
  | notUnderstood disposed matching =>
      exact .inl ⟨matching.runsOf_eq_nil, matching.not_resolved nofun⟩
  | matchingFailed disposed matching =>
      exact .inl ⟨matching.runsOf_eq_nil, matching.not_resolved nofun⟩
  | performed disposed matching bound run =>
      refine .inr ⟨_, ⟨resolves.mp disposed, _, _, _, _, matching, bound⟩, ?_⟩
      rw [runsOf_append, matching.runsOf_eq_nil]
      rfl
  | verbFailed disposed matching bound run =>
      refine .inr ⟨_, ⟨resolves.mp disposed, _, _, _, _, matching, bound⟩, ?_⟩
      rw [runsOf_append, matching.runsOf_eq_nil]
      rfl

/--
Whatever an unprivileged player types, and whatever a hook rewrites it into, the
world is handed no code when no call is asked for, and otherwise one fragment.
The fragment is decoded to the call that is asked for, under the label of that
call, which is no label of an evaluation.
-/
theorem runs_only_what_is_asked
    (requested : collaborators.LoadsRequested)
    {id : EntityId}
    {loaded : σ}
    (live : turn.session.player = some id)
    (load : collaborators.load id turn.world = (.ok player, loaded))
    (unprivileged : player.programmer = false) :
    (runsOf (turn.callsOf collaborators line) = [] ∧
        ∀ call, ¬ Asked collaborators turn.session.vocabulary id player
            line loaded call) ∨
      ∃ call,
        Asked collaborators turn.session.vocabulary id player line loaded call ∧
        ∃ code label,
          runsOf (turn.callsOf collaborators line) = [(code, label)] ∧
          VerbCall.decode code = .ok call ∧
          label = "Verb::" ++ call.owner.text ++ "." ++ call.verb ∧
          ∀ other : EntityId, label ≠ "Eval::" ++ other.text := by
  obtain rfl : player.id = id := requested _ _ _ _ load
  obtain ⟨outcome, course⟩ := onInput_course_callsOf collaborators line turn
  rcases course.of_load live load with
    ⟨failure, after, hook, used⟩ | ⟨reply, heard, calls, hook, used, dispatched⟩
  · refine .inl ⟨by rw [used]; rfl, ?_⟩
    intro call asked
    obtain ⟨reply, heard, answered, _⟩ := (asked_iff requested).mp asked
    cases hook.symm.trans answered
  · have runs : runsOf (turn.callsOf collaborators line) = runsOf calls := by
      rw [used, runsOf_append]
      rfl
    rw [runs]
    rcases dispatched.runsOf_cases unprivileged with
      ⟨none, unresolved⟩ | ⟨call, resolved, one⟩
    · refine .inl ⟨none, ?_⟩
      intro call asked
      obtain ⟨_, _, answered, resolved⟩ := (asked_iff requested).mp asked
      cases hook.symm.trans answered
      exact unresolved call resolved
    · have asked := (asked_iff requested).mpr ⟨reply, heard, hook, resolved⟩
      exact .inr ⟨call, asked, call.code, call.label, one,
        VerbCall.decode_code call, rfl, VerbCall.label_ne_snippetLabel call⟩

/-- The player of the small world, who is no programmer, is about to type, and a
hook takes every line for a text that reads like the end of a fragment. -/
def typing : Turn World where
  session := .start "anna" Demo.player {}
  registry := .register {} Demo.player "anna"
  world :=
    { Demo.world false with
      hooks := [((.system, "preprocessCommand"),
        fun _ => .done (.ok (.string "say \"](#2, void 0)")))] }

/-- Speaking the text that the hook gives. -/
def speaking : VerbCall where
  owner := Demo.lobby
  verb := "say"
  player := Demo.player
  direct := none
  indirect := none
  command :=
    { verb := "say"
      argument := "\"](#2, void 0)"
      directObject := "](#2, void 0)" }

/-- What the hook gives is spoken, and no code is run but that of speaking. -/
theorem brackets_are_spoken :
    Asked (World.collaborators 1) typing.session.vocabulary Demo.player
        { id := Demo.player, programmer := false, location := some Demo.lobby }
        "eval 1" typing.world speaking ∧
      ∃ code label,
        runsOf (typing.callsOf (World.collaborators 1) "eval 1") =
          [(code, label)] ∧
        VerbCall.decode code = .ok speaking ∧
        label = "Verb::#0.say" ∧
        ∀ other : EntityId, label ≠ "Eval::" ++ other.text := by
  have requested := World.collaborators_loadsRequested 1
  have runs : runsOf (typing.callsOf (World.collaborators 1) "eval 1") =
      [(speaking.code, speaking.label)] := by
    decide +kernel
  have confined := @runs_only_what_is_asked _ (World.collaborators 1) "eval 1"
    { id := Demo.player, programmer := false,
      location := some Demo.lobby } typing requested
    Demo.player typing.world rfl rfl rfl
  rw [runs] at confined
  rcases confined with
    ⟨silent, -⟩ | ⟨call, asked, code, label, one, decoded, named, notEval⟩
  · cases silent
  · cases one
    cases (VerbCall.decode_code speaking).symm.trans decoded
    exact ⟨asked, _, _, runs, decoded, by decide +kernel, notEval⟩

end Turn

end TextWorld
