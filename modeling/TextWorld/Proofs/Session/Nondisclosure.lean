import TextWorld.Proofs.Session.Acts
import TextWorld.Session.Prompted

/-!
# What an unprivileged user can learn

Over a whole run, a user who embodies no programmer is told of each line only
what became of it: nothing, that something failed, that nothing was understood,
or that the user has left.  In which words this is told is up to the
configuration and the user.  So two runs in which the same became of every line
cannot be told apart, however the worlds differ and whatever went wrong in them.
-/

namespace TextWorld.Turn

variable {σ τ : Type}

/-- What an unprivileged user can tell about a line. -/
inductive Fate where
  | silent
  | failed
  | notUnderstood
  | left
deriving DecidableEq

/-- How a user is told of a fate. -/
def Fate.events (config : Config) (user : String) : Fate → List Event
  | .silent => []
  | .failed => [.output (Style.error config.color Failure.notice)]
  | .notUnderstood => [.output (Style.muted config.color config.notUnderstood)]
  | .left => [.setPrompt user, .output config.farewell]

/-- The fate of a line, unless it came to something that only
programmers are told. -/
def Outcome.fate? : Outcome → Option Fate
  | .ignored => some .silent
  | .failed _ _ _ true => none
  | .failed _ _ _ false => some .failed
  | .evaluated _ => none
  | .left => some .left
  | .notUnderstood => some .notUnderstood
  | .performed => some .silent

/-- A line that has a fate is told as that fate. -/
theorem Outcome.events_of_fate?
    {outcome : Outcome}
    {fate : Fate}
    (fated : outcome.fate? = some fate)
    (session : Session) :
    outcome.events session = fate.events session.config session.user := by
  cases outcome with
  | failed site failure player privileged =>
      cases privileged with
      | true => cases fated
      | false =>
          cases fated
          rfl
  | evaluated value => cases fated
  | _ =>
      cases fated
      rfl

/-- If the player of the session is loaded now, it is no programmer. -/
def LoadsUnprivileged (collaborators : Collaborators σ)
    (turn : Turn σ) : Prop :=
  ∀ id ∈ turn.session.player,
    ∀ player ∈ (collaborators.load id turn.world).1.toOption,
      player.programmer = false

instance (collaborators : Collaborators σ) (turn : Turn σ) :
    Decidable (turn.LoadsUnprivileged collaborators) :=
  inferInstanceAs (Decidable (∀ id ∈ turn.session.player, ∀ player ∈ _, _))

/-- No line of a run is typed by a programmer. -/
def NeverPrivileged (collaborators : Collaborators σ) (turn : Turn σ) :
    List (Act σ) → Prop
  | [] => True
  | .line text :: acts =>
      turn.LoadsUnprivileged collaborators ∧
        (turn.act collaborators (.line text)).NeverPrivileged collaborators acts
  | .tab direction :: acts =>
      (turn.act collaborators (.tab direction)).NeverPrivileged
        collaborators acts
  | .meanwhile change :: acts =>
      (turn.act collaborators (.meanwhile change)).NeverPrivileged
        collaborators acts

/-- Whether a run is without privilege can be found out by going through it. -/
instance decidableNeverPrivileged (collaborators : Collaborators σ) :
    (turn : Turn σ) → (acts : List (Act σ)) →
      Decidable (turn.NeverPrivileged collaborators acts)
  | _, [] => .isTrue trivial
  | turn, .line text :: acts =>
      have := decidableNeverPrivileged collaborators
        (turn.act collaborators (.line text)) acts
      inferInstanceAs (Decidable (_ ∧ _))
  | turn, .tab direction :: acts =>
      decidableNeverPrivileged collaborators
        (turn.act collaborators (.tab direction)) acts
  | turn, .meanwhile change :: acts =>
      decidableNeverPrivileged collaborators
        (turn.act collaborators (.meanwhile change)) acts

/-- What becomes of each line of a run. -/
inductive Fated (collaborators : Collaborators σ) :
    Turn σ → List (Act σ) → List Fate → Prop where
  | nil {turn : Turn σ} : Fated collaborators turn [] []
  | line {turn : Turn σ} {text : String} {calls : List Call}
      {outcome : Outcome} {next : Turn σ} {fate : Fate} {acts : List (Act σ)}
      {fates : List Fate}
      (course : Course collaborators text turn calls outcome next)
      (fated : outcome.fate? = some fate)
      (rest : Fated collaborators next acts fates) :
      Fated collaborators turn (.line text :: acts) (fate :: fates)
  | tab {turn : Turn σ} {direction : TabDirection} {acts : List (Act σ)}
      {fates : List Fate}
      (rest : Fated collaborators
        (turn.act collaborators (.tab direction)) acts fates) :
      Fated collaborators turn (.tab direction :: acts) fates
  | meanwhile {turn : Turn σ} {change : σ → σ} {acts : List (Act σ)}
      {fates : List Fate}
      (rest : Fated collaborators
        (turn.act collaborators (.meanwhile change)) acts fates) :
      Fated collaborators turn (.meanwhile change :: acts) fates

variable {collaborators : Collaborators σ} {player : Entity} {command : Command}
  {line : String} {turn next : Turn σ} {calls : List Call} {outcome : Outcome}

/-- The player that is loaded is no programmer. -/
theorem LoadsUnprivileged.programmer_eq
    (unprivileged : turn.LoadsUnprivileged collaborators)
    {id : EntityId}
    {loaded : σ}
    (live : turn.session.player = some id)
    (load : collaborators.load id turn.world = (.ok player, loaded)) :
    player.programmer = false := by
  apply unprivileged id live player
  rw [load]
  exact rfl

/-- A dispatched command of an unprivileged player has a fate. -/
theorem Dispatched.exists_fate
    (unprivileged : player.programmer = false)
    (dispatched :
      Dispatched collaborators player command turn calls outcome next) :
    ∃ fate, outcome.fate? = some fate := by
  have notEval := Disposition.ne_eval_of_unprivileged unprivileged command
  cases dispatched with
  | evaluated disposed run => exact absurd disposed notEval
  | evaluationFailed disposed run => exact absurd disposed notEval
  | left disposed => exact ⟨.left, rfl⟩
  | notUnderstood disposed matching => exact ⟨.notUnderstood, rfl⟩
  | matchingFailed disposed matching =>
      rw [unprivileged]
      exact ⟨.failed, rfl⟩
  | performed disposed matching bound run => exact ⟨.silent, rfl⟩
  | verbFailed disposed matching bound run =>
      rw [unprivileged]
      exact ⟨.failed, rfl⟩

/-- A line that no programmer typed has a fate. -/
theorem Course.exists_fate
    (unprivileged : turn.LoadsUnprivileged collaborators)
    (course : Course collaborators line turn calls outcome next) :
    ∃ fate, outcome.fate? = some fate := by
  cases course with
  | ignored retired => exact ⟨.silent, rfl⟩
  | unloaded live load => exact ⟨.failed, rfl⟩
  | unheard live load hook =>
      rw [unprivileged.programmer_eq live load]
      exact ⟨.failed, rfl⟩
  | heard live load hook dispatched =>
      exact dispatched.exists_fate (unprivileged.programmer_eq live load)

/-- Every run without privilege has its fates. -/
theorem exists_fated
    {acts : List (Act σ)}
    (never : turn.NeverPrivileged collaborators acts) :
    ∃ fates, Fated collaborators turn acts fates := by
  induction acts generalizing turn with
  | nil => exact ⟨[], .nil⟩
  | cons act acts inductive_step =>
      cases act with
      | line text =>
          obtain ⟨unprivileged, never⟩ := never
          obtain ⟨calls, outcome, course⟩ :=
            onInput_course collaborators text turn
          obtain ⟨fate, fated⟩ := course.exists_fate unprivileged
          obtain ⟨fates, rest⟩ := inductive_step never
          exact ⟨fate :: fates, .line course fated rest⟩
      | tab direction =>
          obtain ⟨fates, rest⟩ := inductive_step never
          exact ⟨fates, .tab rest⟩
      | meanwhile change =>
          obtain ⟨fates, rest⟩ := inductive_step never
          exact ⟨fates, .meanwhile rest⟩

/-- The lines of a run are told as their fates, in the words of the session
before the run. -/
theorem Fated.sends_eq
    {acts : List (Act σ)}
    {fates : List Fate}
    (fated : Fated collaborators turn acts fates) :
    turn.sends collaborators acts =
      fates.map (Fate.events turn.session.config turn.session.user) := by
  induction fated with
  | nil => rfl
  | line course fated rest inductive_step =>
      rw [← course.onInput_eq, ← Turn.act, act_config,
        act_user] at inductive_step
      rw [sends, course.sentBy_eq, Outcome.events_of_fate? fated,
        inductive_step, List.map_cons]
  | tab rest inductive_step =>
      rw [act_config, act_user] at inductive_step
      exact inductive_step
  | meanwhile rest inductive_step =>
      rw [act_config, act_user] at inductive_step
      exact inductive_step

/--
An unprivileged user is sent nothing but the fates of the lines, each in words
that only the configuration and the user determine; and two runs whose lines
have the same fates send the same events, whatever their worlds answer and
whatever else happens in them.
-/
theorem sends_only_fates
    {others : Collaborators τ}
    {acts : List (Act σ)}
    {other : Turn τ}
    {otherActs : List (Act τ)}
    (never : turn.NeverPrivileged collaborators acts)
    (sameConfig : other.session.config = turn.session.config)
    (sameUser : other.session.user = turn.session.user) :
    (∃ fates, Fated collaborators turn acts fates ∧
        turn.sends collaborators acts =
          fates.map (Fate.events turn.session.config turn.session.user) ∧
        (turn.run collaborators acts).events =
          turn.events ++ (turn.sends collaborators acts).flatten) ∧
      ∀ fates, Fated collaborators turn acts fates →
        Fated others other otherActs fates →
        other.sends others otherActs = turn.sends collaborators acts := by
  constructor
  · obtain ⟨fates, fated⟩ := exists_fated never
    exact ⟨fates, fated, fated.sends_eq, run_events collaborators turn acts⟩
  · intro fates fated fatedOther
    rw [fated.sends_eq, fatedOther.sends_eq, sameConfig, sameUser]

/-- A user without privilege is about to type in a world that answers
as it was told. -/
def asking (world : PromptedWorld) : Turn PromptedWorld where
  session := .start "anna" ⟨7⟩ {}
  registry := .register {} ⟨7⟩ "anna"
  world := { world with entities := [(⟨7⟩, { id := ⟨7⟩ })] }

/-- A world in which rubbing fails. -/
def rubbing : Turn PromptedWorld :=
  asking
    { value := .error (.internal "the genie is out"),
      verb := .ok (some (.matched ⟨1⟩ "rub")) }

/-- A world in which nothing can be found. -/
def searching : Turn PromptedWorld :=
  asking { objects := .error (.internal "the lamp is inside itself") }

/-- A short stay, after which something else is typed in vain. -/
def stay (first : String) : List (Act PromptedWorld) :=
  [.line first, .tab .forward, .line "quit", .line "look"]

/-- A verb that fails and a search that fails are told alike. -/
theorem failures_are_told_alike :
    (∃ fates, Fated PromptedWorld.collaborators rubbing (stay "rub lamp")
      fates ∧ rubbing.sends PromptedWorld.collaborators (stay "rub lamp") =
      fates.map (Fate.events rubbing.session.config rubbing.session.user) ∧
      (rubbing.run PromptedWorld.collaborators (stay "rub lamp")).events =
      rubbing.events ++
      (rubbing.sends PromptedWorld.collaborators (stay "rub lamp")).flatten) ∧
      ∀ fates,
        Fated PromptedWorld.collaborators rubbing (stay "rub lamp") fates →
        Fated PromptedWorld.collaborators searching (stay "get lamp") fates →
          searching.sends PromptedWorld.collaborators (stay "get lamp") =
            rubbing.sends PromptedWorld.collaborators (stay "rub lamp") := by
  have never : rubbing.NeverPrivileged PromptedWorld.collaborators
      (stay "rub lamp") := by
    decide +kernel
  exact sends_only_fates never rfl rfl

end TextWorld.Turn
