import TextWorld.Demo
import TextWorld.Proofs.World.Attempts
import TextWorld.World.Run

/-!
# What the verbs of the small world do

Most verbs of the small world only talk.  The others move one object before they
talk, if they do not refuse to.  So but for what is told, what such a verb does
to a world is one move, which may fail.
-/

namespace TextWorld

open World

/-- The world in which nobody was told anything. -/
def World.hushed (world : World) : World :=
  { world with told := [] }

/-- The script looks at the world, and does nothing to it but telling. -/
inductive Script.Talks : Script → Prop where
  | done (result : Except Failure Value) : Talks (.done result)
  | tell {id : EntityId} {text : String} {next : Script}
      (talks : Talks next) :
      Talks (.tell id text next)
  | name {id : EntityId} {next : Except Failure String → Script}
      (talks : ∀ answer, Talks (next answer)) :
      Talks (.name id next)
  | location {id : EntityId} {next : Except Failure (Option EntityId) → Script}
      (talks : ∀ answer, Talks (next answer)) :
      Talks (.location id next)
  | contents {id : EntityId} {next : List EntityId → Script}
      (talks : ∀ answer, Talks (next answer)) :
      Talks (.contents id next)

/-- The action makes a script talk that talks after it. -/
def Action.Talks {α : Type} (action : Action α) : Prop :=
  ∀ next : α → Script, (∀ answer, (next answer).Talks) → (action next).Talks

/-- Talking changes nothing but what is told. -/
theorem Script.Talks.hushed_perform
    {script : Script}
    (talks : script.Talks)
    (calls : Calls)
    (world : World) :
    (script.perform calls world).2.hushed = world.hushed := by
  induction talks generalizing world with
  | done result => rfl
  | tell _ inductive_step => exact inductive_step _
  | name _ inductive_step => exact inductive_step _ world
  | location _ inductive_step => exact inductive_step _ world
  | contents _ inductive_step => exact inductive_step _ world

namespace Action

variable {α β : Type}

theorem Talks.orFail
    {next : α → Script}
    (talks : ∀ answer, (next answer).Talks)
    (answer : Except Failure α) :
    (Action.orFail next answer).Talks := by
  cases answer with
  | ok answer => exact talks answer
  | error failure => exact .done (.error failure)

theorem talks_pure (answer : α) : (pure answer : Action α).Talks :=
  fun _ talks => talks answer

theorem Talks.bind
    {action : Action α}
    {rest : α → Action β}
    (first : action.Talks)
    (later : ∀ answer, (rest answer).Talks) :
    (action >>= rest).Talks :=
  fun next talks => first _ fun answer => later answer next talks

theorem talks_tell (id : EntityId) (text : String) :
    (Action.tell id text).Talks :=
  fun _ talks => .tell (talks ())

theorem talks_fail (failure : Failure) :
    (Action.fail failure : Action α).Talks :=
  fun _ _ => .done (.error failure)

theorem talks_name (id : EntityId) : (Action.name id).Talks :=
  fun _ talks => .name (Talks.orFail talks)

theorem talks_location (id : EntityId) : (Action.location id).Talks :=
  fun _ talks => .location (Talks.orFail talks)

theorem talks_contents (id : EntityId) : (Action.contents id).Talks :=
  fun _ talks => .contents talks

theorem talks_names (ids : List EntityId) : (Action.names ids).Talks := by
  induction ids with
  | nil => exact talks_pure []
  | cons id rest inductive_step =>
      refine (talks_name id).bind fun first => ?_
      exact inductive_step.bind fun others => talks_pure (first :: others)

theorem talks_tellEach (text : String) (ids : List EntityId) :
    (Action.tellEach text ids).Talks := by
  induction ids with
  | nil => exact talks_pure ()
  | cons id rest inductive_step =>
      exact (talks_tell id text).bind fun _ => inductive_step

theorem Talks.script {action : Action Value} (talks : action.Talks) :
    action.script.Talks :=
  talks _ fun value => .done (.ok value)

/-- A move and talk after it do what the move does. -/
theorem hushed_move_script
    {rest : Unit → Action Value}
    (talks : ∀ answer, (rest answer).Talks)
    (id destination : EntityId)
    (calls : Calls)
    (world : World) :
    (((Action.move id destination >>= rest).script).perform calls
      world).2.hushed =
      (world.attempt (.move id destination)).hushed :=
  (Talks.orFail (fun answer => (talks answer).script) _).hushed_perform calls _

theorem perform_location_of_ok
    {world : World}
    {id : EntityId}
    {place : Option EntityId}
    (located : world.location id = .ok place)
    (rest : Option EntityId → Action Value)
    (calls : Calls) :
    (Action.location id >>= rest).script.perform calls world =
      (rest place).script.perform calls world := by
  change (Action.orFail _ (world.location id)).perform calls world = _
  rw [located]
  rfl

theorem perform_location_of_error
    {world : World}
    {id : EntityId}
    {failure : Failure}
    (missing : world.location id = .error failure)
    (rest : Option EntityId → Action Value)
    (calls : Calls) :
    (Action.location id >>= rest).script.perform calls world =
      (.error failure, world) := by
  change (Action.orFail _ (world.location id)).perform calls world = _
  rw [missing]
  rfl

end Action

namespace Demo

open TextWorld.Action

variable (call : Invocation) (calls : Calls) (world : World)

/-! ## Talk -/

theorem talks_nothing : nothing.Talks := talks_pure Value.absent

/-- A text at the end of a body. -/
theorem talks_last (id : EntityId) (text : String) :
    (do
      .tell id text
      nothing : Action Value).Talks :=
  (talks_tell id text).bind fun _ => talks_nothing

theorem talks_namesExcept (place skipped : EntityId) :
    (namesExcept place skipped).Talks :=
  (talks_contents place).bind fun _ => talks_names _

theorem talks_broadcast (text : String) : (broadcast call text).Talks := by
  refine (talks_location call.player).bind fun place => ?_
  refine (talks_contents _).bind fun listeners => ?_
  exact (talks_tellEach text listeners).bind fun _ => talks_nothing

theorem talks_look : (look call).Talks := by
  refine (talks_location call.player).bind fun place => ?_
  cases place with
  | none => exact talks_last _ _
  | some room =>
      cases direct : call.direct with
      | some thing =>
          exact (talks_name thing).bind fun name => talks_last _ _
      | none =>
          refine (talks_name room).bind fun name => ?_
          refine (talks_tell _ _).bind fun _ => ?_
          refine (talks_namesExcept room call.player).bind fun others => ?_
          split
          · exact talks_nothing
          · exact talks_last _ _

theorem talks_say : (say call).Talks :=
  (talks_name call.player).bind fun _ => talks_broadcast call _

theorem talks_emote : (emote call).Talks :=
  (talks_name call.player).bind fun _ => talks_broadcast call _

theorem talks_echo : (echo call).Talks := talks_last _ _

theorem talks_inventory : (inventory call).Talks := by
  refine (talks_namesExcept call.player call.player).bind fun carried => ?_
  split
  · exact talks_last _ _
  · exact talks_last _ _

theorem talks_rub : (rub call).Talks := talks_fail _

theorem talks_cannotTake : (cannotTake call).Talks := talks_last _ _

theorem talks_cannotDrop : (cannotDrop call).Talks := talks_last _ _

/-- Names an object to the player after it was moved. -/
theorem talks_report (thing : EntityId) (text : String → String) :
    (do
      let name ← Action.name thing
      .tell call.player (text name)
      nothing).Talks :=
  (talks_name thing).bind fun _ => talks_last _ _

/-! ## Moves -/

/-- The move that taking attempts: anything but the player and the room is
moved to the player. -/
def takeMoves (player room : EntityId) : Option EntityId → List Mutation
  | some thing =>
      if thing ≠ player ∧ thing ≠ room then [.move thing player] else []
  | none => []

/-- The move that dropping attempts: what the player carries is
moved to the room. -/
def dropMoves (world : World) (player room : EntityId) :
    Option EntityId → List Mutation
  | some thing =>
      if (world.location thing).toOption =
        some (some player) then [.move thing room] else []
  | none => []

/-- The move that putting attempts: anything is moved into the container. -/
def putMoves : Option EntityId → Option EntityId → List Mutation
  | some thing, some container => [.move thing container]
  | _, _ => []

theorem hushed_take :
    ((take call).script.perform calls world).2.hushed =
      (world.attempts
        (takeMoves call.player call.this call.direct)).hushed := by
  rw [take]
  cases call.direct with
  | none => exact (talks_cannotTake call).script.hushed_perform calls world
  | some thing =>
      dsimp only [takeMoves]
      by_cases other : thing ≠ call.player ∧ thing ≠ call.this
      · rw [if_pos other, if_pos other]
        exact hushed_move_script (fun _ =>
            talks_report call thing _) thing call.player calls world
      · rw [if_neg other, if_neg other]
        exact (talks_cannotTake call).script.hushed_perform calls world

theorem hushed_drop :
    ((drop call).script.perform calls world).2.hushed =
      (world.attempts
        (dropMoves world call.player call.this call.direct)).hushed := by
  rw [drop]
  cases call.direct with
  | none => exact (talks_cannotDrop call).script.hushed_perform calls world
  | some thing =>
      dsimp only [dropMoves]
      cases located : world.location thing with
      | error failure =>
          rw [perform_location_of_error located]
          rfl
      | ok place =>
          rw [perform_location_of_ok located,
            show (Except.ok place).toOption = some place from rfl]
          by_cases carried : place = some call.player
          · rw [if_pos carried, if_pos (congrArg some carried)]
            exact hushed_move_script (fun _ =>
                talks_report call thing _) thing call.this calls
              world
          · rw [if_neg carried,
              if_neg fun same => carried (Option.some.inj same)]
            exact (talks_cannotDrop call).script.hushed_perform calls world

theorem hushed_go (destination : EntityId) :
    ((go destination call).script.perform calls world).2.hushed =
      (world.attempt (.move call.player destination)).hushed :=
  hushed_move_script (fun _ =>
      talks_report call destination _) call.player destination calls world

theorem hushed_put :
    ((put call).script.perform calls world).2.hushed =
      (world.attempts (putMoves call.direct call.indirect)).hushed := by
  have idle := talks_last call.player "Put what?"
  rw [put]
  cases call.direct with
  | none => exact idle.script.hushed_perform calls world
  | some thing =>
      cases call.indirect with
      | none => exact idle.script.hushed_perform calls world
      | some container =>
          refine hushed_move_script (fun _ => ?_) thing container calls world
          exact (talks_name thing).bind fun _ => talks_report call container _

end Demo

end TextWorld
