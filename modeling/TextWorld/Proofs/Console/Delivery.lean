import TextWorld.Console.Basic
import TextWorld.Demo
import TextWorld.Proofs.Session.Acts
import TextWorld.Proofs.Session.Protocol
import TextWorld.Proofs.World.Deeds
import TextWorld.Proofs.World.Telling

/-!
# Delivery at the console

Two queues meet in a step of a console: what the player was told, and what the
session sends.  What the player is told comes from scripts that run each other,
from lines that fail halfway and from elsewhere; all of it is in the deeds of
the lines and in what happens between them.  The main result says that a step
shows exactly what the player was told since the step before, and then what the
session sends; and what others are told waits for them.
-/

namespace TextWorld

open World

/-! ## The deeds of a line -/

/-- The operations on a world that come of using one of its operations. -/
def Call.deeds (levels : Nat) : Call → World → List Mutation
  | .run code label, world => (World.deeds levels).run code label world
  | .runHook scope name arguments, world =>
      (World.deeds levels).runHook scope name arguments world
  | .load _, _ | .matchObjects _ _, _ | .matchVerb _ _ _, _ => []

/-- The operations on a world that come of using its operations one
after the other. -/
def Call.deedsOf (levels : Nat) : List Call → World → List Mutation
  | [], _ => []
  | call :: rest, world =>
      call.deeds levels world ++
        deedsOf levels rest ((World.collaborators levels).reply call world).2

theorem Call.attempts_deeds (levels : Nat) (call : Call) (world : World) :
    world.attempts (call.deeds levels world) =
      ((World.collaborators levels).reply call world).2 := by
  cases call with
  | run code label => exact (account_deeds levels).run code label world
  | runHook scope name arguments =>
      exact (account_deeds levels).runHook scope name arguments world
  | load | matchObjects | matchVerb => rfl

theorem Call.attempts_deedsOf (levels : Nat) (calls : List Call)
    (world : World) :
    world.attempts (deedsOf levels calls world) =
      (World.collaborators levels).afterCalls world calls := by
  induction calls generalizing world with
  | nil => rfl
  | cons call rest inductive_step =>
      rw [deedsOf, attempts_append, attempts_deeds]
      exact inductive_step _

namespace Turn

/-- A line changes the world by nothing but the operations that it uses, also
when the session is retired. -/
theorem onInput_world {σ : Type} (collaborators : Collaborators σ)
    (line : String) (turn : Turn σ) :
    (turn.onInput collaborators line).world =
      collaborators.afterCalls turn.world
        (turn.callsOf collaborators line) := by
  cases embodied : turn.session.player with
  | none =>
      have retired : turn.noting.session.player = none := embodied
      rw [callsOf, onInput_of_retired collaborators line embodied,
        onInput_of_retired collaborators.recorded line retired]
      rfl
  | some id =>
      rcases onInput_course_callsOf collaborators line turn with
        ⟨outcome, course⟩
      have followed := course.follow_lineProtocol embodied
      have changed :=
        Protocol.follow_world (lineProtocol turn.session.vocabulary id line)
        collaborators turn.world
      rwa [followed] at changed

/-- The operations on the world that come of a line. -/
def deeds (levels : Nat) (line : String) (turn : Turn World) : List Mutation :=
  Call.deedsOf levels
    (turn.callsOf (World.collaborators levels) line) turn.world

theorem attempts_deeds (levels : Nat) (line : String) (turn : Turn World) :
    turn.world.attempts (turn.deeds levels line) =
      (turn.onInput (World.collaborators levels) line).world := by
  rw [deeds, Call.attempts_deedsOf, onInput_world]

end Turn

namespace Console

/-- Something that happens to a console: a line is typed, or the world is
changed from elsewhere. -/
inductive Happening where
  | line (text : String)
  | elsewhere (mutation : Mutation)

variable (console : Console)

/-- The turn that a console begins when it is given a line. -/
def turn : Turn World where
  session := console.session
  registry := console.registry
  world := console.world

/-- The operations on the world that come of a line. -/
def deeds (line : String) : List Mutation :=
  console.turn.deeds console.levels line

/-- The texts that the session sends for a line. -/
def sent (line : String) : List String :=
  (console.turn.sentBy (World.collaborators console.levels) line).filterMap
    Event.output?

/-- The console after something happened. -/
def next : Happening → Console
  | .line text => (console.step text).console
  | .elsewhere mutation =>
      { console with world := console.world.attempt mutation }

/-- The console after things happened one after the other. -/
def through (happenings : List Happening) : Console :=
  happenings.foldl next console

/-- The operations on the world that come of a happening.  A step ends with
taking what the player was told. -/
def deedsOf : Happening → List Mutation
  | .line text => console.deeds text ++ [.takeTold console.player]
  | .elsewhere mutation => [mutation]

/-- The operations on the world that come of things happening one
after the other. -/
def history (console : Console) : List Happening → List Mutation
  | [] => []
  | happening :: rest =>
      console.deedsOf happening ++ (console.next happening).history rest

/-- The lines that each of the steps shows. -/
def shown (console : Console) : List Happening → List (List String)
  | [] => []
  | .line text :: rest =>
      (console.step text).lines :: (console.next (.line text)).shown rest
  | .elsewhere mutation :: rest =>
      (console.next (.elsewhere mutation)).shown rest

/-- The texts that the session sends in each of the steps. -/
def sentIn (console : Console) : List Happening → List (List String)
  | [] => []
  | .line text :: rest =>
      console.sent text :: (console.next (.line text)).sentIn rest
  | .elsewhere mutation :: rest =>
      (console.next (.elsewhere mutation)).sentIn rest

/-- Nobody but the steps themselves takes what the player is told. -/
def Undisturbed (console : Console) : List Happening → Prop
  | [] => True
  | .line text :: rest =>
      (∀ deed ∈ console.deeds text, deed.takesFor console.player = false) ∧
        (console.next (.line text)).Undisturbed rest
  | .elsewhere mutation :: rest =>
      mutation.takesFor console.player = false ∧
        (console.next (.elsewhere mutation)).Undisturbed rest

instance decidableUndisturbed (console : Console) :
    (happenings : List Happening) → Decidable (console.Undisturbed happenings)
  | [] => isTrue trivial
  | .line text :: rest =>
      have := decidableUndisturbed (console.next (.line text)) rest
      inferInstanceAs (Decidable (_ ∧ _))
  | .elsewhere mutation :: rest =>
      have := decidableUndisturbed (console.next (.elsewhere mutation)) rest
      inferInstanceAs (Decidable (_ ∧ _))

/-! ## One happening -/

@[simp]
theorem next_player (happening : Happening) :
    (console.next happening).player = console.player := by
  cases happening <;> rfl

theorem next_world (happening : Happening) :
    (console.next happening).world =
      console.world.attempts (console.deedsOf happening) := by
  cases happening with
  | line text =>
      rw [deedsOf, attempts_append, deeds]
      exact congrArg (World.takeTold · console.player)
        (console.turn.attempts_deeds console.levels text).symm
  | elsewhere mutation => rfl

theorem step_lines (line : String) :
    (console.step line).lines =
      (console.world.attempts (console.deeds line)).toldTo console.player ++
        console.sent line :=
  congrArg (fun world => World.toldTo world console.player ++ console.sent line)
    (console.turn.attempts_deeds console.levels line).symm

/-! ## Everything that happens -/

@[simp]
theorem through_player (happenings : List Happening) :
    (console.through happenings).player = console.player := by
  induction happenings generalizing console with
  | nil => rfl
  | cons happening rest inductive_step =>
      exact (inductive_step (console.next happening)).trans
        (console.next_player happening)

theorem through_world (happenings : List Happening) :
    (console.through happenings).world =
      console.world.attempts (console.history happenings) := by
  induction happenings generalizing console with
  | nil => rfl
  | cons happening rest inductive_step =>
      rw [history, attempts_append, ← next_world]
      exact inductive_step (console.next happening)

theorem through_elsewhere_world (mutations : List Mutation) :
    (console.through (mutations.map .elsewhere)).world =
      console.world.attempts mutations := by
  induction mutations generalizing console with
  | nil => rfl
  | cons mutation rest inductive_step =>
      exact inductive_step (console.next (.elsewhere mutation))

/-- A step leaves nothing waiting for the player. -/
theorem toldTo_next_line (line : String) :
    (console.next (.line line)).world.toldTo console.player = [] := by
  rw [next_world, deedsOf, attempts_append]
  refine (toldTo_attempt _ console.player (.takeTold console.player)).trans ?_
  simp [Mutation.takesFor, Mutation.textFor?]

/-- If nobody else takes what the player is told, then the steps show what they
take, each time followed by what the session sends. -/
theorem shown_eq_zipWith
    (happenings : List Happening)
    (undisturbed : console.Undisturbed happenings) :
    console.shown happenings =
      List.zipWith (· ++ ·)
        (console.world.taken console.player (console.history happenings))
        (console.sentIn happenings) := by
  induction happenings generalizing console with
  | nil => rfl
  | cons happening rest inductive_step =>
      rcases happening with text | mutation
      · rcases undisturbed with ⟨untaken, later⟩
        have takes :
            (Mutation.takeTold console.player).takesFor console.player = true :=
          decide_eq_true rfl
        have batches :
            console.world.taken console.player
              (console.history (.line text :: rest)) =
              (console.world.attempts (console.deeds text)).toldTo
                console.player ::
                (console.next (.line text)).world.taken console.player
                  ((console.next (.line text)).history rest) := by
          rw [history, taken_append, ← next_world, deedsOf, taken_append,
            taken_of_none_takes untaken, taken, if_pos takes]
          rfl
        rw [shown, sentIn, batches, step_lines, inductive_step _ later,
          next_player, List.zipWith_cons_cons]
      · rcases undisturbed with ⟨untaken, later⟩
        rw [shown, sentIn, history, taken_append, ← next_world,
          inductive_step _ later, next_player]
        rw [deedsOf,
          taken_of_none_takes (List.forall_mem_singleton.mpr untaken)]
        rfl

/--
A step of a console shows the texts that its player was told since the step
before, in order, and then what the session sends, unless someone else has taken
them from the player; in any case, it shows those that the player was told since
the last taking.  What any entity was told and nobody took for it waits for it,
in order: of all that it was told, each text was taken once or waits.  If only
the steps take what the player is told, then they show all that was taken.
-/
theorem shows_what_was_told (console : Console) (happenings : List Happening) :
    (∀ previous meanwhile line,
      let now := console.through
        (happenings ++ .line previous :: meanwhile.map .elsewhere)
      (∀ deed ∈ meanwhile ++ now.deeds line,
        deed.takesFor console.player = false) →
        (now.step line).lines =
          textsFor console.player (meanwhile ++ now.deeds line) ++
            now.sent line) ∧
      (∀ line,
        let now := console.through happenings
        (now.step line).lines =
          waiting console.player (console.world.toldTo console.player)
            (console.history happenings ++ now.deeds line) ++ now.sent line) ∧
      (∀ id,
        (console.through happenings).world.toldTo id =
          waiting id (console.world.toldTo id) (console.history happenings)) ∧
      (∀ id,
        (console.world.taken id (console.history happenings)).flatten ++
            (console.through happenings).world.toldTo id =
          console.world.toldTo id ++ textsFor id (console.history happenings)) ∧
      (console.Undisturbed happenings →
        console.shown happenings =
          List.zipWith (· ++ ·)
            (console.world.taken console.player (console.history happenings))
            (console.sentIn happenings)) := by
  refine ⟨?_, ?_, ?_, ?_, console.shown_eq_zipWith happenings⟩
  · intro previous meanwhile line now untaken
    let stepped := (console.through happenings).next (.line previous)
    have now_eq : now = stepped.through (meanwhile.map .elsewhere) :=
      List.foldl_append
    have player : now.player = console.player := console.through_player _
    have empty : stepped.world.toldTo console.player = [] := by
      have left := (console.through happenings).toldTo_next_line previous
      rwa [through_player] at left
    rw [step_lines, player, now_eq, through_elsewhere_world, ← attempts_append,
      ← now_eq, toldTo_attempts, empty, waiting_of_none_takes untaken,
      List.nil_append]
  · intro line now
    have player : now.player = console.player :=
      console.through_player happenings
    rw [step_lines, player, through_world, ← attempts_append, toldTo_attempts]
  · intro id
    rw [through_world, toldTo_attempts]
  · intro id
    rw [through_world, flatten_taken_append_toldTo]

/-- The console of a programmer in the small world. -/
def parlour : Console :=
  .start (Demo.world true) Demo.player { color := false } 3

/-- A bell rings and dust falls between two lines. -/
def bell : List Mutation :=
  [.tell Demo.player "A bell rings.", .tell Demo.lamp "You are dusty."]

/-- After a line that fails, the bell is heard before what is said, and the lamp
is left with its dust; after quitting, nothing is shown. -/
theorem bell_is_heard_in_parlour :
    let evening := [.line "look"] ++ .line "rub lamp" :: bell.map .elsewhere
    ((parlour.through evening).step "say hello").lines =
        ["A bell rings.", "Wizard says, \"hello\""] ∧
      (parlour.through evening).world.toldTo Demo.lamp = ["You are dusty."] ∧
      parlour.shown [.line "look", .line "quit", .line "look"] =
        [["Lobby", "You see: brass lamp, oak chest."], ["Bye!"], []] := by
  intro evening
  let day : List Happening := [.line "look", .line "quit", .line "look"]
  have since :=
    (shows_what_was_told parlour [.line "look"]).1 "rub lamp" bell "say hello"
  have waits := (shows_what_was_told parlour evening).2.2.1 Demo.lamp
  have untaken := (shows_what_was_told parlour day).2.2.2.2
  have heard :
      (∀ deed ∈ bell ++ (parlour.through evening).deeds "say hello",
          deed.takesFor parlour.player = false) ∧
        textsFor parlour.player
          (bell ++ (parlour.through evening).deeds "say hello") ++
            (parlour.through evening).sent "say hello" =
          ["A bell rings.", "Wizard says, \"hello\""] := by
    decide +kernel
  have seen :
      parlour.Undisturbed day ∧
        List.zipWith (· ++ ·)
            (parlour.world.taken parlour.player (parlour.history day))
            (parlour.sentIn day) =
          [["Lobby", "You see: brass lamp, oak chest."], ["Bye!"], []] := by
    decide +kernel
  exact ⟨(since heard.1).trans heard.2, waits.trans (by decide +kernel),
    (untaken seen.1).trans seen.2⟩

end Console

end TextWorld
