import Mathlib.Data.List.Induction
import Mathlib.Logic.Function.Basic
import TextWorld.Proofs.Session.Retirement

/-!
# Sessions that share a registry and a world

Sessions of different players are given lines in any order.  All they have in
common is the world and the registry, and of the registry a session takes out
its own entry when its player quits.  So at any time the registry is the one
that the sessions started with, without the entries of those who have quit, and
what happens in one session leaves the others as they are.
-/

namespace TextWorld

/-- What belongs to one session alone: the session, and what it has
sent and logged. -/
structure Seat where
  session : Session
  events : List Event := []
  records : List LogRecord := []

/-- Sessions with one registry and one world for all of them. -/
structure Gathering (ι σ : Type) where
  seats : ι → Seat
  registry : Registry
  world : σ

namespace Gathering

variable {ι σ : Type}

/-- The turn of a session, in the registry and the world as they are. -/
def turn (gathering : Gathering ι σ) (place : ι) : Turn σ where
  session := (gathering.seats place).session
  registry := gathering.registry
  world := gathering.world
  events := (gathering.seats place).events
  records := (gathering.seats place).records

/-- Every session embodies its player, no two have the same one, and every
player is registered for the user of the session. -/
structure Opened (gathering : Gathering ι σ)
    (players : ι → EntityId) : Prop where
  live : ∀ place, (gathering.seats place).session.player = some (players place)
  distinct : Function.Injective players
  registered : ∀ place,
    gathering.registry.user? (players place) =
      some (gathering.seats place).session.user

/-- The sessions and the registry, when the given ones of the
sessions have quit. -/
structure WithoutThose
    (gathering : Gathering ι σ)
    (players : ι → EntityId)
    (gone : ι → Prop)
    (now : Gathering ι σ) :
    Prop where
  retired : ∀ place, gone place →
    (now.seats place).session = (gathering.seats place).session.retired
  live : ∀ place, ¬ gone place →
    (now.seats place).session = (gathering.seats place).session
  removed : ∀ place, gone place → now.registry.user? (players place) = none
  kept : ∀ player, (∀ place, gone place → players place ≠ player) →
    now.registry.user? player = gathering.registry.user? player

variable {collaborators : Collaborators σ} {gathering now : Gathering ι σ}
  {players : ι → EntityId} {gone : ι → Prop}

theorem WithoutThose.congr
    {left : ι → Prop}
    (without : WithoutThose gathering players gone now)
    (same : ∀ place, gone place ↔ left place) :
    WithoutThose gathering players left now := by
  have equal : gone = left := funext fun place => propext (same place)
  rwa [← equal]

variable [DecidableEq ι]

/-- The gathering after an act in one of the sessions. -/
def act
    (collaborators : Collaborators σ)
    (gathering : Gathering ι σ)
    (move : ι × Act σ) :
    Gathering ι σ :=
  let after := (gathering.turn move.1).act collaborators move.2
  { seats := Function.update gathering.seats move.1
      ⟨after.session, after.events, after.records⟩
    registry := after.registry
    world := after.world }

/-- The gathering after acts in the sessions, one after the other. -/
def after
    (collaborators : Collaborators σ)
    (gathering : Gathering ι σ)
    (moves : List (ι × Act σ)) :
    Gathering ι σ :=
  moves.foldl (act collaborators) gathering

/-- One of the lines of a session was a command to quit when it was typed. -/
def HasQuit
    (collaborators : Collaborators σ)
    (gathering : Gathering ι σ)
    (moves : List (ι × Act σ))
    (place : ι) :
    Prop :=
  ∃ before text later,
    moves = before ++ (place, .line text) :: later ∧
      ((gathering.after collaborators before).turn place).Quits
        collaborators text

/-- An act in one session leaves the others alone. -/
theorem seats_act_of_ne
    {place other : ι}
    (different : other ≠ place)
    (act : Act σ) :
    (gathering.act collaborators (place, act)).seats other =
      gathering.seats other :=
  Function.update_of_ne different _ _

theorem seats_act_self (place : ι) (act : Act σ) :
    ((gathering.act collaborators (place, act)).seats place).session =
      ((gathering.turn place).act collaborators act).session := by
  simp [Gathering.act]

theorem after_concat (moves : List (ι × Act σ)) (move : ι × Act σ) :
    gathering.after collaborators (moves ++ [move]) =
      (gathering.after collaborators moves).act collaborators move :=
  List.foldl_append

theorem hasQuit_concat_iff
    {moves : List (ι × Act σ)}
    {move : ι × Act σ}
    {place : ι} :
    gathering.HasQuit collaborators (moves ++ [move]) place ↔
      gathering.HasQuit collaborators moves place ∨
        ∃ text, move = (place, .line text) ∧
          ((gathering.after collaborators moves).turn place).Quits
            collaborators text := by
  constructor
  · rintro ⟨before, text, later, parted, quits⟩
    rcases List.eq_nil_or_concat later with rfl | ⟨earlier, last, rfl⟩
    · rcases List.append_inj' parted rfl with ⟨rfl, same⟩
      cases same
      exact .inr ⟨text, rfl, quits⟩
    · rw [List.concat_eq_append, ← List.cons_append,
        ← List.append_assoc] at parted
      rcases List.append_inj' parted rfl with ⟨rfl, -⟩
      exact .inl ⟨before, text, earlier, rfl, quits⟩
  · rintro (⟨before, text, later, rfl, quits⟩ | ⟨text, rfl, quits⟩)
    · exact ⟨before, text, later ++ [move], by simp, quits⟩
    · exact ⟨moves, text, [], rfl, quits⟩

/-- A retired session does not quit again. -/
theorem not_quits_of_retired
    {turn : Turn σ}
    (retired : turn.session.player = none)
    (text : String) :
    ¬ turn.Quits collaborators text := by
  rintro ⟨id, player, loaded, reply, heard, live, -⟩
  rw [retired] at live
  cases live

/-! ## One act -/

theorem WithoutThose.of_unchanged
    {place : ι}
    {act : Act σ}
    (without : WithoutThose gathering players gone now)
    (session : ((now.turn place).act collaborators act).session =
      (now.seats place).session)
    (registry :
      ((now.turn place).act collaborators act).registry = now.registry) :
    WithoutThose gathering players gone
      (now.act collaborators (place, act)) := by
  have sessions (other : ι) :
      ((now.act collaborators (place, act)).seats other).session =
        (now.seats other).session := by
    by_cases same : other = place
    · rw [same, seats_act_self, session]
    · rw [seats_act_of_ne same]
  have entries :
      (now.act collaborators (place, act)).registry = now.registry := registry
  constructor
  · intro other gone
    rw [sessions, without.retired other gone]
  · intro other stays
    rw [sessions, without.live other stays]
  · intro other gone
    rw [entries, without.removed other gone]
  · intro player others
    rw [entries, without.kept player others]

theorem WithoutThose.of_retires
    {place : ι}
    {text : String}
    (without : WithoutThose gathering players gone now)
    (stays : ¬ gone place)
    (retires :
      Turn.Retires collaborators (now.turn place) (players place) text) :
    WithoutThose gathering players (fun other => gone other ∨ other = place)
      (now.act collaborators (place, .line text)) := by
  have own :
      ((now.act collaborators (place, .line text)).seats place).session =
        (gathering.seats place).session.retired := by
    rw [seats_act_self, ← without.live place stays]
    exact retires.session
  have entries (player : EntityId) :
      (now.act collaborators (place, .line text)).registry.user? player =
        if players place = player then none else now.registry.user? player :=
    retires.user? player
  constructor
  · rintro other (gone | rfl)
    · have different : other ≠ place := by
        rintro rfl
        exact stays gone
      rw [seats_act_of_ne different, without.retired other gone]
    · exact own
  · intro other present
    have different : other ≠ place := fun same => present (.inr same)
    rw [seats_act_of_ne different,
      without.live other fun gone => present (.inl gone)]
  · rintro other (gone | rfl)
    · rw [entries, without.removed other gone, ite_self]
    · rw [entries, if_pos rfl]
  · intro player others
    rw [entries, if_neg (others place (.inr rfl))]
    exact without.kept player fun other gone => others other (.inl gone)

/-- After an act the session of the act has quit as well, if the act was a
command to do so. -/
theorem WithoutThose.act
    (requested : collaborators.LoadsRequested)
    (opened : gathering.Opened players)
    (without : WithoutThose gathering players gone now)
    (place : ι)
    (act : Act σ) :
    WithoutThose gathering players
      (fun other => gone other ∨
        ∃ text, (place, act) = (other, .line text) ∧
          (now.turn other).Quits collaborators text)
      (now.act collaborators (place, act)) := by
  have goneBefore
      (goesOn : ∀ text, act = .line text →
        ¬ (now.turn place).Quits collaborators text)
      (other : ι) :
      gone other ↔ gone other ∨
        ∃ text, (place, act) = (other, .line text) ∧
          (now.turn other).Quits collaborators text := by
    refine ⟨.inl, ?_⟩
    rintro (before | ⟨text, same, quits⟩)
    · exact before
    · cases same
      exact absurd quits (goesOn text rfl)
  by_cases before : gone place
  · have retired : (now.turn place).session.player = none := by
      rw [turn, without.retired place before]
      rfl
    have idle : Turn.Idle collaborators (now.turn place) act :=
      Turn.idle_of_retired retired act
    apply (without.of_unchanged idle.session idle.registry).congr
    apply goneBefore
    intro text _
    exact not_quits_of_retired retired text
  · have live : (now.turn place).session.player = some (players place) := by
      rw [turn, without.live place before]
      exact opened.live place
    rcases Turn.stays_or_retires requested live act with
      stays | ⟨text, rfl, retires⟩
    · exact (without.of_unchanged stays.session stays.registry).congr
        (goneBefore stays.goesOn)
    · apply (without.of_retires before retires).congr
      intro other
      apply or_congr_right
      constructor
      · rintro rfl
        exact ⟨text, rfl, retires.quits⟩
      · rintro ⟨line, same, -⟩
        cases same
        rfl

/-! ## The main result -/

theorem withoutThose_after
    (requested : collaborators.LoadsRequested)
    (opened : gathering.Opened players)
    (moves : List (ι × Act σ)) :
    WithoutThose gathering players (gathering.HasQuit collaborators moves)
      (gathering.after collaborators moves) := by
  induction moves using List.reverseRecOn with
  | nil =>
      have nobody (place : ι) : ¬ gathering.HasQuit collaborators [] place := by
        rintro ⟨before, text, later, parted, -⟩
        simp at parted
      constructor
      · intro place quit
        exact absurd quit (nobody place)
      · intro place _
        rfl
      · intro place quit
        exact absurd quit (nobody place)
      · intro player _
        rfl
  | append_singleton moves move inductive_step =>
      rw [after_concat]
      apply (inductive_step.act requested opened move.1 move.2).congr
      intro place
      exact hasQuit_concat_iff.symm

open scoped Classical in
/--
However the acts of the sessions are interleaved, the registry holds the entries
that it held at the start, but for those of the players whose sessions were
given a command to quit.  Such a session is retired; every other one is as it
was, and its player is registered for its user.  An act in one session changes
neither another session nor what that one has sent or logged.
-/
theorem registry_keeps_those_who_stay
    (requested : collaborators.LoadsRequested)
    (opened : gathering.Opened players)
    (moves : List (ι × Act σ)) :
    (∀ player, (gathering.after collaborators moves).registry.user? player =
        if ∃ place, gathering.HasQuit collaborators moves place ∧
          players place = player then
          none
        else
          gathering.registry.user? player) ∧
      (∀ place, ((gathering.after collaborators moves).seats place).session =
        if gathering.HasQuit collaborators moves place then
          (gathering.seats place).session.retired
        else
          (gathering.seats place).session) ∧
        (∀ place, ¬ gathering.HasQuit collaborators moves place →
          (gathering.after collaborators moves).registry.user? (players place) =
            some (gathering.seats place).session.user) ∧
          ∀ place act other, other ≠ place →
            ((gathering.after collaborators moves).act
                collaborators (place, act)).seats other =
              (gathering.after collaborators moves).seats other := by
  have without := withoutThose_after requested opened moves
  refine ⟨?_, ?_, ?_, ?_⟩
  · intro player
    split
    · next quit =>
        rcases quit with ⟨place, quit, rfl⟩
        exact without.removed place quit
    · next stays =>
        apply without.kept
        intro place quit same
        exact stays ⟨place, quit, same⟩
  · intro place
    split
    · next quit => exact without.retired place quit
    · next stays => exact without.live place stays
  · intro place stays
    rw [← opened.registered place]
    apply without.kept
    intro other quit same
    rw [opened.distinct same] at quit
    exact stays quit
  · intro place act other different
    exact seats_act_of_ne different act

/-- Two of the small world's things are played by users, and someone
else is registered. -/
def parlour : Gathering Bool World where
  seats place :=
    { session :=
        if place then .start "anna" Demo.player {}
        else .start "berta" Demo.lamp {} }
  registry := (((Registry.register {} ⟨9⟩ "carla").register Demo.player
      "anna").register Demo.lamp "berta")
  world := Demo.world false

/-- An evening on which one of them quits. -/
def evening : List (Bool × Act World) :=
  [(true, .line "look"), (false, .line "quit"), (true, .line "say \"quit\""),
    (false, .line "look"), (true, .tab .forward), (false, .line "quit")]

theorem opened_parlour :
    parlour.Opened fun place => if place then Demo.player else Demo.lamp where
  live := by decide
  distinct := by
    unfold Function.Injective
    decide
  registered := by decide

/-- The one who has quit is no longer registered, and nothing else has changed
in the registry. -/
theorem berta_leaves_parlour :
    parlour.HasQuit (World.collaborators 1) evening false ∧
      ¬ parlour.HasQuit (World.collaborators 1) evening true ∧
        ∀ player, (parlour.after (World.collaborators 1) evening).registry.user?
          player =
          if player = Demo.lamp then none
          else parlour.registry.user? player := by
  have requested := World.collaborators_loadsRequested 1
  rcases registry_keeps_those_who_stay requested opened_parlour evening with
    ⟨registry, sessions, -, -⟩
  have retired :
      ((parlour.after (World.collaborators 1) evening).seats
        false).session.player = none := by
    decide +kernel
  have live :
      ((parlour.after (World.collaborators 1) evening).seats
        true).session.player =
        some Demo.player := by
    decide +kernel
  have quit : parlour.HasQuit (World.collaborators 1) evening false := by
    by_contra stays
    rw [sessions, if_neg stays] at retired
    cases retired
  have stays : ¬ parlour.HasQuit (World.collaborators 1) evening true := by
    intro quit
    rw [sessions, if_pos quit] at live
    cases live
  refine ⟨quit, stays, ?_⟩
  intro player
  have only_one :
      (∃ place, parlour.HasQuit (World.collaborators 1) evening place ∧
        (if place then Demo.player else Demo.lamp) = player) ↔
          player = Demo.lamp := by
    simp [quit, stays, eq_comm]
  rw [registry player]
  simp only [only_one]

end Gathering

end TextWorld
