import TextWorld.Proofs.Console.Delivery
import TextWorld.Proofs.Console.Running
import TextWorld.Proofs.Demo.Errands
import TextWorld.Proofs.World.Moving

/-!
# The map of the small world

The small world starts as a map: the player is in one of its rooms, and the
rooms are in nothing.  Taking refuses the player and the room around it, but not
the other room, and putting refuses nothing.  So some lines take the map apart;
the main result says which these are, and that there are no others.
-/

namespace TextWorld

open World
open Relation

namespace Demo

/-- The player is in one of the rooms, and the rooms are in nothing. -/
structure IsMap (world : World) : Prop where
  inRoom : ∃ room ∈ rooms, world.LiesIn player room
  nowhere : ∀ room ∈ rooms, ∀ place, ¬ world.LiesIn room place

/-- The entity is the player or a room. -/
def OnMap (id : EntityId) : Prop :=
  id = player ∨ id ∈ rooms

/-- A command takes a map apart: the room across is taken, or the player or a
room is put into the chest, and the chest is not inside it. -/
inductive Displaces (world : World) (command : Command) : Prop where
  | takes {room : EntityId}
      (spoken : command.verb ∈ ["take", "get"])
      (isRoom : room ∈ rooms)
      (elsewhere : ¬ world.LiesIn player room)
      (means : world.Means player (wordOf command.directObject) room)
  | puts {thing : EntityId}
      (spoken : command.verb = "put")
      (into : command.preposition = "in")
      (container : world.Means player (wordOf command.indirectObject) chest)
      (onMap : OnMap thing)
      (means : world.Means player (wordOf command.directObject) thing)
      (movable : world.Movable thing chest)

/-- No id has two objects, and the places of objects form a forest. -/
structure Orderly (world : World) : Prop where
  distinct : world.objects.Distinct
  forest : world.Forest

variable {programmer : Bool} {world after : World}
  {room thing destination : EntityId} {command : Command}
  {objects : BoundObjects}

/-! ## Order -/

theorem Orderly.attempt (orderly : Orderly world) (mutation : Mutation) :
    Orderly (world.attempt mutation) := by
  rcases mutate_attempt world mutation with done | ⟨-, -, unchanged⟩
  · exact ⟨distinct_of_mutate done orderly.distinct,
      orderly.forest.rearranged (rearranged_of_mutate orderly.forest done)⟩
  · rw [unchanged]
    exact orderly

theorem Orderly.attempts (orderly : Orderly world) (mutations : List Mutation) :
    Orderly (world.attempts mutations) := by
  induction mutations generalizing world with
  | nil => exact orderly
  | cons mutation rest inductive_step =>
      exact inductive_step (orderly.attempt mutation)

/-- In the beginning, nothing is in anything but the lobby. -/
theorem liesIn_world (lies : (Demo.world programmer).LiesIn thing room) :
    room = lobby := by
  rcases lies with ⟨object, found, location⟩
  have each : ∀ entry ∈ (Demo.world programmer).objects, ∀ place,
      entry.2.location = some place → place = lobby := by
    simp [Demo.world, eq_comm]
  exact each _ (Table.mem_of_get?_eq_some found) room location

theorem not_liesIn_world (isRoom : room ∈ rooms) (place : EntityId) :
    ¬ (Demo.world programmer).LiesIn room place := by
  rcases room_cases isRoom with rfl | rfl <;>
    exact not_liesIn_of_nowhere rfl rfl

theorem orderly_world (programmer : Bool) :
    Orderly (Demo.world programmer) where
  distinct := by
    change [lobby, garden, player, lamp, chest].Nodup
    decide
  forest :=
    { housed := by
        intro inner outer lies
        rw [liesIn_world lies]
        rfl
      acyclic := by
        intro id cycle
        rcases TransGen.tail'_iff.mp cycle with ⟨inner, -, last⟩
        rcases TransGen.head'_iff.mp cycle with ⟨outer, first, -⟩
        rw [liesIn_world last] at first
        exact not_liesIn_world List.mem_cons_self outer first }

/-! ## Moves on the map -/

theorem liesIn_of_objects_eq (same : after.objects = world.objects) :
    after.LiesIn = world.LiesIn := by
  funext inner outer
  rw [LiesIn, LiesIn, same]

theorem isMap_iff_of_objects_eq (same : after.objects = world.objects) :
    IsMap after ↔ IsMap world := by
  have lies := liesIn_of_objects_eq same
  constructor
  · rintro ⟨inRoom, nowhere⟩
    exact ⟨lies ▸ inRoom, lies ▸ nowhere⟩
  · rintro ⟨inRoom, nowhere⟩
    exact ⟨lies ▸ inRoom, lies ▸ nowhere⟩

/-- A move changes the place of the moved object only. -/
theorem liesIn_attempt_move_of_ne
    {inner outer : EntityId}
    (other : inner ≠ thing)
    (world : World)
    (destination : EntityId) :
    (world.attempt (.move thing destination)).LiesIn inner outer ↔
      world.LiesIn inner outer := by
  rcases mutate_attempt world (.move thing destination) with
    done | ⟨failure, -, unchanged⟩
  · rw [LiesIn, LiesIn, get?_of_update (update_of_move done), if_neg other.symm]
  · rw [unchanged]

/-- The moved object is in the destination then, or it is where it was. -/
theorem liesIn_attempt_move
    (orderly : Orderly world)
    (thing destination : EntityId) :
    (world.Movable thing destination ∧
        (world.attempt (.move thing destination)).LiesIn thing destination) ∨
      (¬ world.Movable thing destination ∧
        world.attempt (.move thing destination) = world) := by
  rcases move_cases orderly.distinct orderly.forest thing destination with
    ⟨movable, moved⟩ | ⟨immovable, refused⟩
  · refine .inl ⟨movable, ?_⟩
    have done : world.mutate (.move thing destination) = _ := moved
    have attempted : world.attempt (.move thing destination) = _ :=
      congrArg (fun result => (world.change result).2) done
    rcases has_eq_true_iff.mp movable.present with ⟨object, found⟩
    rw [attempted]
    refine ⟨{ object with location := some destination }, ?_, rfl⟩
    have updated := get?_of_update (update_of_move moved) thing
    rw [if_pos rfl, found] at updated
    exact updated
  · refine .inr ⟨immovable, ?_⟩
    have failed : world.mutate (.move thing destination) = _ := refused
    exact congrArg (fun result => (world.change result).2) failed

theorem player_not_mem_rooms : player ∉ rooms := by decide

/-- What is not on the map can be moved anywhere. -/
theorem IsMap.attempt_of_not_onMap
    (isMap : IsMap world)
    (offMap : ¬ OnMap thing)
    (destination : EntityId) :
    IsMap (world.attempt (.move thing destination)) := by
  have others {id : EntityId} (onMap : OnMap id) : id ≠ thing := by
    rintro rfl
    exact offMap onMap
  constructor
  · rcases isMap.inRoom with ⟨room, isRoom, lies⟩
    exact ⟨room, isRoom,
      (liesIn_attempt_move_of_ne (others (.inl rfl)) world destination).mpr
        lies⟩
  · intro room isRoom place lies
    exact isMap.nowhere room isRoom place
      ((liesIn_attempt_move_of_ne (others (.inr isRoom)) world destination).mp
        lies)

/-- The player can go to any room. -/
theorem IsMap.attempt_go
    (isMap : IsMap world)
    (orderly : Orderly world)
    (isRoom : destination ∈ rooms) :
    IsMap (world.attempt (.move player destination)) := by
  rcases liesIn_attempt_move orderly player destination with
    ⟨-, moved⟩ | ⟨-, unchanged⟩
  · refine ⟨⟨destination, isRoom, moved⟩, ?_⟩
    intro room isRoom place lies
    have other : room ≠ player := by
      rintro rfl
      exact player_not_mem_rooms isRoom
    exact isMap.nowhere room isRoom place
      ((liesIn_attempt_move_of_ne other world destination).mp lies)
  · rw [unchanged]
    exact isMap

/-- Moving something to what is no room takes the map apart if the thing was on
the map and is moved indeed. -/
theorem IsMap.attempt_iff
    (isMap : IsMap world)
    (orderly : Orderly world)
    (noRoom : destination ∉ rooms) :
    IsMap (world.attempt (.move thing destination)) ↔
      ¬ (OnMap thing ∧ world.Movable thing destination) := by
  rcases liesIn_attempt_move orderly thing destination with
    ⟨movable, moved⟩ | ⟨immovable, unchanged⟩
  · constructor
    · rintro ⟨⟨room, isRoom, lies⟩, nowhere⟩ ⟨rfl | partOfMap, -⟩
      · exact noRoom (moved.unique lies ▸ isRoom)
      · exact nowhere _ partOfMap _ moved
    · intro offMap
      exact isMap.attempt_of_not_onMap (fun onMap =>
          offMap ⟨onMap, movable⟩) destination
  · rw [unchanged]
    exact ⟨fun _ both => immovable both.2, fun _ => isMap⟩

/-! ## Errands on the map -/

theorem AtHome.liesIn (home : AtHome programmer world room) :
    world.LiesIn player room :=
  location_eq_ok_iff.mp home.located

/-- The room across can be moved to the player: a room is in nothing, so the
player is not in it. -/
theorem IsMap.movable_across
    (isMap : IsMap world)
    (isRoom : room ∈ rooms)
    (present : world.has room = true)
    (elsewhere : ¬ world.LiesIn player room) :
    world.Movable room player where
  present := present
  there := by
    rcases isMap.inRoom with ⟨around, -, object, found, -⟩
    exact has_eq_true_iff.mpr ⟨object, found⟩
  other := by
    rintro rfl
    exact player_not_mem_rooms isRoom
  outside := by
    intro inside
    rcases isMap.inRoom with ⟨around, isAround, lies⟩
    rcases TransGen.head'_iff.mp inside with ⟨place, first, rest⟩
    obtain rfl := lies.unique first
    rcases rest.cases_head with rfl | ⟨beyond, next, -⟩
    · exact elsewhere lies
    · exact isMap.nowhere around isAround beyond next

theorem Furnished.has_room
    (furnished : Furnished programmer world)
    (isRoom : room ∈ rooms) :
    world.has room = true := by
  have present : ((Demo.world programmer).objects.get? room).isSome = true := by
    rcases room_cases isRoom with rfl | rfl <;> rfl
  have same := congrArg Option.isSome (furnished.objects room)
  rw [Option.isSome_map, Option.isSome_map] at same
  exact same.trans present

/-- Taking takes the map apart exactly if the room across is what is taken. -/
theorem IsMap.attempts_take_iff
    (isMap : IsMap world)
    (orderly : Orderly world)
    (home : AtHome programmer world room)
    (meant : Meant world command objects)
    (spoken : command.verb ∈ ["take", "get"]) :
    IsMap (world.attempts (takeMoves player room objects.direct)) ↔
      ¬ Displaces world command := by
  have notPut : command.verb ≠ "put" := by
    intro put
    rw [put] at spoken
    exact absurd spoken (by decide)
  have displaces_iff :
      Displaces world command ↔
        ∃ thing ∈ rooms,
          objects.direct = some thing ∧ ¬ world.LiesIn player thing := by
    constructor
    · rintro (⟨-, isRoom, elsewhere, means⟩ | ⟨put, -⟩)
      · exact ⟨_, isRoom, (meant.direct _).mpr means, elsewhere⟩
      · exact absurd put notPut
    · rintro ⟨thing, isRoom, direct, elsewhere⟩
      exact .takes spoken isRoom elsewhere ((meant.direct thing).mp direct)
  rw [displaces_iff]
  cases direct : objects.direct with
  | none => exact iff_of_true isMap nofun
  | some thing =>
      simp only [Option.some.injEq, takeMoves]
      split
      · next other =>
          rw [attempts_singleton,
            isMap.attempt_iff orderly player_not_mem_rooms, not_iff_not]
          constructor
          · rintro ⟨isPlayer | isRoom, -⟩
            · exact absurd isPlayer other.1
            · exact ⟨thing, isRoom, rfl, fun lies =>
                  other.2 (lies.unique home.liesIn)⟩
          · rintro ⟨_, isRoom, rfl, elsewhere⟩
            have present := home.furnished.has_room isRoom
            exact ⟨.inr isRoom, isMap.movable_across isRoom present elsewhere⟩
      · next same =>
          refine iff_of_true isMap ?_
          rintro ⟨_, isRoom, rfl, elsewhere⟩
          refine same ⟨?_, ?_⟩
          · rintro rfl
            exact player_not_mem_rooms isRoom
          · rintro rfl
            exact elsewhere home.liesIn

/-- Dropping leaves the map, as nothing that is on it is carried. -/
theorem IsMap.attempts_drop
    (isMap : IsMap world)
    (home : AtHome programmer world room)
    (direct : Option EntityId) :
    IsMap (world.attempts (dropMoves world player room direct)) := by
  cases direct with
  | none => exact isMap
  | some thing =>
      rw [dropMoves]
      split
      · next carried =>
          have lies : world.LiesIn thing player :=
            location_eq_ok_iff.mp (eq_ok_of_toOption carried)
          apply isMap.attempt_of_not_onMap
          rintro (rfl | isRoom)
          · have here := lies.unique home.liesIn
            exact player_not_mem_rooms (here ▸ home.isRoom)
          · exact isMap.nowhere thing isRoom player lies
      · exact isMap

theorem across_mem_rooms (room : EntityId) : across room ∈ rooms := by
  rw [across]
  split <;> decide

/-- Putting something into the chest takes the map apart exactly if it is on the
map and is moved indeed. -/
theorem IsMap.attempts_put_iff
    (isMap : IsMap world)
    (orderly : Orderly world)
    (meant : Meant world command objects)
    (spoken : command.verb = "put")
    (into : command.preposition = "in")
    (container : objects.indirect = some chest) :
    IsMap (world.attempts (putMoves objects.direct objects.indirect)) ↔
      ¬ Displaces world command := by
  have notTake : command.verb ∉ ["take", "get"] := by
    rw [spoken]
    decide
  have displaces_iff :
      Displaces world command ↔
        ∃ thing, OnMap thing ∧ objects.direct = some thing ∧
          world.Movable thing chest := by
    constructor
    · rintro (⟨take, -⟩ | ⟨-, -, -, onMap, means, movable⟩)
      · exact absurd take notTake
      · exact ⟨_, onMap, (meant.direct _).mpr means, movable⟩
    · rintro ⟨thing, onMap, direct, movable⟩
      exact .puts spoken into ((meant.indirect chest).mp container) onMap
        ((meant.direct thing).mp direct) movable
  have noRoom : chest ∉ rooms := by decide
  rw [displaces_iff, container]
  cases direct : objects.direct with
  | none => exact iff_of_true isMap nofun
  | some thing =>
      rw [putMoves, attempts_singleton,
        isMap.attempt_iff orderly noRoom, not_iff_not]
      simp only [Option.some.injEq]
      constructor
      · rintro ⟨onMap, movable⟩
        exact ⟨thing, onMap, rfl, movable⟩
      · rintro ⟨_, onMap, rfl, movable⟩
        exact ⟨onMap, movable⟩

/-- The errand of a command leaves a map exactly if the command does
not take it apart. -/
theorem IsMap.attempts_errand_iff
    (isMap : IsMap world)
    (orderly : Orderly world)
    (home : AtHome programmer world room)
    (meant : Meant world command objects) :
    IsMap (world.attempts (errand world room command objects)) ↔
      ¬ Displaces world command := by
  have harmless (notTake : command.verb ∉ ["take", "get"])
      (notPut : command.verb ≠ "put") :
      ¬ Displaces world command := by
    rintro (⟨take, -⟩ | ⟨put, -⟩)
    · exact notTake take
    · exact notPut put
  rw [errand]
  split_ifs with take drop go put
  · exact isMap.attempts_take_iff orderly home meant take
  · exact iff_of_true (isMap.attempts_drop home objects.direct)
      (harmless take (by simp [drop]))
  · have notPut : command.verb ≠ "put" := by
      intro put
      rw [put] at go
      exact absurd go (by decide)
    exact iff_of_true (isMap.attempt_go orderly (across_mem_rooms room))
      (harmless take notPut)
  · rcases put with ⟨spoken, into, container⟩
    exact isMap.attempts_put_iff orderly meant spoken into container
  · refine iff_of_true isMap ?_
    rintro (⟨take', -⟩ | ⟨spoken, into, container, -⟩)
    · exact take take'
    · exact put ⟨spoken, into, (meant.indirect chest).mpr container⟩

/-! ## Lines at the console -/

/-- The player sits at a console in the small world, or has quit. -/
structure Seated (programmer : Bool) (levels : Nat)
    (console : Console) : Prop where
  levels : console.levels = levels + 1
  session : console.session.player = none ∨ console.session.player = some player
  furnished : Furnished programmer console.world
  orderly : Orderly console.world

/-- The line is a command that takes the map apart. -/
def DisplacedBy (console : Console) (line : String) : Prop :=
  console.session.isRetired = false ∧
    Displaces console.world (.parse console.session.vocabulary line)

variable {levels : Nat} {console : Console}

theorem seated_start (programmer : Bool) (config : Config) (levels : Nat) :
    Seated programmer levels
      (.start (Demo.world programmer) player config (levels + 1)) where
  levels := rfl
  session := .inr rfl
  furnished := furnished_world programmer
  orderly := orderly_world programmer

theorem isMap_world (programmer : Bool) : IsMap (Demo.world programmer) where
  inRoom := ⟨lobby, List.mem_cons_self, _, rfl, rfl⟩
  nowhere _ isRoom := not_liesIn_world isRoom

theorem IsMap.exists_atHome (isMap : IsMap world)
    (furnished : Furnished programmer world) :
    ∃ room, AtHome programmer world room := by
  rcases isMap.inRoom with ⟨room, isRoom, lies⟩
  exact ⟨room, furnished, isRoom, location_eq_ok_iff.mpr lies⟩

/-- A line leaves the small world furnished, and it leaves a map unless it is a
command that takes it apart. -/
theorem Seated.world_step
    (seated : Seated programmer levels console)
    (isMap : IsMap console.world)
    (line : String) :
    Furnished programmer (console.step line).console.world ∧
      (IsMap (console.step line).console.world ↔
        ¬ DisplacedBy console line) := by
  cases embodied : console.session.player with
  | none =>
      have retired : console.session.isRetired = true :=
        congrArg Option.isNone embodied
      have same : (console.step line).console.world =
          console.world.takeTold console.player :=
        congrArg (fun turn : Turn World => turn.world.takeTold console.player)
          (Turn.onInput_of_retired (World.collaborators console.levels) line
            (show console.turn.session.player = none from embodied))
      have quiet :
          (console.step line).console.world.hushed = console.world.hushed := by
        rw [same]
        rfl
      refine ⟨seated.furnished.of_hushed quiet, ?_⟩
      refine iff_of_true
        ((isMap_iff_of_objects_eq (objects_of_hushed quiet)).mpr isMap) ?_
      rintro ⟨live, -⟩
      cases retired.symm.trans live
  | some id =>
      have live : console.turn.session.player = some player := by
        rcases seated.session with retired | live
        · cases embodied.symm.trans retired
        · exact live
      rcases isMap.exists_atHome seated.furnished with ⟨room, home⟩
      have atHome : AtHome programmer console.turn.world room := home
      rcases atHome.hushed_onInput seated.orderly.distinct live levels line with
        ⟨objects, meant, hushed⟩
      rw [← seated.levels] at hushed
      have same : (console.step line).console.world.hushed =
          (console.world.attempts
            (errand console.world room (.parse console.session.vocabulary line)
              objects)).hushed :=
        hushed
      have kept :
          IsMap (console.world.attempts
              (errand console.world room
                (.parse console.session.vocabulary line) objects)) ↔
            ¬ Displaces console.world
              (.parse console.session.vocabulary line) :=
        isMap.attempts_errand_iff seated.orderly home meant
      have awake : console.session.isRetired = false :=
        congrArg Option.isNone live
      refine ⟨(seated.furnished.attempts_errand room _ objects).of_hushed same,
        ?_⟩
      rw [isMap_iff_of_objects_eq (objects_of_hushed same), kept, DisplacedBy,
        and_iff_right awake]

theorem Seated.step
    (seated : Seated programmer levels console)
    (isMap : IsMap console.world)
    (line : String) :
    Seated programmer levels (console.step line).console where
  levels := seated.levels
  session := by
    have cases :=
      Turn.act_session_cases (World.collaborators console.levels) console.turn
      (.line line)
    rcases cases with same | retired
    · have kept : (console.step line).console.session = console.session := same
      rw [kept]
      exact seated.session
    · exact .inl (congrArg Session.player retired)
  furnished := (seated.world_step isMap line).1
  orderly := by
    have world := console.next_world (.line line)
    exact world ▸ seated.orderly.attempts _

/-- The beginnings of a run are the empty one, and those that go on after
its first line. -/
theorem forall_prefix_cons_iff {line : String} {rest : List String}
    {holds : List String → Prop} :
    (∀ before, before <+: line :: rest → holds before) ↔
      holds [] ∧ ∀ before, before <+: rest → holds (line :: before) := by
  constructor
  · intro all
    refine ⟨all [] List.nil_prefix, ?_⟩
    intro before starts
    exact all (line :: before) (List.cons_prefix_cons.mpr ⟨rfl, starts⟩)
  · rintro ⟨first, further⟩ before starts
    cases before with
    | nil => exact first
    | cons other before =>
        rcases List.cons_prefix_cons.mp starts with ⟨rfl, goesOn⟩
        exact further before goesOn

/-- A line of a run is its first one, or it is a line of the rest. -/
theorem forall_concat_prefix_cons_iff
    {line : String}
    {rest : List String}
    {holds : List String → String → Prop} :
    (∀ before next, before ++ [next] <+: line :: rest → holds before next) ↔
      holds [] line ∧ ∀ before next, before ++ [next] <+: rest →
      holds (line :: before) next := by
  constructor
  · intro all
    refine ⟨all [] line (List.cons_prefix_cons.mpr ⟨rfl, List.nil_prefix⟩), ?_⟩
    intro before next starts
    exact all (line :: before) next (List.cons_prefix_cons.mpr ⟨rfl, starts⟩)
  · rintro ⟨first, further⟩ before next starts
    cases before with
    | nil =>
        obtain rfl : next = line := (List.cons_prefix_cons.mp starts).1
        exact first
    | cons other before =>
        rcases List.cons_prefix_cons.mp starts with ⟨rfl, goesOn⟩
        exact further before next goesOn

/-- A sequence of lines leaves a map all the way exactly if none of them
takes it apart. -/
theorem Seated.after_iff
    (seated : Seated programmer levels console)
    (isMap : IsMap console.world)
    (lines : List String) :
    (∀ before, before <+: lines → IsMap (console.after before).world) ↔
      ∀ before line, before ++ [line] <+: lines →
        ¬ DisplacedBy (console.after before) line := by
  induction lines generalizing console with
  | nil =>
      refine iff_of_true ?_ ?_
      · intro before starts
        rw [List.prefix_nil.mp starts]
        exact isMap
      · intro before line starts
        exact absurd (List.prefix_nil.mp starts)
          (List.concat_ne_nil line before)
  | cons line rest inductive_step =>
      rw [forall_prefix_cons_iff, forall_concat_prefix_cons_iff]
      have stepped := (seated.world_step isMap line).2
      have goesOn := inductive_step (seated.step isMap line)
      constructor
      · rintro ⟨-, maps⟩
        have later := maps [] List.nil_prefix
        exact ⟨stepped.mp later, (goesOn later).mp maps⟩
      · rintro ⟨intact, further⟩
        exact ⟨isMap, (goesOn (stepped.mpr intact)).mpr further⟩

/--
Whatever lines the player types at the console of the small world: the player is
in one of the rooms and the rooms are in nothing, after each of the lines,
exactly if none of them is a command that takes the map apart when it is typed.
Such a command takes the room across, or puts the player or a room into a chest
that is not inside it.
-/
theorem map_is_kept_iff
    (programmer : Bool)
    (config : Config)
    (levels : Nat)
    (lines : List String) :
    let start :=
      Console.start (Demo.world programmer) player config (levels + 1)
    (∀ before, before <+: lines → IsMap (start.after before).world) ↔
      ∀ before line, before ++ [line] <+: lines →
        ¬ DisplacedBy (start.after before) line :=
  (seated_start programmer config levels).after_iff
    (isMap_world programmer) lines

/-- The garden can be taken. -/
theorem garden_can_be_taken :
    ¬ ∀ (programmer : Bool) (config : Config) (levels : Nat)
      (lines : List String),
      IsMap
        ((Console.start (Demo.world programmer) player config (levels +
              1)).after lines).world := by
  intro kept
  have isMap := kept false {} 0 ["take #1"]
  have carried :
      (((Console.start (Demo.world false) player {} 1).after
          ["take #1"]).world.location
        garden).toOption = some (some player) := by
    decide +kernel
  exact isMap.nowhere garden (by decide) player
    (location_eq_ok_iff.mp (eq_ok_of_toOption carried))

end Demo

end TextWorld
