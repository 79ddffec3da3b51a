import TextWorld.Proofs.Demo.Evaluation
import TextWorld.Proofs.Demo.Verbs
import TextWorld.Proofs.World.VerbSearch

/-!
# The small world with its things anywhere

Things of the small world are moved, but nothing else about them changes.  So
wherever they are, the same verbs are found for a command: those of the room for
taking, dropping and going, the verb of the chest for putting, and otherwise
verbs that only talk.
-/

namespace TextWorld

open World

/-- The object, taken out of its place. -/
def WorldObject.unplaced (object : WorldObject) : WorldObject :=
  { object with location := none }

namespace Demo

/-- The world is the small world, but for the places of its objects
and what was told. -/
structure Furnished (programmer : Bool) (world : World) : Prop where
  objects : ∀ id,
    (world.objects.get? id).map WorldObject.unplaced =
      ((Demo.world programmer).objects.get? id).map WorldObject.unplaced
  hooks : world.hooks = []
  evaluates : Evaluates world

/-- The two rooms. -/
def rooms : List EntityId := [lobby, garden]

/-- The room to which one goes from a room. -/
def across (room : EntityId) : EntityId :=
  if room = lobby then garden else lobby

variable {programmer : Bool} {world after : World} {room owner : EntityId}
  {command : Command} {objects : BoundObjects} {call : VerbCall} {verb : Verb}

/-! ## What stays as it is -/

theorem objects_of_hushed (same : after.hushed = world.hushed) :
    after.objects = world.objects := by
  have objects := congrArg World.objects same
  exact objects

theorem furnished_world (programmer : Bool) :
    Furnished programmer (Demo.world programmer) :=
  ⟨fun _ => rfl, rfl, rfl⟩

theorem Furnished.of_hushed
    (furnished : Furnished programmer world)
    (same : after.hushed = world.hushed) :
    Furnished programmer after where
  objects id := by
    rw [objects_of_hushed same]
    exact furnished.objects id
  hooks := by
    have hooks := congrArg World.hooks same
    exact hooks.trans furnished.hooks
  evaluates := by
    have evaluator := congrArg World.evaluator same
    exact evaluator.trans furnished.evaluates

theorem Furnished.attempt_move
    (furnished : Furnished programmer world)
    (id destination : EntityId) :
    Furnished programmer (world.attempt (.move id destination)) := by
  rcases mutate_attempt world (.move id destination) with
    done | ⟨failure, -, unchanged⟩
  · have updated := update_of_move done
    have hooks := congrArg World.hooks (rest_of_update updated)
    have evaluator := congrArg World.evaluator (rest_of_update updated)
    refine ⟨fun probe =>
        ?_, hooks.trans furnished.hooks, evaluator.trans furnished.evaluates⟩
    rw [get?_of_update updated, ← furnished.objects]
    split
    · exact Option.map_map _ _ _
    · rfl
  · rw [unchanged]
    exact furnished

/-- The verbs of every entity are those of the small world. -/
theorem Furnished.bind_verbs
    {α : Type}
    (furnished : Furnished programmer world)
    (find : List Verb → Option α)
    (owner : EntityId) :
    ((world.objects.get? owner).bind fun object => find object.verbs) =
      ((Demo.world programmer).objects.get? owner).bind fun object =>
        find object.verbs := by
  have same :=
    congrArg (·.bind fun object => find object.verbs) (furnished.objects owner)
  simp only [Option.bind_map] at same
  exact same

theorem Furnished.verbOn?_eq
    (furnished : Furnished programmer world)
    (command : Command)
    (objects : BoundObjects)
    (owner : EntityId) :
    world.verbOn? command objects owner =
      (Demo.world programmer).verbOn? command objects owner :=
  furnished.bind_verbs _ owner

theorem Furnished.bindingOn?_eq
    (furnished : Furnished programmer world)
    (command : Command)
    (objects : BoundObjects)
    (owner : EntityId) :
    world.bindingOn? command objects owner =
      (Demo.world programmer).bindingOn? command objects owner := by
  rw [bindingOn?, furnished.verbOn?_eq, bindingOn?]

theorem Furnished.callee?_eq
    (furnished : Furnished programmer world)
    (call : VerbCall) :
    world.callee? call = (Demo.world programmer).callee? call :=
  furnished.bind_verbs _ call.owner

/-- There are no hooks. -/
theorem Furnished.runHook_eq
    (furnished : Furnished programmer world)
    (levels : Nat)
    (scope : HookScope)
    (name : String)
    (arguments : List Value) :
    (World.calls (levels + 1)).runHook scope name arguments world =
      (.ok ⟨false, arguments.getLast?.getD .absent⟩, world) := by
  simp only [World.calls, runHookWith, furnished.hooks, Table.get?_nil]

/-! ## The verbs that are found -/

/-- The verbs of a room with which things are moved, each with
the words for it. -/
inductive RoomErrand (room : EntityId) : List String → Verb → Prop where
  | take : RoomErrand room ["take", "get"] (Demo.verb "take" ["get"] take)
  | drop : RoomErrand room ["drop"] (Demo.verb "drop" [] drop)
  | go : RoomErrand room ["go", "walk"] (goVerb (across room))

/-- The player has verbs for nothing but the inventory. -/
theorem bindingOn?_player
    (spoken : command.verb ∉ ["inventory", "i"]) :
    (Demo.world programmer).bindingOn? command objects player = none := by
  simp only [List.mem_cons, List.not_mem_nil, or_false, not_or] at spoken
  simp [bindingOn?, verbOn?, Demo.world, Table.get?, lobby,
    garden, player, inventoryVerb, VerbSignature.answersTo, VerbSignature.names,
    List.find?, spoken]

theorem room_cases (isRoom : room ∈ rooms) : room = lobby ∨ room = garden := by
  simpa [rooms] using isRoom

/-- The verbs of the rooms accept everything. -/
theorem accepts_of_mem_room
    {object : WorldObject}
    (isRoom : room ∈ rooms)
    (found : (Demo.world programmer).objects.get? room = some object)
    (member : verb ∈ object.verbs) :
    verb.signature.accepts owner command objects = true := by
  have open' : ∀ verb ∈ object.verbs, verb.signature.direct = .any ∧
      verb.signature.preposition = .any ∧ verb.signature.indirect = .any := by
    rcases room_cases isRoom with rfl | rfl
    · cases found
      decide
    · cases found
      decide
  rcases open' verb member with ⟨direct, preposition, indirect⟩
  rw [VerbSignature.accepts, direct, preposition, indirect]
  rfl

theorem verb?_room
    {words : List String}
    {word : String}
    (isRoom : room ∈ rooms)
    (errand : RoomErrand room words verb)
    (spoken : word ∈ words) :
    ((Demo.world programmer).objects.get? room).bind (·.verb? word) =
      some verb := by
  have each : ∀ word ∈ words,
      ((Demo.world programmer).objects.get? room).bind (·.verb? word) =
        some verb := by
    rcases room_cases isRoom with rfl | rfl
    all_goals
      cases errand with
      | take | go =>
          exact List.forall_mem_cons.mpr ⟨rfl,
            List.forall_mem_singleton.mpr rfl⟩
      | drop => exact List.forall_mem_singleton.mpr rfl
  exact each word spoken

theorem RoomErrand.name_mem
    {words : List String}
    (errand : RoomErrand room words verb) :
    verb.signature.name ∈ words := by
  cases errand <;> exact List.mem_cons_self

theorem bindingOn?_room
    {words : List String}
    (isRoom : room ∈ rooms)
    (errand : RoomErrand room words verb)
    (spoken : command.verb ∈ words) :
    (Demo.world programmer).bindingOn? command objects room =
      some (.matched room verb.signature.name) := by
  have found :
      ((Demo.world programmer).objects.get? room).bind (·.verb? command.verb) =
      some verb :=
    verb?_room isRoom errand spoken
  rcases verb?_eq_some_iff.mp found with ⟨earlier, stands, named, others⟩
  rcases stands with ⟨object, later, found, verbs⟩
  have accepts : verb.signature.accepts room command objects = true :=
    accepts_of_mem_room isRoom found (by simp [verbs])
  have first :
      (Demo.world programmer).verbOn? command objects room = some verb :=
    verbOn?_eq_some_iff.mpr ⟨earlier, ⟨object, later, found, verbs⟩,
      ⟨named, accepts⟩,
      fun other passed fits => others other passed fits.1⟩
  rw [bindingOn?, first]
  rfl

theorem callee?_room
    {words : List String}
    (isRoom : room ∈ rooms)
    (errand : RoomErrand room words verb)
    (owner : call.owner = room)
    (name : call.verb = verb.signature.name) :
    (Demo.world programmer).callee? call = some verb := by
  rw [callee?, owner, name]
  exact verb?_room isRoom errand errand.name_mem

/-- There are five entities in the small world. -/
theorem entity_cases (programmer : Bool) (id : EntityId) :
    id = lobby ∨ id = garden ∨ id = player ∨ id = lamp ∨ id = chest ∨
      (id ≠ chest ∧ (Demo.world programmer).objects.get? id = none) := by
  by_cases known : id = lobby ∨ id = garden ∨ id = player ∨
    id = lamp ∨ id = chest
  · tauto
  · simp only [not_or] at known
    rcases known with ⟨notLobby, notGarden, notPlayer, notLamp, notChest⟩
    have absent : (Demo.world programmer).objects.get? id = none := by
      simp [Demo.world, Table.get?, Ne.symm notLobby, Ne.symm notGarden,
        Ne.symm notPlayer, Ne.symm notLamp, Ne.symm notChest]
    tauto

/-- Putting is a verb of the chest, and it is for putting something in it. -/
theorem bindingOn?_chest (spoken : command.verb = "put") :
    (Demo.world programmer).bindingOn? command objects chest =
      if command.preposition = "in" ∧ objects.indirect = some chest then
        some (.matched chest "put")
      else
        none := by
  have verbs : ((Demo.world programmer).objects.get? chest).map (·.verbs) =
      some [putVerb] := rfl
  have accepted :
      putVerb.signature.accepts chest command objects =
        decide (command.preposition = "in" ∧
          objects.indirect = some chest) := by
    simp [putVerb, VerbSignature.accepts, ObjectRule.accepts,
      PrepositionRule.accepts, eq_comm]
  have answers : putVerb.signature.answersTo command.verb = true := by
    rw [spoken]
    decide
  rcases Option.map_eq_some_iff.mp verbs with ⟨object, found, only⟩
  rw [bindingOn?, verbOn?, found, Option.bind_some, only, List.find?_singleton,
    answers, accepted, Bool.true_and]
  by_cases fits : command.preposition = "in" ∧ objects.indirect = some chest
  · rw [if_pos fits, if_pos (decide_eq_true fits)]
    rfl
  · rw [if_neg fits, if_neg (mt of_decide_eq_true fits)]
    rfl

/-- Nothing else has a verb for putting. -/
theorem bindingOn?_put_of_ne
    (spoken : command.verb = "put")
    (notChest : owner ≠ chest) :
    (Demo.world programmer).bindingOn? command objects owner = none := by
  rcases entity_cases programmer owner with
    rfl | rfl | rfl | rfl | same | ⟨-, absent⟩
  case inr.inr.inr.inr.inl => exact absurd same notChest
  case inr.inr.inr.inr.inr =>
    rw [bindingOn?, verbOn?, absent]
    rfl
  all_goals
    simp [bindingOn?, verbOn?, Demo.world, Table.get?, lobby, garden, player,
      lamp, roomVerbs, Demo.verb, goVerb, missingVerb, inventoryVerb, rubVerb,
      VerbBinding.missingVerb, VerbSignature.answersTo, VerbSignature.names,
      List.find?, spoken]

/-- The words with which things are moved. -/
def errandWords : List String := ["take", "get", "drop", "go", "walk", "put"]

theorem talks_or_errand_of_mem_roomVerbs (member : verb ∈ roomVerbs) :
    (∀ call, (verb.body call).Talks) ∨
      ∀ word ∈ verb.signature.names, word ∈ errandWords := by
  simp only [roomVerbs, List.mem_cons, List.not_mem_nil, or_false] at member
  rcases member with rfl | rfl | rfl | rfl | rfl
  · exact .inl fun call => (talks_look call).script
  · exact .inl fun call => (talks_say call).script
  · exact .inl fun call => (talks_emote call).script
  · exact .inr (by decide)
  · exact .inr (by decide)

/-- A verb of the small world talks, or one of the words for moving things
is meant by it. -/
theorem talks_or_errand
    {object : WorldObject}
    (found : (Demo.world programmer).objects.get? owner = some object)
    (member : verb ∈ object.verbs) :
    (∀ call, (verb.body call).Talks) ∨
      ∀ word ∈ verb.signature.names, word ∈ errandWords := by
  rcases entity_cases programmer owner with
    rfl | rfl | rfl | rfl | rfl | ⟨-, absent⟩
  · cases found
    rcases List.mem_append.mp member with common | own
    · exact talks_or_errand_of_mem_roomVerbs common
    · simp only [List.mem_cons, List.not_mem_nil, or_false] at own
      rcases own with rfl | rfl
      · exact .inr (by decide)
      · exact .inl fun call => (talks_echo call).script
  · cases found
    rcases List.mem_append.mp member with common | own
    · exact talks_or_errand_of_mem_roomVerbs common
    · obtain rfl := List.mem_singleton.mp own
      exact .inr (by decide)
  · cases found
    obtain rfl := List.mem_singleton.mp member
    exact .inl fun call => (talks_inventory call).script
  · cases found
    obtain rfl := List.mem_singleton.mp member
    exact .inl fun call => (talks_rub call).script
  · cases found
    obtain rfl := List.mem_singleton.mp member
    exact .inr (by decide)
  · cases absent.symm.trans found

/-- No verb of the small world is shadowed by another. -/
theorem verb?_of_mem
    {object : WorldObject}
    (found : (Demo.world programmer).objects.get? owner = some object)
    (member : verb ∈ object.verbs) :
    object.verb? verb.signature.name = some verb := by
  have each : ∀ entry ∈ (Demo.world programmer).objects, ∀ verb ∈ entry.2.verbs,
      entry.2.verb? verb.signature.name = some verb := by
    simp [Demo.world, roomVerbs, Demo.verb, goVerb, missingVerb, inventoryVerb,
      rubVerb, putVerb, VerbBinding.missingVerb, WorldObject.verb?,
      VerbSignature.answersTo, VerbSignature.names, List.find?]
  exact each _ (Table.mem_of_get?_eq_some found) verb member

end Demo

end TextWorld
