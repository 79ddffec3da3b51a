import TextWorld.Proofs.World.Attempts
import TextWorld.Proofs.World.VerbSearch

/-!
# Precedence among the owners of verbs

The verb of a command is sought on the actor, the actor's place and the two
objects of the command, and nowhere else.  The first of them that has a fitting
verb decides.  So a definition on any other entity, or on one that comes later,
changes nothing; nor does a definition anywhere of a verb that does not have the
word of the command and replaces no other verb.
-/

namespace TextWorld.World

variable {world : World} {actor : Entity} {command : Command}
  {objects : BoundObjects} {id owner : EntityId} {place : Option EntityId}
  {verb : Verb} {binding : VerbBinding}

/-- A verb that fits the command stands on an existing entity. -/
def Serves (world : World) (command : Command) (objects : BoundObjects)
    (owner : EntityId) : Prop :=
  ∃ object, world.objects.get? owner = some object ∧
    ∃ verb ∈ object.verbs, Fits command objects owner verb

/-- The binding is to the first fitting verb of its owner, which exists, and
none of the entities before the owner has one. -/
structure BoundAfter
    (world : World)
    (command : Command)
    (objects : BoundObjects)
    (before : List EntityId)
    (binding : VerbBinding) :
    Prop where
  passed : ∀ other ∈ before, ¬ world.Serves command objects other
  present : world.has binding.owner = true
  first : ∃ verb,
    world.FirstOn binding.owner (Fits command objects binding.owner) verb ∧
    binding = .matched binding.owner verb.signature.name

/-- No verb of the entity has the primary name of the verb. -/
def NewName (world : World) (id : EntityId) (verb : Verb) : Prop :=
  ∀ object, world.objects.get? id = some object →
    ∀ held ∈ object.verbs, held.signature.name ≠ verb.signature.name

/-! ## The search -/

/-- For an actor that exists the search does not fail. -/
theorem matchVerb_of_located
    (sought : Sought command)
    (located : world.location actor.id = .ok place) :
    world.matchVerb actor command objects =
      .ok ((actor.id :: (place.toList ++ objects.direct.toList ++
            objects.indirect.toList)).findSome?
        (world.bindingOn? command objects)) := by
  rw [matchVerb_of_sought sought, located]
  rfl

theorem bindingOn?_eq_none_iff :
    world.bindingOn? command objects owner = none ↔
      ¬ world.Serves command objects owner := by
  rw [bindingOn?, Option.map_eq_none_iff, verbOn?, Option.bind_eq_none_iff]
  constructor
  · rintro nothing ⟨object, found, verb, member, fits⟩
    have refused := List.find?_eq_none.mp (nothing object found) verb member
    exact refused (by simpa [Fits, VerbSignature.answersTo] using fits)
  · intro idle object found
    apply List.find?_eq_none.mpr
    intro verb member accepted
    exact idle ⟨object, found, verb, member, by
      simpa [Fits, VerbSignature.answersTo] using accepted⟩

theorem boundAfter_of_bindingOn?
    {before : List EntityId}
    (found : world.bindingOn? command objects owner = some binding)
    (passed : ∀ other ∈ before, world.bindingOn? command objects other = none) :
    binding.owner = owner ∧
      world.BoundAfter command objects before binding := by
  rcases Option.map_eq_some_iff.mp found with ⟨verb, chosen, rfl⟩
  have first := verbOn?_eq_some_iff.mp chosen
  rcases first with ⟨-, ⟨object, -, here, -⟩, -⟩
  refine ⟨rfl, ?_, ?_, verb, verbOn?_eq_some_iff.mp chosen, rfl⟩
  · intro other member
    exact bindingOn?_eq_none_iff.mp (passed other member)
  · exact Option.isSome_iff_exists.mpr ⟨object, here⟩

/-! ## Defining a verb -/

/-- Defining a verb changes the verbs of the one entity, if it exists. -/
theorem get?_attempt_defineVerb (world : World)
    (id probe : EntityId) (verb : Verb) :
    (world.attempt (.defineVerb id verb)).objects.get? probe =
      if id = probe then
        (world.objects.get? probe).map (·.defineVerb verb)
      else
        world.objects.get? probe := by
  rcases mutate_attempt world (.defineVerb id verb) with
    done | ⟨failure, failed, unchanged⟩
  · exact get?_of_update done probe
  · rw [unchanged]
    split
    · next same =>
        subst same
        simp only [mutate, defineVerb, update] at failed
        split at failed
        · cases failed
        · next missing => rw [missing, Option.map_none]
    · rfl

@[simp]
theorem location_attempt_defineVerb (world : World)
    (id probe : EntityId) (verb : Verb) :
    (world.attempt (.defineVerb id verb)).location probe =
      world.location probe := by
  simp only [location, object, get?_attempt_defineVerb]
  by_cases same : id = probe
  · rw [if_pos same]
    cases world.objects.get? probe with
    | none => rfl
    | some found => rfl
  · rw [if_neg same]

/-- A verb of a new name comes last, and the others stay. -/
theorem verbs_defineVerb_of_newName
    {object : WorldObject}
    (new : world.NewName id verb)
    (found : world.objects.get? id = some object) :
    (object.defineVerb verb).verbs = object.verbs ++ [verb] := by
  have kept : object.verbs.filter (·.signature.name ≠ verb.signature.name) =
      object.verbs := by
    rw [List.filter_eq_self]
    intro held member
    exact decide_eq_true (new object found held member)
  rw [WorldObject.defineVerb, kept]

/-- A definition does not matter to the search on another entity. -/
theorem bindingOn?_attempt_of_ne (other : id ≠ owner) :
    (world.attempt (.defineVerb id verb)).bindingOn? command objects owner =
      world.bindingOn? command objects owner := by
  rw [bindingOn?, bindingOn?, verbOn?, verbOn?,
    get?_attempt_defineVerb, if_neg other]

/-- Nor does that of a verb without the word of the command, unless it
replaces another. -/
theorem bindingOn?_attempt_of_newName
    (unnamed : command.verb ∉ verb.signature.names)
    (new : world.NewName id verb)
    (owner : EntityId) :
    (world.attempt (.defineVerb id verb)).bindingOn? command objects owner =
      world.bindingOn? command objects owner := by
  rw [bindingOn?, bindingOn?, verbOn?, verbOn?, get?_attempt_defineVerb]
  split
  · next same =>
      subst same
      cases found : world.objects.get? id with
      | none => rfl
      | some object =>
          have silent :
              ¬ (verb.signature.answersTo command.verb &&
                verb.signature.accepts id command objects) = true := by
            simp [VerbSignature.answersTo, unnamed]
          simp only [Option.map_some, Option.bind_some,
            verbs_defineVerb_of_newName new found, List.find?_append,
            List.find?_singleton, if_neg silent, Option.or_none]
  · rfl

/-- A definition elsewhere does not matter to the search on some entities. -/
theorem findSome?_attempt_of_notMem
    {owners : List EntityId}
    (elsewhere : id ∉ owners) :
    owners.findSome?
      ((world.attempt (.defineVerb id verb)).bindingOn? command objects) =
      owners.findSome? (world.bindingOn? command objects) := by
  induction owners with
  | nil => rfl
  | cons owner others inductive_step =>
      rw [List.mem_cons, not_or] at elsewhere
      rw [List.findSome?_cons, List.findSome?_cons,
        bindingOn?_attempt_of_ne elsewhere.1, inductive_step elsewhere.2]

/-- A definition does not matter to the search if it is on none of the entities
up to the owner. -/
theorem findSome?_attempt_of_found
    {before after : List EntityId}
    (found : world.bindingOn? command objects owner = some binding)
    (passed : ∀ other ∈ before, world.bindingOn? command objects other = none)
    (elsewhere : id ∉ before ++ [owner]) :
    (before ++ owner :: after).findSome?
        ((world.attempt (.defineVerb id verb)).bindingOn? command objects) =
      some binding := by
  have upToOwner :
      (before ++ [owner]).findSome? (world.bindingOn? command objects) =
        some binding :=
    List.findSome?_eq_some_iff.mpr ⟨before, owner, [], rfl, found, passed⟩
  rw [List.append_cons, List.findSome?_append,
    findSome?_attempt_of_notMem elsewhere, upToOwner, Option.some_or]

theorem matchVerb_attempt_of_sought
    (sought : Sought command)
    (located : world.location actor.id = .ok place)
    (id : EntityId)
    (verb : Verb) :
    (world.attempt (.defineVerb id verb)).matchVerb actor command objects =
      .ok ((actor.id :: (place.toList ++ objects.direct.toList ++
            objects.indirect.toList)).findSome?
        ((world.attempt (.defineVerb id verb)).bindingOn?
          command objects)) := by
  apply matchVerb_of_located sought
  rw [location_attempt_defineVerb, located]

/-! ## The main result -/

/--
For an existing actor the search does not fail.  The owners are the actor, the
actor's place and the two objects, in this order.  A binding is to an existing
one among them, before which none has a fitting verb, and there is none exactly
if verbs are not sought for the word or none of the owners has a fitting one.
The answer stays the same if any verb is defined elsewhere than on the owners up
to the one that is bound (without a binding, than on all of them), and if a verb
that does not have the word is defined anywhere in place of no other.
-/
theorem search_ends_at_first_that_serves
    (located : world.location actor.id = .ok place) :
    let owners := actor.id ::
      (place.toList ++ objects.direct.toList ++ objects.indirect.toList)
    ∃ answer, world.matchVerb actor command objects = .ok answer ∧
      (∀ binding, answer = some binding → ∃ before after,
        owners = before ++ binding.owner :: after ∧
          world.BoundAfter command objects before binding ∧
          ∀ id verb, id ∉ before → id ≠ binding.owner →
            (world.attempt (.defineVerb id verb)).matchVerb actor
              command objects =
              .ok (some binding)) ∧
      (answer = none ↔ ¬ Sought command ∨
        ∀ owner ∈ owners, ¬ world.Serves command objects owner) ∧
      (answer = none → ∀ id verb, id ∉ owners →
        (world.attempt (.defineVerb id verb)).matchVerb actor command objects =
            .ok none) ∧
      ∀ id verb, command.verb ∉ verb.signature.names → world.NewName id verb →
        (world.attempt (.defineVerb id verb)).matchVerb actor command objects =
          .ok answer := by
  intro owners
  by_cases sought : Sought command
  · refine ⟨_, matchVerb_of_located sought located, ?_, ?_, ?_, ?_⟩
    · intro binding answered
      rcases List.findSome?_eq_some_iff.mp answered with
        ⟨before, owner, after, parted, found, passed⟩
      rcases boundAfter_of_bindingOn? found passed with ⟨rfl, bound⟩
      refine ⟨before, after, parted, bound, ?_⟩
      intro id verb notBefore notOwner
      rw [matchVerb_attempt_of_sought sought located, parted,
        findSome?_attempt_of_found found passed (by simp [notBefore, notOwner])]
    · rw [List.findSome?_eq_none_iff]
      simp only [bindingOn?_eq_none_iff]
      exact ⟨.inr, fun idle => idle.resolve_left (not_not_intro sought)⟩
    · intro answered id verb elsewhere
      rw [matchVerb_attempt_of_sought sought located,
        findSome?_attempt_of_notMem elsewhere, answered]
    · intro id verb unnamed new
      have same :
          (world.attempt (.defineVerb id verb)).bindingOn? command objects =
            world.bindingOn? command objects :=
        funext (bindingOn?_attempt_of_newName unnamed new)
      rw [matchVerb_attempt_of_sought sought located, same]
  · refine ⟨none, matchVerb_of_not_sought sought, nofun, ?_, ?_, ?_⟩
    · exact ⟨fun _ => .inl sought, fun _ => rfl⟩
    · exact fun _ id verb _ => matchVerb_of_not_sought sought
    · exact fun id verb _ _ => matchVerb_of_not_sought sought

/-- A verb for looking. -/
def gazing : Verb where
  signature := { name := "look", aliases := ["l"] }
  body _ := .done (.ok .absent)

/-- A verb that has nothing to do with looking. -/
def dancing : Verb where
  signature := { name := "dance" }
  body _ := .done (.ok .absent)

/-- Someone in a hall with a box and a lamp, where these entities
can be looked at. -/
def litHall (lookable : List EntityId) : World :=
  World.empty.attempts <|
    [.create "hall", .create "Alice", .create "box", .create "lamp",
      .move ⟨1⟩ ⟨0⟩, .move ⟨2⟩ ⟨0⟩, .move ⟨3⟩ ⟨0⟩] ++
      lookable.map (.defineVerb · gazing)

/-- What is meant there by looking at the box with the lamp. -/
def litHallBinding (world : World) : Except Failure (Option VerbBinding) :=
  world.matchVerb { id := ⟨1⟩ }
    { verb := "l", directObject := "box", preposition := "with",
      indirectObject := "lamp" }
    { direct := some ⟨2⟩, indirect := some ⟨3⟩ }

/-- Looking is sought on Alice, in the hall, on the box and on the lamp.
What the hall answers stays when the box can be looked at as well, and when
Alice can dance. -/
theorem hall_comes_before_lamp :
    litHallBinding (litHall [⟨3⟩, ⟨2⟩, ⟨0⟩, ⟨1⟩]) =
        .ok (some (.matched ⟨1⟩ "look")) ∧
      litHallBinding (litHall [⟨3⟩, ⟨2⟩, ⟨0⟩]) =
        .ok (some (.matched ⟨0⟩ "look")) ∧
      litHallBinding (litHall [⟨3⟩, ⟨2⟩]) = .ok (some (.matched ⟨2⟩ "look")) ∧
      litHallBinding (litHall [⟨3⟩]) = .ok (some (.matched ⟨3⟩ "look")) ∧
      litHallBinding (litHall []) = .ok none ∧
      litHallBinding ((litHall [⟨3⟩, ⟨0⟩]).attempt (.defineVerb ⟨2⟩ gazing)) =
        .ok (some (.matched ⟨0⟩ "look")) ∧
      litHallBinding ((litHall [⟨3⟩, ⟨0⟩]).attempt (.defineVerb ⟨1⟩ dancing)) =
        .ok (some (.matched ⟨0⟩ "look")) := by
  refine ⟨rfl, rfl, rfl, rfl, rfl, ?_⟩
  have located : (litHall [⟨3⟩, ⟨0⟩]).location ⟨1⟩ = .ok (some ⟨0⟩) := rfl
  have found : litHallBinding (litHall [⟨3⟩, ⟨0⟩]) =
      .ok (some (.matched ⟨0⟩ "look")) := rfl
  rcases @search_ends_at_first_that_serves (litHall [⟨3⟩, ⟨0⟩]) { id := ⟨1⟩ }
      { verb := "l", directObject := "box", preposition := "with",
        indirectObject := "lamp" }
      { direct := some ⟨2⟩, indirect := some ⟨3⟩ } _ located with
    ⟨answer, matched, bound, -, -, unnamed⟩
  obtain rfl : answer = some (.matched ⟨0⟩ "look") :=
    Except.ok.inj (matched.symm.trans found)
  constructor
  · rcases bound _ rfl with ⟨before, after, owners, -, elsewhere⟩
    -- the hall stands once among the owners, behind Alice only
    have upToHall : [⟨1⟩] = before :=
      ((List.append_cons_inj_of_notMem (by decide) (by decide)).mp owners).1
    subst upToHall
    exact elsewhere ⟨2⟩ gazing (by decide) (by decide)
  · apply unnamed ⟨1⟩ dancing (by decide)
    intro object present held member
    cases present
    cases member

end TextWorld.World
