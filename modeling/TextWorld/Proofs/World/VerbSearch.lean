import Mathlib.Data.List.Basic
import Mathlib.Data.List.Nodup
import TextWorld.Proofs.World.CodeRouting
import TextWorld.Proofs.World.Reachable

/-!
# The verb that is found and the verb that runs

A command is matched to the first verb that has its word among its names and
fits its objects.  What runs is found anew by the primary name of that verb, and
this search does not look at the objects: it takes the first verb of the owner
that has the name at all.  The two are the same verb exactly when no verb that
stands earlier on the owner has the name too, as an alias.
-/

namespace TextWorld.World

variable {world : World} {actor : Entity} {command : Command}
  {objects : BoundObjects} {owner : EntityId} {verb ran : Verb}
  {has : Verb → Prop} {name : String}

/-- A verb stands on an entity after the given verbs. -/
def StandsAfter (world : World) (owner : EntityId) (earlier : List Verb)
    (verb : Verb) : Prop :=
  ∃ object later, world.objects.get? owner = some object ∧
    object.verbs = earlier ++ verb :: later

/-- The first verb of an entity that has a property. -/
def FirstOn (world : World) (owner : EntityId) (has : Verb → Prop)
    (verb : Verb) : Prop :=
  ∃ earlier, world.StandsAfter owner earlier verb ∧ has verb ∧
    ∀ other ∈ earlier, ¬ has other

/-- A verb of an owner has the word of a command among its names and
accepts the command. -/
def Fits
    (command : Command)
    (objects : BoundObjects)
    (owner : EntityId)
    (verb : Verb) :
    Prop :=
  command.verb ∈ verb.signature.names ∧
    verb.signature.accepts owner command objects = true

/-- The word of the command is one for which verbs are sought. -/
def Sought (command : Command) : Prop :=
  command.verb ≠ "" ∧ command.verb ≠ "verbMissing"

/-- A verb has the name as its primary name or as an alias. -/
def Named (name : String) (verb : Verb) : Prop :=
  name ∈ verb.signature.names

/-- The verb that a command of an actor selects: the first fitting verb of the
first entity that has one, among the actor, the actor's place, and the two
objects of the command. -/
structure Selects
    (world : World)
    (actor : Entity)
    (command : Command)
    (objects : BoundObjects)
    (owner : EntityId)
    (verb : Verb) :
    Prop where
  /-- The word is one that may be typed. -/
  spoken : command.verb ≠ "" ∧ command.verb ≠ "verbMissing"
  /-- No entity before the owner has a fitting verb. -/
  nearest : ∃ object before after, world.objects.get? actor.id = some object ∧
    actor.id :: (object.location.toList ++ objects.direct.toList ++
      objects.indirect.toList) =
      before ++ owner :: after ∧
    ∀ other ∈ before, ∀ candidate,
      ¬ world.FirstOn other (Fits command objects other) candidate
  first : world.FirstOn owner (Fits command objects owner) verb

/-- A verb that stands earlier on the owner has the primary name
of the verb, too. -/
def Shadowed (world : World) (owner : EntityId) (verb : Verb) : Prop :=
  ∃ earlier, world.StandsAfter owner earlier verb ∧
    ∃ other ∈ earlier, Named verb.signature.name other

/-- What the search answers if it comes to an entity. -/
def bindingOn?
    (world : World)
    (command : Command)
    (objects : BoundObjects)
    (owner : EntityId) :
    Option VerbBinding :=
  (world.verbOn? command objects owner).map fun verb =>
    .matched owner verb.signature.name

/-! ## The first verb with a property -/

/-- Searching the verbs of an entity finds the first one with the property. -/
theorem find?_eq_some_iff_firstOn
    {test : Verb → Bool}
    (decides : ∀ verb, test verb = true ↔ has verb) :
    ((world.objects.get? owner).bind fun object => object.verbs.find? test) =
        some verb ↔
      world.FirstOn owner has verb := by
  rw [Option.bind_eq_some_iff]
  constructor
  · rintro ⟨object, found, search⟩
    obtain ⟨passes, earlier, later, verbs, failed⟩ :=
      List.find?_eq_some_iff_append.mp search
    refine ⟨earlier, ⟨object, later, found, verbs⟩,
      (decides verb).mp passes, ?_⟩
    intro other passed hasIt
    have fails := failed other passed
    rw [(decides other).mpr hasIt] at fails
    cases fails
  · rintro ⟨earlier, ⟨object, later, found, verbs⟩, hasIt, others⟩
    refine ⟨object, found, List.find?_eq_some_iff_append.mpr
      ⟨(decides verb).mpr hasIt, earlier, later, verbs, ?_⟩⟩
    intro other passed
    rw [Bool.not_eq_true', ← Bool.not_eq_true, decides]
    exact others other passed

/-- The search for a verb that fits. -/
theorem verbOn?_eq_some_iff :
    world.verbOn? command objects owner = some verb ↔
      world.FirstOn owner (Fits command objects owner) verb := by
  apply find?_eq_some_iff_firstOn
  intro verb
  simp [Fits, VerbSignature.answersTo]

/-- The search for a verb of a name. -/
theorem verb?_eq_some_iff :
    ((world.objects.get? owner).bind (·.verb? name)) = some verb ↔
      world.FirstOn owner (Named name) verb := by
  apply find?_eq_some_iff_firstOn
  intro verb
  simp [Named, VerbSignature.answersTo]

/-- There is at most one first verb of a name. -/
theorem FirstOn.eq_of_named
    (one : world.FirstOn owner (Named name) verb)
    (other : world.FirstOn owner (Named name) ran) :
    ran = verb :=
  Option.some.inj <|
    (verb?_eq_some_iff.mpr other).symm.trans (verb?_eq_some_iff.mpr one)

/-- A verb with the name is on the owner, so there is a first one. -/
theorem StandsAfter.exists_firstOn
    {earlier : List Verb}
    (stands : world.StandsAfter owner earlier verb)
    (named : Named name verb) :
    ∃ ran, world.FirstOn owner (Named name) ran := by
  obtain ⟨object, later, found, verbs⟩ := stands
  cases search : object.verb? name with
  | none =>
      have unnamed := List.find?_eq_none.mp search verb (by simp [verbs])
      exact absurd named
        (by simpa [VerbSignature.answersTo, Named] using unnamed)
  | some ran =>
      refine ⟨ran, verb?_eq_some_iff.mp ?_⟩
      rw [found, Option.bind_some, search]

/-- In a reachable world a verb stands in one place of its owner. -/
theorem StandsAfter.unique
    (reachable : Reachable world)
    {earlier other : List Verb}
    (stands : world.StandsAfter owner earlier verb)
    (elsewhere : world.StandsAfter owner other verb) :
    earlier = other := by
  obtain ⟨object, later, found, verbs⟩ := stands
  obtain ⟨_, otherLater, again, otherVerbs⟩ := elsewhere
  cases found.symm.trans again
  have distinct : object.verbs.Nodup :=
    .of_map _ (reachable.nodup_verbNames found)
  rw [verbs] at distinct otherVerbs
  have once : verb ∉ earlier ++ later :=
    (List.nodup_cons.mp (List.nodup_middle.mp distinct)).1
  rw [List.mem_append, not_or] at once
  exact ((List.append_cons_inj_of_notMem once.1 once.2).mp otherVerbs).1

/-! ## Matching -/

theorem matchVerb_of_not_sought
    (unsought : ¬ Sought command) :
    world.matchVerb actor command objects = .ok none := by
  have silent : (command.verb.isEmpty || command.verb ==
        VerbBinding.missingVerb) = true := by
    by_contra spoken
    exact unsought (by simpa [Sought, VerbBinding.missingVerb] using spoken)
  simp only [matchVerb, silent, if_true]
  rfl

/-- The search goes from the actor to its place and the objects. -/
theorem matchVerb_of_sought
    (sought : Sought command) :
    world.matchVerb actor command objects =
      (world.location actor.id).map fun place =>
        (actor.id :: (place.toList ++ objects.direct.toList ++
            objects.indirect.toList)).findSome?
          (world.bindingOn? command objects) := by
  have spoken : (command.verb.isEmpty || command.verb ==
        VerbBinding.missingVerb) = false := by
    simpa [Sought, VerbBinding.missingVerb] using sought
  simp only [matchVerb, spoken, location]
  cases world.object actor.id with
  | error failure => rfl
  | ok object => rfl

/-- What a command is matched to is the verb that it selects, under
its primary name. -/
theorem exists_selects_of_matchVerb
    {binding : VerbBinding}
    (matched : world.matchVerb actor command objects = .ok (some binding)) :
    ∃ owner verb, world.Selects actor command objects owner verb ∧
      binding = .matched owner verb.signature.name := by
  have sought : Sought command := by
    by_contra unsought
    rw [matchVerb_of_not_sought unsought] at matched
    cases matched
  rw [matchVerb_of_sought sought, location, World.object] at matched
  cases present : world.objects.get? actor.id with
  | none =>
      rw [present] at matched
      cases matched
  | some object =>
      rw [present] at matched
      rcases List.findSome?_eq_some_iff.mp (Except.ok.inj matched) with
        ⟨before, owner, after, owners, found, passed⟩
      rcases Option.map_eq_some_iff.mp found with ⟨verb, chosen, rfl⟩
      refine ⟨owner, verb,
        ⟨sought, ⟨object, before, after, present, owners, ?_⟩, ?_⟩, rfl⟩
      · intro other member candidate fits
        have silent := passed other member
        rw [bindingOn?, verbOn?_eq_some_iff.mpr fits] at silent
        cases silent
      · exact verbOn?_eq_some_iff.mp chosen

/-! ## Invoking -/

/-- A call runs the body of the first verb of its owner with its name. -/
theorem invoked_of_firstOn
    {call : VerbCall}
    (first : world.FirstOn call.owner (Named call.verb) ran)
    (label : String) :
    world.invoked call label = .ok ran.body := by
  have search : world.callee? call = some ran := verb?_eq_some_iff.mpr first
  simp only [invoked_eq, search]

/--
For a matched command the first verb of the owner with the primary name of the
selected verb is run.  It is the selected verb itself exactly when no verb that
stands earlier has that name, too.
-/
theorem runs_selected_iff_not_shadowed
    {binding : VerbBinding}
    (reachable : Reachable world)
    (matched : world.matchVerb actor command objects = .ok (some binding)) :
    ∃ owner verb ran,
      world.Selects actor command objects owner verb ∧
        binding = .matched owner verb.signature.name ∧
        world.FirstOn owner (Named verb.signature.name) ran ∧
        (∀ (calls : Calls) (player : EntityId) (label : String),
          runWith calls (VerbCall.ofBinding binding player objects command).code
            label world =
            leavingBody label
              ((ran.body (VerbCall.ofBinding binding player objects
                    command).invocation).perform calls world)) ∧
        (ran = verb ↔ ¬ world.Shadowed owner verb) := by
  obtain ⟨owner, verb, selects, rfl⟩ := exists_selects_of_matchVerb matched
  obtain ⟨earlier, stands, fits, others⟩ := selects.first
  have named : Named verb.signature.name verb := List.mem_cons_self
  obtain ⟨ran, first⟩ := stands.exists_firstOn named
  refine ⟨owner, verb, ran, selects, rfl, first, ?_, ?_, ?_⟩
  · intro calls player label
    rw [runWith_code, invoke, invoked_of_firstOn first label]
  · rintro rfl ⟨before, standsAgain, other, passed, namedToo⟩
    obtain ⟨skipped, standsFirst, _, unnamed⟩ := first
    obtain rfl := standsAgain.unique reachable standsFirst
    exact unnamed other passed namedToo
  · intro unshadowed
    refine FirstOn.eq_of_named ⟨earlier, stands, named, ?_⟩ first
    intro other passed namedToo
    exact unshadowed ⟨earlier, stands, other, passed, namedToo⟩

/-! ## A shadowed verb -/

/-- A verb that is also called by the word for looking, but fits only if its
owner is named. -/
def inspecting : Verb where
  signature := { name := "inspect", aliases := ["look"], direct := .this }
  body _ := .done (.ok (.string "inspected"))

/-- A verb for looking that fits always. -/
def looking : Verb where
  signature := { name := "look" }
  body _ := .done (.ok (.string "looked"))

/-- The world in which someone can inspect, and learned to look after that. -/
def onlooker : World where
  created := 1
  objects := [(⟨0⟩, { name := "Alice", verbs := [inspecting, looking] })]

/-- The world comes about by creating someone and defining the two verbs. -/
theorem reachable_onlooker : Reachable onlooker := by
  have someone : Reachable (World.empty.create "Alice") :=
    .step .empty (show World.empty.mutate (.create "Alice") = .ok _ from rfl)
  have inspector :
      Reachable
        { created := 1,
          objects := [(⟨0⟩, { name := "Alice", verbs := [inspecting] })] } :=
    someone.step
      (show (World.empty.create "Alice").mutate (.defineVerb ⟨0⟩ inspecting) =
        .ok _ from rfl)
  exact inspector.step
    (show World.mutate _ (.defineVerb ⟨0⟩ looking) = .ok onlooker from rfl)

/-- Who types the word alone selects looking. -/
theorem onlooker_selects_looking :
    onlooker.Selects { id := ⟨0⟩ } { verb := "look" } {} ⟨0⟩ looking where
  spoken := by decide
  nearest := ⟨_, [], [], rfl, rfl, nofun⟩
  first := by
    refine ⟨[inspecting], ⟨_, [], rfl, rfl⟩, ⟨by decide, rfl⟩, ?_⟩
    intro other passed fits
    obtain rfl := List.mem_singleton.mp passed
    cases fits.2

/-- In spite of being selected, a verb need not be the one that runs. -/
theorem selected_verb_need_not_run :
    ¬ ∀ (world : World) (actor : Entity) (command : Command)
      (objects : BoundObjects)
        (owner : EntityId) (verb : Verb),
      Reachable world → world.Selects actor command objects owner verb →
        ∀ (calls : Calls) (player : EntityId) (label : String)
          (call : VerbCall),
          call = .ofBinding (.matched owner verb.signature.name) player
            objects command →
            runWith calls call.code label world =
              leavingBody label
                ((verb.body call.invocation).perform calls world) := by
  intro agree
  have looks :=
    agree onlooker _ _ _ _ looking reachable_onlooker onlooker_selects_looking
    (calls 0) ⟨0⟩ "Verb::#0.look" _ rfl
  rw [runWith_code] at looks
  have answers :
      (.ok (.string "inspected") : Except Failure Value) =
        .ok (.string "looked") :=
    congrArg Prod.fst looks
  exact absurd answers (by decide)

/-- The general account of what runs covers the shadowed verb as well. -/
theorem inspecting_runs_for_looking :
    ∃ owner verb ran,
      onlooker.Selects { id := ⟨0⟩ } { verb := "look" } {} owner verb ∧
        VerbBinding.matched ⟨0⟩ "look" = .matched owner verb.signature.name ∧
        onlooker.FirstOn owner (Named verb.signature.name) ran ∧
        (∀ (calls : Calls) (player : EntityId) (label : String),
          runWith calls
              (VerbCall.ofBinding (.matched ⟨0⟩ "look") player {}
                { verb := "look" }).code label
              onlooker =
            leavingBody label
              ((ran.body (VerbCall.ofBinding (.matched ⟨0⟩ "look") player {}
                { verb := "look" }).invocation).perform calls onlooker)) ∧
        (ran = verb ↔ ¬ onlooker.Shadowed owner verb) := by
  have matched :
      onlooker.matchVerb { id := ⟨0⟩ } { verb := "look" } {} =
        .ok (some (.matched ⟨0⟩ "look")) := by
    rfl
  exact runs_selected_iff_not_shadowed reachable_onlooker matched

end TextWorld.World
