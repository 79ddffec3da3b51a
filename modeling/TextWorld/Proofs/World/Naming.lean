import TextWorld.Proofs.World.Containment

/-!
# What a text means to an actor

A text is taken as a word, without the blanks around it and without an article
in front.  Some words have a meaning of their own: `me`, `here` and written ids.
Any other means the only object at hand that has it as its name or as an alias;
where several objects are called by it, it means none.

Names are compared as they are.  So an object whose own name starts
with an article is not found by that name, unless what follows the
article means it, too.
-/

namespace TextWorld.World

open TextWorld.Text

/-- The object has the word as its name or as an alias, whatever the case
of ASCII letters. -/
def Called (world : World) (word : String) (id : EntityId) : Prop :=
  ∃ object, world.objects.get? id = some object ∧
    ∃ name ∈ object.name :: object.aliases, equalIgnoringCase name word = true

/-- The actor carries the object, or it is in the place of the actor. -/
def AtHand (world : World) (actor id : EntityId) : Prop :=
  world.LiesIn id actor ∨
    ∃ place, world.LiesIn actor place ∧ world.LiesIn id place

/-- The object is at hand and called by the word. -/
def Candidate (world : World) (actor : EntityId) (word : String)
    (id : EntityId) : Prop :=
  world.AtHand actor id ∧ world.Called word id

/-- The word has no meaning of its own. -/
structure Ordinary (word : String) : Prop where
  nonempty : word ≠ ""
  notMe : equalIgnoringCase word "me" = false
  notHere : equalIgnoringCase word "here" = false
  noId : word.toList.head? ≠ some '#'

/-- What a word means to an actor. -/
inductive Means (world : World) (actor : EntityId) (word : String) :
    EntityId → Prop where
  | me (same : equalIgnoringCase word "me" = true) :
      Means world actor word actor
  | here {place : EntityId}
      (same : equalIgnoringCase word "here" = true)
      (lies : world.LiesIn actor place) :
      Means world actor word place
  | written {id : EntityId}
      (reads : EntityId.ofCharacters? word.toList = some id)
      (present : world.has id = true) :
      Means world actor word id
  | only {id : EntityId}
      (ordinary : Ordinary word)
      (candidate : world.Candidate actor word id)
      (alone : ∀ other, world.Candidate actor word other → other = id) :
      Means world actor word id

/-- The word of a text. -/
def wordOf (text : String) : String :=
  String.ofList (withoutArticle (trim text.toList))

/-- The text is an article, in any case of its letters, and something after it;
the rest is that without the blanks it starts with. -/
def Articled (text rest : List Char) : Prop :=
  ∃ front back, text = front ++ back ∧
    front.map Char.toLower ∈ ["the ".toList, "a ".toList, "an ".toList] ∧
    back ≠ [] ∧ rest = trimStart back

variable {world : World} {actor id place : EntityId} {self object : WorldObject}
  {word text : String}

/-! ## The words -/

theorem equalIgnoringCase_iff {left right : String} :
    equalIgnoringCase left right = true ↔
      left.toList.map Char.toLower = right.toList.map Char.toLower :=
  beq_iff_eq

theorem not_me_of_here (same : equalIgnoringCase word "here" = true) :
    equalIgnoringCase word "me" = false := by
  rw [equalIgnoringCase, equalIgnoringCase_iff.mp same]
  decide

/-- A written id is not the same as a word that starts with a letter. -/
theorem equalIgnoringCase_of_head?
    {other : String}
    (starts : word.toList.head? = some '#')
    (differs : (other.toList.map Char.toLower).head? ≠ some '#') :
    equalIgnoringCase word other = false := by
  rw [Bool.eq_false_iff, ne_eq, equalIgnoringCase_iff]
  intro same
  rcases List.head?_eq_some_iff.mp starts with ⟨rest, parted⟩
  rw [← same, parted] at differs
  exact differs rfl

theorem head?_of_ofCharacters?
    {characters : List Char}
    (reads : EntityId.ofCharacters? characters = some id) :
    characters.head? = some '#' := by
  unfold EntityId.ofCharacters? at reads
  split at reads
  · rfl
  · cases reads

/-! ## Articles -/

theorem afterArticle?_eq_some_iff {article characters back : List Char} :
    afterArticle? article characters = some back ↔
      ∃ front, characters = front ++ back ∧
        front.map Char.toLower = article ∧ back ≠ [] := by
  rw [afterArticle?]
  constructor
  · intro after
    split at after
    · next same =>
        split at after
        · cases after
        · next something =>
            cases after
            exact ⟨_, (List.take_append_drop article.length characters).symm,
              eq_of_beq same, something⟩
    · cases after
  · rintro ⟨front, rfl, rfl, something⟩
    rw [List.length_map, List.take_left, List.drop_left, if_pos BEq.rfl]
    split
    · next nothing => exact absurd rfl something
    · rfl

/-- No article is the start of another one, so at most one of them
stands in front. -/
theorem Articled.unique
    {characters rest other : List Char}
    (articled : Articled characters rest)
    (again : Articled characters other) :
    rest = other := by
  have apart : ∀ left ∈ articles, ∀ right ∈ articles, left <+: right →
      left = right := by decide
  rcases articled with ⟨front, back, rfl, known, _, rfl⟩
  rcases again with ⟨first, last, parted, alsoKnown, _, rfl⟩
  have same : front.map Char.toLower = first.map Char.toLower := by
    have starts : first <+: front ++ back := ⟨last, parted.symm⟩
    rcases List.prefix_or_prefix_of_prefix
      (List.prefix_append front back) starts with
      shorter | longer
    · exact apart _ known _ alsoKnown (shorter.map Char.toLower)
    · exact (apart _ alsoKnown _ known (longer.map Char.toLower)).symm
  have length : front.length = first.length := by
    rw [← List.length_map Char.toLower, same, List.length_map]
  rw [(List.append_inj parted length).2]

theorem withoutArticle_cases (characters : List Char) :
    Articled characters (withoutArticle characters) ∨
      (∀ rest, ¬ Articled characters rest) ∧
        withoutArticle characters = characters := by
  rw [withoutArticle]
  cases sought : articles.findSome? (afterArticle? · characters) with
  | some back =>
      rcases List.exists_of_findSome?_eq_some sought with
        ⟨article, known, after⟩
      rcases afterArticle?_eq_some_iff.mp after with
        ⟨front, parted, rfl, something⟩
      exact .inl ⟨front, back, parted, known, something, rfl⟩
  | none =>
      refine .inr ⟨?_, rfl⟩
      rintro rest ⟨front, back, parted, known, something, _⟩
      have after :=
        afterArticle?_eq_some_iff.mpr ⟨front, parted, rfl, something⟩
      cases after.symm.trans (List.findSome?_eq_none_iff.mp sought _ known)

/-! ## The objects that a word may mean -/

theorem mem_calledIn (distinct : world.objects.Distinct) :
    id ∈ world.calledIn word place ↔
      world.LiesIn id place ∧ world.Called word id := by
  have called (object : WorldObject) : object.isCalled word = true ↔
      ∃ name ∈ object.name :: object.aliases,
        equalIgnoringCase name word = true :=
    List.any_eq_true
  rw [calledIn, inside, List.mem_map]
  constructor
  · rintro ⟨⟨_, object⟩, member, rfl⟩
    rcases List.mem_filter.mp member with ⟨member, isCalled⟩
    rcases List.mem_filter.mp member with ⟨member, location⟩
    have found := distinct.get?_eq_some_iff.mpr member
    exact ⟨⟨object, found, of_decide_eq_true location⟩, object, found,
      (called object).mp isCalled⟩
  · rintro ⟨⟨object, found, location⟩, _, sameFound, isCalled⟩
    cases found.symm.trans sameFound
    have member := distinct.get?_eq_some_iff.mp found
    refine ⟨(id, object), ?_, rfl⟩
    exact List.mem_filter.mpr
      ⟨List.mem_filter.mpr ⟨member, decide_eq_true location⟩,
        (called object).mpr isCalled⟩

theorem mem_candidates
    (distinct : world.objects.Distinct)
    (found : world.objects.get? actor = some self) :
    id ∈ (actor :: self.location.toList).flatMap (world.calledIn word) ↔
      world.Candidate actor word id := by
  have around (place : EntityId) :
      place ∈ self.location.toList ↔ world.LiesIn actor place := by
    rw [Option.mem_toList, liesIn_iff found]
  simp only [List.mem_flatMap, List.mem_cons, mem_calledIn distinct, around,
    Candidate, AtHand]
  constructor
  · rintro ⟨place, rfl | lies, inside, called⟩
    · exact ⟨.inl inside, called⟩
    · exact ⟨.inr ⟨place, lies, inside⟩, called⟩
  · rintro ⟨inside | ⟨place, lies, inside⟩, called⟩
    · exact ⟨actor, .inl rfl, inside, called⟩
    · exact ⟨place, .inr lies, inside, called⟩

theorem onlyId?_eq_some_iff {ids : List EntityId} :
    onlyId? ids = some id ↔ id ∈ ids ∧ ∀ other ∈ ids, other = id := by
  cases ids with
  | nil => simp [onlyId?]
  | cons first rest =>
      have alike :
          rest.all (· = first) = true ↔ ∀ other ∈ rest, other = first := by
        simp only [List.all_eq_true, decide_eq_true_eq]
      rw [onlyId?]
      constructor
      · intro only
        split at only
        · next same =>
            cases only
            exact ⟨List.mem_cons_self,
              List.forall_mem_cons.mpr ⟨rfl, alike.mp same⟩⟩
        · cases only
      · rintro ⟨_, alone⟩
        rcases List.forall_mem_cons.mp alone with ⟨rfl, same⟩
        rw [if_pos (alike.mpr same)]

/-! ## One meaning for each form of a word -/

theorem not_means_empty : ¬ world.Means actor "" id := by
  intro means
  cases means with
  | me same => exact absurd same (by decide)
  | here same _ => exact absurd same (by decide)
  | written reads _ => cases reads
  | only ordinary _ _ => exact ordinary.nonempty rfl

theorem means_me_iff (same : equalIgnoringCase word "me" = true) :
    world.Means actor word id ↔ actor = id := by
  constructor
  · intro means
    cases means with
    | me _ => rfl
    | here alsoHere _ => cases same.symm.trans (not_me_of_here alsoHere)
    | written reads _ =>
        have starts := head?_of_ofCharacters? reads
        cases same.symm.trans (equalIgnoringCase_of_head? starts (by decide))
    | only ordinary _ _ => cases same.symm.trans ordinary.notMe
  · rintro rfl
    exact .me same

theorem means_here_iff (same : equalIgnoringCase word "here" = true) :
    world.Means actor word id ↔ world.LiesIn actor id := by
  constructor
  · intro means
    cases means with
    | me alsoMe => cases alsoMe.symm.trans (not_me_of_here same)
    | here _ lies => exact lies
    | written reads _ =>
        have starts := head?_of_ofCharacters? reads
        cases same.symm.trans (equalIgnoringCase_of_head? starts (by decide))
    | only ordinary _ _ => cases same.symm.trans ordinary.notHere
  · exact .here same

theorem means_written_iff (starts : word.toList.head? = some '#') :
    world.Means actor word id ↔
      EntityId.ofCharacters? word.toList = some id ∧ world.has id = true := by
  constructor
  · intro means
    cases means with
    | me same =>
        cases same.symm.trans (equalIgnoringCase_of_head? starts (by decide))
    | here same _ =>
        cases same.symm.trans (equalIgnoringCase_of_head? starts (by decide))
    | written reads present => exact ⟨reads, present⟩
    | only ordinary _ _ => exact absurd starts ordinary.noId
  · rintro ⟨reads, present⟩
    exact .written reads present

theorem means_ordinary_iff (ordinary : Ordinary word) :
    world.Means actor word id ↔
      world.Candidate actor word id ∧
        ∀ other, world.Candidate actor word other → other = id := by
  constructor
  · intro means
    cases means with
    | me same => cases same.symm.trans ordinary.notMe
    | here same _ => cases same.symm.trans ordinary.notHere
    | written reads _ =>
        exact absurd (head?_of_ofCharacters? reads) ordinary.noId
    | only _ candidate alone => exact ⟨candidate, alone⟩
  · rintro ⟨candidate, alone⟩
    exact .only ordinary candidate alone

/-! ## The meaning of a text -/

/-- For an existing actor every text is answered, with what its word means. -/
theorem matchName_means
    (distinct : world.objects.Distinct)
    (found : world.objects.get? actor = some self)
    (text : String) :
    ∃ answer, world.matchName actor text = .ok answer ∧
      ∀ id, answer = some id ↔ world.Means actor (wordOf text) id := by
  simp only [matchName, World.object, found, bind, Except.bind]
  rw [← wordOf]
  have characters : (wordOf text).toList = withoutArticle (trim text.toList) :=
    String.toList_ofList
  rw [← characters]
  split
  · next empty =>
      rw [String.isEmpty_iff] at empty
      rw [empty]
      exact ⟨none, rfl, fun id =>
          iff_of_false (Option.some_ne_none id).symm not_means_empty⟩
  split
  · next same =>
      refine ⟨some actor, rfl, fun id => ?_⟩
      rw [means_me_iff same, Option.some_inj]
  split
  · next same =>
      refine ⟨self.location, rfl, fun id => ?_⟩
      rw [means_here_iff same, liesIn_iff found]
  split
  · next starts =>
      refine ⟨_, rfl, fun id => ?_⟩
      rw [means_written_iff starts, Option.filter_eq_some_iff]
  · next empty notMe notHere noId =>
      refine ⟨_, rfl, fun id => ?_⟩
      have ordinary : Ordinary (wordOf text) :=
        { nonempty := fun same => empty (String.isEmpty_iff.mpr same)
          notMe := eq_false_of_ne_true notMe
          notHere := eq_false_of_ne_true notHere
          noId := noId }
      rw [means_ordinary_iff ordinary, onlyId?_eq_some_iff]
      simp only [mem_candidates distinct found]

/-- Only a missing actor keeps a text from being answered. -/
theorem matchName_eq_error_iff
    (distinct : world.objects.Distinct)
    {failure : Failure} :
    world.matchName actor text = .error failure ↔
      world.has actor = false ∧ failure = .entityNotFound actor := by
  cases found : world.objects.get? actor with
  | none =>
      have absent : world.has actor = false := has_eq_false_iff.mpr found
      simp only [matchName, World.object, found, bind, Except.bind, absent,
        true_and, Except.error.injEq, eq_comm]
  | some self =>
      have present : world.has actor = true := has_eq_true_iff.mpr ⟨self, found⟩
      rcases matchName_means distinct found text with ⟨answer, answered, _⟩
      simp only [answered, present, reduceCtorEq, false_and]

/--
The word of a text is what follows the article in front of the trimmed text, or
else all of that.  In every reachable world an existing actor's text, unless its
word has a meaning of its own, means an object exactly if that is the only one
at hand that is called by the word.  If there is none or there are several, then
it means nothing.  Only a missing actor makes this fail.
-/
theorem matches_only_candidate_or_nothing
    (reachable : Reachable world)
    (present : world.has actor = true)
    (ordinary : Ordinary (wordOf text)) :
    (Articled (trim text.toList) (wordOf text).toList ∨
        (∀ rest, ¬ Articled (trim text.toList) rest) ∧
          (wordOf text).toList = trim text.toList) ∧
      (∀ id, world.matchName actor text = .ok (some id) ↔
        world.Candidate actor (wordOf text) id ∧
          ∀ other, world.Candidate actor (wordOf text) other → other = id) ∧
      (world.matchName actor text = .ok none ↔
        (∀ id, ¬ world.Candidate actor (wordOf text) id) ∨
          ∃ id other, world.Candidate actor (wordOf text) id ∧
            world.Candidate actor (wordOf text) other ∧ other ≠ id) ∧
      ∀ someone line failure, world.matchName someone line = .error failure ↔
        world.has someone = false ∧ failure = .entityNotFound someone := by
  have distinct := reachable.distinct
  rcases has_eq_true_iff.mp present with ⟨self, found⟩
  rcases matchName_means distinct found text with ⟨answer, answered, meant⟩
  simp only [means_ordinary_iff ordinary] at meant
  refine ⟨?_, fun id => ?_, ?_, fun _ _ _ => matchName_eq_error_iff distinct⟩
  · rw [wordOf, String.toList_ofList]
    exact withoutArticle_cases (trim text.toList)
  · rw [answered, Except.ok.injEq, meant]
  · rw [answered, Except.ok.injEq, Option.eq_none_iff_forall_ne_some]
    simp only [ne_eq, meant]
    constructor
    · intro nothing
      by_cases missing : ∀ id, ¬ world.Candidate actor (wordOf text) id
      · exact .inl missing
      · rcases not_forall_not.mp missing with ⟨id, candidate⟩
        have several :
            ¬ ∀ other, world.Candidate actor (wordOf text) other → other = id :=
          fun alone => nothing id ⟨candidate, alone⟩
        push Not at several
        rcases several with ⟨other, another, differs⟩
        exact .inr ⟨id, other, candidate, another, differs⟩
    · rintro (missing | ⟨id, other, candidate, another, differs⟩)
        only ⟨chosen, alone⟩
      · exact missing only chosen
      · exact differs ((alone other another).trans (alone id candidate).symm)

/-- Someone with a lamp, a key and a ring, in a place with another lamp. -/
def dressingRoom : World :=
  World.empty.attempts
    [.create "Alice", .create "room", .create "brass lamp", .create "lamp",
      .create "the key", .create "the ring", .addAliases ⟨2⟩ ["lamp"],
      .addAliases ⟨4⟩ ["key"], .move ⟨0⟩ ⟨1⟩, .move ⟨2⟩ ⟨0⟩, .move ⟨3⟩ ⟨1⟩,
      .move ⟨4⟩ ⟨0⟩, .move ⟨5⟩ ⟨0⟩]

theorem reachable_dressingRoom : Reachable dressingRoom :=
  Reachable.empty.attempts _

/-- One key is at hand; one lamp is carried, and the other is in the place. -/
theorem one_key_and_two_lamps :
    dressingRoom.matchName ⟨0⟩ " The KEY" = .ok (some ⟨4⟩) ∧
      (∀ other, dressingRoom.Candidate ⟨0⟩ "KEY" other → other = ⟨4⟩) ∧
      dressingRoom.matchName ⟨0⟩ "a lamp" = .ok none := by
  have present : dressingRoom.has ⟨0⟩ = true := by decide +kernel
  have key : wordOf " The KEY" = "KEY" := by decide +kernel
  have lamp : wordOf "a lamp" = "lamp" := by decide +kernel
  have ordinaryKey : Ordinary (wordOf " The KEY") := by
    rw [key]
    constructor <;> decide
  have ordinaryLamp : Ordinary (wordOf "a lamp") := by
    rw [lamp]
    constructor <;> decide
  have keys :=
    matches_only_candidate_or_nothing reachable_dressingRoom present ordinaryKey
  have lamps := matches_only_candidate_or_nothing reachable_dressingRoom
    present ordinaryLamp
  rw [key] at keys
  rw [lamp] at lamps
  have matched :
      dressingRoom.matchName ⟨0⟩ " The KEY" = .ok (some ⟨4⟩) := by rfl
  have carried : dressingRoom.Candidate ⟨0⟩ "lamp" ⟨2⟩ :=
    ⟨.inl ⟨_, rfl, rfl⟩, _, rfl, "lamp", by decide +kernel, by decide⟩
  have nearby : dressingRoom.Candidate ⟨0⟩ "lamp" ⟨3⟩ :=
    ⟨.inr ⟨⟨1⟩, ⟨_, rfl, rfl⟩, _, rfl, rfl⟩, _, rfl,
      "lamp", by decide +kernel, by decide⟩
  exact ⟨matched, ((keys.2.1 ⟨4⟩).mp matched).2,
    lamps.2.2.1.mpr (.inr ⟨⟨2⟩, ⟨3⟩, carried, nearby, by decide⟩)⟩

/-! ## An object's own name -/

theorem has_of_atHand (forest : world.Forest) (atHand : world.AtHand actor id) :
    world.has actor = true := by
  rcases atHand with inside | ⟨place, ⟨self, found, _⟩, _⟩
  · exact forest.housed inside
  · exact has_eq_true_iff.mpr ⟨self, found⟩

theorem means_own_name
    (found : world.objects.get? id = some object)
    (atHand : world.AtHand actor id)
    (ordinary : Ordinary object.name)
    (alone : ∀ other, world.Candidate actor object.name other → other = id) :
    world.Means actor object.name id := by
  have called : world.Called object.name id :=
    ⟨object, found, object.name, List.mem_cons_self,
      equalIgnoringCase_iff.mpr rfl⟩
  exact .only ordinary ⟨atHand, called⟩ alone

/-- A text that is the name of an object at hand means that object, unless it
starts with an article and what follows means something else. -/
theorem means_wordOf_own_name_iff
    (trimmed : trim object.name.toList = object.name.toList)
    (means : world.Means actor object.name id) :
    world.Means actor (wordOf object.name) id ↔
      ∀ rest, Articled object.name.toList rest →
        world.Means actor (String.ofList rest) id := by
  rw [wordOf, trimmed]
  rcases withoutArticle_cases object.name.toList with articled | ⟨plain, whole⟩
  · constructor
    · intro means rest again
      rwa [again.unique articled]
    · intro means
      exact means _ articled
  · rw [whole, String.ofList_toList]
    exact ⟨fun _ rest articled => absurd articled (plain rest), fun _ => means⟩

/--
In every reachable world, take an object at hand whose name has no meaning
of its own and no blanks around it, and that is the only one at hand called
by this name.  An object string that is the name is bound to the object
exactly if what follows an article in front of the name, should there be
one, means the object, too.
-/
theorem own_name_binds_iff
    (reachable : Reachable world)
    (player : Entity)
    (found : world.objects.get? id = some object)
    (atHand : world.AtHand player.id id)
    (ordinary : Ordinary object.name)
    (trimmed : trim object.name.toList = object.name.toList)
    (alone : ∀ other, world.Candidate player.id object.name other → other = id)
    (command : Command) :
    ∃ objects, world.matchObjects player command = .ok objects ∧
      (command.directObject = object.name →
        (objects.direct = some id ↔ ∀ rest, Articled object.name.toList rest →
          world.Means player.id (String.ofList rest) id)) ∧
      (command.indirectObject = object.name →
        (objects.indirect = some id ↔ ∀ rest, Articled object.name.toList rest →
          world.Means player.id (String.ofList rest) id)) := by
  have distinct := reachable.distinct
  rcases has_eq_true_iff.mp (has_of_atHand reachable.forest atHand) with
    ⟨self, actorFound⟩
  rcases matchName_means distinct actorFound command.directObject with
    ⟨direct, answered, meant⟩
  rcases matchName_means distinct actorFound command.indirectObject with
    ⟨indirect, alsoAnswered, alsoMeant⟩
  have named := means_wordOf_own_name_iff trimmed
    (means_own_name found atHand ordinary alone)
  refine ⟨{ direct, indirect }, ?_, ?_, ?_⟩
  · simp only [matchObjects, answered, alsoAnswered, bind, Except.bind,
      pure, Except.pure]
  · intro same
    rw [meant, same, named]
  · intro same
    rw [alsoMeant, same, named]

theorem alone_of_candidates
    (distinct : world.objects.Distinct)
    (found : world.objects.get? actor = some self)
    (only :
      (actor :: self.location.toList).flatMap (world.calledIn word) = [id])
    (other : EntityId)
    (candidate : world.Candidate actor word other) :
    other = id := by
  have member := (mem_candidates distinct found).mpr candidate
  rw [only] at member
  exact List.mem_singleton.mp member

/-- The key is bound by its name, since it is called by the rest of that after
the article, too. -/
theorem key_is_bound_by_its_name :
    ∃ objects,
      dressingRoom.matchObjects { id := ⟨0⟩ }
        { verb := "drop", directObject := "the key" } =
          .ok objects ∧
        objects.direct = some ⟨4⟩ := by
  have distinct := reachable_dressingRoom.distinct
  have alone :
      ∀ other, dressingRoom.Candidate ⟨0⟩ "the key" other → other = ⟨4⟩ :=
    alone_of_candidates distinct rfl rfl
  have aloneBare :
      ∀ other, dressingRoom.Candidate ⟨0⟩ "key" other → other = ⟨4⟩ :=
    alone_of_candidates distinct rfl rfl
  have atHand : dressingRoom.AtHand ⟨0⟩ ⟨4⟩ := .inl ⟨_, rfl, rfl⟩
  have called : dressingRoom.Called "key" ⟨4⟩ :=
    ⟨_, rfl, "key", by decide +kernel, by decide⟩
  have bare : Articled "the key".toList "key".toList :=
    ⟨"the ".toList, "key".toList, by decide, by decide, by decide, by decide⟩
  rcases own_name_binds_iff reachable_dressingRoom { id := ⟨0⟩ } rfl atHand
      (by constructor <;> decide) (by decide) alone
      { verb := "drop", directObject := "the key" } with
    ⟨objects, matched, direct, _⟩
  refine ⟨objects, matched, (direct rfl).mpr ?_⟩
  intro rest articled
  rw [articled.unique bare]
  exact .only (by constructor <;> decide) ⟨atHand, called⟩ aloneBare

/-- An object need not be bound by its own name. -/
theorem name_with_article_need_not_bind :
    ¬ ∀ (world : World) (player : Entity) (id : EntityId)
      (object : WorldObject),
      Reachable world → world.objects.get? id = some object →
      world.AtHand player.id id →
        Ordinary object.name → trim object.name.toList = object.name.toList →
        (∀ other, world.Candidate player.id object.name other → other = id) →
        ∀ command : Command, command.directObject = object.name →
          ∃ objects, world.matchObjects player command = .ok objects ∧
            objects.direct = some id := by
  intro binds
  have alone :
      ∀ other, dressingRoom.Candidate ⟨0⟩ "the ring" other → other = ⟨5⟩ :=
    alone_of_candidates reachable_dressingRoom.distinct rfl rfl
  rcases binds dressingRoom { id := ⟨0⟩ } ⟨5⟩ _ reachable_dressingRoom rfl
    (.inl ⟨_, rfl, rfl⟩)
      (by constructor <;> decide) (by decide) alone
      { verb := "drop", directObject := "the ring" } rfl with
    ⟨objects, matched, bound⟩
  have unbound : dressingRoom.matchObjects { id := ⟨0⟩ }
      { verb := "drop", directObject := "the ring" } = .ok {} := rfl
  cases unbound.symm.trans matched
  cases bound

end TextWorld.World
