import Mathlib.Data.List.Perm.Subperm
import Mathlib.Logic.Relation
import TextWorld.Proofs.World.Deeds

/-!
# Containment

The places of objects form a forest: every place exists, and nothing is inside
itself.  Only moving adds to containment, and a move goes through only when
the walk up from the destination does not meet the moved object.  Conversely
the walk ends because there are no cycles, and it needs no more steps than
there are objects.
-/

namespace TextWorld.World

open Relation

/-- An object is directly inside another. -/
def LiesIn (world : World) (inner outer : EntityId) : Prop :=
  ∃ object, world.objects.get? inner = some object ∧
    object.location = some outer

/-- Every place exists, and nothing is inside itself. -/
structure Forest (world : World) : Prop where
  housed : ∀ {inner outer : EntityId}, world.LiesIn inner outer →
    world.has outer = true
  acyclic : ∀ id : EntityId, ¬ TransGen world.LiesIn id id

variable {world after : World} {id place destination inner outer : EntityId}
  {object : WorldObject}

theorem has_eq_true_iff :
    world.has id = true ↔ ∃ object, world.objects.get? id = some object :=
  Option.isSome_iff_exists

theorem has_eq_false_iff :
    world.has id = false ↔ world.objects.get? id = none := by
  rw [has, Table.contains, Option.isSome_eq_false_iff,
    Option.isNone_iff_eq_none]

theorem liesIn_iff (found : world.objects.get? inner = some object) :
    world.LiesIn inner outer ↔ object.location = some outer := by
  constructor
  · rintro ⟨_, sameFound, location⟩
    cases found.symm.trans sameFound
    exact location
  · intro location
    exact ⟨object, found, location⟩

/-- The place of an id is that of its object. -/
theorem location_eq_ok_iff {around : Option EntityId} :
    world.location id = .ok around ↔
      ∃ object,
        world.objects.get? id = some object ∧ object.location = around := by
  rw [location, World.object]
  cases found : world.objects.get? id with
  | none => simp [Except.map]
  | some object => simp [Except.map]

/-- An object lies in one place at most. -/
theorem LiesIn.unique
    {other : EntityId}
    (lies : world.LiesIn inner outer)
    (again : world.LiesIn inner other) :
    outer = other := by
  rcases lies with ⟨object, found, location⟩
  rw [liesIn_iff found] at again
  exact Option.some.inj (location.symm.trans again)

theorem not_liesIn_of_nowhere
    (found : world.objects.get? inner = some object)
    (nowhere : object.location = none) :
    ¬ world.LiesIn inner outer := by
  rw [liesIn_iff found, nowhere]
  exact (Option.some_ne_none outer).symm

/-! ## The walk up from a place -/

/-- The walk up from a place in search of an object, and how it ends. -/
inductive Walk (world : World) (id : EntityId) :
    EntityId → Except Failure Unit → Prop where
  /-- The place is the object itself. -/
  | met : Walk world id id
      (.error (.internal ("cannot move " ++ id.text ++ " into itself")))
  | missing {place : EntityId}
      (other : place ≠ id)
      (gone : world.objects.get? place = none) :
      Walk world id place (.error (.entityNotFound place))
  /-- The place is in no other. -/
  | outermost {place : EntityId} {object : WorldObject}
      (other : place ≠ id)
      (found : world.objects.get? place = some object)
      (nowhere : object.location = none) :
      Walk world id place (.ok ())
  | upward {place around : EntityId} {object : WorldObject}
      {result : Except Failure Unit}
      (other : place ≠ id)
      (found : world.objects.get? place = some object)
      (inside : object.location = some around)
      (further : Walk world id around result) :
      Walk world id place result

/-- A walk ends in one way only. -/
theorem Walk.unique
    {result other : Except Failure Unit}
    (walk : Walk world id place result)
    (again : Walk world id place other) :
    result = other := by
  induction walk with
  | met =>
      cases again with
      | met => rfl
      | missing differs | outermost differs | upward differs =>
          exact absurd rfl differs
  | missing differs gone =>
      cases again with
      | met => exact absurd rfl differs
      | missing => rfl
      | outermost _ found | upward _ found => cases gone.symm.trans found
  | outermost differs found nowhere =>
      cases again with
      | met => exact absurd rfl differs
      | missing _ gone => cases gone.symm.trans found
      | outermost => rfl
      | upward _ sameFound inside =>
          cases found.symm.trans sameFound
          cases nowhere.symm.trans inside
  | upward differs found inside _ inductive_step =>
      cases again with
      | met => exact absurd rfl differs
      | missing _ gone => cases gone.symm.trans found
      | outermost _ sameFound nowhere =>
          cases found.symm.trans sameFound
          cases nowhere.symm.trans inside
      | upward _ sameFound sameInside further =>
          cases found.symm.trans sameFound
          cases inside.symm.trans sameInside
          exact inductive_step further

/-- The check of a place is the walk up from it, unless there is a chain of
places as long as the limit. -/
theorem walk_or_chain (world : World) (id : EntityId) (limit : Nat)
    (place : EntityId) :
    Walk world id place (world.checkPlace id limit place) ∨
      ∃ path,
        path.length = limit ∧ List.IsChain world.LiesIn (place :: path) := by
  induction limit generalizing place with
  | zero => exact .inr ⟨[], rfl, .singleton place⟩
  | succ limit inductive_step =>
      by_cases same : place = id
      · subst same
        rw [checkPlace, if_pos rfl]
        exact .inl .met
      rw [checkPlace, if_neg same]
      cases found : world.objects.get? place with
      | none => exact .inl (.missing same found)
      | some object =>
          cases location : object.location with
          | none =>
              simp only [location]
              exact .inl (.outermost same found location)
          | some around =>
              simp only [location]
              rcases inductive_step around with walk | ⟨path, length, chain⟩
              · exact .inl (.upward same found location walk)
              · refine .inr ⟨around :: path, congrArg (· + 1) length, ?_⟩
                exact .cons_cons ⟨object, found, location⟩ chain

/-- Where the walk up from a place ends well, the place exists and is not
inside the object. -/
theorem Walk.outside
    {result : Except Failure Unit}
    (walk : Walk world id place result)
    (well : result = .ok ()) :
    world.has place = true ∧ ¬ ReflTransGen world.LiesIn place id := by
  induction walk with
  | met => cases well
  | missing other gone => cases well
  | outermost other found nowhere =>
      refine ⟨has_eq_true_iff.mpr ⟨_, found⟩, ?_⟩
      intro inside
      rcases inside.cases_head with same | ⟨around, lies, -⟩
      · exact other same
      · exact not_liesIn_of_nowhere found nowhere lies
  | upward other found inside further inductive_step =>
      refine ⟨has_eq_true_iff.mpr ⟨_, found⟩, ?_⟩
      intro reaches
      rcases reaches.cases_head with same | ⟨around, lies, rest⟩
      · exact other same
      · obtain rfl := lies.unique ⟨_, found, inside⟩
        exact (inductive_step well).2 rest

namespace Forest

variable (forest : world.Forest)

include forest

theorem has_of_chain
    {path : List EntityId}
    (chain : List.IsChain world.LiesIn (place :: path)) :
    ∀ outer ∈ path, world.has outer = true := by
  induction path generalizing place with
  | nil => exact nofun
  | cons around path inductive_step =>
      rcases List.isChain_cons_cons.mp chain with ⟨lies, rest⟩
      intro outer member
      rcases List.mem_cons.mp member with rfl | later
      · exact forest.housed lies
      · exact inductive_step rest outer later

/-- No chain of places is longer than the number of objects. -/
theorem length_le_of_chain
    {path : List EntityId}
    (chain : List.IsChain world.LiesIn (place :: path)) :
    path.length ≤ world.objects.length := by
  have inside : (place :: path).Pairwise (TransGen world.LiesIn) :=
    (chain.imp fun _ _ => TransGen.single).pairwise
  have distinct : path.Nodup := by
    apply (List.pairwise_cons.mp inside).2.imp
    rintro lower _ above rfl
    exact forest.acyclic lower above
  have existing : path ⊆ world.objects.map (·.1) := by
    intro outer member
    rcases has_eq_true_iff.mp (forest.has_of_chain chain outer member) with
      ⟨object, found⟩
    exact List.mem_map.mpr ⟨_, Table.mem_of_get?_eq_some found, rfl⟩
  simpa using (List.subperm_of_subset distinct existing).length_le

theorem walk_checkPlace (id place : EntityId) :
    Walk world id place
      (world.checkPlace id (world.objects.length + 1) place) := by
  rcases walk_or_chain world id (world.objects.length + 1) place with
    walk | ⟨path, length, chain⟩
  · exact walk
  · have short := forest.length_le_of_chain chain
    omega

/-- The walk up from a place ends, and its end is what the check of
the place answers. -/
theorem walk_iff (id place : EntityId) (result : Except Failure Unit) :
    Walk world id place result ↔
      world.checkPlace id (world.objects.length + 1) place = result := by
  constructor
  · intro walk
    exact (forest.walk_checkPlace id place).unique walk
  · rintro rfl
    exact forest.walk_checkPlace id place

end Forest

/-! ## What an operation does to containment -/

/-- How the world after an operation is arranged, as compared with the
world before it. -/
inductive Rearranged (world after : World) : Prop where
  | kept
      (remains : ∀ id, world.has id = true → after.has id = true)
      (lain : ∀ inner outer, after.LiesIn inner outer →
        world.LiesIn inner outer)
  | removed (gone : EntityId)
      (remains : ∀ id, id ≠ gone → world.has id = true → after.has id = true)
      (lain : ∀ inner outer, after.LiesIn inner outer →
        outer ≠ gone ∧ world.LiesIn inner outer)
  | moved (id destination : EntityId)
      (remains : ∀ id, world.has id = true → after.has id = true)
      (there : world.has destination = true)
      (outside : ¬ ReflTransGen world.LiesIn destination id)
      (lain : ∀ inner outer, after.LiesIn inner outer →
        world.LiesIn inner outer ∨ inner = id ∧ outer = destination)

theorem rearranged_of_update
    {change : WorldObject → WorldObject}
    (updated : world.update id change = .ok after)
    (leaves : ∀ earlier, (change earlier).location = earlier.location) :
    Rearranged world after := by
  apply Rearranged.kept
  · intro probe present
    rw [has_of_update updated]
    exact present
  · rintro inner outer ⟨object, found, location⟩
    rw [get?_of_update updated] at found
    split at found
    · rcases Option.map_eq_some_iff.mp found with ⟨earlier, was, rfl⟩
      exact ⟨earlier, was, (leaves earlier).symm.trans location⟩
    · exact ⟨object, found, location⟩

theorem checkPlace_of_move
    (moved : world.move id destination = .ok after) :
    world.checkPlace id (world.objects.length + 1) destination = .ok () := by
  simp only [move, bind, Except.bind] at moved
  split at moved
  · cases moved
  · split at moved
    · cases moved
    · assumption

theorem rearranged_of_create (world : World) (name : String) :
    Rearranged world (world.create name) := by
  apply Rearranged.kept
  · intro probe present
    rw [has, Table.contains, create, Table.get?_set]
    split
    · rfl
    · exact present
  · rintro inner outer ⟨object, found, location⟩
    rw [create, Table.get?_set] at found
    split at found
    · cases found
      cases location
    · exact ⟨object, found, location⟩

theorem rearranged_of_recycle
    (recycled : world.recycle id = .ok after) :
    Rearranged world after := by
  apply Rearranged.removed id
  · intro probe other present
    rw [has, Table.contains, get?_of_recycle recycled, if_neg other.symm]
    exact Option.isSome_map.trans present
  · rintro inner outer ⟨object, found, location⟩
    rw [get?_of_recycle recycled] at found
    split at found
    · cases found
    · rcases Option.map_eq_some_iff.mp found with ⟨earlier, was, rfl⟩
      rw [WorldObject.leave] at location
      split at location
      · cases location
      · next elsewhere =>
          refine ⟨?_, earlier, was, location⟩
          rintro rfl
          exact elsewhere location

theorem rearranged_of_move
    (forest : world.Forest)
    (moved : world.move id destination = .ok after) :
    Rearranged world after := by
  have walk := forest.walk_checkPlace id destination
  rcases walk.outside (checkPlace_of_move moved) with ⟨there, outside⟩
  have updated := update_of_move moved
  apply Rearranged.moved id destination _ there outside
  · rintro inner outer ⟨object, found, location⟩
    rw [get?_of_update updated] at found
    split at found
    · next same =>
        rcases Option.map_eq_some_iff.mp found with ⟨earlier, was, rfl⟩
        exact .inr ⟨same.symm, (Option.some.inj location).symm⟩
    · exact .inl ⟨object, found, location⟩
  · intro probe present
    rw [has_of_update updated]
    exact present

/-- Every operation arranges the objects of a forest in one of the ways. -/
theorem rearranged_of_mutate
    {mutation : Mutation}
    (forest : world.Forest)
    (done : world.mutate mutation = .ok after) :
    Rearranged world after := by
  cases mutation with
  | create name =>
      cases done
      exact rearranged_of_create world name
  | recycle id => exact rearranged_of_recycle done
  | move id destination => exact rearranged_of_move forest done
  | addAliases id aliases => exact rearranged_of_update done fun _ => rfl
  | setProgrammer id flag => exact rearranged_of_update done fun _ => rfl
  | defineVerb id verb => exact rearranged_of_update done fun _ => rfl
  | registerHook | setEvaluator | tell | takeTold | enter =>
      -- these leave the objects alone
      cases done
      exact .kept (fun _ present => present) fun _ _ lies => lies

/-! ## Containment stays a forest -/

/-- With one more edge, a chain of edges either does without it or
leads through it. -/
theorem transGen_cases_of_edge
    {before now : EntityId → EntityId → Prop}
    (edges : ∀ inner outer, now inner outer →
      before inner outer ∨ inner = id ∧ outer = destination)
    (chain : TransGen now inner outer) :
    TransGen before inner outer ∨
      ReflTransGen before inner id ∧ ReflTransGen before destination outer := by
  induction chain with
  | single edge =>
      rcases edges _ _ edge with old | ⟨rfl, rfl⟩
      · exact .inl (.single old)
      · exact .inr ⟨.refl, .refl⟩
  | tail _ edge inductive_step =>
      rcases edges _ _ edge with old | ⟨rfl, rfl⟩
      · rcases inductive_step with without | ⟨first, last⟩
        · exact .inl (without.tail old)
        · exact .inr ⟨first, last.tail old⟩
      · rcases inductive_step with without | ⟨first, -⟩
        · exact .inr ⟨without.to_reflTransGen, .refl⟩
        · exact .inr ⟨first, .refl⟩

/-- A rearranged forest is a forest. -/
theorem Forest.rearranged
    (forest : world.Forest)
    (rearranged : Rearranged world after) :
    after.Forest := by
  cases rearranged with
  | kept remains lain =>
      constructor
      · intro inner outer lies
        exact remains outer (forest.housed (lain inner outer lies))
      · intro id cycle
        exact forest.acyclic id (TransGen.mono lain _ _ cycle)
  | removed gone remains lain =>
      constructor
      · intro inner outer lies
        rcases lain inner outer lies with ⟨other, earlier⟩
        exact remains outer other (forest.housed earlier)
      · intro id cycle
        have earlier := TransGen.mono (fun inner outer lies =>
            (lain inner outer lies).2) _ _ cycle
        exact forest.acyclic id earlier
  | moved id destination remains there outside lain =>
      constructor
      · intro inner outer lies
        rcases lain inner outer lies with earlier | ⟨rfl, rfl⟩
        · exact remains outer (forest.housed earlier)
        · exact remains outer there
      · intro probe cycle
        -- a new cycle would lead from the destination up to the moved object
        rcases transGen_cases_of_edge lain cycle with earlier | ⟨first, last⟩
        · exact forest.acyclic probe earlier
        · exact outside (last.trans first)

theorem forest_empty : World.empty.Forest where
  housed := by
    rintro inner outer ⟨object, found, -⟩
    cases found
  acyclic := by
    intro id cycle
    rcases TransGen.head'_iff.mp cycle with ⟨outer, ⟨object, found, -⟩, -⟩
    cases found

/-- In a reachable world the places of objects form a forest. -/
theorem Reachable.forest (reachable : Reachable world) : world.Forest := by
  induction reachable with
  | empty => exact forest_empty
  | step reachable done inductive_step =>
      exact inductive_step.rearranged (rearranged_of_mutate inductive_step done)

/--
Whatever operations are attempted in the world without anything in it, as long
as not all ids are used up: every place exists, nothing is inside itself, every
object has an id below the next one, no id is handed out twice, and the walk up
from any place ends, with what the check of that place answers.
-/
theorem containment_stays_forest
    (mutations : List Mutation)
    (few : (World.empty.issuedBy mutations).length < twoTo 64) :
    let world := World.empty.attempts mutations
    (∀ inner outer, world.LiesIn inner outer → world.has outer = true) ∧
      (∀ id, ¬ TransGen world.LiesIn id id) ∧
      (∀ id, world.has id = true → id.number < world.nextId.number) ∧
      (World.empty.issuedBy mutations).Nodup ∧
      ∀ id destination result,
        Walk world id destination result ↔
          world.checkPlace id (world.objects.length + 1) destination =
            result := by
  intro world
  have reachable : Reachable world := Reachable.empty.attempts mutations
  have created : world.created = (World.empty.issuedBy mutations).length :=
    (created_attempts World.empty mutations).trans (Nat.zero_add _)
  refine ⟨?_, reachable.forest.acyclic, ?_, ?_, reachable.forest.walk_iff⟩
  · intro inner outer lies
    exact reachable.forest.housed lies
  · intro id present
    have next : world.nextId.number.toNat = world.created := by
      apply toNat_ofNat
      rw [created]
      exact few
    rw [UInt64.lt_iff_toNat_lt, next]
    exact reachable.number_lt present
  · apply nodup_issuedBy
    rw [World.empty, Nat.zero_add]
    exact Nat.le_of_lt few

/-- A lamp is put into a box, which then does not go into the lamp; the
box is removed. -/
def renovation : List Mutation :=
  [.create "Lobby", .create "box", .create "lamp", .move ⟨1⟩ ⟨0⟩, .move ⟨2⟩ ⟨1⟩,
    .move ⟨1⟩ ⟨2⟩, .recycle ⟨1⟩, .create "chest", .move ⟨2⟩ ⟨3⟩]

theorem removed_id_is_not_used_again :
    World.empty.issuedBy renovation = [⟨0⟩, ⟨1⟩, ⟨2⟩, ⟨3⟩] ∧
      (World.empty.issuedBy renovation).Nodup ∧
      ¬ TransGen (World.empty.attempts renovation).LiesIn ⟨2⟩ ⟨2⟩ ∧
      Walk (World.empty.attempts renovation) ⟨0⟩ ⟨2⟩ (.ok ()) := by
  have stays := containment_stays_forest renovation (by decide +kernel)
  exact ⟨by decide +kernel, stays.2.2.2.1, stays.2.1 ⟨2⟩,
    (stays.2.2.2.2 ⟨0⟩ ⟨2⟩ (.ok ())).mpr rfl⟩

end TextWorld.World
