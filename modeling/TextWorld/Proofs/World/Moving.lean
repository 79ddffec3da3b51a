import TextWorld.Proofs.World.Containment

/-!
# Moving

An object can be moved to every place that exists and is neither the object
itself nor inside it.  The walk up from the place decides this without ever
failing on the way: the places above an existing one exist.  Only the place of
the object changes, and a refused move changes nothing.
-/

namespace TextWorld.World

open Relation

/-- The world in which an object is in another place, and all
else is as it is. -/
def relocated (world : World) (id destination : EntityId) : World :=
  { world with
    objects := world.objects.map fun entry =>
      if entry.1 = id then
        (entry.1, { entry.2 with location := some destination })
      else
        entry }

/-- With what a move fails that is refused. -/
def refusal (world : World) (id destination : EntityId) : Failure :=
  if world.has id = false then
    .entityNotFound id
  else if world.has destination = false then
    .entityNotFound destination
  else
    .internal ("cannot move " ++ id.text ++ " into itself")

/-- The object and the destination exist, and the destination is neither the
object nor inside it through any chain of places. -/
structure Movable (world : World) (id destination : EntityId) : Prop where
  present : world.has id = true
  there : world.has destination = true
  other : destination ≠ id
  outside : ¬ TransGen world.LiesIn destination id

variable {world : World} {id place destination : EntityId}

/-- In a forest the walk up from an existing place is stopped by nothing but
the object itself. -/
theorem Forest.inside_of_walk
    {result : Except Failure Unit}
    {failure : Failure}
    (forest : world.Forest)
    (walk : Walk world id place result)
    (present : world.has place = true)
    (stopped : result = .error failure) :
    ReflTransGen world.LiesIn place id ∧
      failure = .internal ("cannot move " ++ id.text ++ " into itself") := by
  induction walk with
  | met =>
      cases stopped
      exact ⟨.refl, rfl⟩
  | missing _ gone =>
      rcases has_eq_true_iff.mp present with ⟨object, found⟩
      cases gone.symm.trans found
  | outermost => cases stopped
  | upward _ found location _ inductive_step =>
      have lies : world.LiesIn _ _ := ⟨_, found, location⟩
      rcases inductive_step (forest.housed lies) stopped with ⟨inside, same⟩
      exact ⟨.head lies inside, same⟩

/-- The check of an existing place fails only if the place is the
object or inside it. -/
theorem Forest.checkPlace_cases
    (forest : world.Forest)
    (id : EntityId)
    (present : world.has destination = true) :
    (world.checkPlace id (world.objects.length + 1) destination = .ok () ∧
        ¬ ReflTransGen world.LiesIn destination id) ∨
      (world.checkPlace id (world.objects.length + 1) destination =
          .error (.internal ("cannot move " ++ id.text ++ " into itself")) ∧
        ReflTransGen world.LiesIn destination id) := by
  have walk := forest.walk_checkPlace id destination
  cases checked :
      world.checkPlace id (world.objects.length + 1) destination with
  | ok done => exact .inl ⟨rfl, (walk.outside checked).2⟩
  | error failure =>
      rcases forest.inside_of_walk walk present checked with ⟨inside, rfl⟩
      exact .inr ⟨rfl, inside⟩

theorem move_of_not_has (absent : world.has id = false)
    (destination : EntityId) :
    world.move id destination = .error (.entityNotFound id) := by
  simp only [move, World.object, has_eq_false_iff.mp absent, bind, Except.bind]

theorem move_of_has (present : world.has id = true) (destination : EntityId) :
    world.move id destination =
      (world.checkPlace id (world.objects.length + 1) destination).bind fun _ =>
        world.update id fun object =>
          { object with location := some destination } := by
  rcases has_eq_true_iff.mp present with ⟨object, found⟩
  simp only [move, World.object, found, bind, Except.bind]

theorem update_eq_relocated
    (distinct : world.objects.Distinct)
    (present : world.has id = true)
    (destination : EntityId) :
    world.update id (fun object =>
        { object with location := some destination }) =
      .ok (world.relocated id destination) := by
  rcases has_eq_true_iff.mp present with ⟨object, found⟩
  have entries :=
    distinct.set_eq_map found fun object =>
      { object with location := some destination }
  rw [update, found]
  simp only [entries, relocated]

theorem movable_iff :
    world.Movable id destination ↔
      world.has id = true ∧ world.has destination = true ∧
        ¬ ReflTransGen world.LiesIn destination id := by
  constructor
  · rintro ⟨present, there, other, outside⟩
    refine ⟨present, there, ?_⟩
    intro inside
    rcases reflTransGen_iff_eq_or_transGen.mp inside with same | chain
    · exact other same.symm
    · exact outside chain
  · rintro ⟨present, there, outside⟩
    refine ⟨present, there, ?_, fun chain => outside chain.to_reflTransGen⟩
    rintro rfl
    exact outside .refl

/-- A move relocates the object, or it is refused. -/
theorem move_cases
    (distinct : world.objects.Distinct)
    (forest : world.Forest)
    (id destination : EntityId) :
    (world.Movable id destination ∧
        world.move id destination = .ok (world.relocated id destination)) ∨
      (¬ world.Movable id destination ∧
        world.move id destination = .error (world.refusal id destination)) := by
  rw [movable_iff]
  cases present : world.has id with
  | false =>
      refine .inr ⟨nofun, ?_⟩
      rw [move_of_not_has present, refusal, if_pos present]
  | true =>
      cases there : world.has destination with
      | false =>
          have other : destination ≠ id := by
            rintro rfl
            cases present.symm.trans there
          have stopped := Walk.missing other (has_eq_false_iff.mp there)
          have missing := (forest.walk_iff id destination _).mp stopped
          refine .inr ⟨nofun, ?_⟩
          rw [move_of_has present, missing, refusal, present, there]
          rfl
      | true =>
          rcases forest.checkPlace_cases id there with
            ⟨checked, outside⟩ | ⟨checked, inside⟩
          · refine .inl ⟨⟨rfl, rfl, outside⟩, ?_⟩
            rw [move_of_has present, checked]
            exact update_eq_relocated distinct present destination
          · refine .inr ⟨fun movable => movable.2.2 inside, ?_⟩
            rw [move_of_has present, checked, refusal, present, there]
            rfl

/--
In every reachable world an object is moved to another exactly if both exist and
the other is neither the object nor inside it.  Then its place is all that
changes in the world; otherwise nothing changes, and the failure says that one
of them does not exist, or else that the object cannot be moved into itself.
-/
theorem moves_unless_into_itself
    (reachable : Reachable world)
    (id destination : EntityId) :
    ((∃ after, world.move id destination = .ok after) ↔
      world.Movable id destination) ∧
      (world.Movable id destination →
        world.change (world.move id destination) =
            (.ok (), world.relocated id destination)) ∧
      (¬ world.Movable id destination →
        world.change (world.move id destination) =
          (.error (world.refusal id destination), world)) := by
  rcases move_cases reachable.distinct reachable.forest id destination with
    ⟨movable, moved⟩ | ⟨immovable, refused⟩
  · rw [moved]
    exact ⟨⟨fun _ => movable, fun _ => ⟨_, rfl⟩⟩, fun _ => rfl,
      fun immovable => absurd movable immovable⟩
  · rw [refused]
    exact ⟨⟨nofun, fun movable => absurd movable immovable⟩,
      fun movable => absurd movable immovable, fun _ => rfl⟩

/-- A box in a hall, and a lamp in the box. -/
def storeroom : World :=
  World.empty.attempts
    [.create "hall", .create "box", .create "lamp",
      .move ⟨1⟩ ⟨0⟩, .move ⟨2⟩ ⟨1⟩]

/-- The lamp can be taken out of the box, and the box cannot be
put into its lamp. -/
theorem lamp_leaves_its_box :
    Reachable storeroom ∧
      storeroom.change (storeroom.move ⟨2⟩ ⟨0⟩) =
        (.ok (), storeroom.relocated ⟨2⟩ ⟨0⟩) ∧
      storeroom.change (storeroom.move ⟨1⟩ ⟨2⟩) =
        (.error (.internal "cannot move #1 into itself"), storeroom) := by
  have reachable : Reachable storeroom := Reachable.empty.attempts _
  have leaves := moves_unless_into_itself reachable ⟨2⟩ ⟨0⟩
  have enters := moves_unless_into_itself reachable ⟨1⟩ ⟨2⟩
  have lies : storeroom.LiesIn ⟨2⟩ ⟨1⟩ := ⟨_, rfl, rfl⟩
  have message :
      storeroom.refusal ⟨1⟩ ⟨2⟩ = .internal "cannot move #1 into itself" := by
    decide +kernel
  refine ⟨reachable, leaves.2.1 (leaves.1.mp ⟨_, rfl⟩), ?_⟩
  rw [← message]
  exact enters.2.2 fun movable => movable.outside (.single lies)

end TextWorld.World
