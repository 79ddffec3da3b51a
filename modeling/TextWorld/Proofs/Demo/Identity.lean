import TextWorld.Proofs.Demo.Evaluation
import TextWorld.Proofs.World.Attempts

/-!
# Who is meant by `player`

The unit of a snippet binds `player` to whoever typed it.  The evaluator of the
small world does not look at that binding: whoever typed the snippet, `player`
is the player at the console.
-/

namespace TextWorld.Demo

open TextWorld.Snippet

/-- The small world with any further entities, any of which may
be programmers. -/
inductive Peopled : World → Prop where
  | small (programmer : Bool) : Peopled (Demo.world programmer)
  | create {world : World} (peopled : Peopled world) (name : String) :
      Peopled (world.create name)
  | setProgrammer {world after : World} {id : EntityId} {flag : Bool}
      (peopled : Peopled world)
      (changed : world.setProgrammer id flag = .ok after) :
      Peopled after

variable {world : World} {source label : String} {typist : EntityId}

/-- Further entities do not change how the world evaluates code. -/
theorem Peopled.evaluates (peopled : Peopled world) : Evaluates world := by
  induction peopled with
  | small programmer => rfl
  | create _ name inductive_step => exact inductive_step
  | setProgrammer _ changed inductive_step =>
      rw [World.setProgrammer, World.update] at changed
      split at changed
      · cases changed
        exact inductive_step
      · cases changed

theorem evaluateExpression_player (label : String) :
    evaluateExpression label "player".toList = .ok (.entity player) := by
  simp [evaluateExpression]

/-- A snippet that ends with `player` has the player at the
console as its value. -/
theorem evaluate_unit_player
    (ends : (statements source.toList).getLast? = some "player".toList)
    (typist : EntityId)
    (label : String) :
    evaluate (unit source typist) label = .ok (.entity player) := by
  rcases List.getLast?_eq_some_iff.mp ends with ⟨others, divided⟩
  have expression : isExpression "player".toList = true := by decide
  have unmarked : ¬ returnMark <:+: "player".toList := by
    rw [returnMark_eq]
    decide
  rw [evaluate_unit_of_isExpression divided expression unmarked,
    evaluateExpression_player]

theorem run_unit_player
    (evaluates : Evaluates world)
    (levels : Nat)
    (ends : (statements source.toList).getLast? = some "player".toList)
    (typist : EntityId) :
    (World.calls (levels + 1)).run (unit source typist)
      (Snippet.label typist) world =
      (.ok (.entity player), world) := by
  rw [run_unit evaluates, evaluate_unit_player ends]
  rfl

/--
Whoever runs a snippet that ends with `player` is given the player at
the console, whatever comes before that; so it is given itself exactly
if it is that player.
-/
theorem player_is_who_sits_at_console
    (peopled : Peopled world)
    (levels : Nat)
    (ends : (statements source.toList).getLast? = some "player".toList)
    (typist : EntityId) :
    (World.calls (levels + 1)).run (unit source typist)
      (Snippet.label typist) world =
        (.ok (.entity player), world) ∧
      (((World.calls (levels + 1)).run (unit source typist)
          (Snippet.label typist) world).1 =
          .ok (.entity typist) ↔
        typist = player) := by
  have given := run_unit_player peopled.evaluates levels ends typist
  rw [given]
  refine ⟨rfl, ?_, ?_⟩
  · intro same
    cases same
    rfl
  · rintro rfl
    rfl

/-- The small world with a second programmer in it. -/
def withBerta : World :=
  (Demo.world true).attempts [.create "Berta", .setProgrammer ⟨5⟩ true]

theorem peopled_withBerta : Peopled withBerta := by
  have changed :
      ((Demo.world true).create "Berta").setProgrammer ⟨5⟩ true =
        .ok withBerta := by
    rfl
  exact ((Peopled.small true).create "Berta").setProgrammer changed

/-- Not every programmer is meant by `player` in a snippet of its own. -/
theorem berta_is_not_player :
    ¬ ∀ (world : World) (levels : Nat) (source : String) (typist : EntityId),
      Peopled world →
        (∃ loaded, world.load typist = .ok loaded ∧ loaded.programmer = true) →
          (statements source.toList).getLast? = some "player".toList →
            ((World.calls (levels + 1)).run (unit source typist)
              (Snippet.label typist) world).1 =
              .ok (.entity typist) := by
  intro own
  have ends : (statements "player".toList).getLast? = some "player".toList := by
    decide +kernel
  have bertas :=
    own withBerta 0 "player" ⟨5⟩ peopled_withBerta ⟨_, rfl, rfl⟩ ends
  rw [run_unit_player peopled_withBerta.evaluates 0 ends] at bertas
  cases bertas

/-- Both the wizard at the console and Berta are given the wizard. -/
theorem wizard_is_given_to_both :
    ((World.calls 1).run (unit "let n = 1; player" player)
      (Snippet.label player) withBerta).1 =
        .ok (.entity player) ∧
      (World.calls 1).run (unit "let n = 1; player" ⟨5⟩)
        (Snippet.label ⟨5⟩) withBerta =
        (.ok (.entity player), withBerta) := by
  have ends : (statements "let n = 1; player".toList).getLast? =
      some "player".toList := by
    decide +kernel
  have wizards := player_is_who_sits_at_console peopled_withBerta 0 ends player
  have bertas := player_is_who_sits_at_console peopled_withBerta 0 ends ⟨5⟩
  exact ⟨wizards.2.mpr rfl, bertas.1⟩

end TextWorld.Demo
