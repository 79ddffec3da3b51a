import TextWorld.Command.Basic

/-!
# What becomes of a command

Programmers may evaluate code, everyone may quit, and every other command is
resolved in the world.  The two words are recognised in exactly this spelling.
-/

namespace TextWorld

/-- The ways in which a command is dispatched. -/
inductive Disposition where
  | eval
  | quit
  | resolve
deriving DecidableEq

/-- The verb that evaluates code. -/
def evalVerb : String := "eval"

/-- The verb that ends a session. -/
def quitVerb : String := "quit"

/-- How a command of a player is dispatched. -/
def Disposition.of (command : Command) (programmer : Bool) : Disposition :=
  if command.verb = evalVerb ∧ programmer = true then
    .eval
  else if command.verb = quitVerb then
    .quit
  else
    .resolve

/-- Nobody but a programmer evaluates code. -/
@[simp]
theorem Disposition.of_ne_eval (command : Command) :
    Disposition.of command false ≠ .eval := by
  simp only [Disposition.of]
  split <;> simp_all
  split <;> simp

section Unprivileged

variable {programmer : Bool} (unprivileged : programmer = false)
  (command : Command)

include unprivileged

/-- Nothing that is typed without privilege is evaluated. -/
theorem Disposition.ne_eval_of_unprivileged :
    Disposition.of command programmer ≠ .eval := by
  rw [unprivileged]
  exact of_ne_eval command

/-- Every command that is typed without privilege is resolved, but for the
one that quits. -/
theorem Disposition.eq_resolve_iff_of_unprivileged :
    Disposition.of command programmer = .resolve ↔ command.verb ≠ quitVerb := by
  rw [unprivileged]
  simp [Disposition.of]

end Unprivileged

end TextWorld
