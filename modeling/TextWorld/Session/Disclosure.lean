import TextWorld.Failure.Basic

/-!
# What players are told about failures

A failure is always logged.  A programmer is shown its diagnostic, everyone else
the same fixed notice, whatever went wrong.
-/

namespace TextWorld

/-- The steps of dispatch that can fail. -/
inductive FailureSite where
  | loadPlayer
  | preprocess
  | matching
  | runVerb
  | eval
deriving DecidableEq

/-- The message of the log record for a failure at the site. -/
def FailureSite.message : FailureSite → String
  | .loadPlayer => "error loading player"
  | .preprocess => "error preprocessing input"
  | .matching => "error matching"
  | .runVerb => "error running verb"
  | .eval => "error running eval code"

namespace Failure

/-- What everyone but programmers is told. -/
def notice : String := "An internal error occurred."

/-- What a player is told about a failure. -/
def disclosed (failure : Failure) (privileged : Bool) : String :=
  if privileged then failure.diagnostic else notice

@[simp]
theorem disclosed_unprivileged (failure : Failure) :
    failure.disclosed false = notice := rfl

@[simp]
theorem disclosed_privileged (failure : Failure) :
    failure.disclosed true = failure.diagnostic := rfl

end Failure

end TextWorld
