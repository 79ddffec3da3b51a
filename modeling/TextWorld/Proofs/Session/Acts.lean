import TextWorld.Proofs.Session.Course

/-!
# Runs of a session

What happens while a session is open is a sequence of acts: the user types lines
and presses the tab key, and between these others change the world.  A run takes
the acts one after the other.  No act changes the configuration or the user of
the session, and none takes back what was sent.
-/

namespace TextWorld

/-- Something that happens while a session is open. -/
inductive Act (σ : Type) where
  /-- The user types a line. -/
  | line (text : String)
  /-- The user presses the tab key. -/
  | tab (direction : TabDirection)
  /-- Others change the world. -/
  | meanwhile (change : σ → σ)

namespace Turn

variable {σ : Type}

/-- The turn after an act. -/
def act (collaborators : Collaborators σ) (turn : Turn σ) : Act σ → Turn σ
  | .line text => turn.onInput collaborators text
  | .tab direction => turn.onTab collaborators direction
  | .meanwhile change => turn.inWorld (change turn.world)

/-- The turn after a run. -/
def run (collaborators : Collaborators σ) (turn : Turn σ)
    (acts : List (Act σ)) : Turn σ :=
  acts.foldl (act collaborators) turn

/-- The events that a line sends. -/
def sentBy (collaborators : Collaborators σ) (turn : Turn σ)
    (text : String) : List Event :=
  (turn.onInput collaborators text).events.drop turn.events.length

/-- The events that each line of a run sends. -/
def sends (collaborators : Collaborators σ) (turn : Turn σ) :
    List (Act σ) → List (List Event)
  | [] => []
  | .line text :: acts =>
      turn.sentBy collaborators text ::
        (turn.act collaborators (.line text)).sends collaborators acts
  | .tab direction :: acts =>
      (turn.act collaborators (.tab direction)).sends collaborators acts
  | .meanwhile change :: acts =>
      (turn.act collaborators (.meanwhile change)).sends collaborators acts

variable (collaborators : Collaborators σ) (turn : Turn σ)

@[simp]
theorem onTab_session (direction : TabDirection) :
    (turn.onTab collaborators direction).session = turn.session := by
  rw [onTab]
  split <;> rfl

@[simp]
theorem onTab_events (direction : TabDirection) :
    (turn.onTab collaborators direction).events = turn.events := by
  rw [onTab]
  split <;> rfl

/-- What became of a line changes nothing of a session but whom it embodies. -/
theorem Outcome.session_cases (outcome : Outcome) (session : Session) :
    outcome.session session = session ∨
      outcome.session session = session.retired := by
  cases outcome with
  | left => exact .inr rfl
  | _ => exact .inl rfl

/-- An act changes nothing of a session but whom it embodies. -/
theorem act_session_cases (act : Act σ) :
    (turn.act collaborators act).session = turn.session ∨
      (turn.act collaborators act).session = turn.session.retired := by
  cases act with
  | line text =>
      obtain ⟨calls, outcome, course⟩ := onInput_course collaborators text turn
      rw [Turn.act, course.session_eq]
      exact outcome.session_cases turn.session
  | tab direction => exact .inl (onTab_session collaborators turn direction)
  | meanwhile change => exact .inl rfl

/-- An act leaves the configuration of the session alone. -/
@[simp]
theorem act_config (act : Act σ) :
    (turn.act collaborators act).session.config = turn.session.config := by
  rcases act_session_cases collaborators turn act with same | retired
  · rw [same]
  · rw [retired, Session.retired]

/-- An act leaves the user of the session alone. -/
@[simp]
theorem act_user (act : Act σ) :
    (turn.act collaborators act).session.user = turn.session.user := by
  rcases act_session_cases collaborators turn act with same | retired
  · rw [same]
  · rw [retired, Session.retired]

/-- A line sends what its outcome says. -/
theorem Course.sentBy_eq
    {text : String}
    {calls : List Call}
    {outcome : Outcome}
    {collaborators : Collaborators σ}
    {turn next : Turn σ}
    (course : Course collaborators text turn calls outcome next) :
    turn.sentBy collaborators text = outcome.events turn.session := by
  rw [sentBy, course.onInput_eq, course.events_eq, List.drop_left]

/-- A line adds what it sends to what was sent before. -/
theorem onInput_events (text : String) :
    (turn.onInput collaborators text).events =
      turn.events ++ turn.sentBy collaborators text := by
  obtain ⟨calls, outcome, course⟩ := onInput_course collaborators text turn
  rw [course.sentBy_eq, course.events_eq]

/-- A run sends what its lines send, and nothing else. -/
theorem run_events (acts : List (Act σ)) :
    (turn.run collaborators acts).events =
      turn.events ++ (turn.sends collaborators acts).flatten := by
  induction acts generalizing turn with
  | nil => simp [run, sends]
  | cons act acts inductive_step =>
      have rest := inductive_step (turn.act collaborators act)
      cases act with
      | line text =>
          have first := onInput_events collaborators turn text
          rw [sends, List.flatten_cons, ← List.append_assoc, ← first]
          exact rest
      | tab direction =>
          have first := onTab_events collaborators turn direction
          rw [sends, ← first]
          exact rest
      | meanwhile change => exact rest

end Turn

end TextWorld
