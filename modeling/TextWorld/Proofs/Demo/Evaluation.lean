import TextWorld.Proofs.Command.Shortcut
import TextWorld.Proofs.Demo.Marks
import TextWorld.Proofs.Session.Course
import TextWorld.Proofs.World.CodeRouting

/-!
# Running and typing snippets in the small world

A snippet that the player of the small world runs, or a programmer types at its
console, is handed to the evaluator.  What it gives is the value of the last
statement, unless a mark misleads it.
-/

namespace TextWorld.Demo

open TextWorld.Snippet
open TextWorld.Text

/-! ## Runs -/

/-- The world evaluates code as the small world does. -/
def Evaluates (world : World) : Prop :=
  world.evaluator = (Demo.world false).evaluator

/-- A snippet that someone runs is handed to the evaluator; the world
stays as it is. -/
theorem run_unit
    {world : World}
    (evaluates : Evaluates world)
    (levels : Nat)
    (source : String)
    (typist : EntityId) :
    (World.calls (levels + 1)).run (unit source typist)
      (Snippet.label typist) world =
      leavingBody (Snippet.label typist)
        (evaluate (unit source typist) (Snippet.label typist), world) := by
  have body : world.evaluator = some fun code label =>
    .done (evaluate code label) := evaluates
  simp only [World.calls, World.runWith_unit, World.evaluate,
    body, Script.perform]

theorem toOption_leavingBody
    {α σ : Type}
    (label : String)
    (result : Except Failure α)
    (world : σ) :
    (leavingBody label (result, world)).1.toOption = result.toOption := by
  cases result with
  | error failure => rfl
  | ok answer => rfl

theorem toOption_run_unit
    {world : World}
    (evaluates : Evaluates world)
    (levels : Nat)
    (source : String) :
    ((World.calls (levels + 1)).run (unit source player) (Snippet.label player)
        world).1.toOption =
      (evaluate (unit source player) (Snippet.label player)).toOption := by
  rw [run_unit evaluates, toOption_leavingBody]

theorem eq_ok_of_toOption
    {ε α : Type}
    {result : Except ε α}
    {value : α}
    (gives : result.toOption = some value) :
    result = .ok value := by
  cases result with
  | error failure => cases gives
  | ok answer =>
      cases gives
      rfl

theorem run_unit_of_toOption
    {world : World}
    (evaluates : Evaluates world)
    (levels : Nat)
    {source : String}
    {value : Value}
    (gives :
      (evaluate (unit source player) (Snippet.label player)).toOption =
        some value) :
    (World.calls (levels + 1)).run (unit source player)
      (Snippet.label player) world =
      (.ok value, world) := by
  rw [run_unit evaluates, eq_ok_of_toOption gives]
  rfl

/-! ## A line that is typed -/

/-- A programmer sits at the console as the player of the small world. -/
structure AtConsole (turn : Turn World) : Prop where
  live : turn.session.player = some player
  evaluates : Evaluates turn.world
  programmer :
    ∃ loaded, turn.world.load player = .ok loaded ∧ loaded.programmer = true
  shortcut : turn.session.vocabulary.shortcut? ';' = some evalVerb
  noHook : turn.world.hooks.get? (.system, preprocessHook) = none

theorem id_of_load
    {world : World}
    {id : EntityId}
    {loaded : Entity}
    (load : world.load id = .ok loaded) :
    loaded.id = id := by
  rw [World.load] at load
  cases found : world.object id with
  | error failure =>
      rw [found] at load
      cases load
  | ok object =>
      rw [found] at load
      cases load
      rfl

/-- A literal without the mark that is typed after a semicolon is shown
as it was typed. -/
theorem onInput_escape
    {turn : Turn World}
    (atConsole : AtConsole turn)
    (levels : Nat)
    {content : String}
    (unmarked : ¬ returnMark <:+: content.toList) :
    (turn.onInput (World.collaborators (levels + 1))
      (";" ++ Literal.escape content)).events =
      turn.events ++ [.output (Literal.escape content)] := by
  rcases atConsole.programmer with ⟨loaded, load, programmer⟩
  have own : loaded.id = player := id_of_load load
  have loading :
      (World.collaborators (levels + 1)).load player turn.world =
        (.ok loaded, turn.world) := by
    exact congrArg (·, turn.world) load
  have hook :
      (World.collaborators (levels + 1)).runHook .system preprocessHook
          [.entity loaded.id,
            .string (Literal.escape (";" ++ Literal.escape content))]
          turn.world =
        (.ok ⟨false, .string (Literal.escape (";" ++ Literal.escape content))⟩,
          turn.world) := by
    simp [World.collaborators, World.calls, World.runHookWith, atConsole.noHook]
  have line :
      (";" ++ Literal.escape content).toList =
        ';' :: Literal.escapeCharacters content.toList := by
    rw [String.toList_append, Literal.toList_escape]
    rfl
  have plain : Token.PlainWord evalVerb.toList := by
    have spelled : evalVerb.toList = ['e', 'v', 'a', 'l'] := rfl
    rw [spelled]
    constructor
    · exact List.cons_ne_nil _ _
    · simp [isBlank]
  obtain ⟨verb, argument⟩ :=
    Command.parse_shortcut line (by decide) atConsole.shortcut plain
  have whole : trimStart (Literal.escapeCharacters content.toList) =
      Literal.escapeCharacters content.toList :=
    trimStart_cons_of_not_isBlank (by decide) _
  rw [whole, ← Literal.escape] at argument
  have run :
      (World.collaborators (levels + 1)).run
        (unit (Literal.escape content) player)
          (Snippet.label player) turn.world =
        (.ok (.string content), turn.world) := by
    have operation : (World.collaborators (levels + 1)).run =
        (World.calls (levels + 1)).run := rfl
    have gives :=
      (toOption_evaluate_unit_escape_iff (Snippet.label player)).mpr unmarked
    rw [operation, run_unit_of_toOption atConsole.evaluates levels gives]
  have disposed :
      Disposition.of
        (Command.parse turn.session.vocabulary (";" ++ Literal.escape content))
        loaded.programmer = .eval := by
    rw [Disposition.of, if_pos ⟨verb, programmer⟩]
  rw [← argument, ← own] at run
  have course :=
    Turn.Course.heard atConsole.live loading hook (.evaluated disposed run)
  rw [course.onInput_eq, course.events_eq]
  rfl

/-! ## The main result -/

/--
The evaluator gives the value of the last statement and nothing else, whatever
the others contain, unless it is misled by a mark: if the last statement is an
expression then only a mark in it misleads, and what follows the last of these
is evaluated in its place.  So a literal gives its text exactly when the text
has no mark in it, and is then shown as it was typed.
-/
theorem evaluator_finds_last_statement
    {world : World}
    (evaluates : Evaluates world)
    (levels : Nat)
    (source : String) :
    (Unmarked source →
      ((World.calls (levels + 1)).run (unit source player)
        (Snippet.label player) world).1.toOption = promised source) ∧
      (∀ others left text,
        statements source.toList = others ++ [left ++ (returnMark ++ text)] →
        isExpression (left ++ (returnMark ++ text)) = true →
        ¬ returnMark <:+: text →
        ((World.calls (levels + 1)).run (unit source player)
            (Snippet.label player) world).1.toOption =
          expressionValue? (trim text)) ∧
        (∀ content, source = Literal.escape content →
          (((World.calls (levels + 1)).run (unit source player)
              (Snippet.label player) world).1.toOption =
            some (.string content) ↔ ¬ returnMark <:+: content.toList)) ∧
          ∀ turn content, AtConsole turn → ¬ returnMark <:+: content.toList →
            (turn.onInput (World.collaborators (levels + 1))
                (";" ++ Literal.escape content)).events =
              turn.events ++ [.output (Literal.escape content)] := by
  refine ⟨?_, ?_, ?_, ?_⟩
  · intro unmarked
    rw [toOption_run_unit evaluates, toOption_evaluate_unit unmarked]
  · intro others left text divided expression unmarked
    rw [toOption_run_unit evaluates,
      evaluate_unit_of_marked divided expression unmarked,
      toOption_evaluateExpression]
  · rintro content rfl
    rw [toOption_run_unit evaluates]
    exact toOption_evaluate_unit_escape_iff (Snippet.label player)
  · intro turn content atConsole unmarked
    exact onInput_escape atConsole levels unmarked

/-- A literal for the mark has no value, and a return in a snippet without an
expression has one. -/
theorem marks_mislead_evaluator :
    promised "\"  return (\"" = some (.string "  return (") ∧
      ((World.calls 1).run (unit "\"  return (\"" player) (Snippet.label player)
        (Demo.world true)).1.toOption = none ∧
        promised "return (5)" = some .absent ∧
          ((World.calls 1).run (unit "return (5)" player) (Snippet.label player)
            (Demo.world true)).1.toOption = some (.int 5) := by
  decide +kernel

/-- The state of affairs when a programmer has just sat down at the console. -/
def freshConsole : Turn World where
  session := .start "wizard" player {}
  registry := {}
  world := Demo.world true

theorem atConsole_fresh : AtConsole freshConsole where
  live := rfl
  evaluates := rfl
  programmer := ⟨_, rfl, rfl⟩
  shortcut := by decide +kernel
  noHook := rfl

theorem unmarked_shouted : Unmarked "shout(\"  return (1);\"); #4" := by
  have divided :
      statements "shout(\"  return (1);\"); #4".toList =
        ["shout(\"  return (1);\")".toList, "#4".toList] := by
    decide +kernel
  constructor
  · rw [divided]
    rintro last ⟨⟩ -
    decide +kernel
  · intro noExpression
    rw [divided] at noExpression
    have statement := noExpression "#4".toList rfl
    exact absurd statement (by decide +kernel)

/-- A mark in an earlier statement does no harm, one in a list does, and
greetings are shown. -/
theorem evaluator_at_work :
    ((World.calls 1).run (unit "shout(\"  return (1);\"); #4" player)
      (Snippet.label player) (Demo.world true)).1.toOption =
        some (.entity chest) ∧
      ((World.calls 1).run (unit "[1,  return (7" player) (Snippet.label player)
        (Demo.world true)).1.toOption = some (.int 7) ∧
        (freshConsole.onInput (World.collaborators 1)
          (";" ++ Literal.escape "hello")).events =
          [.output (Literal.escape "hello")] := by
  have usual : Evaluates (Demo.world true) := rfl
  refine ⟨?_, ?_, ?_⟩
  · rcases evaluator_finds_last_statement usual 0
      "shout(\"  return (1);\"); #4" with ⟨kept, -, -, -⟩
    exact (kept unmarked_shouted).trans (by decide +kernel)
  · rcases evaluator_finds_last_statement usual 0 "[1,  return (7" with
      ⟨-, misled, -, -⟩
    have divided :
        statements "[1,  return (7".toList =
          [] ++ [['[', '1', ','] ++ (returnMark ++ ['7'])] := by
      decide +kernel
    have value :=
      misled [] ['[', '1', ','] ['7'] divided (by decide +kernel)
        (by decide +kernel)
    exact value.trans (by decide +kernel)
  · rcases evaluator_finds_last_statement usual 0 "" with ⟨-, -, -, shown⟩
    exact shown freshConsole "hello" atConsole_fresh (by decide +kernel)

end TextWorld.Demo
