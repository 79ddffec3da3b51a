import Mathlib.Data.List.Basic
import TextWorld.Console.Basic
import TextWorld.Console.Editor

/-!
# Running a console is stepping

A console that runs takes its lines from a line editor.  The main result says
what a run on a scripted editor comes to in terms of single steps: the run takes
the lines up to the first after which the session is retired, it does one step
for each of them that is not blank, and it shows what these steps show.
-/

namespace TextWorld

open TextWorld.Text

namespace ScriptedEditor

/-- The editor after a console told it something.  A prompt asks it for a line;
it does not remember completions. -/
def told (editor : ScriptedEditor) : Console.EditorEntry → ScriptedEditor
  | .completions _ => editor
  | .prompt _ => editor.read.2
  | .history line => editor.addHistory line

/-- The editor after a console told it all of the entries. -/
def toldAll (editor : ScriptedEditor) (entries : List Console.EditorEntry) :
    ScriptedEditor :=
  entries.foldl told editor

/-- What the editor returns for the prompts among the entries, in order. -/
def returned (editor : ScriptedEditor) :
    List Console.EditorEntry → List (Option String)
  | [] => []
  | .prompt text :: rest =>
      editor.read.1 :: (editor.told (.prompt text)).returned rest
  | .completions words :: rest =>
      (editor.told (.completions words)).returned rest
  | .history line :: rest => (editor.told (.history line)).returned rest

end ScriptedEditor

namespace Console

/-- The lines that are not blank. -/
def spoken (lines : List String) : List String :=
  lines.filter (!isBlankText ·)

/-- The steps of a console on lines, one after the other. -/
def steps (console : Console) : List String → List Step
  | [] => []
  | line :: rest => console.step line :: (console.step line).console.steps rest

/-- The console after steps on lines, one after the other. -/
def after (console : Console) (lines : List String) : Console :=
  lines.foldl (fun console line => (console.step line).console) console

/-- What a run of a console on a scripted editor comes to when it takes some of
the lines and leaves the others. -/
structure Refines
    (console : Console)
    (editor : ScriptedEditor)
    (taken left : List String)
    (run : Run) :
    Prop where
  parted : editor.lines = taken ++ left
  /-- The session is live until the last of the lines is taken. -/
  live : ∀ before rest, taken = before ++ rest → rest ≠ [] →
    (console.after (spoken before)).session.isRetired = false
  /-- Lines are left only if the session is retired. -/
  enough : left ≠ [] → (console.after (spoken taken)).session.isRetired = true
  result : run.result = .ok ()
  /-- Blank lines do not count. -/
  stepped : run.console = console.after (spoken taken)
  printed : run.printed = (console.steps (spoken taken)).flatMap (·.lines)
  records : run.records = (console.steps (spoken taken)).flatMap (·.records)
  readingsLeft : run.readingsLeft = left.length
  remembered :
    editor.toldAll run.editor = ⟨left, editor.history ++ spoken taken⟩
  /-- The editor was asked for these lines, and once more only if the session
  was still live. -/
  returned :
    editor.returned run.editor =
      taken.map some ++
        if (console.after (spoken taken)).session.isRetired then [] else [none]

variable {console : Console} {prompt line : String} {lines : List String}
  {readings : List Reading}

/-! ## One reading -/

theorem run_of_retired (retired : console.session.isRetired = true) :
    run prompt readings console =
      { result := .ok (), console, readingsLeft := readings.length } := by
  rw [run, if_pos retired]

theorem run_of_end (live : console.session.isRetired = false) :
    run prompt [] console =
      { result := .ok (), console, acts := console.asking prompt } := by
  rw [run, if_neg (Bool.eq_false_iff.mp live)]

theorem run_of_blank
    (live : console.session.isRetired = false)
    (blank : isBlankText line = true) :
    run prompt (.line line :: readings) console =
      (run prompt readings console).after (console.asking prompt) := by
  rw [run, if_neg (Bool.eq_false_iff.mp live)]
  exact if_pos blank

theorem run_of_spoken
    (live : console.session.isRetired = false)
    (notBlank : isBlankText line = false) :
    run prompt (.line line :: readings) console =
      (run prompt readings (console.step line).console).after
        (console.asking prompt ++ answering line (console.step line)) := by
  rw [run, if_neg (Bool.eq_false_iff.mp live)]
  exact if_neg (Bool.eq_false_iff.mp notBlank)

theorem spoken_cons_of_blank (blank : isBlankText line = true)
    (lines : List String) :
    spoken (line :: lines) = spoken lines := by
  simp [spoken, blank]

theorem spoken_cons_of_not_blank (notBlank : isBlankText line = false)
    (lines : List String) :
    spoken (line :: lines) = line :: spoken lines := by
  simp [spoken, notBlank]

/-! ## What a run does before it goes on -/

section Acts

variable (later : Run) (step : Step)

theorem printed_after_answering :
    (later.after (console.asking prompt ++ answering line step)).printed =
      step.lines ++ later.printed := by
  simp [Run.after, Run.printed, asking, answering]

theorem records_after_answering :
    (later.after (console.asking prompt ++ answering line step)).records =
      step.records ++ later.records := by
  simp [Run.after, Run.records, asking, answering]

theorem editor_after_answering :
    (later.after (console.asking prompt ++ answering line step)).editor =
      .completions (completions console.world console.player) ::
        .prompt prompt ::
        .history line :: later.editor := by
  simp [Run.after, Run.editor, asking, answering]

end Acts

/-! ## One more line -/

variable {history taken left : List String}

/-- A retired session takes nothing. -/
theorem refines_of_retired (retired : console.session.isRetired = true) :
    Refines console ⟨lines,
      history⟩ [] lines (run prompt (lines.map .line) console) := by
  rw [run_of_retired retired]
  exact
    { parted := rfl
      live := fun _ _ parted notNil =>
        absurd (List.append_eq_nil_iff.mp parted.symm).2 notNil
      enough := fun _ => retired
      result := rfl
      stepped := rfl
      printed := rfl
      records := rfl
      readingsLeft := List.length_map _
      remembered :=
        congrArg (ScriptedEditor.mk lines) (List.append_nil history).symm
      returned := (if_pos retired).symm }

/-- At the end of the lines the run ends as well. -/
theorem refines_of_end (live : console.session.isRetired = false) :
    Refines console ⟨[], history⟩ [] [] (run prompt [] console) := by
  rw [run_of_end live]
  exact
    { parted := rfl
      live := fun _ _ parted notNil =>
        absurd (List.append_eq_nil_iff.mp parted.symm).2 notNil
      enough := fun notNil => absurd rfl notNil
      result := rfl
      stepped := rfl
      printed := rfl
      records := rfl
      readingsLeft := rfl
      remembered :=
        congrArg (ScriptedEditor.mk []) (List.append_nil history).symm
      returned := (if_neg (Bool.eq_false_iff.mp live)).symm }

/-- A live session stays live while lines are taken if it does so after
the first of them. -/
theorem live_cons
    {next : Console}
    (live : console.session.isRetired = false)
    (first : ∀ others,
      console.after (spoken (line :: others)) = next.after (spoken others))
    (later : ∀ before rest, taken = before ++ rest → rest ≠ [] →
      (next.after (spoken before)).session.isRetired = false) :
    ∀ before rest, line :: taken = before ++ rest → rest ≠ [] →
      (console.after (spoken before)).session.isRetired = false := by
  intro before rest parted notNil
  cases before with
  | nil => exact live
  | cons _ before =>
      rw [List.cons_append, List.cons.injEq] at parted
      rcases parted with ⟨rfl, parted⟩
      rw [first]
      exact later before rest parted notNil

/-- A blank line is taken and has no other consequence. -/
theorem Refines.blank
    (live : console.session.isRetired = false)
    (blank : isBlankText line = true)
    (refines :
      Refines console ⟨lines,
        history⟩ taken left (run prompt (lines.map .line) console)) :
    Refines console ⟨line :: lines, history⟩ (line :: taken) left
      (run prompt ((line :: lines).map .line) console) := by
  have same (others : List String) : spoken (line :: others) = spoken others :=
    spoken_cons_of_blank blank others
  rw [List.map_cons, run_of_blank live blank]
  exact
    { parted := congrArg (line :: ·) refines.parted
      live := live_cons live (fun others =>
          congrArg console.after (same others)) refines.live
      enough := by
        rw [same]
        exact refines.enough
      result := refines.result
      stepped := by
        rw [same]
        exact refines.stepped
      printed := by
        rw [same]
        exact refines.printed
      records := by
        rw [same]
        exact refines.records
      readingsLeft := refines.readingsLeft
      remembered := by
        rw [same]
        exact refines.remembered
      returned := by
        rw [same]
        exact congrArg (some line :: ·) refines.returned }

/-- For a line that is not blank there is a step. -/
theorem Refines.spoken
    (live : console.session.isRetired = false)
    (notBlank : isBlankText line = false)
    (refines :
      Refines (console.step line).console ⟨lines, history ++ [line]⟩ taken left
        (run prompt (lines.map .line) (console.step line).console)) :
    Refines console ⟨line :: lines, history⟩ (line :: taken) left
      (run prompt ((line :: lines).map .line) console) := by
  have more (others : List String) :
      Console.spoken (line :: others) = line :: Console.spoken others :=
    spoken_cons_of_not_blank notBlank others
  have first (others : List String) :
      console.after (Console.spoken (line :: others)) =
        (console.step line).console.after (Console.spoken others) :=
    congrArg console.after (more others)
  rw [List.map_cons, run_of_spoken live notBlank]
  exact
    { parted := congrArg (line :: ·) refines.parted
      live := live_cons live first refines.live
      enough := by
        rw [first]
        exact refines.enough
      result := refines.result
      stepped := by
        rw [first]
        exact refines.stepped
      printed := by
        rw [more, printed_after_answering, refines.printed]
        rfl
      records := by
        rw [more, records_after_answering, refines.records]
        rfl
      readingsLeft := refines.readingsLeft
      remembered := by
        rw [more, editor_after_answering, List.append_cons]
        exact refines.remembered
      returned := by
        rw [first, editor_after_answering]
        exact congrArg (some line :: ·) refines.returned }

/-! ## Whole runs -/

/-- Where the line editor draws no prompts, nothing is on the screen but
the printed lines. -/
theorem display_eq (run : Run) :
    run.display false = printedText run.printed := by
  rw [Run.display, Run.printed, printedText]
  induction run.acts with
  | nil => rfl
  | cons act rest inductive_step =>
      rw [List.map_cons, String.join_cons, inductive_step]
      cases act with
      | shows line => exact String.join_cons.symm
      | tells entry => cases entry <;> exact String.empty_append
      | records => exact String.empty_append

theorem exists_refines (prompt : String) (console : Console)
    (lines history : List String) :
    ∃ taken left,
      Refines console ⟨lines,
        history⟩ taken left (run prompt (lines.map .line) console) := by
  induction lines generalizing console history with
  | nil =>
      cases live : console.session.isRetired with
      | true => exact ⟨_, _, refines_of_retired live⟩
      | false => exact ⟨_, _, refines_of_end live⟩
  | cons line lines inductive_step =>
      cases live : console.session.isRetired with
      | true => exact ⟨_, _, refines_of_retired live⟩
      | false =>
          cases blank : isBlankText line with
          | true =>
              rcases inductive_step console history with ⟨taken, left, refines⟩
              exact ⟨line :: taken, left, refines.blank live blank⟩
          | false =>
              rcases inductive_step (console.step line).console
                (history ++ [line]) with ⟨taken, left, refines⟩
              exact ⟨line :: taken, left, refines.spoken live blank⟩

/--
A run of a console on a scripted editor ends well, whatever the world.  It takes
lines up to the first after which the session is retired, or all of them if
there is none, and does one step for each of them that is not blank.  It shows
what the steps show, after the banner, and leaves the console as they do; the
editor has these lines added to its history, and is asked for no line once the
session is retired.
-/
theorem run_refines_steps
    (prompt : String)
    (console : Console)
    (editor : ScriptedEditor) :
    ∃ taken left,
      Refines console editor taken left
          (run prompt (editor.lines.map .line) console) ∧
        printedText banner ++
          (run prompt (editor.lines.map .line) console).display false =
          printedText
            (banner ++ (console.steps (spoken taken)).flatMap (·.lines)) := by
  rcases exists_refines prompt console editor.lines editor.history with
    ⟨taken, left, refines⟩
  refine ⟨taken, left, refines, ?_⟩
  rw [display_eq, refines.printed]
  simp only [printedText, List.map_append, String.join_append]

end Console

end TextWorld
