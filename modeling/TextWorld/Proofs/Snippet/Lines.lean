import TextWorld.Proofs.Text.Layout
import TextWorld.Snippet

/-!
# The lines of a unit

A unit has one line for each statement of its snippet, and the line of the last
one returns it if it is an expression.
-/

namespace TextWorld.Snippet

open TextWorld.Text

variable {source statement last : List Char} {others : List (List Char)}

theorem tight_of_mem_statements (member : statement ∈ statements source) :
    Tight statement := by
  rcases List.mem_filter.mp member with ⟨trimmed, nonempty⟩
  rcases List.mem_map.mp trimmed with ⟨part, -, rfl⟩
  apply tight_trim
  rintro nothing
  rw [nothing] at nonempty
  cases nonempty

theorem bodyLines_concat (others : List (List Char)) (last : List Char) :
    bodyLines (others ++ [last]) =
      others.map statementLine ++ [lastLine last] := by
  induction others with
  | nil => rfl
  | cons first rest inductive_step =>
      cases rest with
      | nil => rfl
      | cons second more =>
          exact congrArg (statementLine first :: ·) inductive_step

theorem exists_toList_statementLine (statement : List Char) :
    ∃ body, (statementLine statement).toList = body ++ ['\n'] :=
  ⟨' ' :: ' ' :: statement ++ [';'], by simp [statementLine]⟩

theorem exists_toList_lastLine (last : List Char) :
    ∃ body, (lastLine last).toList = body ++ ['\n'] := by
  unfold lastLine
  split
  · exact ⟨"  return (".toList ++ last ++ [')', ';'], by simp⟩
  · exact exists_toList_statementLine last

/-- Every line ends with a line break. -/
theorem exists_toList_of_mem_bodyLines
    {line : String}
    {parts : List (List Char)}
    (member : line ∈ bodyLines parts) :
    ∃ body, line.toList = body ++ ['\n'] := by
  rcases List.eq_nil_or_concat parts with rfl | ⟨others, last, rfl⟩
  · cases member
  · rw [List.concat_eq_append, bodyLines_concat] at member
    rcases List.mem_append.mp member with before | final
    · rcases List.mem_map.mp before with ⟨statement, -, rfl⟩
      exact exists_toList_statementLine statement
    · rw [List.mem_singleton.mp final]
      exact exists_toList_lastLine last

/-- A unit whose last statement is an expression ends with the line
that returns it. -/
theorem toList_unit_of_isExpression
    {source : String}
    (divided : statements source.toList = others ++ [last])
    (expression : isExpression last = true)
    (player : EntityId) :
    (unit source player).toList =
      (opening ++ String.join (others.map statementLine)).toList ++
        ("  return (".toList ++
          (last ++ (");\n".toList ++ (closing player).toList))) := by
  simp [unit, divided, bodyLines_concat, lastLine, expression]

end TextWorld.Snippet
