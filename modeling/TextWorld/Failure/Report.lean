import TextWorld.Failure.Basic
import TextWorld.Json.Quote

/-!
# The written form of a report

A report goes into the log as one line of JSON.  The source is left out
when it is not known.
-/

namespace TextWorld

/-- The report as compact JSON text. -/
def Failure.Report.text (report : Failure.Report) : String :=
  let source :=
    match report.source with
    | some source => [("source", Json.quote source)]
    | none => []
  Json.object <|
    [("name", Json.quote report.name),
      ("message", Json.quote report.message)] ++ source ++
      [("stack", Json.array (report.stack.map Json.quote))]

end TextWorld
