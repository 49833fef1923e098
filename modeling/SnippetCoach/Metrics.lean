import SnippetCoach.Issue.Basic
import SnippetCoach.Number.Layout
import SnippetCoach.Number.Numeral
import SnippetCoach.OrderedMap
import SnippetCoach.Report
import SnippetCoach.Text.Case
/-! Counts of the issues of one analysis. -/
namespace SnippetCoach
open Number

/-- Counts by severity and by type, the types in the order of their first issue. The duration is in
milliseconds. -/
structure Metrics where
  total : Int
  high : Int
  medium : Int
  low : Int
  types : OrderedMap Int
  clean : Bool
  duration : Option Int

namespace Metrics

def countType (counts : OrderedMap Int) (issue : Issue) : OrderedMap Int :=
  counts.set issue.type.tag ((counts.get? issue.type.tag).getD 0 + 1)

/-- Only success issues, and at least one of them. -/
def isClean (issues : List Issue) : Bool :=
  !issues.isEmpty && issues.all (·.type == .success)

/-- Clean results count no issues. -/
def ofIssues (issues : List Issue) (duration : Option Int) : Metrics :=
  let counted := if isClean issues then [] else issues
  let count (severity : Severity) : Int := counted.countP (·.severity == severity)
  { total := counted.length
    high := count .high
    medium := count .medium
    low := count .low
    types := counted.foldl countType ∅
    clean := isClean issues
    duration }

/-- One line for each type, sorted by tag. -/
def typeLines (types : OrderedMap Int) : List String :=
  (types.entries.mergeSort fun a b => a.1 ≤ b.1).map fun (tag, count) =>
    "- " ++ String.ofList (Text.capitalize tag.toList) ++ ": " ++ String.ofList (intText count)

/-- The breakdown by severity and by type; a clean result has none. -/
def breakdown (metrics : Metrics) : List String :=
  if metrics.clean then ["- No obvious issues detected"]
  else
    let line (name : String) (count : Int) := "- " ++ name ++ ": " ++ String.ofList (intText count)
    ["", "### Severity Breakdown", line "High" metrics.high, line "Medium" metrics.medium,
      line "Low" metrics.low, "", "### By Type"] ++ typeLines metrics.types

/-- The duration in seconds with two places. None or zero milliseconds are not reported. -/
def performance (metrics : Metrics) : Except ArithmeticError (List String) :=
  match metrics.duration with
  | none | some 0 => .ok []
  | some duration =>
    (Binary64.ofQuotient? duration 1000).map fun seconds =>
      ["", "### Performance",
        "- Analysis duration: " ++ String.ofList (fixedPlaces 2 seconds) ++ "s"]

/-- The report. It fails only if the duration in seconds is beyond the number format. -/
def text (metrics : Metrics) : Except ArithmeticError String :=
  metrics.performance.map fun performance =>
    joinLines
      (["## Analysis Metrics", "", "- Issues found: " ++ String.ofList (intText metrics.total)] ++
        metrics.breakdown ++ performance)

/-- The report on any counts. It fails as well if one has too many digits to be written. -/
def text? (metrics : Metrics) : Except ArithmeticError String :=
  let counts := if metrics.clean then [] else
    metrics.high :: metrics.medium :: metrics.low :: metrics.types.entries.map Prod.snd
  if (metrics.total :: counts).all fitsDigitLimit then metrics.text else .error .integerTooLong

end Metrics
end SnippetCoach
