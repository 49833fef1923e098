import SnippetCoach.Number.Layout
import SnippetCoach.Progress.Ledger
import SnippetCoach.Workspace.Basic
/-! The progress chart: for each type a bar of encounters and, right of it, a bar of resolved ones
with the completion above it. -/
namespace SnippetCoach
open Number

/-- What the plotting library reports. It may refuse the values that it is given. -/
structure PlotError where
  message : String
  isRefusal : Bool
  deriving DecidableEq, Repr

/-- The answer of the plotting library to the heights of bars that are drawn together. -/
abbrev Plotter := List Int → Except PlotError Unit

inductive ChartError where
  | noProgress
  | arithmetic (cause : ArithmeticError)
  | plotting (e : PlotError)
  | file (e : FileError)
  deriving DecidableEq, Repr

namespace ChartError

def message : ChartError → String
  | noProgress => "No progress recorded yet"
  | arithmetic cause => cause.message
  | plotting e => e.message
  | file e => e.message

/-- The ledger or the name of the file does not admit a chart at all. -/
def isRefusal : ChartError → Bool
  | noProgress => true
  | plotting e => e.isRefusal
  | file e => !e.isSystemError
  | _ => false

end ChartError

/-- Positions and lengths in hundredths of a unit. -/
abbrev Hundredths := Int

/-- Written with four places. -/
def Hundredths.text (length : Hundredths) : List Char :=
  let digits := natDigits length.natAbs
  let padded := List.replicate (3 - digits.length) '0' ++ digits
  let whole := padded.length - 2
  (if length < 0 then ['-'] else []) ++ padded.take whole ++ '.' :: padded.drop whole ++ ['0', '0']

namespace Chart

structure Bar where
  left : Hundredths
  width : Hundredths
  height : Int
  deriving DecidableEq, Repr

structure Label where
  x : Hundredths
  y : Int
  text : String
  deriving DecidableEq, Repr

end Chart

/-- All bars of encounters come before those of resolved ones. -/
structure Chart where
  width : Hundredths
  height : Hundredths
  title : String
  verticalLabel : String
  ticks : List Hundredths
  tickLabels : List WideText
  bars : List Chart.Bar
  labels : List Chart.Label
  legend : List String
  dotsPerInch : Nat
  deriving DecidableEq, Repr

namespace Chart

def defaultTitle : String := "Your Progress"

def barWidth : Hundredths := 38

def position (i : Nat) : Hundredths := 100 * i

/-- The completion in whole per cent above the resolved bar of the i-th type. -/
def labelFor (i : Nat) (entry : Entry) : Except ArithmeticError Label :=
  entry.completion.map fun share =>
    { x := position i + barWidth / 2
      y := entry.resolved
      text := String.ofList (fixedPlaces 0 share ++ ['%']) }

def labelsFrom : Nat → List Entry → Except ArithmeticError (List Label)
  | _, [] => .ok []
  | i, entry :: rest => do
    let label ← labelFor i entry
    return label :: (← labelsFrom (i + 1) rest)

/-- The chart of a ledger with entries. It grows wider with more than three types. -/
def ofLedger? (plotter : Plotter) (ledger : Ledger) (title : String) :
    Except ChartError Chart := do
  if ledger.isEmpty then .error .noProgress
  let entries := ledger.entries.map Prod.snd
  let ticks := (List.range entries.length).map position
  (plotter (entries.map Entry.encountered)).mapError .plotting
  (plotter (entries.map Entry.resolved)).mapError .plotting
  let labels ← (labelsFrom 0 entries).mapError .arithmetic
  let bar (left : Hundredths) (height : Int) : Bar := { left, width := barWidth, height }
  return {
    width := max 600 (160 * entries.length)
    height := 450
    title
    verticalLabel := "Issues"
    ticks
    tickLabels := ledger.keys.map WideText.capitalize
    bars :=
      List.zipWith (fun tick entry => bar (tick - barWidth) entry.encountered) ticks entries ++
        List.zipWith (fun tick entry => bar tick entry.resolved) ticks entries
    labels
    legend := ["Encountered", "Resolved"]
    dotsPerInch := 150 }

/-- Saves the chart of a ledger. Directories above the file are created before it is drawn. The
image itself is left to the caller, so the file is empty. -/
def save (plotter : Plotter) (workspace : Workspace) (ledger : Ledger) (title : String)
    (path : Path) : Except ChartError Chart × Workspace :=
  if ledger.isEmpty then (.error .noProgress, workspace)
  else
    match workspace.ensureDirectories path.parent with
    | (.error e, prepared) => (.error (.file e), prepared)
    | (.ok (), prepared) =>
      match ofLedger? plotter ledger title with
      | .error e => (.error e, prepared)
      | .ok chart =>
        let (written, saved) := prepared.attempt (prepared.write path [])
        (written.mapError .file |>.map fun () => chart, saved)

end Chart
end SnippetCoach
