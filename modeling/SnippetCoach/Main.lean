import SnippetCoach.CommandLine.Run
import SnippetCoach.Machine.Usual
import Std.Time.Format
/-! The program: takes the situation of a run from the system and carries its outcome out. -/
namespace SnippetCoach.CommandLine
open Number
open scoped Machine

/-- The whole of an input. -/
partial def readInput (input : IO.FS.Stream) (before : ByteArray) : IO ByteArray := do
  let more ← input.read 65536
  if more.isEmpty then return before else readInput input (before ++ more)

def textOfPlace (place : List String) : String :=
  "/" ++ "/".intercalate place

/-- Adds what the disk has at a place. -/
def look (w : Workspace) (place : List String) : IO Workspace := do
  let file := (← IO.currentDir).join (textOfPlace place)
  if ← file.isDir then return w.put place .directory
  else if ← file.pathExists then
    return w.put place (.file (← IO.FS.readBinFile file).toList)
  else return w

/-- Adds what the disk has at a place and at all places on the way on. -/
def lookAlong (w : Workspace) (place : List String) : List String → IO Workspace
  | [] => look w place
  | name :: rest => do
    let next := if name = ".." then place.dropLast else place ++ [name]
    lookAlong (← look w place) next rest

/-- The part of the disk that some files are in. -/
def snapshot (files : List Path) : IO Workspace := do
  let current := (Path.ofText (← IO.currentDir).toString).parts
  let start ← lookAlong { current, nodes := [] } [] current
  files.foldlM (fun w file => lookAlong w (if file.slashes = 0 then current else []) file.parts)
    start

/-- Writes what a run changed. -/
def carryOut (before after : Workspace) : IO Unit :=
  after.nodes.forM fun (place, node) => do
    if before.node? place ≠ some node then
      match node with
      | .directory => IO.FS.createDir (textOfPlace place)
      | .file content => IO.FS.writeBinFile (textOfPlace place) ⟨content.toArray⟩

def textOfOutput (time : String) : Output → String
  | .line text => text
  | .log event => "[" ++ time ++ "] " ++ event.level.name ++ " - " ++ event.text

def clock : IO Binary64 := do
  let now ← Std.Time.Timestamp.now
  return Binary64.nearest false now.toMillisecondsSinceUnixEpoch.val.toNat 1000

/-- Waits for so many seconds. -/
def wait (seconds : Binary64) : IO Unit :=
  match (seconds.mul (Binary64.ofNat 1000)).truncate with
  | .ok milliseconds => IO.sleep milliseconds.toNat.toUInt32
  | .error _ => pure ()

def readEnvironment : IO Environment :=
  Settings.variableNames.filterMapM fun name => do
    return (← IO.getEnv name).map (name, ·)

/-- The home directory of a user, by a table with seven fields a line. -/
def userIn (table : String) (name : String) : Option Path :=
  (table.splitOn "\n").findSome? fun line =>
    match line.splitOn ":" with
    | [user, _, _, _, _, home, _] => if user = name then some (Path.ofText home) else none
    | _ => none

def readUsers : IO (String → Option Path) := do
  try return userIn (← IO.FS.readFile "/etc/passwd") catch _ => return fun _ => none

/-- The clock is read after the waits, which do not depend on it. Charts are not drawn, so heights
are accepted as they are. -/
def perform (arguments : List String) : IO UInt32 := do
  let environment ← readEnvironment
  let home := Path.ofText ((← IO.getEnv "HOME").getD "/")
  let users ← readUsers
  let invocation := Invocation.ofArguments arguments
  let input ← if readsInput invocation then readInput (← IO.getStdin) .empty else pure .empty
  let workspace ← snapshot (filesOf environment home users invocation)
  let situation : Situation :=
    { arguments, environment, input := input.toList, now := ← clock, home, users
      plotter := fun _ => .ok (), workspace }
  (run situation).waits.forM wait
  let outcome := run { situation with now := ← clock }
  carryOut workspace outcome.workspace
  let time := (← Std.Time.PlainDateTime.now).format "uuuu-MM-dd HH:mm:ss,SSS"
  outcome.stdout.forM fun output => IO.println (textOfOutput time output)
  outcome.stderr.forM fun output => IO.eprintln (textOfOutput time output)
  return outcome.status.toUInt32

end SnippetCoach.CommandLine

def main (arguments : List String) : IO UInt32 :=
  SnippetCoach.CommandLine.perform arguments
