import SnippetCoach.Text.Quoted
import SnippetCoach.Workspace.Path
/-! Files and directories, and the operations on them that can fail. -/
namespace SnippetCoach

inductive FileCause where
  | notFound
  | alreadyExists
  | notDirectory
  | isDirectory
  | nameTooLong
  /-- a path that no system call is made for -/
  | nullCharacter
  deriving DecidableEq, Repr

namespace FileCause

/-- The number and the words by which the system reports a cause. -/
def report? : FileCause → Option (Nat × String)
  | notFound => some (2, "No such file or directory")
  | alreadyExists => some (17, "File exists")
  | notDirectory => some (20, "Not a directory")
  | isDirectory => some (21, "Is a directory")
  | nameTooLong => some (36, "File name too long")
  | nullCharacter => none

/-- There can be nothing at such a path. -/
def meansAbsent : FileCause → Bool
  | notFound | notDirectory | nullCharacter => true
  | _ => false

end FileCause

/-- A failed operation and the path it was asked for. -/
structure FileError where
  cause : FileCause
  path : Path
  deriving DecidableEq, Repr

namespace FileError

def message (e : FileError) : String :=
  match e.cause.report? with
  | none => "embedded null byte"
  | some (number, words) =>
    "[Errno " ++ toString number ++ "] " ++ words ++ ": " ++
      String.ofList (Text.quoted e.path.text.toList)

def isSystemError (e : FileError) : Bool :=
  e.cause.report?.isSome

end FileError

inductive Node where
  | file (content : List UInt8)
  | directory
  deriving DecidableEq, Repr

/-- A tree below its root, as the nodes at their places, and the place of the working directory. A
place is the list of names from the root. -/
structure Workspace where
  current : List String
  nodes : List (List String × Node)
  deriving Repr

namespace Workspace

def node? (w : Workspace) (place : List String) : Option Node :=
  if place = [] then some .directory else w.nodes.lookup place

/-- Puts a node at a place: instead of the one there, or after all others. -/
def putNode (place : List String) (node : Node) :
    List (List String × Node) → List (List String × Node)
  | [] => [(place, node)]
  | entry :: rest =>
    if entry.1 = place then (place, node) :: rest else entry :: putNode place node rest

def put (w : Workspace) (place : List String) (node : Node) : Workspace :=
  { w with nodes := putNode place node w.nodes }

/-- The most bytes that a name can have. -/
def nameLimit : Nat := 255

/-- The most bytes that the text of a path can have. -/
def pathLimit : Nat := 4095

/-- Goes down from a place. All that is passed through has to be a directory; what is reached may be
absent. Two dots lead up. -/
def walk (w : Workspace) (place : List String) : List String → Except FileCause (List String)
  | [] => .ok place
  | name :: rest =>
    match w.node? place with
    | none => .error .notFound
    | some (.file _) => .error .notDirectory
    | some .directory =>
      if name = ".." then w.walk place.dropLast rest
      else if nameLimit < name.utf8ByteSize then .error .nameTooLong
      else w.walk (place ++ [name]) rest

def locate (w : Workspace) (path : Path) : Except FileCause (List String) :=
  if path.hasNull then .error .nullCharacter
  else if pathLimit < path.text.utf8ByteSize then .error .nameTooLong
  else w.walk (if path.slashes = 0 then w.current else []) path.parts

def isPresent (w : Workspace) (path : Path) : Except FileError Bool :=
  match w.locate path with
  | .ok place => .ok (w.node? place).isSome
  | .error cause => if cause.meansAbsent then .ok false else .error { cause, path }

def find? (w : Workspace) (path : Path) : Option Node :=
  match w.locate path with
  | .ok place => w.node? place
  | .error _ => none

def read (w : Workspace) (path : Path) : Except FileError (List UInt8) :=
  match w.locate path with
  | .error cause => .error { cause, path }
  | .ok place =>
    match w.node? place with
    | none => .error { cause := .notFound, path }
    | some .directory => .error { cause := .isDirectory, path }
    | some (.file content) => .ok content

def write (w : Workspace) (path : Path) (content : List UInt8) : Except FileError Workspace :=
  match w.locate path with
  | .error cause => .error { cause, path }
  | .ok place =>
    match w.node? place with
    | some .directory => .error { cause := .isDirectory, path }
    | _ => .ok (w.put place (.file content))

/-- The workspace after an operation, the same one if it failed. -/
def attempt (w : Workspace) : Except FileError Workspace → Except FileError Unit × Workspace
  | .ok after => (.ok (), after)
  | .error e => (.error e, w)

def makeDirectory (w : Workspace) (path : Path) : Except FileError Workspace :=
  match w.locate path with
  | .error cause => .error { cause, path }
  | .ok place =>
    match w.node? place with
    | some _ => .error { cause := .alreadyExists, path }
    | none => .ok (w.put place .directory)

def ensureDirectory (w : Workspace) (path : Path) : Except FileError Workspace :=
  match w.makeDirectory path with
  | .ok created => .ok created
  | .error e => if w.find? path = some .directory then .ok w else .error e

/-- Creates a directory and those above it that are missing. The limit bounds how far up it goes.
What was created before a failure stays. -/
def ensureDirectoriesWithin : Nat → Workspace → Path → Except FileError Unit × Workspace
  | 0, w, path => w.attempt (w.ensureDirectory path)
  | limit + 1, w, path =>
    match w.makeDirectory path with
    | .error { cause := .notFound, .. } =>
      match ensureDirectoriesWithin limit w path.parent with
      | (.ok (), above) => above.attempt (above.ensureDirectory path)
      | failed => failed
    | _ => w.attempt (w.ensureDirectory path)

def ensureDirectories (w : Workspace) (path : Path) : Except FileError Unit × Workspace :=
  ensureDirectoriesWithin path.parts.length w path

/-- Creates a file or replaces its content. Directories above it are created first, and stay if the
file itself fails. -/
def writeWithin (w : Workspace) (path : Path) (content : List UInt8) :
    Except FileError Unit × Workspace :=
  match w.ensureDirectories path.parent with
  | (.ok (), prepared) => prepared.attempt (prepared.write path content)
  | failed => failed

end Workspace
end SnippetCoach
