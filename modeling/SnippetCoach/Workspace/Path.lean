/-! Paths: the parts between slashes, empty parts and single dots left out. -/
namespace SnippetCoach

/-- A path is relative without slashes at its start. One slash means the root, and two are kept. -/
structure Path where
  slashes : Nat
  parts : List String
  deriving DecidableEq, Repr

namespace Path

/-- How many of the slashes at the start of a text count: exactly two stay, more are one. -/
def leadingSlashes (text : List Char) : Nat :=
  let count := (text.takeWhile (· == '/')).length
  if count ≤ 2 then count else 1

def split : List Char → List (List Char)
  | [] => [[]]
  | c :: rest =>
    if c = '/' then [] :: split rest
    else
      match split rest with
      | [] => [[c]]
      | part :: others => (c :: part) :: others

/-- Empty parts and single dots mean nothing. -/
def ofText (text : String) : Path :=
  let parts := (split text.toList).filter fun part => part != [] && part != ['.']
  { slashes := leadingSlashes text.toList, parts := parts.map String.ofList }

/-- The path as text; a relative path without parts is a dot. -/
def text (path : Path) : String :=
  if path.slashes = 0 && path.parts.isEmpty then "."
  else String.ofList (List.replicate path.slashes '/') ++ "/".intercalate path.parts

/-- The text holds a null character, so that it is no path for any file. -/
def hasNull (path : Path) : Bool :=
  path.text.toList.any fun c => c.toNat == 0

def parent (path : Path) : Path :=
  { path with parts := path.parts.dropLast }

/-- Replaces a tilde as the first part of a relative path by a home directory, and a tilde with a
name by the home directory of that user, if there is one. -/
def expandHome? (path : Path) (home : Path) (users : String → Option Path) : Option Path :=
  match path.slashes, path.parts with
  | 0, first :: rest =>
    let under (directory : Path) : Path := { directory with parts := directory.parts ++ rest }
    match first.toList with
    | ['~'] => some (under home)
    | '~' :: name => (users (String.ofList name)).map under
    | _ => some path
  | _, _ => some path

end Path
end SnippetCoach
