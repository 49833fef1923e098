import SnippetCoach.Text.Case
import SnippetCoach.Text.Quoted
/-! Text of code points. A document can spell one half of a pair of units without the other, so what
is read from documents holds characters and halves on their own. -/
namespace SnippetCoach

/-- The 0x400 high halves come before the 0x400 low ones. -/
inductive CodePoint where
  | char (c : Char)
  | half (offset : Fin 0x800)
  deriving DecidableEq, Repr

namespace CodePoint

def char? : CodePoint → Option Char
  | char c => some c
  | half _ => none

/-- The unit that a half is. -/
def halfUnit (offset : Fin 0x800) : Nat :=
  0xD800 + offset.val

def halfText (offset : Fin 0x800) : List Char :=
  '\\' :: 'u' :: Text.hexText 4 (halfUnit offset)

def isHigh : CodePoint → Bool
  | char _ => false
  | half offset => offset.val < 0x400

def isLow : CodePoint → Bool
  | char _ => false
  | half offset => 0x400 ≤ offset.val

end CodePoint

/-- Characters as code points. -/
def codePoints (text : List Char) : List CodePoint :=
  text.map .char

structure WideText where
  points : List CodePoint
  deriving DecidableEq, Repr

/-- The first run of halves in a text that cannot be written. -/
structure EncodeError where
  position : Nat
  halves : List CodePoint
  deriving DecidableEq, Repr

def EncodeError.message (e : EncodeError) : String :=
  let what :=
    match e.halves with
    | [.half offset] =>
      "character '" ++ String.ofList (CodePoint.halfText offset) ++ "' in position " ++
        toString e.position
    | halves =>
      "characters in position " ++ toString e.position ++ "-" ++
        toString (e.position + halves.length - 1)
  "'utf-8' codec can't encode " ++ what ++ ": surrogates not allowed"

namespace WideText

def ofString (text : String) : WideText :=
  { points := codePoints text.toList }

instance : Coe String WideText := ⟨ofString⟩

instance : Append WideText where
  append a b := { points := a.points ++ b.points }

def joinLines (parts : List WideText) : WideText :=
  { points := [CodePoint.char '\n'].intercalate (parts.map points) }

/-- The text in characters. Halves cannot be written. -/
def toString? (text : WideText) : Except EncodeError String :=
  match text.points.mapM CodePoint.char? with
  | some chars => .ok (String.ofList chars)
  | none =>
    let isChar (point : CodePoint) : Bool := point.char?.isSome
    .error {
      position := (text.points.takeWhile isChar).length
      halves := (text.points.dropWhile isChar).takeWhile (!isChar ·) }

/-- The characters before the first half, and what is there from it on. -/
def splitChars : List CodePoint → List Char × List CodePoint
  | .char c :: rest =>
    let (before, after) := splitChars rest
    (c :: before, after)
  | text => ([], text)

/-- Lower case, each run of characters between halves on its own. The run that is being read comes
with its last character first. -/
def lowerRuns : List Char → List CodePoint → List CodePoint
  | run, [] => codePoints (Text.lower run.reverse)
  | run, .char c :: rest => lowerRuns (c :: run) rest
  | run, .half offset :: rest =>
    codePoints (Text.lower run.reverse) ++ .half offset :: lowerRuns [] rest

/-- The first code point in title case and the rest in lower case. A half has no case and is no part
of a word. -/
def capitalize (text : WideText) : WideText :=
  let (first, rest) := splitChars text.points
  { points := codePoints (Text.capitalize first) ++ lowerRuns [] rest }

/-- The text with halves shown by their units. -/
def shown (text : WideText) : List Char :=
  text.points.flatMap fun
    | .char c => [c]
    | .half offset => CodePoint.halfText offset

/-- The text in quotes, as messages show it. -/
def quoted (text : WideText) : List Char :=
  let mark := Text.quoteMark (text.points.filterMap CodePoint.char?)
  let shown : CodePoint → List Char
    | .char c => Text.quotedChar mark c
    | .half offset => CodePoint.halfText offset
  mark :: (text.points.flatMap shown ++ [mark])

end WideText
end SnippetCoach
