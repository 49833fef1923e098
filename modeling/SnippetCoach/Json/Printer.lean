import SnippetCoach.Json.Value
import SnippetCoach.Number.Layout
import SnippetCoach.Text.Hex
/-! Writing documents. The output is ASCII: other characters and control characters are escaped, a
character beyond the first plane as two units, a half of a pair as one. -/
namespace SnippetCoach.Json
open Number Text

/-- A 16-bit unit as an escape with four lower-case digits. -/
def escapeUnit (unit : Nat) : List Char :=
  ['\\', 'u', hexDigit (unit / 4096), hexDigit (unit / 256), hexDigit (unit / 16), hexDigit unit]

def escapeChar (c : Char) : List Char :=
  if c = '"' then ['\\', '"']
  else if c = '\\' then ['\\', '\\']
  else if c = '\n' then ['\\', 'n']
  else if c = '\r' then ['\\', 'r']
  else if c = '\t' then ['\\', 't']
  else if c.toNat = 8 then ['\\', 'b']
  else if c.toNat = 12 then ['\\', 'f']
  else if 0x20 ≤ c.toNat ∧ c.toNat < 0x7F then [c]
  else if c.toNat < 0x10000 then escapeUnit c.toNat
  else
    escapeUnit (0xD800 + (c.toNat - 0x10000) / 0x400) ++
      escapeUnit (0xDC00 + (c.toNat - 0x10000) % 0x400)

def escapePoint : CodePoint → List Char
  | .char c => escapeChar c
  | .half offset => escapeUnit (CodePoint.halfUnit offset)

/-- A text in quotes, in front of what follows it. -/
def quote (text : WideText) (rest : List Char) : List Char :=
  '"' :: (text.points.flatMap escapePoint ++ '"' :: rest)

/-- Where a document breaks lines: nowhere, or before every item at two blanks a level. -/
inductive Layout where
  | compact
  | indented
  deriving DecidableEq, Repr

namespace Layout

/-- What stands before the first item and after the last one of a container. -/
def gap : Layout → Nat → List Char
  | compact, _ => []
  | indented, depth => '\n' :: List.replicate (2 * depth) ' '

def separator : Layout → Nat → List Char
  | compact, _ => [',', ' ']
  | indented, depth => ',' :: gap indented depth

end Layout

mutual
/-- The value at a depth of nesting, in front of what follows it. -/
def write (layout : Layout) (depth : Nat) : WideJson → List Char → List Char
  | null, rest => "null".toList ++ rest
  | bool true, rest => "true".toList ++ rest
  | bool false, rest => "false".toList ++ rest
  | int n, rest => intText n ++ rest
  | float x, rest => NumberFormat.document.write x ++ rest
  | str s, rest => quote s rest
  | arr [], rest => '[' :: ']' :: rest
  | arr (item :: items), rest =>
    '[' :: (layout.gap (depth + 1) ++ write layout (depth + 1) item
      (writeItems layout (depth + 1) items (layout.gap depth ++ ']' :: rest)))
  | obj [], rest => '\x7b' :: '\x7d' :: rest
  | obj ((name, value) :: fields), rest =>
    '\x7b' :: (layout.gap (depth + 1) ++ quote name (':' :: ' ' :: write layout (depth + 1) value
      (writeFields layout (depth + 1) fields (layout.gap depth ++ '\x7d' :: rest))))

def writeItems (layout : Layout) (depth : Nat) : List WideJson → List Char → List Char
  | [], rest => rest
  | item :: items, rest =>
    layout.separator depth ++ write layout depth item (writeItems layout depth items rest)

def writeFields (layout : Layout) (depth : Nat) :
    List (WideText × WideJson) → List Char → List Char
  | [], rest => rest
  | (name, value) :: fields, rest =>
    layout.separator depth ++ quote name (':' :: ' ' :: write layout depth value
      (writeFields layout depth fields rest))
end

def compactText (value : WideJson) : String :=
  String.ofList (write .compact 0 value [])

def indentedText (value : WideJson) : String :=
  String.ofList (write .indented 0 value [])

end SnippetCoach.Json
