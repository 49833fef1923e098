import SnippetCoach.Rule.Finding
import SnippetCoach.Text.Blank
import SnippetCoach.Text.Lines
/-! Rules on the structure of functions: the base case of a factorial, indentation below a colon,
and a missing return. -/
namespace SnippetCoach.Rule
open Text

/-- A factorial that stops at one only. -/
def incompleteBaseCase (code : List Char) : List Finding :=
  Finding.onlyIf
    (mentions code "factorial" && mentions code "n == 1" && !mentions code "n <= 1")
    .incompleteBaseCase (findLine code ["n == 1".toList])

/-- The text begins with a token and has white space after it. -/
def opensWithToken (code : List Char) : Bool :=
  !(code.takeWhile fun c => !isBlank c).isEmpty && !(code.dropWhile fun c => !isBlank c).isEmpty

/-- A line that the rule looks at: neither blank nor indented by a space, no definition and no
comment. -/
def startsStatement (line : List Char) : Bool :=
  !allBlank line &&
    !([" ", "def", "#"].any fun start => start.toList.isPrefixOf line)

def endsInColon (line : List Char) : Bool :=
  (trim line).getLast? == some ':'

/-- The number of the first statement line right below a line that ends in a colon. The lines
after `previous` are numbered from the given number. -/
def unindentedLine? (number : Nat) (previous : List Char) : List (List Char) → Option Nat
  | [] => none
  | line :: rest =>
    if startsStatement line && endsInColon previous then some number
    else unindentedLine? (number + 1) line rest

/-- The first statement that should be indented and is not. -/
def indentation (code : List Char) : List Finding :=
  if opensWithToken code && mentions code "def " then
    match lines code with
    | [] => []
    | first :: rest => ((unindentedLine? 2 first rest).map (Finding.plain .indentation)).toList
  else []

/-- A definition in a text that neither returns nor prints. -/
def missingReturn (code : List Char) : List Finding :=
  Finding.onlyIf
    (mentions code "def " && !mentions code "return" && !mentions code "print")
    .missingReturn (findLine code ["def ".toList])

end SnippetCoach.Rule
