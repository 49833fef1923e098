import SnippetCoach.Rule.Finding
import SnippetCoach.Text.Blank
import SnippetCoach.Text.Lines
/-! The rule on statements that lack their semicolon. -/
namespace SnippetCoach.Rule
open Text

/-- The line, judged alone, should end in a semicolon: it is not blank, ends in no terminator, is
no directive or comment, and names no control keyword. -/
def lacksSemicolon (line : List Char) : Bool :=
  let statement := trim line
  !statement.isEmpty && !([';', '\x7b', '\x7d'].any fun c => statement.getLast? == some c) &&
    !(["#", "//"].any fun start => start.toList.isPrefixOf statement) &&
    !(["if", "for", "while"].any fun keyword => mentions statement keyword)

/-- The numbers of the lines that pass a test, counted from the given number. -/
def lineNumbersWhere (test : List Char → Bool) (number : Nat) : List (List Char) → List Nat
  | [] => []
  | line :: rest =>
    if test line then number :: lineNumbersWhere test (number + 1) rest
    else lineNumbersWhere test (number + 1) rest

/-- One finding for each line that lacks its semicolon. -/
def missingSemicolon (code : List Char) : List Finding :=
  (lineNumbersWhere lacksSemicolon 1 (lines code)).map (Finding.plain .missingSemicolon)

end SnippetCoach.Rule
