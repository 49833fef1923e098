import SnippetCoach.Text.Search
/-! Lines. Snippets are cut at line feeds only; `lineCount` alone also counts the other
characters at which a display breaks a line. -/
namespace SnippetCoach.Text

/-- The parts between line feeds. There is always at least one. -/
def lines : List Char → List (List Char)
  | [] => [[]]
  | c :: rest =>
    if c = '\n' then [] :: lines rest
    else
      match lines rest with
      | [] => [[c]]
      | line :: others => (c :: line) :: others

/-- The 1-based number of the first line that passes the test, 0 if none does. -/
def firstLineWhere (test : List Char → Bool) (text : List Char) : Nat :=
  match (lines text).findIdx? test with
  | some i => i + 1
  | none => 0

/-- The 1-based number of the first line that contains one of the needles, 0 if none does. -/
def findLine (text : List Char) (needles : List (List Char)) : Nat :=
  firstLineWhere (fun line => needles.any (occursIn · line)) text

def isLineBreak (c : Char) : Bool :=
  let n := c.toNat
  (0x0A ≤ n && n ≤ 0x0D) || (0x1C ≤ n && n ≤ 0x1E) || n == 0x85 || n == 0x2028 || n == 0x2029

/-- Counts displayed lines; the flag says that the current line has begun. -/
def lineCountFrom : Bool → List Char → Nat
  | begun, [] => if begun then 1 else 0
  | _, '\r' :: '\n' :: rest => lineCountFrom false rest + 1
  | _, c :: rest =>
    if isLineBreak c then lineCountFrom false rest + 1 else lineCountFrom true rest

/-- Displayed lines: a carriage return before a line feed is one break with it, and a break at
the end opens no further line. -/
def lineCount (text : List Char) : Nat :=
  lineCountFrom false text

/-- Writes every line end as a line feed. -/
def unifyLineEnds : List Char → List Char
  | [] => []
  | '\r' :: '\n' :: rest => '\n' :: unifyLineEnds rest
  | c :: rest => (if c = '\r' then '\n' else c) :: unifyLineEnds rest

theorem lines_ne_nil (text : List Char) : lines text ≠ [] := by
  cases text with
  | nil => simp [lines]
  | cons c rest =>
    rw [lines]
    split
    · simp
    · split <;> simp

end SnippetCoach.Text
