import SnippetCoach.Text.CaseTable
/-! Lower case and capitalised text. A sigma at the end of a word has a form of its own. -/
namespace SnippetCoach.Text

def inRuns (runs : List (Nat × Nat)) (c : Char) : Bool :=
  runs.any fun run => run.1 ≤ c.toNat && c.toNat ≤ run.2

/-- The first character that case rules do not skip is a letter that has case. -/
def meetsLetter (text : List Char) : Bool :=
  ((text.dropWhile (inRuns skippedRuns)).head?).any (inRuns casedRuns)

/-- The lower case of a character on its own. The dot of a capital I becomes a mark. -/
def lowerChar (c : Char) : List Char :=
  if c.toNat = 0x130 then ['i', Char.ofNat 0x307] else [CaseRun.map lowerRuns c]

/-- The lower case of a text. The characters before it, the nearest first, and those after it
decide the form of a sigma. -/
def lowerAfter (before : List Char) : List Char → List Char
  | [] => []
  | c :: rest =>
    (if c = 'Σ' then [if meetsLetter before && !meetsLetter rest then 'ς' else 'σ']
      else lowerChar c) ++ lowerAfter (c :: before) rest

def lower (text : List Char) : List Char :=
  lowerAfter [] text

/-- The title case of a character, which can be several characters. -/
def titleChar (c : Char) : List Char :=
  match titleExpansions.lookup c.toNat with
  | some codes => codes.map Char.ofNat
  | none => [CaseRun.map titleRuns c]

/-- The first character in title case and the rest in lower case. -/
def capitalize : List Char → List Char
  | [] => []
  | c :: rest => titleChar c ++ lowerAfter [c] rest

end SnippetCoach.Text
