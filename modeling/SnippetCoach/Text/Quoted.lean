import SnippetCoach.Text.Hex
import SnippetCoach.Text.Printable
/-! Text in quotes, as messages show it. Apostrophes quote it unless it has an apostrophe and no
quotation mark. -/
namespace SnippetCoach.Text

def apostrophe : Char := Char.ofNat 0x27

/-- The mark that quotes a text. -/
def quoteMark (text : List Char) : Char :=
  if text.contains apostrophe && !text.contains '"' then '"' else apostrophe

/-- One character between marks: the mark and the backslash after a backslash, and characters that
cannot be printed by their code. -/
def quotedChar (mark c : Char) : List Char :=
  if c = mark ∨ c = '\\' then ['\\', c]
  else if c = '\n' then ['\\', 'n']
  else if c = '\r' then ['\\', 'r']
  else if c = '\t' then ['\\', 't']
  else if isPrintable c then [c]
  else if c.toNat < 0x100 then '\\' :: 'x' :: hexText 2 c.toNat
  else if c.toNat < 0x10000 then '\\' :: 'u' :: hexText 4 c.toNat
  else '\\' :: 'U' :: hexText 8 c.toNat

def quoted (text : List Char) : List Char :=
  let mark := quoteMark text
  mark :: (text.flatMap (quotedChar mark) ++ [mark])

end SnippetCoach.Text
