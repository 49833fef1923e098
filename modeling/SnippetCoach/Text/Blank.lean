/-! White space. Two classes are kept apart: Unicode white space, which trimming and blank
tests use, and the six ASCII characters that separate words in the patterns. -/
namespace SnippetCoach.Text

/-- Unicode white space: the 29 characters with the property, information separators included. -/
def isBlank (c : Char) : Bool :=
  let n := c.toNat
  (0x09 ≤ n && n ≤ 0x0D) || (0x1C ≤ n && n ≤ 0x20) || n == 0x85 || n == 0xA0 || n == 0x1680 ||
    (0x2000 ≤ n && n ≤ 0x200A) || n == 0x2028 || n == 0x2029 || n == 0x202F || n == 0x205F ||
    n == 0x3000

/-- ASCII white space without the information separators. -/
def isAsciiSpace (c : Char) : Bool :=
  c == ' ' || (0x09 ≤ c.toNat && c.toNat ≤ 0x0D)

def allBlank (text : List Char) : Bool :=
  text.all isBlank

def trimWith (drop : Char → Bool) (text : List Char) : List Char :=
  ((text.dropWhile drop).reverse.dropWhile drop).reverse

def trim (text : List Char) : List Char :=
  trimWith isBlank text

end SnippetCoach.Text
