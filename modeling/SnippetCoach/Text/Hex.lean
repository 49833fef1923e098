/-! Hexadecimal digits, in lower case. -/
namespace SnippetCoach.Text

def hexDigit (n : Nat) : Char :=
  Nat.digitChar (n % 16)

/-- The last digits of a number, as many as asked for. -/
def hexText : Nat → Nat → List Char
  | 0, _ => []
  | width + 1, n => hexText width (n / 16) ++ [hexDigit n]

end SnippetCoach.Text
