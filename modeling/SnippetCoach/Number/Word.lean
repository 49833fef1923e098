/-! Whole numbers that fit in a signed word of 64 bits. -/
namespace SnippetCoach.Number

/-- At least -2^63 and below 2^63. -/
def fitsWord (n : Int) : Bool :=
  -9223372036854775808 ≤ n && n < 9223372036854775808

end SnippetCoach.Number
