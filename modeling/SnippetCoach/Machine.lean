/-! Limits that are none of the program's own. -/
namespace SnippetCoach

/-- What a machine allows. How many containers of a document can be open at once depends on the
calls that are open when it is read, so records and files have a limit each. Memory limits the
length of a text. -/
class Machine where
  recordDepth : Nat
  fileDepth : Nat
  textLimit : Nat
  /-- Records hold entries, which are containers in a container. -/
  two_le_recordDepth : 2 ≤ recordDepth
  one_le_fileDepth : 1 ≤ fileDepth
  /-- Numbers beyond 2 ^ 53 count nothing that is in memory. -/
  textLimit_lt : textLimit < 9007199254740992

end SnippetCoach
