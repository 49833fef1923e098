import SnippetCoach.Machine
/-! The limits of a usual machine, for runs of the program and for fixed inputs. -/
namespace SnippetCoach.Machine

/-- A thousand calls can be open, of which some are taken when a document is read. -/
scoped instance usual : Machine where
  recordDepth := 985
  fileDepth := 985
  textLimit := 17179869184
  two_le_recordDepth := by decide
  one_le_fileDepth := by decide
  textLimit_lt := by decide

end SnippetCoach.Machine
