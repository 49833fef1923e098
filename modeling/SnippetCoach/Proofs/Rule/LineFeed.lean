import SnippetCoach.Issue.Basic
import SnippetCoach.Proofs.Rule.Assignment
import SnippetCoach.Proofs.Rule.Indentation
import SnippetCoach.Proofs.Rule.Semicolon
import SnippetCoach.Tag.Given
/-! Line feeds at the end of a snippet change no issue: neither what is reported, nor the order, nor
a line number. -/
namespace SnippetCoach
open Text

namespace Rule

theorem startsStatement_nil : startsStatement [] = false := rfl

theorem lacksSemicolon_nil : lacksSemicolon [] = false := rfl

theorem unindentedLine?_concat (number : Nat) (previous : List Char) (rest : List (List Char)) :
    unindentedLine? number previous (rest ++ [[]]) = unindentedLine? number previous rest := by
  induction rest generalizing number previous with
  | nil => simp [unindentedLine?, startsStatement_nil]
  | cons line rest ih => simp only [List.cons_append, unindentedLine?, ih]

theorem lineNumbersWhere_concat {test : List Char → Bool} (h : test [] = false) (number : Nat)
    (rest : List (List Char)) :
    lineNumbersWhere test number (rest ++ [[]]) = lineNumbersWhere test number rest := by
  have hlast (number : Nat) : lineNumbersWhere test number [[]] = [] := by
    rw [lineNumbersWhere, h]
    rfl
  rw [lineNumbersWhere_append, hlast, List.append_nil]

/-- The white space after the first token could be the line feed, but a definition has a blank. -/
theorem opensWithToken_concat {code : List Char} (h : mentions code "def " = true) :
    opensWithToken (code ++ ['\n']) = opensWithToken code := by
  have hdef : "def ".toList <:+: code := occursIn_iff.mp h
  have hlonger : "def ".toList <:+: code ++ ['\n'] := hdef.trans (List.prefix_append _ _).isInfix
  have hhead : (code ++ ['\n']).head? = code.head? := by
    cases code with
    | nil => exact absurd hdef.length_le (by decide)
    | cons c code => rfl
  rw [Bool.eq_iff_iff, opensWithToken_iff hlonger, opensWithToken_iff hdef, hhead]

theorem indentation_concat (code : List Char) :
    indentation (code ++ ['\n']) = indentation code := by
  unfold indentation
  rw [mentions_concat (by decide)]
  cases hdef : mentions code "def " with
  | false => simp
  | true =>
      rw [opensWithToken_concat hdef, lines_concat]
      cases hlines : lines code with
      | nil => exact absurd hlines (lines_ne_nil code)
      | cons first rest => simp only [List.cons_append, unindentedLine?_concat]

theorem unusedVariable_concat (code : List Char) :
    unusedVariable (code ++ ['\n']) = unusedVariable code := by
  have hsame : unusedAssignments (code ++ ['\n']) = unusedAssignments code := by
    simp only [unusedAssignments, isUnused, Assignment.scan_concat, countWord_concat]
  unfold unusedVariable
  rw [hsame]
  apply List.map_congr_left
  intro assignment hassignment
  have hne : [] ∉ [assignment.text] := by
    rw [List.mem_singleton]
    exact (Assignment.text_ne_nil (List.mem_filter.mp hassignment).1).symm
  rw [findLine_concat hne]

end Rule

theorem RuleKind.findings_concat (kind : RuleKind) (code : List Char) :
    kind.findings (code ++ ['\n']) = kind.findings code := by
  cases kind with
  | incompleteBaseCase =>
      simp (disch := decide) only [findings, Rule.incompleteBaseCase, mentions_concat,
        findLine_concat]
  | indentation => exact Rule.indentation_concat code
  | infiniteLoop =>
      simp (disch := decide) only [findings, Rule.infiniteLoop, mentions_concat, findLine_concat]
  | offByOne =>
      have hcalls : IgnoresFeed Rule.callsRange := (ignoresFeed_startsCall (by decide)).anySuffix
      have hblank : Rule.callsRange [] = false := rfl
      simp only [findings, Rule.offByOne, hcalls code, firstLineWhere_concat hblank]
  | unusedVariable => exact Rule.unusedVariable_concat code
  | missingReturn =>
      simp (disch := decide) only [findings, Rule.missingReturn, mentions_concat, findLine_concat]
  | missingSemicolon =>
      simp only [findings, Rule.missingSemicolon, lines_concat,
        Rule.lineNumbersWhere_concat Rule.lacksSemicolon_nil]
  | arrayBounds =>
      have hindexing := ignoresFeed_startsIndexing.anySuffix code
      simp (disch := decide) only [findings, Rule.arrayBounds, hindexing, mentions_concat]
  | memoryLeak =>
      simp (disch := decide) only [findings, Rule.memoryLeak, mentions_concat, findLine_concat]
  | uninitializedVariable =>
      have hint : IgnoresFeed (anySuffix (startsBareDeclaration "int".toList)) :=
        (ignoresFeed_startsBareDeclaration (by decide)).anySuffix
      have hfloat : IgnoresFeed (anySuffix (startsBareDeclaration "float".toList)) :=
        (ignoresFeed_startsBareDeclaration (by decide)).anySuffix
      simp only [findings, Rule.uninitializedVariable, List.any_cons, List.any_nil, hint code,
        hfloat code]
  | nullReference =>
      simp (disch := decide) only [findings, Rule.nullReference, mentions_concat]
  | undisposedResource =>
      simp (disch := decide) only [findings, Rule.undisposedResource, mentions_concat,
        findLine_concat]
  | genericCatch =>
      simp (disch := decide) only [findings, Rule.genericCatch, mentions_concat, findLine_concat]
  | noIssues => rfl

theorem findings_concat (code : List Char) (language : Option Language) :
    findings (code ++ ['\n']) language = findings code language := by
  simp only [findings, RuleKind.findings_concat]

theorem findings_append_lineFeeds (code : List Char) (language : Option Language) (count : Nat) :
    findings (code ++ List.replicate count '\n') language = findings code language := by
  induction count with
  | zero => rw [List.replicate_zero, List.append_nil]
  | succ count ih => rw [List.replicate_succ', ← List.append_assoc, findings_concat, ih]

/-- However many line feeds follow a snippet, it has the same issues. -/
theorem detect_append_lineFeeds (code : String) (language : GivenTag) (count : Nat) :
    detect (code ++ String.ofList (List.replicate count '\n')) language.language? =
      detect code language.language? := by
  rw [detect, detect, String.toList_append, String.toList_ofList, findings_append_lineFeeds]

end SnippetCoach
