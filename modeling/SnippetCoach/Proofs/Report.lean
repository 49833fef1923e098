import Mathlib.Data.List.Basic
import SnippetCoach.Proofs.Issue.Grouping
import SnippetCoach.Proofs.Number.Decimal
import SnippetCoach.Proofs.Rule.Findings
import SnippetCoach.Proofs.Text.Lines
import SnippetCoach.Report
/-! The headings of reports: one for each severity that there are issues of. -/
namespace SnippetCoach
open Number Text

/-- The lines of a text that are headings of the third level. -/
def Text.headings (text : List Char) : List (List Char) :=
  (lines text).filter fun line => "### ".toList.isPrefixOf line

namespace Text

/-- A literal is checked by its characters, without a detour through its bytes. -/
theorem feed_notMem_ofList {chars : List Char} (h : '\n' ∉ chars) :
    '\n' ∉ (String.ofList chars).toList := by
  rwa [String.toList_ofList]

theorem feed_notMem_append {text rest : String} (h : '\n' ∉ text.toList)
    (hrest : '\n' ∉ rest.toList) : '\n' ∉ (text ++ rest).toList := by
  rw [String.toList_append, List.mem_append, not_or]
  exact ⟨h, hrest⟩

theorem headings_append_feed (text rest : List Char) :
    headings (text ++ '\n' :: rest) = headings text ++ headings rest := by
  rw [headings, lines_append_feed, List.filter_append]
  rfl

/-- One line that begins with another character is no heading. -/
theorem headings_cons {c : Char} {rest : List Char} (hc : c ≠ '#') (hfeed : '\n' ∉ c :: rest) :
    headings (c :: rest) = [] := by
  have hother : ('#' == c) = false := beq_eq_false_iff_ne.mpr (Ne.symm hc)
  rw [headings, lines_eq_singleton hfeed, List.filter_singleton]
  simp [List.isPrefixOf, hother]

end Text

theorem toList_joinLines_cons (part : String) {parts : List String} (h : parts ≠ []) :
    (joinLines (part :: parts)).toList = part.toList ++ '\n' :: (joinLines parts).toList := by
  cases parts with
  | nil => exact absurd rfl h
  | cons next parts =>
      simp only [joinLines, String.toList_intercalate, List.map_cons, List.intercalate_cons_cons]
      rw [List.append_assoc]
      rfl

theorem headings_joinLines (parts : List String) :
    headings (joinLines parts).toList = parts.flatMap fun part => headings part.toList := by
  induction parts with
  | nil => rfl
  | cons part parts ih =>
      rw [List.flatMap_cons, ← ih]
      cases parts with
      | nil =>
          have hone : (joinLines [part]).toList = part.toList := by
            rw [joinLines, String.toList_intercalate, List.map_singleton,
              List.intercalate_singleton]
          rw [hone]
          exact (List.append_nil _).symm
      | cons next parts =>
          rw [toList_joinLines_cons part (List.cons_ne_nil _ _), headings_append_feed]

namespace Issue

/-- The texts of the issue stand on one line. -/
structure Unbroken (issue : Issue) : Prop where
  message : '\n' ∉ issue.message.display.toList
  explanation : '\n' ∉ issue.explanation.display.toList
  line : '\n' ∉ issue.line.display.toList

theorem feed_notMem_explanation (kind : RuleKind) : '\n' ∉ kind.explanation.toList := by
  cases kind with
  | infiniteLoop | offByOne | unusedVariable | missingReturn | missingSemicolon =>
      exact feed_notMem_ofList (by decide)
  | _ => exact feed_notMem_append (feed_notMem_ofList (by decide)) (feed_notMem_ofList (by decide))

theorem feed_notMem_message {kind : RuleKind} (named : kind ≠ .unusedVariable) :
    '\n' ∉ (kind.message "").toList := by
  cases kind with
  | unusedVariable => exact absurd rfl named
  | _ => exact feed_notMem_ofList (by decide)

/-- Messages hold no line feed, since no name does. -/
theorem unbroken_ofFinding {kind : RuleKind} {finding : Finding}
    (h : Finding.Emitted kind finding) : (ofFinding finding).Unbroken := by
  refine ⟨?message, ?explanation, ?line⟩
  case message =>
    cases h with
    | plain named line =>
        have hfixed := feed_notMem_message named
        exact hfixed
    | @unused name word line =>
        have hname : '\n' ∉ name := fun hfeed => absurd (word _ hfeed) (by decide)
        have hopening : '\n' ∉ ("Variable '" ++ String.ofList name).toList :=
          feed_notMem_append (feed_notMem_ofList (by decide)) (feed_notMem_ofList hname)
        have hmessage : '\n' ∉ (RuleKind.message .unusedVariable (String.ofList name)).toList :=
          feed_notMem_append hopening (feed_notMem_ofList (by decide))
        exact hmessage
  case explanation =>
    have hfixed := feed_notMem_explanation finding.kind
    exact hfixed
  case line =>
    have hdigits : '\n' ∉ natDigits finding.line := by
      intro hfeed
      exact absurd (isDigit_of_mem_natDigits hfeed) (by decide)
    have htext : (ofFinding finding).line.display.toList = natDigits finding.line :=
      String.toList_ofList
    rw [htext]
    exact hdigits

/-- Where the issue is, as its text says it. -/
def place (issue : Issue) : String :=
  if issue.line.isEmptyValue then "unknown line" else "line " ++ issue.line.display

/-- The first line of the text after its dash. -/
def opening (issue : Issue) : String :=
  " **" ++ issue.severity.heading ++ "** [" ++ issue.type.tag ++ "] " ++ issue.message.display ++
    " (" ++ issue.place ++ ")"

theorem toList_text (issue : Issue) : issue.text.toList =
    ('-' :: issue.opening.toList) ++ '\n' :: ' ' :: ' ' :: issue.explanation.display.toList := by
  have htext : issue.text = "- **" ++ issue.severity.heading ++ "** [" ++ issue.type.tag ++ "] " ++
      issue.message.display ++ " (" ++ issue.place ++ ")\n  " ++ issue.explanation.display := rfl
  have hdash : "- **".toList = '-' :: " **".toList := rfl
  have hbreak : ")\n  ".toList = ")".toList ++ '\n' :: [' ', ' '] := rfl
  rw [htext, opening]
  simp only [String.toList_append, hdash, hbreak, List.append_assoc, List.cons_append,
    List.nil_append]

theorem Unbroken.opening {issue : Issue} (h : issue.Unbroken) : '\n' ∉ issue.opening.toList := by
  have hseverity : '\n' ∉ issue.severity.heading.toList := by
    cases issue.severity <;> decide
  have htype : '\n' ∉ issue.type.tag.toList := by
    cases issue.type <;> decide
  have hplace : '\n' ∉ issue.place.toList := by
    rw [place]
    split
    · decide
    · simpa using h.line
  simp only [Issue.opening, String.toList_append, List.mem_append, hseverity, htype, h.message,
    hplace, or_false]
  decide

/-- Neither line of the text is a heading. -/
theorem headings_text {issue : Issue} (h : issue.Unbroken) : headings issue.text.toList = [] := by
  have hfirst : '\n' ∉ '-' :: issue.opening.toList := by
    simpa using h.opening
  have hsecond : '\n' ∉ ' ' :: ' ' :: issue.explanation.display.toList := by
    simpa using h.explanation
  rw [toList_text, headings_append_feed, headings_cons (by decide) hfirst,
    headings_cons (by decide) hsecond, List.append_nil]

/-- The heading of the issues of one severity. -/
def groupHeading (severity : Severity) (count : Int) : String :=
  "### " ++ severity.heading ++ " (" ++ toString count ++ ") [" ++ severity.colour ++ "]"

/-- The headings of severities with issues. -/
def groupHeadings (counts : List (Severity × Int)) : List String :=
  (counts.filter fun entry => 0 < entry.2).map fun entry => groupHeading entry.1 entry.2

theorem feed_notMem_groupHeading (severity : Severity) (count : Nat) :
    '\n' ∉ (groupHeading severity count).toList := by
  have hheading : '\n' ∉ severity.heading.toList := by
    cases severity <;> decide
  have hcolour : '\n' ∉ severity.colour.toList := by
    cases severity <;> decide
  have hcount : '\n' ∉ (toString (count : Int)).toList := by
    have htext : (toString (count : Int)).toList = natDigits count := Nat.toList_repr
    rw [htext]
    intro hfeed
    exact absurd (isDigit_of_mem_natDigits hfeed) (by decide)
  simp only [groupHeading, String.toList_append, List.mem_append, hheading, hcolour, hcount,
    or_false]
  decide

theorem headings_groupHeading (severity : Severity) (count : Nat) :
    headings (groupHeading severity count).toList = [(groupHeading severity count).toList] := by
  have hmarked : "### ".toList.isPrefixOf (groupHeading severity count).toList = true := by
    rw [List.isPrefixOf_iff_prefix]
    simp only [groupHeading, String.toList_append, List.append_assoc]
    exact List.prefix_append _ _
  rw [headings, lines_eq_singleton (feed_notMem_groupHeading severity count),
    List.filter_singleton, hmarked]
  rfl

theorem length_ofSeverity (severity : Severity) (issues : List Issue) :
    (ofSeverity severity issues).length = issues.countP (·.severity == severity) :=
  List.countP_eq_length_filter.symm

theorem groupText_of_eq_nil {severity : Severity} {issues : List Issue}
    (h : ofSeverity severity issues = []) : groupText (bySeverity issues) severity = [] := by
  rw [groupText, get?_bySeverity, if_pos h]

/-- A heading stands between two line feeds. -/
theorem groupText_of_ne_nil {severity : Severity} {issues : List Issue}
    (h : ofSeverity severity issues ≠ []) :
    groupText (bySeverity issues) severity =
      ("\n" ++ groupHeading severity (issues.countP (·.severity == severity)) ++ "\n") ::
        (ofSeverity severity issues).map text := by
  have hcount : toString ((issues.countP (·.severity == severity) : Nat) : Int) =
      toString (ofSeverity severity issues).length := by
    rw [length_ofSeverity]
    rfl
  have hopen : "\n### " = "\n" ++ "### " := rfl
  have hclose : "]\n" = "]" ++ "\n" := rfl
  rw [groupText, get?_bySeverity, if_neg h, groupHeading, hcount, hopen, hclose]
  simp only [String.append_assoc]

theorem headings_groupText {issues : List Issue} (h : ∀ issue ∈ issues, issue.Unbroken)
    (severity : Severity) :
    ((groupText (bySeverity issues) severity).flatMap fun part => headings part.toList) =
      (groupHeadings [(severity, issues.countP (·.severity == severity))]).map String.toList := by
  by_cases hnone : ofSeverity severity issues = []
  · have hzero : issues.countP (·.severity == severity) = 0 := by
      rw [← length_ofSeverity, hnone, List.length_nil]
    rw [groupText_of_eq_nil hnone, hzero]
    rfl
  · have hpos : (0 : Int) < issues.countP (·.severity == severity) := by
      rw [← length_ofSeverity]
      exact Int.natCast_pos.mpr (List.length_pos_iff.mpr hnone)
    have hissues : ((ofSeverity severity issues).map text).flatMap
        (fun part => headings part.toList) = [] := by
      rw [List.flatMap_eq_nil_iff, List.forall_mem_map]
      intro issue hissue
      exact headings_text (h issue (mem_ofSeverity.mp hissue).1)
    have hframed (heading : String) : ("\n" ++ heading ++ "\n").toList =
        [] ++ '\n' :: (heading.toList ++ '\n' :: []) := by
      simp only [String.toList_append]
      rfl
    rw [groupText_of_ne_nil hnone, List.flatMap_cons, hissues, List.append_nil, hframed,
      headings_append_feed, headings_append_feed, headings_groupHeading, groupHeadings,
      List.filter_singleton, decide_eq_true hpos]
    rfl

theorem groupHeadings_append (counts more : List (Severity × Int)) :
    groupHeadings (counts ++ more) = groupHeadings counts ++ groupHeadings more := by
  rw [groupHeadings, List.filter_append, List.map_append]
  rfl

/-- The headings of a list of issues are those of the severities that it has, with their counts. -/
theorem headings_listText {issues : List Issue} (h : ∀ issue ∈ issues, issue.Unbroken) :
    headings (listText issues).toList =
      (groupHeadings (Severity.all.map fun severity =>
        (severity, (issues.countP (·.severity == severity) : Int)))).map String.toList := by
  have htitle : headings "## Issues Found\n".toList = [] := by decide
  have hgroups (severities : List Severity) :
      ((severities.flatMap (groupText (bySeverity issues))).flatMap fun part =>
        headings part.toList) =
        (groupHeadings (severities.map fun severity =>
          (severity, (issues.countP (·.severity == severity) : Int)))).map String.toList := by
    induction severities with
    | nil => rfl
    | cons severity severities ih =>
        rw [List.flatMap_cons, List.flatMap_append, headings_groupText h, ih, ← List.map_append,
          ← groupHeadings_append]
        rfl
  rw [listText, headings_joinLines, List.flatMap_cons, htitle, List.nil_append, hgroups]

end Issue
end SnippetCoach
