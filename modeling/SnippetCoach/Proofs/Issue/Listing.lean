import SnippetCoach.Proofs.Report
/-! The list of issues as text is the list sorted by severity: every maximal run of one severity
under a heading of its own. -/
namespace SnippetCoach.Issue
open Text

/-- The heading of a run of issues of one severity. -/
def runHeading? : List Issue → Option String
  | [] => none
  | issue :: rest => some (groupHeading issue.severity (issue :: rest).length)

/-- The heading between two line feeds, and the issues. -/
def runText (run : List Issue) : List String :=
  (runHeading? run).toList.map (fun heading => "\n" ++ heading ++ "\n") ++ run.map text

theorem runHeading?_ofSeverity (severity : Severity) (issues : List Issue) :
    (runHeading? (ofSeverity severity issues)).toList =
      groupHeadings [(severity, issues.countP (·.severity == severity))] := by
  rw [← length_ofSeverity]
  cases hrun : ofSeverity severity issues with
  | nil => rfl
  | cons issue rest =>
      have hseverity : issue.severity = severity :=
        (mem_ofSeverity.mp (hrun ▸ List.mem_cons_self)).2
      have hpos : (0 : Int) < (issue :: rest).length := Int.natCast_pos.mpr (Nat.succ_pos _)
      rw [runHeading?, hseverity, groupHeadings, List.filter_singleton, decide_eq_true hpos]
      rfl

theorem groupText_eq_runText (severity : Severity) (issues : List Issue) :
    groupText (bySeverity issues) severity = runText (ofSeverity severity issues) := by
  by_cases hnone : ofSeverity severity issues = []
  · rw [groupText_of_eq_nil hnone, hnone]
    rfl
  · have hpos : (0 : Int) < issues.countP (·.severity == severity) := by
      rw [← length_ofSeverity]
      exact Int.natCast_pos.mpr (List.length_pos_iff.mpr hnone)
    rw [groupText_of_ne_nil hnone, runText, runHeading?_ofSeverity, groupHeadings,
      List.filter_singleton, decide_eq_true hpos]
    rfl

theorem groupHeadings_eq_flatMap (counts : List (Severity × Int)) :
    groupHeadings counts = counts.flatMap fun entry => groupHeadings [entry] := by
  induction counts with
  | nil => rfl
  | cons entry counts ih =>
      rw [List.flatMap_cons, ← ih, ← groupHeadings_append, List.singleton_append]

/-- What has nothing to say of an empty group may be asked of all groups. -/
theorem flatMap_runs {α : Type} {part : List Issue → List α} (hnil : part [] = [])
    (issues : List Issue) :
    (runs issues).flatMap part =
      Severity.all.flatMap fun severity => part (ofSeverity severity issues) := by
  have hfull (groups : List (List Issue)) :
      (groups.filter (· ≠ [])).flatMap part = groups.flatMap part := by
    induction groups with
    | nil => rfl
    | cons group groups ih =>
        by_cases h : group = []
        · rw [List.filter_cons_of_neg (by simpa using h), List.flatMap_cons, ih, h, hnil,
            List.nil_append]
        · rw [List.filter_cons_of_pos (by simpa using h), List.flatMap_cons, List.flatMap_cons, ih]
  rw [runs_eq, hfull, List.flatMap_map]

theorem flatMap_runText_runs (issues : List Issue) :
    (runs issues).flatMap runText = Severity.all.flatMap (groupText (bySeverity issues)) := by
  rw [flatMap_runs rfl]
  exact List.flatMap_congr fun severity _ => (groupText_eq_runText severity issues).symm

theorem filterMap_runHeading?_runs (issues : List Issue) :
    (runs issues).filterMap runHeading? =
      groupHeadings (Severity.all.map fun severity =>
        (severity, (issues.countP (·.severity == severity) : Int))) := by
  rw [List.filterMap_eq_flatMap_toList, flatMap_runs rfl, groupHeadings_eq_flatMap,
    List.flatMap_map]
  exact List.flatMap_congr fun severity _ => runHeading?_ofSeverity severity issues

/-- The text is that of the runs in the sorted list, each under its heading, unless an issue has no
text. There is a heading for every severity with issues, with their number, and none for others; it
is a line of its own, and where every issue text stands on its lines no other line is a heading.
Sorting loses no issue, doubles none, and keeps the order of issues of one severity. -/
theorem listText_eq_sorted (issues : List Issue) :
    listText issues = joinLines ("## Issues Found\n" :: (runs issues).flatMap runText) ∧
    listText? issues = (if ∀ issue ∈ issues, issue.isWritable = true then
      .ok (joinLines ("## Issues Found\n" :: (runs issues).flatMap runText))
      else .error .integerTooLong) ∧
    (runs issues).filterMap runHeading? =
      groupHeadings (Severity.all.map fun severity =>
        (severity, (issues.countP (·.severity == severity) : Int))) ∧
    ((∀ issue ∈ issues, issue.Unbroken) →
      headings (listText issues).toList =
        ((runs issues).filterMap runHeading?).map String.toList) ∧
    (runs issues).flatten = sorted issues ∧
    (sorted issues).Perm issues ∧
    (sorted issues).Pairwise (fun issue other => issue.severity.rank ≤ other.severity.rank) ∧
    ∀ severity, ofSeverity severity (sorted issues) = ofSeverity severity issues := by
  have htext : listText issues =
      joinLines ("## Issues Found\n" :: (runs issues).flatMap runText) := by
    rw [listText, flatMap_runText_runs]
  refine ⟨htext, ?whole, filterMap_runHeading?_runs issues, fun hunbroken => ?headings,
    List.flatten_splitBy _ _, List.mergeSort_perm issues _, pairwise_sorted issues,
    fun severity => ofSeverity_sorted severity issues⟩
  case whole => simp only [listText?, htext, List.all_eq_true]
  case headings => rw [headings_listText hunbroken, filterMap_runHeading?_runs]

/-- A medium issue between two low ones comes first, and the low ones share a heading. -/
theorem listText_eq_sorted_mixed :
    let issues : List Issue :=
      [.ofFinding (.plain .offByOne 3), .ofFinding (.plain .infiniteLoop 1),
        .ofFinding (.plain .genericCatch 2)]
    (∀ issue ∈ issues, issue.Unbroken) ∧
      headings (listText issues).toList =
        ["### MEDIUM (1) [yellow]".toList, "### LOW (2) [blue]".toList] := by
  intro issues
  have hplain (kind : RuleKind) (line : Nat) (named : kind ≠ .unusedVariable) :
      (ofFinding (.plain kind line)).Unbroken := unbroken_ofFinding (.plain named line)
  have hunbroken : ∀ issue ∈ issues, issue.Unbroken :=
    List.forall_mem_cons.mpr ⟨hplain _ 3 (by decide), List.forall_mem_cons.mpr
      ⟨hplain _ 1 (by decide), List.forall_mem_singleton.mpr (hplain _ 2 (by decide))⟩⟩
  have hcounts : groupHeadings (Severity.all.map fun severity =>
      (severity, (issues.countP (·.severity == severity) : Int))) =
        ["### MEDIUM (1) [yellow]", "### LOW (2) [blue]"] := by decide +kernel
  obtain ⟨-, -, hruns, hheadings, -⟩ := listText_eq_sorted issues
  refine ⟨hunbroken, ?_⟩
  rw [hheadings hunbroken, hruns, hcounts]
  rfl

end SnippetCoach.Issue
