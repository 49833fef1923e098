import Mathlib.Data.List.SplitBy
import SnippetCoach.Proofs.OrderedMap
import SnippetCoach.Report
/-! Issues by severity. Grouping keeps every issue, and the groups from the most severe to the least
are the maximal runs of one severity in the sorted issues. -/
namespace SnippetCoach

namespace Severity

theorem tag_inj {severity other : Severity} : severity.tag = other.tag ↔ severity = other := by
  constructor
  · intro h
    have hfound := ofTag?_tag severity
    rw [h, ofTag?_tag] at hfound
    exact (Option.some.inj hfound).symm
  · exact congrArg tag

/-- Less for the more severe. -/
def rank : Severity → Nat
  | high => 0
  | medium => 1
  | low => 2
  | clear => 3

end Severity

namespace Issue

variable {issues : List Issue}

def ofSeverity (severity : Severity) (issues : List Issue) : List Issue :=
  issues.filter (·.severity == severity)

theorem mem_ofSeverity {severity : Severity} {issue : Issue} :
    issue ∈ ofSeverity severity issues ↔ issue ∈ issues ∧ issue.severity = severity := by
  rw [ofSeverity, List.mem_filter, beq_iff_eq]

theorem ofSeverity_cons (severity : Severity) (issue : Issue) (issues : List Issue) :
    ofSeverity severity (issue :: issues) =
      if issue.severity = severity then issue :: ofSeverity severity issues
      else ofSeverity severity issues := by
  simp only [ofSeverity, List.filter_cons, beq_iff_eq]

theorem get?_putBySeverity (groups : OrderedMap (List Issue)) (issue : Issue)
    (severity : Severity) :
    (putBySeverity groups issue).get? severity.tag =
      if severity = issue.severity then some ((groups.get? severity.tag).getD [] ++ [issue])
      else groups.get? severity.tag := by
  rw [putBySeverity, OrderedMap.get?_set]
  simp only [Severity.tag_inj]
  split
  · rename_i h
    rw [h]
  · rfl

/-- The loop adds the issues of a severity to its group in order, and opens no other group. -/
theorem get?_foldl_putBySeverity (groups : OrderedMap (List Issue)) (issues : List Issue)
    (severity : Severity) :
    (issues.foldl putBySeverity groups).get? severity.tag =
      if ofSeverity severity issues = [] then groups.get? severity.tag
      else some ((groups.get? severity.tag).getD [] ++ ofSeverity severity issues) := by
  induction issues generalizing groups with
  | nil => rfl
  | cons issue issues ih =>
      rw [List.foldl_cons, ih, get?_putBySeverity, ofSeverity_cons]
      by_cases h : issue.severity = severity
      · rw [if_pos h.symm, if_pos h, if_neg (List.cons_ne_nil _ _), Option.getD_some,
          List.append_assoc, List.singleton_append]
        split
        · rename_i hnone
          rw [hnone]
        · rfl
      · rw [if_neg (Ne.symm h), if_neg h]

theorem get?_bySeverity (issues : List Issue) (severity : Severity) :
    (bySeverity issues).get? severity.tag =
      if ofSeverity severity issues = [] then none else some (ofSeverity severity issues) :=
  get?_foldl_putBySeverity ∅ issues severity

/-- At least as severe. -/
def mayPrecede (issue other : Issue) : Bool :=
  issue.severity.rank ≤ other.severity.rank

theorem mayPrecede_trans (first second third : Issue) (h : mayPrecede first second = true)
    (h' : mayPrecede second third = true) : mayPrecede first third = true :=
  decide_eq_true (Nat.le_trans (of_decide_eq_true h) (of_decide_eq_true h'))

theorem mayPrecede_total (issue other : Issue) :
    (mayPrecede issue other || mayPrecede other issue) = true := by
  rw [Bool.or_eq_true]
  exact (Nat.le_total _ _).imp decide_eq_true decide_eq_true

/-- From the most severe to the least; those of one severity keep their order. -/
def sorted (issues : List Issue) : List Issue :=
  issues.mergeSort mayPrecede

theorem pairwise_sorted (issues : List Issue) :
    (sorted issues).Pairwise fun issue other => issue.severity.rank ≤ other.severity.rank :=
  (List.pairwise_mergeSort mayPrecede_trans mayPrecede_total issues).imp of_decide_eq_true

/-- Sorting keeps the order of issues of one severity. -/
theorem ofSeverity_sorted (severity : Severity) (issues : List Issue) :
    ofSeverity severity (sorted issues) = ofSeverity severity issues := by
  have hequal : (ofSeverity severity issues).Pairwise fun issue other =>
      mayPrecede issue other = true := by
    refine List.pairwise_of_forall_mem_list fun issue hissue other hother => decide_eq_true ?_
    rw [(mem_ofSeverity.mp hissue).2, (mem_ofSeverity.mp hother).2]
  have hsub : (ofSeverity severity issues).Sublist (sorted issues) :=
    List.sublist_mergeSort mayPrecede_trans mayPrecede_total hequal List.filter_sublist
  have hkept : (ofSeverity severity issues).Sublist (ofSeverity severity (sorted issues)) := by
    have hfiltered := hsub.filter (·.severity == severity)
    simp only [ofSeverity, List.filter_filter, Bool.and_self] at hfiltered
    exact hfiltered
  have hperm : (ofSeverity severity (sorted issues)).Perm (ofSeverity severity issues) :=
    (List.mergeSort_perm issues _).filter _
  exact (hkept.eq_of_length hperm.length_eq.symm).symm

/-- A sorted list is its severities one after another. -/
theorem eq_flatMap_ofSeverity
    (h : issues.Pairwise fun issue other => issue.severity.rank ≤ other.severity.rank) :
    issues = Severity.all.flatMap (ofSeverity · issues) := by
  induction issues with
  | nil => rfl
  | cons issue issues ih =>
      obtain ⟨hfirst, hrest⟩ := List.pairwise_cons.mp h
      have hnone (severity : Severity) (hlt : severity.rank < issue.severity.rank) :
          ofSeverity severity issues = [] := by
        rw [ofSeverity, List.filter_eq_nil_iff]
        intro other hother hsame
        have hle := hfirst other hother
        rw [eq_of_beq hsame] at hle
        omega
      have hissues := ih hrest
      simp only [Severity.all, List.flatMap_cons, List.flatMap_nil, ofSeverity_cons] at hissues ⊢
      -- the issue comes first in its own group, and the groups before that one are empty
      cases hseverity : issue.severity with
      | high => exact congrArg _ hissues
      | medium =>
          rw [hseverity] at hnone
          rw [hnone .high (by decide)] at hissues ⊢
          exact congrArg _ hissues
      | low =>
          rw [hseverity] at hnone
          rw [hnone .high (by decide), hnone .medium (by decide)] at hissues ⊢
          exact congrArg _ hissues
      | clear =>
          rw [hseverity] at hnone
          rw [hnone .high (by decide), hnone .medium (by decide),
            hnone .low (by decide)] at hissues ⊢
          exact congrArg _ hissues

theorem sorted_eq_flatMap (issues : List Issue) :
    sorted issues = Severity.all.flatMap (ofSeverity · issues) := by
  have hsplit := eq_flatMap_ofSeverity (pairwise_sorted issues)
  simpa only [ofSeverity_sorted] using hsplit

/-- The maximal runs of one severity in the sorted issues. -/
def runs (issues : List Issue) : List (List Issue) :=
  (sorted issues).splitBy fun issue other => issue.severity == other.severity

theorem pairwise_all : Severity.all.Pairwise (· ≠ ·) := by
  decide

/-- The runs are the groups that are not empty, from the most severe to the least. -/
theorem runs_eq (issues : List Issue) :
    runs issues = (Severity.all.map (ofSeverity · issues)).filter (· ≠ []) := by
  refine List.splitBy_eq_iff.mpr ⟨?flat, ?full, ?alike, ?apart⟩
  case flat => rw [List.flatten_filter_ne_nil, ← List.flatMap_def, sorted_eq_flatMap]
  case full => simp
  case alike =>
    intro run hrun
    obtain ⟨severity, -, rfl⟩ := List.mem_map.mp (List.mem_of_mem_filter hrun)
    refine (List.pairwise_of_forall_mem_list fun issue hissue other hother => ?_).isChain
    rw [(mem_ofSeverity.mp hissue).2, (mem_ofSeverity.mp hother).2]
    exact beq_self_eq_true severity
  case apart =>
    refine List.Pairwise.isChain ?_
    rw [List.pairwise_filter, List.pairwise_map]
    refine pairwise_all.imp fun {severity other} hne hfirst hsecond => ?_
    rw [decide_eq_true_eq] at hfirst hsecond
    refine ⟨hfirst, hsecond, ?_⟩
    rw [(mem_ofSeverity.mp (List.getLast_mem hfirst)).2,
      (mem_ofSeverity.mp (List.head_mem hsecond)).2]
    exact beq_eq_false_iff_ne.mpr hne

end Issue
end SnippetCoach
