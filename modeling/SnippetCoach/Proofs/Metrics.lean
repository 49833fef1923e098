import Mathlib.Algebra.BigOperators.Group.List.Basic
import Mathlib.Algebra.Order.Ring.Int
import SnippetCoach.Metrics
import SnippetCoach.Proofs.OrderedMap
import SnippetCoach.Proofs.Progress.Entries
/-! The counts of an analysis: by type they are what progress adds, and by severity and by type they
make up the number of issues. -/
namespace SnippetCoach

namespace OrderedMap

/-- All counts together. -/
def total (counts : OrderedMap Int) : Int :=
  (counts.entries.map Prod.snd).sum

theorem sum_putEntry (key : String) (value : Int) (entries : List (String × Int)) :
    ((putEntry key value entries).map Prod.snd).sum =
      (entries.map Prod.snd).sum - (entries.lookup key).getD 0 + value := by
  induction entries with
  | nil => simp [putEntry]
  | cons entry rest ih =>
      rw [putEntry, lookup_cons_eq_ite]
      by_cases hkey : entry.1 = key
      · rw [if_pos hkey, if_pos hkey.symm]
        simp only [List.map_cons, List.sum_cons, Option.getD_some]
        omega
      · rw [if_neg hkey, if_neg (Ne.symm hkey)]
        simp only [List.map_cons, List.sum_cons, ih]
        omega

theorem total_set (counts : OrderedMap Int) (key : String) (value : Int) :
    (counts.set key value).total = counts.total - (counts.get? key).getD 0 + value :=
  sum_putEntry key value counts.entries

end OrderedMap

namespace Metrics

theorem total_countType (counts : OrderedMap Int) (issue : Issue) :
    (countType counts issue).total = counts.total + 1 := by
  rw [countType, OrderedMap.total_set]
  omega

theorem total_foldl_countType (counts : OrderedMap Int) (issues : List Issue) :
    (issues.foldl countType counts).total = counts.total + issues.length := by
  induction issues generalizing counts with
  | nil => exact (Int.add_zero _).symm
  | cons issue issues ih =>
      rw [List.foldl_cons, ih, total_countType, List.length_cons]
      omega

theorem getD_countType (counts : OrderedMap Int) (issue : Issue) (name : String) :
    ((countType counts issue).get? name).getD 0 =
      (counts.get? name).getD 0 + if issue.type.tag = name then 1 else 0 := by
  rw [countType, OrderedMap.get?_set]
  by_cases hname : issue.type.tag = name
  · subst hname
    rw [if_pos rfl, if_pos rfl, Option.getD_some]
  · rw [if_neg hname, if_neg (Ne.symm hname), Int.add_zero]

/-- Issues are counted by type as progress counts them. -/
theorem getD_foldl_countType (counts : OrderedMap Int) (issues : List Issue) (name : String) :
    ((issues.foldl countType counts).get? name).getD 0 =
      (counts.get? name).getD 0 + Ledger.tally (issues.map Issue.type) name := by
  induction issues generalizing counts with
  | nil => exact (Int.add_zero _).symm
  | cons issue issues ih =>
      rw [List.foldl_cons, ih, getD_countType, Ledger.tally, Ledger.tally, List.map_cons,
        List.countP_cons]
      simp only [decide_eq_true_eq, WideText.ofString_inj]
      split <;> omega

theorem isSome_foldl_countType (counts : OrderedMap Int) (issues : List Issue) (name : String) :
    ((issues.foldl countType counts).get? name).isSome = true ↔
      (counts.get? name).isSome = true ∨ ∃ issue ∈ issues, issue.type.tag = name := by
  induction issues generalizing counts with
  | nil => simp
  | cons issue issues ih =>
      rw [List.foldl_cons, ih, countType, OrderedMap.get?_set]
      by_cases hname : name = issue.type.tag
      · simp [hname]
      · simp [hname, Ne.symm hname]

section Real

variable {issues : List Issue} {duration : Option Int}

theorem isClean_iff : isClean issues = true ↔
    issues ≠ [] ∧ ∀ issue ∈ issues, issue.type = .success := by
  simp [isClean]

theorem ofIssues_of_not_clean (h : isClean issues = false) :
    ofIssues issues duration =
      { total := issues.length
        high := issues.countP (·.severity == .high)
        medium := issues.countP (·.severity == .medium)
        low := issues.countP (·.severity == .low)
        types := issues.foldl countType ∅
        clean := false
        duration } := by
  rw [ofIssues, h]
  rfl

/-- Without clear ones the issues of the three severities are all. -/
theorem length_eq_countP (h : ∀ issue ∈ issues, issue.severity ≠ .clear) :
    issues.length = issues.countP (·.severity == .high) + issues.countP (·.severity == .medium) +
      issues.countP (·.severity == .low) := by
  induction issues with
  | nil => rfl
  | cons issue issues ih =>
      obtain ⟨hfirst, hrest⟩ := List.forall_mem_cons.mp h
      rw [List.length_cons, ih hrest]
      simp only [List.countP_cons]
      cases hseverity : issue.severity with
      | clear => exact absurd hseverity hfirst
      | high | medium | low => simp; omega

end Real

end Metrics
end SnippetCoach
