import Mathlib.Data.List.Count
import SnippetCoach.Proofs.Rule.Findings
/-! Batteries: no rule stands twice in one, and the findings of a rule come before those of the
rules after it. Two kinds of rule can find more than one thing. -/
namespace SnippetCoach

theorem Finding.Emitted.kind_eq {kind : RuleKind} {finding : Finding} (h : Emitted kind finding) :
    finding.kind = kind := by
  cases h with
  | plain named line => rfl
  | unused word line => rfl

theorem kind_of_mem_findings {kind : RuleKind} {code : List Char} {finding : Finding}
    (h : finding ∈ kind.findings code) : finding.kind = kind :=
  (emitted_of_mem_findings h).kind_eq

namespace RuleKind

/-- The rule reports every assignment or every line that it finds wanting, not the first one. -/
def Repeats (kind : RuleKind) : Prop :=
  kind = unusedVariable ∨ kind = missingSemicolon

theorem length_onlyIf_le_one (condition : Bool) (kind : RuleKind) (line : Nat) :
    (Finding.onlyIf condition kind line).length ≤ 1 := by
  rw [Finding.onlyIf]
  split
  · exact Nat.le_refl 1
  · exact Nat.zero_le 1

theorem length_indentation_le_one (code : List Char) : (Rule.indentation code).length ≤ 1 := by
  rw [Rule.indentation]
  split
  · split
    · exact Nat.zero_le 1
    · exact Option.length_toList_le
  · exact Nat.zero_le 1

theorem length_findings_le_one {kind : RuleKind} (h : ¬kind.Repeats) (code : List Char) :
    (kind.findings code).length ≤ 1 := by
  cases kind with
  | indentation => exact length_indentation_le_one code
  | unusedVariable => exact absurd (.inl rfl) h
  | missingSemicolon => exact absurd (.inr rfl) h
  | noIssues => exact Nat.zero_le 1
  | _ => exact length_onlyIf_le_one ..

theorem type_ne_success {kind : RuleKind} (h : kind ≠ noIssues) : kind.type ≠ .success := by
  cases kind with
  | noIssues => exact absurd rfl h
  | _ => exact IssueType.noConfusion

theorem severity_ne_clear {kind : RuleKind} (h : kind ≠ noIssues) : kind.severity ≠ .clear := by
  cases kind with
  | noIssues => exact absurd rfl h
  | _ => exact Severity.noConfusion

end RuleKind

namespace Language

theorem nodup_battery (language : Language) : language.battery.Nodup := by
  cases language <;> decide

/-- A kind has a place before all kinds that come after it. -/
theorem pairwise_battery (language : Language) :
    language.battery.Pairwise fun kind later =>
      language.battery.idxOf kind ≤ language.battery.idxOf later := by
  cases language <;> decide

theorem noIssues_notMem_battery (language : Language) : .noIssues ∉ language.battery := by
  cases language <;> decide

end Language

/-- The kinds of all findings: each kind of the battery as often as its rule finds something. -/
theorem map_kind_findings (battery : List RuleKind) (code : List Char) :
    (battery.flatMap fun kind => kind.findings code).map Finding.kind =
      battery.flatMap fun kind => List.replicate (kind.findings code).length kind := by
  rw [List.map_flatMap]
  congr 1
  funext kind
  refine List.eq_replicate_iff.mpr ⟨List.length_map _, ?_⟩
  intro found hfound
  obtain ⟨finding, hfinding, rfl⟩ := List.mem_map.mp hfound
  exact kind_of_mem_findings hfinding

section Order

variable {α : Type} {items : List α}

/-- Elements that stand in order stay so if each is repeated in its place. -/
theorem pairwise_flatMap_replicate {before : α → α → Prop} (hself : ∀ a, before a a)
    (h : items.Pairwise before) (times : α → Nat) :
    (items.flatMap fun a => List.replicate (times a) a).Pairwise before := by
  refine List.pairwise_flatMap.mpr ⟨?_, h.imp ?_⟩
  · intro a _
    exact List.pairwise_replicate.mpr (.inr (hself a))
  · intro a b hbefore x hx y hy
    rw [List.eq_of_mem_replicate hx, List.eq_of_mem_replicate hy]
    exact hbefore

theorem count_flatMap_replicate_le [DecidableEq α] (h : items.Nodup) (times : α → Nat) (a : α) :
    (items.flatMap fun b => List.replicate (times b) b).count a ≤ times a := by
  induction items with
  | nil => exact Nat.zero_le _
  | cons first rest ih =>
      obtain ⟨hfirst, hrest⟩ := List.nodup_cons.mp h
      rw [List.flatMap_cons, List.count_append]
      by_cases heq : first = a
      · subst heq
        have hnone : (rest.flatMap fun b => List.replicate (times b) b).count first = 0 := by
          rw [List.count_eq_zero, List.mem_flatMap]
          rintro ⟨b, hb, hmem⟩
          exact hfirst (List.eq_of_mem_replicate hmem ▸ hb)
        rw [hnone, Nat.add_zero]
        exact Nat.le_of_eq List.count_replicate_self
      · rw [List.count_replicate, if_neg (by simpa using heq), Nat.zero_add]
        exact ih hrest

end Order

end SnippetCoach
