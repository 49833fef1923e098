import SnippetCoach.Rule.Battery
/-! What rules report: the fixed message of their kind, or one that names a word of the code. -/
namespace SnippetCoach
open Text

/-- The findings that a rule of a kind can have. -/
inductive Finding.Emitted : RuleKind → Finding → Prop where
  | plain {kind : RuleKind} (named : kind ≠ .unusedVariable) (line : Nat) :
      Emitted kind (.plain kind line)
  | unused {name : List Char} (word : ∀ c ∈ name, isWordChar c = true) (line : Nat) :
      Emitted .unusedVariable
        { kind := .unusedVariable, line
          message := RuleKind.message .unusedVariable (String.ofList name) }

theorem emitted_of_mem_onlyIf {condition : Bool} {kind : RuleKind} {line : Nat} {finding : Finding}
    (named : kind ≠ .unusedVariable) (h : finding ∈ Finding.onlyIf condition kind line) :
    Finding.Emitted kind finding := by
  rw [Finding.onlyIf] at h
  split at h
  · rw [List.mem_singleton.mp h]
    exact .plain named line
  · exact absurd h List.not_mem_nil

theorem emitted_of_mem_indentation {code : List Char} {finding : Finding}
    (h : finding ∈ Rule.indentation code) : Finding.Emitted .indentation finding := by
  rw [Rule.indentation] at h
  split at h
  · split at h
    · exact absurd h List.not_mem_nil
    · obtain ⟨line, -, rfl⟩ := Option.map_eq_some_iff.mp (Option.mem_toList.mp h)
      exact .plain (by decide) line
  · exact absurd h List.not_mem_nil

/-- The names of assignments are words. -/
theorem isWordChar_of_mem_scan {code : List Char} {assignment : Assignment}
    (h : assignment ∈ Assignment.scan code) : ∀ c ∈ assignment.name, isWordChar c = true := by
  fun_induction Assignment.scan code with
  | case1 => exact absurd h List.not_mem_nil
  | case2 c rest hc name matched remaining _ ih =>
      rcases List.mem_cons.mp h with rfl | hmem
      · exact List.forall_mem_cons.mpr ⟨hc, List.all_eq_true.mp List.all_takeWhile⟩
      · exact ih hmem
  | case3 c rest hc _ ih => exact ih h
  | case4 c rest hc ih => exact ih h

theorem emitted_of_mem_unusedVariable {code : List Char} {finding : Finding}
    (h : finding ∈ Rule.unusedVariable code) : Finding.Emitted .unusedVariable finding := by
  obtain ⟨assignment, hassignment, rfl⟩ := List.mem_map.mp h
  exact .unused (isWordChar_of_mem_scan (List.mem_filter.mp hassignment).1) _

theorem emitted_of_mem_findings {kind : RuleKind} {code : List Char} {finding : Finding}
    (h : finding ∈ kind.findings code) : Finding.Emitted kind finding := by
  cases kind with
  | indentation => exact emitted_of_mem_indentation h
  | unusedVariable => exact emitted_of_mem_unusedVariable h
  | missingSemicolon =>
      obtain ⟨line, -, rfl⟩ := List.mem_map.mp h
      exact .plain (by decide) line
  | noIssues => exact absurd h List.not_mem_nil
  | _ => exact emitted_of_mem_onlyIf (by decide) h

end SnippetCoach
