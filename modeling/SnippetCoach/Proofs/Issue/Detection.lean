import SnippetCoach.Issue.Basic
import SnippetCoach.Proofs.Rule.Battery
import SnippetCoach.Tag.Given
/-! The shape of what is detected: the issue that reports none, or issues as the rules of the
battery have them. -/
namespace SnippetCoach

namespace GivenTag

/-- The rules that look at a snippet. -/
def battery (language : GivenTag) : List RuleKind :=
  language.language?.elim [] Language.battery

/-- A member of the language, or its tag as it is. -/
def Names (given : GivenTag) (language : Language) : Prop :=
  given = .language language ∨ given = .value (.str language.tag)

theorem names_of_language? {given : GivenTag} {language : Language}
    (h : given.language? = some language) : given.Names language := by
  cases given with
  | language member =>
      obtain rfl := Option.some.inj h
      exact .inl rfl
  | value document =>
      cases document with
      | str label =>
          have htag : language.tag = label := Language.tag_of_ofTag? h
          exact .inr (htag ▸ rfl)
      | null | bool | int | float | arr | obj => cases h
  | skillLevel | issueType | severity => cases h

/-- Two languages have no rules, and what names no language has none. -/
theorem battery_eq_nil {given : GivenTag}
    (h : ∀ language, given.Names language → language = .javascript ∨ language = .java) :
    given.battery = [] := by
  cases hlanguage : given.language? with
  | none => rw [battery, hlanguage, Option.elim_none]
  | some language =>
      rw [battery, hlanguage, Option.elim_some]
      rcases h language (names_of_language? hlanguage) with rfl | rfl
      · rfl
      · rfl

theorem nodup_battery (given : GivenTag) : given.battery.Nodup := by
  rw [battery]
  cases given.language? with
  | none => exact List.nodup_nil
  | some language => exact language.nodup_battery

theorem pairwise_battery (given : GivenTag) :
    given.battery.Pairwise fun kind later =>
      given.battery.idxOf kind ≤ given.battery.idxOf later := by
  rw [battery]
  cases given.language? with
  | none => exact List.Pairwise.nil
  | some language => exact language.pairwise_battery

theorem ne_noIssues_of_mem_battery {given : GivenTag} {kind : RuleKind} (h : kind ∈ given.battery) :
    kind ≠ .noIssues := by
  rintro rfl
  rw [battery] at h
  cases hlanguage : given.language? with
  | none =>
      rw [hlanguage] at h
      exact absurd h List.not_mem_nil
  | some language =>
      rw [hlanguage] at h
      exact language.noIssues_notMem_battery h

end GivenTag

/-- Issues as the rules of a battery have them, in the order of the rules. -/
structure Genuine (battery : List RuleKind) (issues : List Issue) : Prop where
  severe : ∀ issue ∈ issues, issue.type ≠ .success ∧ issue.severity ≠ .clear
  ruled : ∀ issue ∈ issues, ∃ kind ∈ battery,
    issue.kind = some kind ∧ issue.type = kind.type ∧ issue.severity = kind.severity
  ordered : (issues.filterMap Issue.kind).Pairwise fun kind later =>
    battery.idxOf kind ≤ battery.idxOf later
  single : ∀ kind, ¬kind.Repeats → (issues.filterMap Issue.kind).count kind ≤ 1

variable {code : String} {language : GivenTag}

theorem findings_eq (code : List Char) (language : GivenTag) :
    findings code language.language? = language.battery.flatMap fun kind => kind.findings code :=
  rfl

theorem genuine_of_findings (code : List Char) (language : GivenTag) :
    Genuine language.battery ((findings code language.language?).map Issue.ofFinding) := by
  have hkinds : ((findings code language.language?).map Issue.ofFinding).filterMap Issue.kind =
      language.battery.flatMap fun kind => List.replicate (kind.findings code).length kind := by
    rw [← map_kind_findings, ← findings_eq, List.filterMap_map]
    exact congrFun List.filterMap_eq_map _
  have hruled : ∀ issue ∈ (findings code language.language?).map Issue.ofFinding,
      ∃ kind ∈ language.battery,
        issue.kind = some kind ∧ issue.type = kind.type ∧ issue.severity = kind.severity := by
    intro issue hissue
    obtain ⟨finding, hfinding, rfl⟩ := List.mem_map.mp hissue
    obtain ⟨kind, hkind, hfound⟩ := List.mem_flatMap.mp hfinding
    obtain rfl := kind_of_mem_findings hfound
    exact ⟨finding.kind, hkind, rfl, rfl, rfl⟩
  refine ⟨?severe, hruled, ?ordered, ?single⟩
  case severe =>
    intro issue hissue
    obtain ⟨kind, hkind, -, htype, hseverity⟩ := hruled issue hissue
    have hreal := GivenTag.ne_noIssues_of_mem_battery hkind
    exact ⟨htype ▸ RuleKind.type_ne_success hreal, hseverity ▸ RuleKind.severity_ne_clear hreal⟩
  case ordered =>
    have hself (kind : RuleKind) : language.battery.idxOf kind ≤ language.battery.idxOf kind :=
      Nat.le_refl _
    rw [hkinds]
    exact pairwise_flatMap_replicate hself language.pairwise_battery _
  case single =>
    intro kind hrepeats
    rw [hkinds]
    exact Nat.le_trans (count_flatMap_replicate_le language.nodup_battery _ kind)
      (RuleKind.length_findings_le_one hrepeats code)

theorem findings_eq_nil_iff {code : List Char} :
    findings code language.language? = [] ↔ ∀ kind ∈ language.battery, kind.findings code = [] :=
  List.flatMap_eq_nil_iff

/-- Without findings the issue that reports none, otherwise an issue for each finding. -/
theorem detect_cases (code : String) (language : GivenTag) :
    (findings code.toList language.language? = [] ∧
      detect code language.language? = [Issue.noIssues]) ∨
    (findings code.toList language.language? ≠ [] ∧
      detect code language.language? =
        (findings code.toList language.language?).map Issue.ofFinding ∧
      Genuine language.battery (detect code language.language?)) := by
  cases hfound : findings code.toList language.language? with
  | nil =>
      refine .inl ⟨rfl, ?_⟩
      rw [detect, hfound]
      rfl
  | cons finding rest =>
      have heq : detect code language.language? = (finding :: rest).map Issue.ofFinding := by
        rw [detect, hfound]
        rfl
      refine .inr ⟨List.cons_ne_nil _ _, heq, ?_⟩
      rw [heq, ← hfound]
      exact genuine_of_findings code.toList language

theorem Genuine.ne_noIssues {battery : List RuleKind} {issues : List Issue}
    (h : Genuine battery issues) : issues ≠ [Issue.noIssues] := by
  rintro rfl
  exact (h.severe Issue.noIssues List.mem_cons_self).1 rfl

theorem detect_ne_nil (code : String) (language : GivenTag) :
    detect code language.language? ≠ [] := by
  rcases detect_cases code language with ⟨-, heq⟩ | ⟨hsome, heq, -⟩
  · rw [heq]
    exact List.cons_ne_nil _ _
  · rw [heq, ne_eq, List.map_eq_nil_iff]
    exact hsome

/-- The issue that reports none stands alone, and exactly where no rule finds anything. Otherwise
all issues are those of rules, in their order, and most kinds stand once. -/
theorem detect_noIssues_or_genuine (code : String) (language : GivenTag) :
    detect code language.language? ≠ [] ∧
      (detect code language.language? = [Issue.noIssues] ∨
        Genuine language.battery (detect code language.language?)) ∧
      (detect code language.language? = [Issue.noIssues] ↔
        ∀ kind ∈ language.battery, kind.findings code.toList = []) ∧
      ((∀ member, language.Names member → member = .javascript ∨ member = .java) →
        detect code language.language? = [Issue.noIssues]) := by
  have hiff : detect code language.language? = [Issue.noIssues] ↔
      ∀ kind ∈ language.battery, kind.findings code.toList = [] := by
    rw [← findings_eq_nil_iff]
    rcases detect_cases code language with ⟨hnone, heq⟩ | ⟨hsome, -, hgenuine⟩
    · exact iff_of_true heq hnone
    · exact iff_of_false hgenuine.ne_noIssues hsome
  refine ⟨detect_ne_nil code language, ?_, hiff, ?_⟩
  · rcases detect_cases code language with ⟨-, heq⟩ | ⟨-, -, hgenuine⟩
    · exact .inl heq
    · exact .inr hgenuine
  · intro hnames
    rw [hiff, GivenTag.battery_eq_nil hnames]
    exact List.forall_mem_nil _

end SnippetCoach
