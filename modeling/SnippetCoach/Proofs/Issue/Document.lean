import SnippetCoach.Proofs.Issue.Reading
import SnippetCoach.Proofs.Json.Fields
/-! Issues and their documents: what is written for an issue is read as the same issue. -/
namespace SnippetCoach.Issue

variable {issue : Issue}

/-- The fields of the document of an issue, with those that are left out. -/
def fields (issue : Issue) : List (String × Option Json) :=
  [("type", some (.str issue.type.tag)),
    ("severity", some (.str issue.severity.tag)),
    ("message", some issue.message),
    ("explanation", some issue.explanation),
    ("line", if issue.line == .null then none else some issue.line),
    ("kind", issue.kind.map fun kind => .str kind.tag)]

theorem toJson_eq (issue : Issue) : issue.toJson = .ofFields issue.fields := rfl

theorem nodup_fields (issue : Issue) : (issue.fields.map Prod.fst).Nodup := by
  have hnames : issue.fields.map Prod.fst =
      ["type", "severity", "message", "explanation", "line", "kind"] := rfl
  rw [hnames]
  decide

/-- A line or a kind that is left out is read as none. -/
theorem ofJson?_toJson (issue : Issue) : ofJson? issue.toJson = .ok issue := by
  obtain ⟨stored, hstored⟩ : ∃ stored, issue.toJson = .obj stored := ⟨_, rfl⟩
  have hlookup (name : String) : stored.lookup name = (issue.fields.lookup name).join := by
    rw [← Json.field?_ofFields issue.nodup_fields, ← toJson_eq, hstored]
    rfl
  rw [hstored, ofJson?_eq_ok_iff]
  refine ⟨?type, ?severity, ?message, ?explanation, ?line, ?kind⟩
  case type | severity | message | explanation =>
    rw [hlookup]
    rfl
  case line =>
    have hline : stored.lookup "line" = if issue.line == .null then none else some issue.line :=
      hlookup "line"
    rw [hline]
    split
    · rename_i hnull
      exact (Json.beq_null_iff.mp hnull).symm
    · rfl
  case kind =>
    have hkind : stored.lookup "kind" = issue.kind.map fun kind => .str kind.tag := hlookup "kind"
    rw [hkind]
    cases issue.kind with
    | none => rfl
    | some kind => rfl

theorem mapM_ofJson?_toJson (issues : List Issue) :
    (issues.map toJson).mapM ofJson? = .ok issues := by
  induction issues with
  | nil => rfl
  | cons issue issues ih =>
      rw [List.map_cons, List.mapM_cons, ofJson?_toJson, ih]
      rfl

theorem stands_toJson {levels : Nat} (hmessage : Json.Stands levels issue.message)
    (hexplanation : Json.Stands levels issue.explanation) (hline : Json.Stands levels issue.line) :
    Json.Stands (levels + 1) issue.toJson := by
  refine Json.Stands.ofFields issue.nodup_fields ?_
  intro name value hmem
  simp only [List.mem_cons, Prod.mk.injEq, List.not_mem_nil, or_false] at hmem
  rcases hmem with ⟨-, htype⟩ | ⟨-, hseverity⟩ | ⟨-, htext⟩ | ⟨-, htext⟩ | ⟨-, hplace⟩ | ⟨-, hkind⟩
  · obtain rfl := Option.some.inj htype
    exact .str _
  · obtain rfl := Option.some.inj hseverity
    exact .str _
  · exact Option.some.inj htext ▸ hmessage
  · exact Option.some.inj htext ▸ hexplanation
  · split at hplace
    · cases hplace
    · exact Option.some.inj hplace ▸ hline
  · obtain ⟨kind, -, rfl⟩ := Option.map_eq_some_iff.mp hkind.symm
    exact .str _

end SnippetCoach.Issue
