import SnippetCoach.Analysis
import SnippetCoach.Proofs.Issue.Document
/-! The document of a result can be read: its texts always, its time and lines within the limit of
digits. It has four containers within each other. -/
namespace SnippetCoach
open Number

variable {levels : Nat}

theorem TeachingPoint.stands_toJson (point : TeachingPoint) :
    Json.Stands (levels + 1) point.toJson := by
  have hnames : (["concept", "explanation", "example"] : List String).Nodup := by decide
  refine Json.Stands.ofFields hnames ?_
  intro name value hmem
  simp only [List.mem_cons, Prod.mk.injEq, List.not_mem_nil, or_false] at hmem
  rcases hmem with ⟨-, htext⟩ | ⟨-, htext⟩ | ⟨-, hexample⟩
  · exact Option.some.inj htext ▸ .str _
  · exact Option.some.inj htext ▸ .str _
  · obtain ⟨sample, -, rfl⟩ := Option.map_eq_some_iff.mp hexample.symm
    exact .str _

theorem Json.stands_texts (texts : List String) :
    Stands (levels + 1) (.arr (texts.map .str)) := by
  refine .arr ?_
  rw [List.forall_mem_map]
  exact fun text _ => .str text

theorem Feedback.stands_toJson (feedback : Feedback) :
    Json.Stands (levels + 3) feedback.toJson := by
  have hpoints : Json.Stands (levels + 2)
      (.arr (feedback.teaching.map TeachingPoint.toJson)) := by
    refine .arr ?_
    rw [List.forall_mem_map]
    exact fun point _ => point.stands_toJson
  have hnames : (["summary", "teaching", "questions", "next_steps"] : List String).Nodup := by
    decide
  refine .obj hnames ?_
  simp only [List.forall_mem_cons]
  exact ⟨.str _, hpoints, Json.stands_texts _, Json.stands_texts _, List.forall_mem_nil _⟩

theorem Analysis.stands_toJson {analysis : Analysis}
    (htimestamp : fitsDigitLimit analysis.timestamp = true)
    (hissues : ∀ issue ∈ analysis.issues, Json.Stands (levels + 2) issue.toJson) :
    Json.Stands (levels + 4) analysis.toJson := by
  have hlisted : Json.Stands (levels + 3) (.arr (analysis.issues.map Issue.toJson)) := by
    refine .arr ?_
    rw [List.forall_mem_map]
    exact hissues
  have hnames : (["language", "skill_level", "timestamp", "issues", "feedback"] :
      List String).Nodup := by
    decide
  refine .obj hnames ?_
  simp only [List.forall_mem_cons]
  exact ⟨.str _, .str _, .int htimestamp, hlisted, analysis.feedback.stands_toJson,
    List.forall_mem_nil _⟩

end SnippetCoach
