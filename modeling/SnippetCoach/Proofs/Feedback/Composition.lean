import SnippetCoach.Proofs.Issue.Views
/-! Feedback on issues is put together from the feedback on each of them: what they teach and ask,
in their order, under a summary that the number of severe ones decides. -/
namespace SnippetCoach

/-- A kind tells its lesson, and a message that is text can be searched for kinds. -/
theorem Issue.exists_lessons {issue : Issue} (h : ∃ text, issue.message = .str text)
    (beginner : Bool) : ∃ lessons, issue.lessons beginner = .ok lessons := by
  cases hkind : issue.kind with
  | some kind => exact ⟨_, lessons_of_kind hkind beginner⟩
  | none =>
      obtain ⟨text, htext⟩ := h
      have herase : issue.erase = issue := by rw [erase, ← hkind]
      exact ⟨_, herase ▸ lessons_erase htext beginner⟩

namespace Feedback

variable {issue : Issue} {issues : List Issue} {beginner : Bool}

/-- The count of severe issues in words. -/
def severeText (high : Nat) : String :=
  toString high ++ " critical issue" ++ if 1 < high then "s" else ""

theorem countText_natCast {high : Nat} (h : high ≠ 0) : countText high = severeText high := by
  have htext : toString (high : Int) = toString high := rfl
  rw [countText, severeText, htext, String.append_assoc]
  by_cases hmany : 1 < high
  · have hplural : ¬(high : Int) = 1 := by omega
    rw [if_neg hplural, if_pos hmany]
    rfl
  · have hsingle : (high : Int) = 1 := by omega
    rw [if_pos hsingle, if_neg hmany]
    rfl

/-- Issues of which none stands for success have the feedback of their lessons. -/
theorem synthesize_eq_ok {lessons : List (List Lesson)}
    (hreal : ∀ issue ∈ issues, issue.type ≠ .success)
    (hlessons : issues.mapM (Issue.lessons beginner) = .ok lessons) :
    ∃ feedback, synthesize issues beginner = .ok feedback ∧
      feedback.teaching = lessons.flatten.map Lesson.point ∧
      feedback.questions = lessons.flatten.filterMap Lesson.question? := by
  rw [synthesize, head?_any_success hreal, if_neg Bool.false_ne_true, hlessons]
  exact ⟨_, rfl, rfl, rfl⟩

/-- Each issue has feedback of its own, and one after the other they teach and ask what the lessons
of all of them do. -/
theorem exists_parts (hreal : ∀ issue ∈ issues, issue.type ≠ .success)
    (htext : ∀ issue ∈ issues, ∃ text, issue.message = .str text) :
    ∃ lessons parts, issues.mapM (Issue.lessons beginner) = .ok lessons ∧
      issues.mapM (fun issue => synthesize [issue] beginner) = .ok parts ∧
      lessons.flatten.map Lesson.point = parts.flatMap teaching ∧
      lessons.flatten.filterMap Lesson.question? = parts.flatMap questions := by
  induction issues with
  | nil => exact ⟨[], [], rfl, rfl, rfl, rfl⟩
  | cons issue issues ih =>
      obtain ⟨hissue, hrest⟩ := List.forall_mem_cons.mp hreal
      obtain ⟨hmessage, hmessages⟩ := List.forall_mem_cons.mp htext
      obtain ⟨others, parts, hothers, hparts, hteaching, hquestions⟩ := ih hrest hmessages
      obtain ⟨lessons, hlessons⟩ := issue.exists_lessons hmessage beginner
      have hsingle : [issue].mapM (Issue.lessons beginner) = .ok [lessons] := by
        rw [List.mapM_cons, hlessons]
        rfl
      obtain ⟨part, hpart, hpoints, hasked⟩ :=
        synthesize_eq_ok (List.forall_mem_singleton.mpr hissue) hsingle
      rw [List.flatten_singleton] at hpoints hasked
      refine ⟨lessons :: others, part :: parts, ?_, ?_, ?_, ?_⟩
      · rw [List.mapM_cons, hlessons, hothers]
        rfl
      · rw [List.mapM_cons, hpart, hparts]
        rfl
      · rw [List.flatten_cons, List.map_append, hteaching, List.flatMap_cons, hpoints]
      · rw [List.flatten_cons, List.filterMap_append, hquestions, List.flatMap_cons, hasked]

/-- The feedback on issues is made of parts, one for each issue. Only the summary and the next steps
look at all issues: at how many are severe, and at whether one is of logic. -/
structure Composed (issues : List Issue) (beginner : Bool) (feedback : Feedback)
    (parts : List Feedback) : Prop where
  alone : issues.mapM (fun issue => synthesize [issue] beginner) = .ok parts
  teaching : feedback.teaching = parts.flatMap Feedback.teaching
  questions : feedback.questions = parts.flatMap Feedback.questions
  improving : feedback.summary = improvement ↔ issues.countP (·.severity == .high) = 0
  critical : issues.countP (·.severity == .high) ≠ 0 →
    feedback.summary =
      Feedback.critical (severeText (issues.countP (·.severity == .high))) beginner
  nextSteps : feedback.nextSteps =
    if ∃ issue ∈ issues, issue.type = .logic then logicSteps else generalSteps

/-- Issues with or without kinds, none of which stands for success, have feedback that is composed
of that on each alone. A learner whose skill level has a text gets it. -/
theorem synthesize_composed (skillLevel : GivenTag)
    (hreal : ∀ issue ∈ issues, issue.type ≠ .success)
    (htext : ∀ issue ∈ issues, ∃ text, issue.message = .str text) :
    ∃ feedback parts, synthesize issues skillLevel.isBeginner = .ok feedback ∧
      forLearner issues skillLevel = (skillLevel.whenWritable feedback).mapError .tag ∧
      Composed issues skillLevel.isBeginner feedback parts := by
  obtain ⟨lessons, parts, hlessons, hparts, hpoints, hasked⟩ := exists_parts hreal htext
  obtain ⟨feedback, hfeedback, hteaching, hquestions⟩ := synthesize_eq_ok hreal hlessons
  obtain ⟨hsummary, hsteps⟩ := synthesize_of_no_success hreal hfeedback
  refine ⟨feedback, parts, hfeedback, forLearner_eq hfeedback, hparts, hteaching.trans hpoints,
    hquestions.trans hasked, ?improving, ?critical, ?nextSteps⟩
  case improving =>
    rw [hsummary, summaryFor_eq_improvement_iff, Int.natCast_eq_zero]
  case critical =>
    intro hsome
    rw [hsummary, summaryFor_of_ne_zero hsome, countText_natCast hsome]
  case nextSteps =>
    rw [hsteps]
    simp only [List.any_eq_true, beq_iff_eq]

/-- A message can tell two kinds; the type of the issue lets the lessons of both through, or of
one. -/
theorem synthesize_composed_untagged :
    let untagged (type : IssueType) (severity : Severity) (message : String) : Issue :=
      { type, severity, message := .str message, explanation := .str "", line := .null
        kind := none }
    let issues :=
      [untagged .logic .high "memory leak, base case", untagged .concept .low "null reference",
        untagged .syntactic .high "a base case without a semicolon", Issue.ofFinding
          (.plain .memoryLeak 2)]
    (∀ issue ∈ issues, issue.type ≠ .success) ∧
      (∀ issue ∈ issues, ∃ text, issue.message = .str text) ∧
      ∃ feedback parts, forLearner issues (.skillLevel .beginner) = .ok feedback ∧
        Composed issues true feedback parts ∧
        feedback.teaching.map TeachingPoint.concept =
          ["Recursive Base Cases", "Memory Management", "Null Safety", "Statement Terminators",
            "Memory Management"] := by
  intro untagged issues
  have hreal : ∀ issue ∈ issues, issue.type ≠ .success := by decide
  have htext : ∀ issue ∈ issues, ∃ text, issue.message = .str text := by
    simp [issues, untagged, Issue.ofFinding]
  obtain ⟨feedback, parts, hfeedback, hlearner, hcomposed⟩ :=
    synthesize_composed (.skillLevel .beginner) hreal htext
  refine ⟨hreal, htext, feedback, parts, hlearner, hcomposed, ?_⟩
  have hconcepts : (synthesize issues true).map
      (fun feedback => feedback.teaching.map TeachingPoint.concept) =
      .ok ["Recursive Base Cases", "Memory Management", "Null Safety", "Statement Terminators",
        "Memory Management"] := rfl
  have hsame : synthesize issues true = .ok feedback := hfeedback
  rw [hsame] at hconcepts
  exact Except.ok.inj hconcepts

end Feedback
end SnippetCoach
