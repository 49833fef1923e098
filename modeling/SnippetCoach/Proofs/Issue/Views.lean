import SnippetCoach.Proofs.Feedback.Dispatch
import SnippetCoach.Proofs.Issue.Detection
import SnippetCoach.Proofs.Metrics
import SnippetCoach.Proofs.Progress.Counters
import SnippetCoach.Proofs.Report
import SnippetCoach.Proofs.Rule.Location
import SnippetCoach.Proofs.Tracker.Answers
/-! Metrics, feedback, report and progress all count the issues of a snippet, each in its own way.
They agree on what is detected. -/
namespace SnippetCoach
open Number Text

namespace Feedback

/-- The summary when no issue is of high severity. -/
def improvement : String :=
  "Your code runs, but there are some improvements we can make."

/-- How issues of high severity are counted. -/
def countText (high : Int) : String :=
  toString high ++ if high = 1 then " critical issue" else " critical issues"

/-- The summary with the count of issues of high severity. -/
def critical (count : String) (beginner : Bool) : String :=
  if beginner then
    "I found " ++ count ++ " that will prevent your code from running correctly. " ++
      "Let's work through them together!"
  else count ++ " detected. Review the base cases and control flow."

theorem summaryFor_of_ne_zero {high : Nat} (h : high ≠ 0) (beginner : Bool) :
    summaryFor high beginner = critical (countText high) beginner := by
  have htext : toString (high : Int) = toString high := rfl
  simp only [summaryFor, if_neg h, critical, countText, htext]
  by_cases hsingle : high = 1
  · subst hsingle
    rfl
  · have hmany : 1 < high := by omega
    have hplural : ¬(high : Int) = 1 := by omega
    rw [if_pos hmany, if_neg hplural]

/-- Every other summary begins with another letter. -/
theorem summaryFor_eq_improvement_iff {high : Nat} {beginner : Bool} :
    summaryFor high beginner = improvement ↔ (high : Int) = 0 := by
  constructor
  · intro heq
    by_contra hsome
    have hhead : (summaryFor high beginner).toList.head? = some 'Y' := by
      rw [heq]
      rfl
    rw [summaryFor_of_ne_zero (fun hzero => hsome (Int.natCast_eq_zero.mpr hzero)), critical,
      countText] at hhead
    cases beginner with
    | true =>
        have hopening : "I found ".toList = 'I' :: " found ".toList := rfl
        simp only [if_true, String.toList_append, hopening, List.cons_append, List.head?_cons,
          Option.some.injEq] at hhead
        exact absurd hhead (by decide)
    | false =>
        obtain ⟨c, more, hdigits, hdigit⟩ := natDigits_head high
        have htext : (toString (high : Int)).toList = c :: more := Nat.toList_repr.trans hdigits
        simp only [Bool.false_eq_true, if_false, String.toList_append, htext, List.cons_append,
          List.head?_cons, Option.some.injEq] at hhead
        rw [hhead] at hdigit
        exact absurd hdigit (by decide)
  · intro hzero
    rw [Int.natCast_eq_zero.mp hzero]
    rfl

theorem head?_any_success {issues : List Issue} (h : ∀ issue ∈ issues, issue.type ≠ .success) :
    issues.head?.any (·.type == .success) = false := by
  cases issues with
  | nil => rfl
  | cons issue issues => exact beq_eq_false_iff_ne.mpr (h issue List.mem_cons_self)

theorem synthesize_of_no_success {issues : List Issue} {beginner : Bool} {feedback : Feedback}
    (h : ∀ issue ∈ issues, issue.type ≠ .success)
    (hfeedback : synthesize issues beginner = .ok feedback) :
    feedback.summary = summaryFor (issues.countP (·.severity == .high)) beginner ∧
      feedback.nextSteps = if issues.any (·.type == .logic) then logicSteps else generalSteps := by
  rw [synthesize, head?_any_success h] at hfeedback
  simp only [Bool.false_eq_true, if_false] at hfeedback
  cases hlessons : issues.mapM (Issue.lessons beginner) with
  | error cause =>
      rw [hlessons] at hfeedback
      cases hfeedback
  | ok lessons =>
      rw [hlessons] at hfeedback
      obtain rfl := Except.ok.inj hfeedback
      exact ⟨rfl, rfl⟩

end Feedback

theorem Tracker.encounters_record {σ : Type} [Store σ] (tracker : Tracker σ) (issues : List Issue)
    (name : String) :
    (tracker.record issues).2.progress.encounters name =
      tracker.progress.encounters name + Ledger.tally (issues.map Issue.type) name := by
  obtain ⟨after, heq, hafter⟩ :=
    tracker.update_eq (tracker.progress.encounterAll (issues.map Issue.type))
  rw [record, heq, hafter, Ledger.encounters_encounterAll]

/-- The views of issues that are there count the same. -/
structure Counted (issues : List Issue) (metrics : Metrics) (feedback : Feedback)
    (beginner : Bool) : Prop where
  severities : metrics.high + metrics.medium + metrics.low = metrics.total
  total : metrics.total = issues.length
  types : metrics.types.total = metrics.total
  headings : headings (Issue.listText issues).toList =
    (Issue.groupHeadings [(.high, metrics.high), (.medium, metrics.medium),
      (.low, metrics.low)]).map String.toList
  improving : feedback.summary = Feedback.improvement ↔ metrics.high = 0
  critical : metrics.high ≠ 0 →
    feedback.summary = Feedback.critical (Feedback.countText metrics.high) beginner
  logic : feedback.nextSteps = Feedback.logicSteps ↔ (metrics.types.get? "logic").isSome = true
  progress : ∀ {σ : Type} [Store σ] (tracker : Tracker σ) (name : String),
    (tracker.record issues).2.progress.encounters name =
      tracker.progress.encounters name + (metrics.types.get? name).getD 0

/-- The views of issues agree whether there are any, and on those that are there. -/
structure Agree (issues : List Issue) (metrics : Metrics) (feedback : Feedback)
    (beginner : Bool) : Prop where
  clean : metrics.clean = true ↔ issues = [Issue.noIssues]
  success : feedback = Feedback.success beginner ↔ issues = [Issue.noIssues]
  counted : issues ≠ [Issue.noIssues] → Counted issues metrics feedback beginner

section Genuine

variable {battery : List RuleKind} {issues : List Issue} {feedback : Feedback} {beginner : Bool}

theorem Genuine.isClean (h : Genuine battery issues) : Metrics.isClean issues = false := by
  rw [Bool.eq_false_iff, ne_eq, Metrics.isClean_iff]
  rintro ⟨hsome, hall⟩
  obtain ⟨issue, hissue⟩ := List.exists_mem_of_ne_nil issues hsome
  exact (h.severe issue hissue).1 (hall issue hissue)

theorem Genuine.logic_iff (duration : Option Int) (h : Genuine battery issues) :
    ((Metrics.ofIssues issues duration).types.get? "logic").isSome = true ↔
      issues.any (·.type == .logic) = true := by
  rw [Metrics.ofIssues_of_not_clean h.isClean, Metrics.isSome_foldl_countType, List.any_eq_true]
  have hnone : ((∅ : OrderedMap Int).get? "logic").isSome = false := rfl
  simp only [hnone, Bool.false_eq_true, false_or, beq_iff_eq]
  constructor
  · rintro ⟨issue, hissue, htag⟩
    exact ⟨issue, hissue, IssueType.tag_injective htag⟩
  · rintro ⟨issue, hissue, htype⟩
    exact ⟨issue, hissue, congrArg IssueType.tag htype⟩

theorem Genuine.headings (h : Genuine battery issues)
    (hunbroken : ∀ issue ∈ issues, issue.Unbroken) :
    headings (Issue.listText issues).toList =
      (Issue.groupHeadings [(.high, issues.countP (·.severity == .high)),
        (.medium, issues.countP (·.severity == .medium)),
        (.low, issues.countP (·.severity == .low))]).map String.toList := by
  have hclear : issues.countP (·.severity == .clear) = 0 := by
    rw [List.countP_eq_zero]
    intro issue hissue hseverity
    exact (h.severe issue hissue).2 (eq_of_beq hseverity)
  rw [Issue.headings_listText hunbroken]
  simp only [Severity.all, List.map_cons, List.map_nil, hclear]
  have hdropped (counts : List (Severity × Int)) :
      Issue.groupHeadings (counts ++ [(.clear, 0)]) = Issue.groupHeadings counts :=
    (Issue.groupHeadings_append counts _).trans (List.append_nil _)
  exact congrArg (List.map String.toList) (hdropped [_, _, _])

/-- No other feedback has the next steps of success. -/
theorem Genuine.ne_success (h : Genuine battery issues)
    (hfeedback : Feedback.synthesize issues beginner = .ok feedback) :
    feedback ≠ Feedback.success beginner := by
  obtain ⟨-, hsteps⟩ :=
    Feedback.synthesize_of_no_success (fun issue hissue => (h.severe issue hissue).1) hfeedback
  rintro rfl
  have htesting : (Feedback.success beginner).nextSteps = (Feedback.success true).nextSteps := rfl
  rw [htesting] at hsteps
  cases hlogic : issues.any (·.type == .logic) with
  | true =>
      rw [hlogic] at hsteps
      exact absurd hsteps (by decide)
  | false =>
      rw [hlogic] at hsteps
      exact absurd hsteps (by decide)

theorem Genuine.counted (h : Genuine battery issues) (hunbroken : ∀ issue ∈ issues, issue.Unbroken)
    (hfeedback : Feedback.synthesize issues beginner = .ok feedback) (duration : Option Int) :
    Counted issues (Metrics.ofIssues issues duration) feedback beginner := by
  obtain ⟨hsummary, hsteps⟩ :=
    Feedback.synthesize_of_no_success (fun issue hissue => (h.severe issue hissue).1) hfeedback
  have hlogic := h.logic_iff duration
  rw [Metrics.ofIssues_of_not_clean h.isClean] at hlogic ⊢
  refine ⟨?severities, rfl, ?types, h.headings hunbroken, ?improving, ?critical, ?logic, ?progress⟩
  case severities =>
    have hall := Metrics.length_eq_countP fun issue hissue => (h.severe issue hissue).2
    dsimp only
    omega
  case types =>
    exact (Metrics.total_foldl_countType ∅ issues).trans (Int.zero_add _)
  case improving =>
    rw [hsummary]
    exact Feedback.summaryFor_eq_improvement_iff
  case critical =>
    intro hsome
    rw [hsummary]
    have hhigh : issues.countP (·.severity == .high) ≠ 0 := fun hzero =>
      hsome (Int.natCast_eq_zero.mpr hzero)
    exact Feedback.summaryFor_of_ne_zero hhigh beginner
  case logic =>
    rw [hlogic, hsteps]
    cases issues.any (·.type == .logic) with
    | true => exact iff_of_true rfl rfl
    | false => exact iff_of_false (by decide) Bool.false_ne_true
  case progress =>
    intro σ _ tracker name
    have hcount := Metrics.getD_foldl_countType ∅ issues name
    have hempty : ((∅ : OrderedMap Int).get? name).getD 0 = 0 := rfl
    rw [hempty, Int.zero_add] at hcount
    rw [tracker.encounters_record issues name, hcount]

end Genuine

theorem unbroken_of_mem_findings {code : List Char} {language : Option Language} {issue : Issue}
    (h : issue ∈ (findings code language).map Issue.ofFinding) : issue.Unbroken := by
  obtain ⟨finding, hfinding, rfl⟩ := List.mem_map.mp h
  obtain ⟨kind, -, hfound⟩ := List.mem_flatMap.mp hfinding
  exact Issue.unbroken_ofFinding (emitted_of_mem_findings hfound)

/-- The issues of code whose characters a word can count all have a text, and so has their list. -/
theorem listText?_detect {code : String} (hlength : fitsWord code.length = true)
    (language : GivenTag) :
    Issue.listText? (detect code language.language?) =
      .ok (Issue.listText (detect code language.language?)) := by
  have hwritable : (detect code language.language?).all Issue.isWritable = true := by
    rw [List.all_eq_true]
    intro issue hissue
    rcases fits_of_mem_detect hlength hissue with rfl | ⟨finding, rfl, hline⟩
    · rfl
    · simp only [Issue.isWritable, Issue.ofFinding, Json.isWritable, hline, Bool.and_true]
  rw [Issue.listText?, if_pos hwritable]

/-- Code without issues is clean in every view, and all views of other code count alike. Only a
skill level without a text keeps code from its feedback, and no list of the issues of a text that
words can count is without one. -/
theorem views_agree (code : String) (language skillLevel : GivenTag) (duration : Option Int) :
    ∃ feedback,
      Feedback.synthesize (detect code language.language?) skillLevel.isBeginner = .ok feedback ∧
      Feedback.forLearner (detect code language.language?) skillLevel =
        (skillLevel.whenWritable feedback).mapError .tag ∧
      (fitsWord code.length = true →
        Issue.listText? (detect code language.language?) =
          .ok (Issue.listText (detect code language.language?))) ∧
      Agree (detect code language.language?)
        (Metrics.ofIssues (detect code language.language?) duration) feedback
        skillLevel.isBeginner := by
  obtain ⟨feedback, hfeedback⟩ :=
    exists_synthesize_detect code language.language? skillLevel.isBeginner
  refine ⟨feedback, hfeedback, Feedback.forLearner_eq hfeedback,
    fun hlength => listText?_detect hlength language, ?_⟩
  rcases detect_cases code language with ⟨-, heq⟩ | ⟨-, heq, hgenuine⟩
  · rw [heq] at hfeedback ⊢
    obtain rfl := Except.ok.inj hfeedback
    exact ⟨iff_of_true rfl rfl, iff_of_true rfl rfl, fun hsome => absurd rfl hsome⟩
  · have hunbroken : ∀ issue ∈ detect code language.language?, issue.Unbroken := by
      intro issue hissue
      rw [heq] at hissue
      exact unbroken_of_mem_findings hissue
    have hcounted := hgenuine.counted hunbroken hfeedback duration
    exact ⟨iff_of_false (Bool.eq_false_iff.mp hgenuine.isClean) hgenuine.ne_noIssues,
      iff_of_false (hgenuine.ne_success hfeedback) hgenuine.ne_noIssues, fun _ => hcounted⟩

end SnippetCoach
