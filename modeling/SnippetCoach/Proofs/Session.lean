import SnippetCoach.Proofs.Analysis
import SnippetCoach.Proofs.Feedback.Dispatch
import SnippetCoach.Proofs.Issue.Detection
import SnippetCoach.Proofs.Progress.Limit
import SnippetCoach.Proofs.Rule.Location
import SnippetCoach.Proofs.Tag
import SnippetCoach.Session
/-! Sessions and the documents of their results. A document tells enough to detect the issues again
and to make the feedback again. -/
namespace SnippetCoach
open Number Text

theorem Number.Binary64.isCanonical_mul (x y : Binary64) : (x.mul y).IsCanonical := by
  cases x with
  | nan => trivial
  | infinite negative =>
      cases y with
      | nan | infinite => trivial
      | finite =>
          rw [mul]
          split <;> trivial
  | finite negative significand exponent =>
      cases y with
      | nan => trivial
      | infinite =>
          rw [mul]
          split <;> trivial
      | finite =>
          exact isCanonical_nearest _ _ (Nat.mul_pos (powerDen_pos _) (powerDen_pos _))

theorem fitsDigitLimit_timestampOf {now : Binary64} {timestamp : Int}
    (h : timestampOf now = .ok timestamp) : fitsDigitLimit timestamp = true :=
  fitsDigitLimit_truncate (Binary64.isCanonical_mul _ _) h

theorem stands_of_mem_detect {levels : Nat} {code : String} {language : GivenTag} {issue : Issue}
    (hlength : fitsWord code.length = true) (h : issue ∈ detect code language.language?) :
    Json.Stands (levels + 1) issue.toJson := by
  rcases fits_of_mem_detect hlength h with rfl | ⟨finding, rfl, hline⟩
  · exact Issue.stands_toJson (.str _) (.str _) .null
  · exact Issue.stands_toJson (.str _) (.str _) (.int hline)

/-- A result with its time left out. -/
def Analysis.undated (analysis : Analysis) : Analysis :=
  { analysis with timestamp := 0 }

namespace Request

/-- The language and the skill level have texts. -/
def IsTagged (request : Request) : Prop :=
  request.language.isWritable = true ∧ request.skillLevel.isWritable = true

/-- Only its tags and the clock can keep code that is not blank from its result. -/
theorem run_cases (request : Request) (h : request.isBlank = false) :
    (¬request.IsTagged ∧ (request.run.result = .error (.tag .integerTooLong) ∨
      request.run.result = .error (.feedback (.tag .integerTooLong)))) ∨
    (∃ e, timestampOf request.now = .error e ∧ request.run.result = .error (.clock e)) ∨
    ∃ analysis, timestampOf request.now = .ok analysis.timestamp ∧
      request.run.result = .ok (some analysis) ∧
      analysis.issues = detect request.code request.language.language? ∧
      Feedback.synthesize analysis.issues request.skillLevel.isBeginner = .ok analysis.feedback ∧
      analysis.language = request.language.label ∧
      analysis.skillLevel = request.skillLevel.label := by
  obtain ⟨feedback, hfeedback⟩ := exists_synthesize_detect request.code
    request.language.language? request.skillLevel.isBeginner
  have hlearner := Feedback.forLearner_eq hfeedback
  cases hlanguage : request.language.isWritable with
  | false =>
      refine .inl ⟨fun htagged => Bool.false_ne_true (hlanguage.symm.trans htagged.1), .inl ?_⟩
      simp only [run, h, Bool.false_eq_true, if_false, GivenTag.label?,
        GivenTag.whenWritable_of_not_writable hlanguage]
  | true =>
      cases hskillLevel : request.skillLevel.isWritable with
      | false =>
          refine .inl
            ⟨fun htagged => Bool.false_ne_true (hskillLevel.symm.trans htagged.2), .inr ?_⟩
          simp only [run, h, Bool.false_eq_true, if_false, GivenTag.label?, hlearner,
            GivenTag.whenWritable_of_writable hlanguage,
            GivenTag.whenWritable_of_not_writable hskillLevel, Except.mapError]
      | true =>
          simp only [run, h, Bool.false_eq_true, if_false, GivenTag.label?, hlearner, analysis,
            GivenTag.whenWritable_of_writable hlanguage,
            GivenTag.whenWritable_of_writable hskillLevel, Except.mapError]
          cases timestampOf request.now with
          | error e => exact .inr (.inl ⟨e, rfl, rfl⟩)
          | ok timestamp => exact .inr (.inr ⟨_, rfl, rfl, rfl, hfeedback, rfl, rfl⟩)

theorem result_of_blank {request : Request} (h : request.isBlank = true) :
    request.run.result = .ok none := by
  rw [run, if_pos h]

/-- The issues of the code; blank code has none. -/
def issues (request : Request) : List Issue :=
  if request.isBlank then [] else detect request.code request.language.language?

theorem issues_of_result {request : Request} {analysis : Analysis}
    (h : request.run.result = .ok (some analysis)) :
    analysis.issues = request.issues := by
  cases hblank : request.isBlank with
  | true => cases h.symm.trans (result_of_blank hblank)
  | false =>
      rcases request.run_cases hblank with
        ⟨-, herror | herror⟩ | ⟨e, -, herror⟩ | ⟨same, -, hsame, hissues, -⟩
      · cases h.symm.trans herror
      · cases h.symm.trans herror
      · cases h.symm.trans herror
      · obtain rfl := Option.some.inj (Except.ok.inj (h.symm.trans hsame))
        rw [hissues, issues, hblank]
        rfl

/-- Only the time of a result depends on the clock. -/
theorem undated_result {request : Request} {now other : Binary64} {found again : Option Analysis}
    (h : { request with now }.run.result = .ok found)
    (hagain : { request with now := other }.run.result = .ok again) :
    found.map Analysis.undated = again.map Analysis.undated := by
  cases hblank : request.isBlank with
  | true =>
      have hnone : { request with now }.run.result = .ok none := result_of_blank hblank
      have hnone' : { request with now := other }.run.result = .ok none := result_of_blank hblank
      cases hnone.symm.trans h
      cases hnone'.symm.trans hagain
      rfl
  | false =>
      rcases { request with now }.run_cases hblank with
        ⟨-, herror | herror⟩ | ⟨e, -, herror⟩ |
        ⟨first, -, hfirst, hissues, hfeedback, hlanguage, hskillLevel⟩
      · cases h.symm.trans herror
      · cases h.symm.trans herror
      · cases h.symm.trans herror
      rcases { request with now := other }.run_cases hblank with
        ⟨-, herror | herror⟩ | ⟨e, -, herror⟩ |
        ⟨second, -, hsecond, hissues', hfeedback', hlanguage', hskillLevel'⟩
      · cases hagain.symm.trans herror
      · cases hagain.symm.trans herror
      · cases hagain.symm.trans herror
      cases hfirst.symm.trans h
      cases hsecond.symm.trans hagain
      have hsame : first.issues = second.issues := hissues.trans hissues'.symm
      rw [hsame] at hfeedback
      have htaught : first.feedback = second.feedback :=
        Except.ok.inj (hfeedback.symm.trans hfeedback')
      have hnamed : first.language = second.language := hlanguage.trans hlanguage'.symm
      have hlevel : first.skillLevel = second.skillLevel := hskillLevel.trans hskillLevel'.symm
      simp only [Option.map_some, Analysis.undated, hsame, htaught, hnamed, hlevel]

/-- The document of a result has four containers within each other and can be read. -/
theorem stands_result {request : Request} {analysis : Analysis} {levels : Nat}
    (hlevels : 4 ≤ levels) (hlength : fitsWord request.code.length = true)
    (h : request.run.result = .ok (some analysis)) : Json.Stands levels analysis.toJson := by
  obtain ⟨levels, rfl⟩ := Nat.exists_eq_add_of_le' hlevels
  cases hblank : request.isBlank with
  | true => cases h.symm.trans (result_of_blank hblank)
  | false =>
      rcases request.run_cases hblank with
        ⟨-, herror | herror⟩ | ⟨e, -, herror⟩ | ⟨same, htime, hsame, hissues, -⟩
      · cases h.symm.trans herror
      · cases h.symm.trans herror
      · cases h.symm.trans herror
      · obtain rfl := Option.some.inj (Except.ok.inj (h.symm.trans hsame))
        have hstands : ∀ issue ∈ analysis.issues, Json.Stands (levels + 2) issue.toJson := by
          rw [hissues]
          exact fun issue hissue => stands_of_mem_detect hlength hissue
        exact Analysis.stands_toJson (fitsDigitLimit_timestampOf htime) hstands

end Request

/-- The document alone, with the code, gives what it was made from. -/
structure Replays (code : String) (issues : List Issue) (document : Json) : Prop where
  rebuilt : ∃ entries, document.field? "issues" = some (.arr entries) ∧
    entries.mapM Issue.ofJson? = .ok issues
  taught : ∃ skillLevel feedback, document.field? "skill_level" = some skillLevel ∧
    Feedback.forLearner issues (.value skillLevel) = .ok feedback ∧
    document.field? "feedback" = some feedback.toJson
  detected : ∃ language, document.field? "language" = some language ∧
    detect code (GivenTag.value language).language? = issues

namespace Request

variable {request : Request} {timestamp : Int} {levels : Nat}

/-- The text of a result is read as a document that replays it. -/
theorem replays (hcode : request.isBlank = false) (hlength : fitsWord request.code.length = true)
    (htagged : request.IsTagged) (hclock : timestampOf request.now = .ok timestamp)
    (hlevels : 4 ≤ levels) :
    ∃ analysis document, request.run.result = .ok (some analysis) ∧
      Json.read levels (codePoints analysis.toJson.wide.compactText.toList) =
        .ok document.wide ∧
      Replays request.code analysis.issues document := by
  rcases request.run_cases hcode with ⟨huntagged, -⟩ | ⟨e, herror, -⟩ |
    ⟨analysis, -, hresult, hissues, hfeedback, hlanguage, hskillLevel⟩
  · exact absurd htagged huntagged
  · cases hclock.symm.trans herror
  have hread := (stands_result hlevels hlength hresult).read_compactText
  refine ⟨analysis, _, hresult, hread, ⟨?rebuilt, ?taught, ?detected⟩⟩
  case rebuilt =>
    exact ⟨_, rfl, Issue.mapM_ofJson?_toJson analysis.issues⟩
  case taught =>
    rw [← request.skillLevel.isBeginner_written] at hfeedback
    refine ⟨_, analysis.feedback, rfl, ?_, rfl⟩
    rw [hskillLevel]
    exact Feedback.forLearner_eq hfeedback
  case detected =>
    refine ⟨_, rfl, ?_⟩
    rw [hlanguage, hissues]
    exact congrArg (detect request.code) request.language.language?_written

def sample (now : Binary64) : Request :=
  { code := "x"
    language := .language .python
    skillLevel := .skillLevel .beginner
    delay := Binary64.zero false
    now }

theorem exists_result_sample :
    ∃ analysis, (sample (Binary64.zero false)).run.result = .ok (some analysis) := by
  have hcode : (sample (Binary64.zero false)).isBlank = false := by decide
  have hclock : timestampOf (sample (Binary64.zero false)).now = .ok 0 := by decide +kernel
  rcases (sample (Binary64.zero false)).run_cases hcode with
    ⟨huntagged, -⟩ | ⟨e, herror, -⟩ | ⟨analysis, -, hresult, -⟩
  · exact absurd ⟨rfl, rfl⟩ huntagged
  · cases hclock.symm.trans herror
  · exact ⟨analysis, hresult⟩

/-- At the start of the clock the sample has a result. -/
theorem replays_sample :
    ∃ analysis document, (sample (Binary64.zero false)).run.result = .ok (some analysis) ∧
      Json.read 4 (codePoints analysis.toJson.wide.compactText.toList) = .ok document.wide ∧
      Replays (sample (Binary64.zero false)).code analysis.issues document := by
  have hcode : (sample (Binary64.zero false)).isBlank = false := by decide
  have hlength : fitsWord (sample (Binary64.zero false)).code.length = true := by decide
  have hclock : timestampOf (sample (Binary64.zero false)).now = .ok 0 := by decide +kernel
  exact replays hcode hlength ⟨rfl, rfl⟩ hclock (Nat.le_refl 4)

/-- The milliseconds of a finite time can be beyond all numbers, and then there is no result. -/
theorem not_replays_beyond_clock :
    ¬∀ request : Request, request.isBlank = false → fitsWord request.code.length = true →
      request.IsTagged →
      (∃ negative significand exponent, request.now = .finite negative significand exponent) →
      ∃ analysis document, request.run.result = .ok (some analysis) ∧
        Json.read 4 (codePoints analysis.toJson.wide.compactText.toList) = .ok document.wide ∧
        Replays request.code analysis.issues document := by
  intro hclaim
  obtain ⟨request, hrequest⟩ : ∃ request, request = sample (.finite false (2 ^ 53 - 1) 971) :=
    ⟨_, rfl⟩
  have hcode : request.isBlank = false := hrequest ▸ by decide
  have hlength : fitsWord request.code.length = true := hrequest ▸ by decide
  obtain ⟨analysis, -, hresult, -⟩ :=
    hclaim request hcode hlength (hrequest ▸ ⟨rfl, rfl⟩)
      ⟨false, 2 ^ 53 - 1, 971, hrequest ▸ rfl⟩
  have hclock : timestampOf request.now = .error .infinityToInteger := by
    rw [hrequest]
    decide +kernel
  rcases request.run_cases hcode with
    ⟨-, herror | herror⟩ | ⟨e, -, herror⟩ | ⟨analysis, htime, -⟩
  · cases hresult.symm.trans herror
  · cases hresult.symm.trans herror
  · cases hresult.symm.trans herror
  · cases hclock.symm.trans htime

end Request
end SnippetCoach
