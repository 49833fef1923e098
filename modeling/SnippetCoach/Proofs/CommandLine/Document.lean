import SnippetCoach.Main
import SnippetCoach.Proofs.CommandLine.Untouched
/-! Runs that print a document. What goes to the standard output is the document of the analysis,
and nothing of the log, of the saved progress or of the wait comes with it. -/
namespace SnippetCoach.CommandLine
open Number

/-- All that the document of an analysis is made from. The language and the skill level are those in
force, by the arguments or else by the settings. -/
structure Subject where
  code : String
  language : String
  skillLevel : String
  now : Binary64
  deriving DecidableEq

/-- The request on its own, without a wait. -/
def Subject.request (subject : Subject) : Request :=
  { code := subject.code
    language := .value (.str subject.language)
    skillLevel := .value (.str subject.skillLevel)
    delay := Binary64.zero false
    now := subject.now }

/-- What the run is to print a document of, if that is what the arguments ask for and the code can
be read. -/
def Situation.subject? (s : Situation) : Option Subject :=
  match Invocation.ofArguments s.arguments, Settings.ofEnvironment s.environment with
  | .run _ (.analyze arguments), .ok settings =>
    match arguments.json, readCode s arguments.file with
    | true, .ok code =>
      some
        { code
          language := (arguments.language.map Language.tag).getD settings.language
          skillLevel := (arguments.skillLevel.map SkillLevel.tag).getD settings.skillLevel
          now := s.now }
    | _, _ => none
  | _, _ => none

/-- The bytes of outputs, each with a line feed after it. The time is that of the log. -/
def printed (time : String) (outputs : List Output) : List UInt8 :=
  Text.Utf8.encode (outputs.flatMap fun output => (textOfOutput time output).toList ++ ['\n'])

section Effects

variable {s : Situation} {settings : Settings} {arguments : AnalyzeArguments} {code : String}

theorem result_run_of_delay (request : Request) (delay : Binary64) :
    { request with delay }.run.result = request.run.result := by
  have hblank : { request with delay }.isBlank = request.isBlank := rfl
  unfold Request.run
  rw [hblank]
  split
  · rfl
  · dsimp only
    cases request.language.label? with
    | error e => rfl
    | ok language =>
        dsimp only
        split <;> rfl

/-- A session that ends well has a result, and shows its document after the events. -/
theorem output_of_sessionEffect {session : Session} {events : List Event} {w : Workspace}
    (h : (sessionEffect true session events w).status = .ok 0)
    (hanalysis : session.result ≠ .ok none) :
    ∃ analysis, session.result = .ok (some analysis) ∧
      (sessionEffect true session events w).output =
        events.map .log ++ [.line analysis.toJson.wide.indentedText] := by
  cases hresult : session.result with
  | error e =>
      simp only [sessionEffect, hresult] at h
      cases h
  | ok found =>
      cases found with
      | none => exact absurd hresult hanalysis
      | some analysis =>
          refine ⟨analysis, rfl, ?_⟩
          simp only [sessionEffect, hresult, analysisLines, if_true]
          rfl

theorem run_ne_none {request : Request} (hblank : request.isBlank = false) :
    request.run.result ≠ .ok none := by
  intro hnone
  rcases request.run_cases hblank with
    ⟨-, hresult | hresult⟩ | ⟨e, -, hresult⟩ | ⟨analysis, -, hresult, -⟩
  · cases hnone.symm.trans hresult
  · cases hnone.symm.trans hresult
  · cases hnone.symm.trans hresult
  · cases hnone.symm.trans hresult

theorem code_of_requestFor {request : Request}
    (h : requestFor s settings arguments code = .ok request) : request.code = code := by
  rcases requestFor_cases s settings arguments code with ⟨-, herror⟩ | ⟨-, _, hrequest, hcode, -⟩
  · cases herror.symm.trans h
  · rw [← Except.ok.inj (hrequest.symm.trans h), hcode]

variable [Machine]

theorem output_of_analyzeCode (h : (analyzeCode s settings arguments code).status = .ok 0)
    (hjson : arguments.json = true) (hblank : Text.allBlank code.toList = false) :
    ∃ request analysis, ∃ events : List Event, requestFor s settings arguments code = .ok request ∧
      request.run.result = .ok (some analysis) ∧
      (analyzeCode s settings arguments code).output =
        events.map .log ++ [.line analysis.toJson.wide.indentedText] := by
  rcases analyzeCode_cases s settings arguments code with
    ⟨e, events, heq⟩ | ⟨request, hrequest, hsession⟩
  · rw [heq] at h
    cases h
  · have hasked : request.isBlank = false := by
      rw [Request.isBlank, code_of_requestFor hrequest]
      exact hblank
    have hanalysis := run_ne_none hasked
    rcases hsession with ⟨tracker, -, heq⟩ | heq <;> rw [heq, hjson] at h ⊢
    · obtain ⟨analysis, hresult, houtput⟩ := output_of_sessionEffect h
        (fun hnone => hanalysis (Tracker.result_of_analyze hnone))
      exact ⟨request, analysis, _, hrequest, Tracker.result_of_analyze hresult, houtput⟩
    · obtain ⟨analysis, hresult, houtput⟩ := output_of_sessionEffect h hanalysis
      exact ⟨request, analysis, _, hrequest, hresult, houtput⟩

end Effects

/-- Of a log and one line only the line is left, whatever the log shows. -/
theorem lines_of_logged (least : Level) (events : List Event) (text : String) :
    ((events.map Output.log ++ [Output.line text]).filter (isShown least)).filter (!isLog ·) =
      [.line text] := by
  have hlog : (events.map Output.log).filter (fun output => !isLog output && isShown least output) =
      [] := by
    rw [List.filter_eq_nil_iff]
    intro output houtput
    obtain ⟨event, -, rfl⟩ := List.mem_map.mp houtput
    exact Bool.false_ne_true
  rw [List.filter_filter, List.filter_append, hlog]
  rfl

theorem stdout_execute [Machine] {s : Situation} {debug : Bool} {command : Command}
    {events : List Event} {text : String} (hdocument : printsDocument command = true)
    (hstatus : (effectOf s command).status = .ok 0)
    (houtput : (effectOf s command).output = events.map .log ++ [.line text]) :
    (execute s debug command).stdout = [.line text] := by
  simp only [execute, hstatus, hdocument, houtput, if_true]
  exact lines_of_logged _ events text

section Documents

variable {s : Situation} {subject : Subject}

theorem Situation.of_subject? (h : s.subject? = some subject) :
    ∃ debug arguments settings,
      Invocation.ofArguments s.arguments = .run debug (.analyze arguments) ∧
      Settings.ofEnvironment s.environment = .ok settings ∧ arguments.json = true ∧
      readCode s arguments.file = .ok subject.code ∧
      ∀ request, requestFor s settings arguments subject.code = .ok request →
        request = { subject.request with delay := request.delay } := by
  unfold subject? at h
  split at h
  · rename_i debug arguments settings hinvocation hsettings
    split at h
    · rename_i code hjson hread
      obtain rfl := Option.some.inj h
      refine ⟨debug, arguments, settings, hinvocation, hsettings, hjson, hread, ?_⟩
      intro request hrequest
      unfold requestFor at hrequest
      split at hrequest
      · exact Except.ok.inj hrequest ▸ rfl
      · cases hrequest
    · cases h
  · cases h

variable [Machine]

/-- A run that succeeds prints the document of the request on its own. -/
theorem printed_document (h : s.subject? = some subject) (hstatus : (run s).status = 0)
    (hblank : Text.allBlank subject.code.toList = false) (time : String) :
    ∃ analysis, subject.request.run.result = .ok (some analysis) ∧
      printed time (run s).stdout =
        Text.Utf8.encode (analysis.toJson.wide.indentedText ++ "\n").toList := by
  obtain ⟨debug, arguments, settings, hinvocation, hsettings, hjson, hread, hrequest⟩ :=
    Situation.of_subject? h
  have heffect :
      effectOf s (.analyze arguments) = analyzeCode s settings arguments subject.code := by
    simp only [effectOf, hsettings, analyze, hread, hblank, Bool.false_eq_true, if_false]
  have hrun : run s = execute s debug (.analyze arguments) := by
    rw [run, hinvocation]
  rw [hrun] at hstatus ⊢
  have hended := status_execute.mp hstatus
  obtain ⟨request, analysis, events, hasked, hresult, houtput⟩ :=
    output_of_analyzeCode (heffect ▸ hended) hjson hblank
  refine ⟨analysis, ?_, ?_⟩
  · rw [hrequest request hasked, result_run_of_delay] at hresult
    exact hresult
  · have hdocument : printsDocument (.analyze arguments) = true := hjson
    rw [stdout_execute hdocument hended (heffect ▸ houtput), printed, List.flatMap_singleton,
      textOfOutput.eq_def, String.toList_append]
    rfl

/-- Runs that succeed print the same bytes for the same subject, and these are one document and a
line feed. -/
theorem printed_document_eq {s s' : Situation} (h : s.subject? = some subject)
    (h' : s'.subject? = some subject) (hblank : Text.allBlank subject.code.toList = false)
    (hstatus : (run s).status = 0) (hstatus' : (run s').status = 0) (time time' : String) :
    printed time (run s).stdout = printed time' (run s').stdout ∧
      ∃ document : Json,
        printed time (run s).stdout =
          Text.Utf8.encode (document.wide.indentedText ++ "\n").toList ∧
        (fitsWord subject.code.length = true → ∀ levels, 4 ≤ levels →
          Json.read levels (codePoints document.wide.indentedText.toList) =
            .ok document.wide) := by
  obtain ⟨analysis, hresult, hprinted⟩ := printed_document h hstatus hblank time
  obtain ⟨same, hsame, hprinted'⟩ := printed_document h' hstatus' hblank time'
  obtain rfl := Option.some.inj (Except.ok.inj (hresult.symm.trans hsame))
  refine ⟨hprinted.trans hprinted'.symm, analysis.toJson, hprinted, ?_⟩
  intro hlength levels hlevels
  have hfits : fitsWord subject.request.code.length = true := hlength
  exact (Request.stands_result hlevels hfits hresult).read_indentedText

end Documents

open scoped Machine

/-- The same snippet in a file, with a file of saved progress that is none. -/
def garbledDirectory : Workspace :=
  { current := []
    nodes := [(["x.py"], .file [120]), (["p.json"], .file [120])] }

def letterX : Subject :=
  { code := "x", language := "python", skillLevel := "beginner", now := .zero false }

/-- A run that counts in a new file, and one with everything reported that cannot save. -/
theorem printed_document_eq_garbled :
    ∃ s s', s = sampleRun ["analyze", "--json"] (.zero false) emptyDirectory ∧
      s' = sampleRun ["--debug", "analyze", "x.py", "--json", "--delay", "0"] (.zero false)
        garbledDirectory ∧
      s.subject? = some letterX ∧ s'.subject? = some letterX ∧
      (run s).status = 0 ∧ (run s').status = 0 ∧
      printed "12:00:00" (run s).stdout = printed "13:00:00" (run s').stdout := by
  obtain ⟨s, hs⟩ : ∃ s, s = sampleRun ["analyze", "--json"] (.zero false) emptyDirectory :=
    ⟨_, rfl⟩
  obtain ⟨s', hs'⟩ : ∃ s', s' = sampleRun ["--debug", "analyze", "x.py", "--json", "--delay", "0"]
    (.zero false) garbledDirectory := ⟨_, rfl⟩
  have hsubject : s.subject? = some letterX := by
    rw [hs]
    decide +kernel
  have hsubject' : s'.subject? = some letterX := by
    rw [hs']
    decide +kernel
  have hstatus : (run s).status = 0 := by
    rw [hs]
    decide +kernel
  have hstatus' : (run s').status = 0 := by
    rw [hs']
    decide +kernel
  have hblank : Text.allBlank letterX.code.toList = false := by decide
  obtain ⟨hsame, -⟩ :=
    printed_document_eq hsubject hsubject' hblank hstatus hstatus' "12:00:00" "13:00:00"
  exact ⟨s, s', hs, hs', hsubject, hsubject', hstatus, hstatus', hsame⟩

end SnippetCoach.CommandLine
