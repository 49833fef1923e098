import SnippetCoach.CommandLine.Run
import SnippetCoach.Proofs.Session
import SnippetCoach.Proofs.Tracker.File
/-! What a run asks of the counters, and that the commands do that to the file of saved progress. -/
namespace SnippetCoach.CommandLine
open Number

/-- The language of an analysis: the one of the arguments before the one of the settings. -/
def effectiveLanguage (settings : Settings) (arguments : AnalyzeArguments) : Option Language :=
  arguments.language.or (Language.ofTag? settings.language)

/-- An analysis completes when its delay is a number and the clock has whole milliseconds. -/
def completes (s : Situation) (arguments : AnalyzeArguments) : Bool :=
  arguments.delay != some none && (timestampOf s.now).isOk

/-- Code that cannot be read or is blank is not counted, nor is anything without tracking. -/
def analyzeDemand (s : Situation) (settings : Settings) (arguments : AnalyzeArguments) : Demand :=
  match readCode s arguments.file with
  | .error _ => .nothing
  | .ok code =>
    if settings.trackProgress && !arguments.noProgress && !Text.allBlank code.toList then
      .count ((detect code (effectiveLanguage settings arguments)).map Issue.type)
        (completes s arguments)
    else .nothing

namespace Situation

/-- What a run asks of the counters, by its arguments, environment, input and files. -/
def demand (s : Situation) : Demand :=
  match Invocation.ofArguments s.arguments, Settings.ofEnvironment s.environment with
  | .run _ (.analyze arguments), .ok settings => analyzeDemand s settings arguments
  | .run _ (.progress arguments), .ok _ =>
    .manage arguments.reset arguments.resolve arguments.count
  | _, _ => .nothing

end Situation

/-- The request that comes of arguments and settings, if the delay is a number. -/
theorem requestFor_cases (s : Situation) (settings : Settings) (arguments : AnalyzeArguments)
    (code : String) :
    (arguments.delay = some none ∧ requestFor s settings arguments code = .error .missingDelay) ∨
    arguments.delay ≠ some none ∧ ∃ request, requestFor s settings arguments code = .ok request ∧
      request.code = code ∧ request.now = s.now ∧ request.IsTagged ∧
      request.language.language? = effectiveLanguage settings arguments := by
  have hlanguage : (GivenTag.value (.str ((arguments.language.map Language.tag).getD
      settings.language))).language? = effectiveLanguage settings arguments := by
    unfold effectiveLanguage
    cases arguments.language with
    | none => rfl
    | some language => exact Language.ofTag?_tag language
  unfold requestFor
  cases hdelay : arguments.delay with
  | none => exact .inr ⟨nofun, _, rfl, rfl, rfl, ⟨rfl, rfl⟩, hlanguage⟩
  | some delay =>
      cases delay with
      | none => exact .inl ⟨rfl, rfl⟩
      | some value => exact .inr ⟨nofun, _, rfl, rfl, rfl, ⟨rfl, rfl⟩, hlanguage⟩

theorem sessionEffect_workspace (json : Bool) (session : Session) (events : List Event)
    (w : Workspace) : (sessionEffect json session events w).workspace = w := by
  unfold sessionEffect
  split
  · rfl
  · rfl
  · split <;> rfl

variable [Machine]

/-- The file keeps a ledger with these counters and can be written. -/
def Carries (path : Path) (w : Workspace) (counters : Counters) : Prop :=
  w.CanWrite path ∧ ∃ ledger, FileStore.Keeps { path, workspace := w } ledger ∧
    ledger.counters = counters

/-- What a command does to the file and the status that it fails with are those of the machine. -/
structure Effect.Refines (effect : Effect) (path : Path) (counters : Counters) (demand : Demand) :
    Prop where
  carries : Carries path effect.workspace (counters.step demand)
  fails : counters.refuses demand = true → ∀ status, effect.status = .ok status → status = 1

section Effects

variable {path : Path} {s : Situation} {settings : Settings} {counters : Counters}
variable {tracker : Tracker FileStore} {w w' : Workspace}

theorem carries_of_inStep (h : tracker.InStep path) :
    Carries path tracker.store.workspace tracker.progress.counters := by
  refine ⟨h.canWrite, tracker.progress, ?_, rfl⟩
  rw [← h.file]
  exact h.keeps

/-- A command that changes nothing when the machine does not. -/
theorem Effect.refines_of_unchanged {effect : Effect} {demand : Demand}
    (h : Carries path effect.workspace counters) (hstep : counters.step demand = counters)
    (hfails : counters.refuses demand = false) : effect.Refines path counters demand := by
  constructor
  · rw [hstep]
    exact h
  · intro hrefuses
    rw [hfails] at hrefuses
    exact nomatch hrefuses

theorem openTracker_of_carries (hpath : (Path.ofText settings.progressFile).expandHome? s.home
    s.users = some path) (h : Carries path s.workspace counters) :
    ∃ tracker, openTracker s settings = .ok tracker ∧ tracker.InStep path ∧
      tracker.progress.counters = counters ∧ tracker.store.workspace = s.workspace := by
  obtain ⟨hwrite, ledger, hkeeps, hcounters⟩ := h
  obtain ⟨tracker, hload, hstep, hprogress, hstore⟩ := Tracker.load_of_keeps hkeeps hwrite
  refine ⟨tracker, ?_, hstep, ?_, ?_⟩
  · simp only [openTracker, hpath, hload, Except.mapError]
  · rw [hprogress, hcounters]
  · rw [hstore]

/-- A session counts its issues when it has a result that can be written down. -/
theorem carries_of_analyze (h : tracker.InStep path) {request : Request}
    (hblank : request.isBlank = false) (htagged : request.IsTagged) :
    Carries path (tracker.analyze request).2.store.workspace
      (tracker.progress.counters.step (.count
        ((detect request.code request.language.language?).map Issue.type)
        (timestampOf request.now).isOk)) := by
  rcases request.run_cases hblank with
    ⟨huntagged, -⟩ | ⟨e, htime, hresult⟩ | ⟨analysis, htime, hresult, hissues, -⟩
  · exact absurd htagged huntagged
  · have hanalyze : (tracker.analyze request).2.store = tracker.store := by
      rw [Tracker.analyze, hresult]
    rw [hanalyze, htime]
    exact carries_of_inStep h
  · have hreported : ({ tracker with events := tracker.events ++ request.run.events } :
        Tracker FileStore).InStep path := ⟨h.key, h.file, h.canWrite, h.keeps⟩
    have hsound := h.keeps.sound.encounterAll (analysis.issues.map Issue.type)
    have hcounters := Ledger.counters_encounterAll tracker.progress
      (analysis.issues.map Issue.type)
    rw [htime, ← hissues]
    by_cases hwritable : (tracker.progress.encounterAll (analysis.issues.map Issue.type)).Writable
    · obtain ⟨after, hupdate, hafter, hprogress⟩ := hreported.update hsound hwritable
      have hanalyze : (tracker.analyze request).2 = after := by
        simp only [Tracker.analyze, hresult, Tracker.record, hupdate]
      have hfits := hsound.writable_iff.mp hwritable
      rw [hcounters] at hfits
      simp only [Counters.step, hfits, Except.isOk, Except.toBool, Bool.and_self, if_true]
      rw [hanalyze, ← hcounters, ← hprogress]
      exact carries_of_inStep hafter
    · have hanalyze : (tracker.analyze request).2.store = tracker.store := by
        simp only [Tracker.analyze, hresult, Tracker.record,
          Tracker.update_of_not_writable hwritable]
      have hfits : (tracker.progress.counters.encounterAll
          (analysis.issues.map Issue.type)).fits = false := by
        rw [← hcounters, ← Bool.not_eq_true]
        exact fun hfits => hwritable (hsound.writable_iff.mpr hfits)
      simp only [Counters.step, hfits, Bool.and_false, Bool.false_eq_true, if_false]
      rw [hanalyze]
      exact carries_of_inStep h

theorem analyzeCode_refines (hpath : (Path.ofText settings.progressFile).expandHome? s.home
    s.users = some path) (h : Carries path s.workspace counters) {arguments : AnalyzeArguments}
    {code : String} (hblank : Text.allBlank code.toList = false) :
    (analyzeCode s settings arguments code).Refines path counters
      (if settings.trackProgress && !arguments.noProgress then
        .count ((detect code (effectiveLanguage settings arguments)).map Issue.type)
          (completes s arguments)
      else .nothing) := by
  unfold analyzeCode
  cases settings.trackProgress && !arguments.noProgress with
  | false =>
      refine Effect.refines_of_unchanged ?_ rfl rfl
      rcases requestFor_cases s settings arguments code with ⟨-, hrequest⟩ | ⟨-, _, hrequest, -⟩
      · simp only [hrequest]
        exact h
      · simp only [hrequest, Bool.false_eq_true, if_false, sessionEffect_workspace]
        exact h
  | true =>
      obtain ⟨tracker, hopen, hstep, rfl, hworkspace⟩ := openTracker_of_carries hpath h
      rcases requestFor_cases s settings arguments code with
        ⟨hdelay, hrequest⟩ | ⟨hdelay, request, hrequest, rfl, hnow, htagged, hlanguage⟩
      · simp only [hopen, hrequest, if_true, completes, hdelay, bne_self_eq_false, Bool.false_and]
        exact Effect.refines_of_unchanged h rfl rfl
      · have hcompletes : completes s arguments = (timestampOf request.now).isOk := by
          rw [completes, hnow, bne_iff_ne.mpr hdelay, Bool.true_and]
        have hcarries := carries_of_analyze hstep hblank htagged
        simp only [hopen, hrequest, if_true, hcompletes, ← hlanguage]
        refine ⟨?_, fun hrefuses => nomatch hrefuses⟩
        rw [sessionEffect_workspace]
        exact hcarries

theorem analyze_refines (hpath : (Path.ofText settings.progressFile).expandHome? s.home
    s.users = some path) (h : Carries path s.workspace counters) (arguments : AnalyzeArguments) :
    (analyze s settings arguments).Refines path counters (analyzeDemand s settings arguments) := by
  unfold analyze analyzeDemand
  cases readCode s arguments.file with
  | error e =>
      refine Effect.refines_of_unchanged ?_ rfl rfl
      cases e with
      | path cause => dsimp only; split <;> exact h
      | _ => exact h
  | ok code =>
      dsimp only
      cases hblank : Text.allBlank code.toList with
      | true =>
          simp only [Bool.not_true, Bool.and_false, Bool.false_eq_true, if_false]
          exact Effect.refines_of_unchanged h rfl rfl
      | false =>
          simp only [Bool.not_false, Bool.and_true, Bool.false_eq_true, if_false]
          exact analyzeCode_refines hpath h hblank

theorem resetIf_inStep (h : tracker.InStep path) (reset : Bool) :
    (resetIf reset tracker).InStep path ∧
      (resetIf reset tracker).progress.counters = tracker.progress.counters.kept reset := by
  cases reset with
  | false => exact ⟨h, rfl⟩
  | true =>
      obtain ⟨hstep, hempty⟩ := h.reset
      refine ⟨hstep.report .progressReset, ?_⟩
      have hprogress : (resetIf true tracker).progress = ∅ := hempty
      rw [hprogress]
      rfl

/-- After a possible reset the tracker resolves what the machine does. -/
theorem resolveIf_inStep (h : tracker.InStep path) (arguments : ProgressArguments) {reset : Bool}
    (hkept : tracker.progress.counters = counters.kept reset) :
    (resolveIf arguments tracker).2.InStep path ∧
      (resolveIf arguments tracker).2.progress.counters =
        counters.step (.manage reset arguments.resolve arguments.count) ∧
      (counters.refuses (.manage reset arguments.resolve arguments.count) = true →
        (resolveIf arguments tracker).1 = .ok false) := by
  unfold resolveIf
  cases arguments.resolve with
  | none =>
      refine ⟨h, hkept, fun hrefuses => ?_⟩
      cases hrefuses
  | some type =>
      rw [Counters.refuses, ← hkept]
      cases hget : tracker.progress.get? type.tag with
      | none =>
          have hreport := h.report (.nothingToResolve type.tag)
          cases arguments.count with
          | none =>
              simp only [hget]
              exact ⟨hreport, hkept, fun _ => trivial⟩
          | some count =>
              simp only [Tracker.resolve, hget, Counters.step, ← hkept,
                Ledger.counters_resolve_of_none count hget]
              exact ⟨hreport, rfl, fun _ => rfl⟩
      | some entry =>
          have hsome : tracker.progress.counters type = some entry := hget
          rw [hsome]
          cases arguments.count with
          | none =>
              simp only [hget]
              refine ⟨h, hkept, fun hrefuses => ?_⟩
              cases hrefuses
          | some count =>
              obtain ⟨after, hresolve, hafter, hcounters⟩ := h.resolve count hget
              simp only [hresolve, Counters.step, ← hkept]
              refine ⟨hafter, hcounters, fun hrefuses => ?_⟩
              cases hrefuses

theorem showProgress_workspace (tracker : Tracker FileStore) (plotter : Plotter) :
    (showProgress tracker plotter none).workspace = tracker.store.workspace := by
  unfold showProgress
  cases progressLine tracker.progress with
  | error e => rfl
  | ok text => rfl

theorem progress_refines (hpath : (Path.ofText settings.progressFile).expandHome? s.home
    s.users = some path) (h : Carries path s.workspace counters) {arguments : ProgressArguments}
    (hchart : arguments.chart = none) :
    (progress s settings arguments).Refines path counters
      (.manage arguments.reset arguments.resolve arguments.count) := by
  obtain ⟨loaded, hopen, hstep, rfl, -⟩ := openTracker_of_carries hpath h
  obtain ⟨hreset, hkept⟩ := resetIf_inStep hstep arguments.reset
  obtain ⟨hresolve, hcounters, hrefused⟩ := resolveIf_inStep hreset arguments hkept
  have hcarries := hcounters ▸ carries_of_inStep hresolve
  unfold progress
  rw [hopen]
  dsimp only
  cases hresolved : (resolveIf arguments (resetIf arguments.reset loaded)).1 with
  | error e => exact ⟨hcarries, fun _ => nofun⟩
  | ok resolved =>
      cases resolved with
      | false => exact ⟨hcarries, fun _ status hstatus => (Except.ok.inj hstatus).symm⟩
      | true =>
          constructor
          · dsimp only
            rw [hchart, showProgress_workspace]
            exact hcarries
          · intro hrefuses
            rw [hrefused hrefuses] at hresolved
            exact nomatch hresolved

end Effects

end SnippetCoach.CommandLine
