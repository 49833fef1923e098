import SnippetCoach.Proofs.CommandLine.Runs
import SnippetCoach.Proofs.Tracker.Analysis
/-! Runs that leave all files as they were. An analysis writes once, after everything in it that can
fail. -/
namespace SnippetCoach.CommandLine
open Number

/-- The arguments ask for an analysis of code that can be read and is blank. -/
def Situation.HasBlankCode (s : Situation) : Prop :=
  ∃ debug arguments code, Invocation.ofArguments s.arguments = .run debug (.analyze arguments) ∧
    readCode s arguments.file = .ok code ∧ Text.allBlank code.toList = true

/-- The files are changed by a success only. -/
def Effect.Spares (effect : Effect) (w : Workspace) : Prop :=
  effect.status = .ok 0 ∨ effect.workspace = w

section Effects

variable {s : Situation} {settings : Settings} {arguments : AnalyzeArguments} {code : String}

theorem exists_analysisLines (json : Bool) (analysis : Analysis) :
    ∃ lines, analysisLines json analysis = .ok lines := by
  cases json with
  | true => exact ⟨_, rfl⟩
  | false => exact ⟨_, rfl⟩

/-- A session with a result ends well: its issues have no duration that could not be written. -/
theorem status_sessionEffect {session : Session} {found : Option Analysis}
    (h : session.result = .ok found) (json : Bool) (events : List Event) (w : Workspace) :
    (sessionEffect json session events w).status = .ok 0 := by
  cases found with
  | none => simp only [sessionEffect, h]
  | some analysis =>
      obtain ⟨lines, hlines⟩ := exists_analysisLines json analysis
      simp only [sessionEffect, h, hlines]

variable [Machine]

theorem store_of_openTracker {tracker : Tracker FileStore}
    (h : openTracker s settings = .ok tracker) : tracker.store.workspace = s.workspace := by
  rw [openTracker] at h
  split at h
  · cases h
  · rename_i path hpath
    have hload := mapError_eq_ok_iff.mp h
    have hstore := Tracker.store_after_load
      (Tracker.new { path, workspace := s.workspace } Tracker.defaultKey : Tracker FileStore)
    rw [Tracker.after, Tracker.perform, hload] at hstore
    exact congrArg FileStore.workspace hstore

/-- Analyzing ends early, or it shows a session: one that a tracker counted, or one on its own. -/
theorem analyzeCode_cases (s : Situation) (settings : Settings) (arguments : AnalyzeArguments)
    (code : String) :
    (∃ e events, analyzeCode s settings arguments code = Effect.early s (.error e) events) ∨
    ∃ request, requestFor s settings arguments code = .ok request ∧
      ((∃ tracker, openTracker s settings = .ok tracker ∧
        analyzeCode s settings arguments code =
          sessionEffect arguments.json (tracker.analyze request).1
            (tracker.analyze request).2.events (tracker.analyze request).2.store.workspace) ∨
      analyzeCode s settings arguments code =
        sessionEffect arguments.json request.run request.run.events s.workspace) := by
  unfold analyzeCode
  dsimp only
  cases requestFor s settings arguments code with
  | error e =>
      left
      split
      · cases openTracker s settings with
        | error cause => exact ⟨cause, [], rfl⟩
        | ok tracker => exact ⟨e, tracker.events, rfl⟩
      · exact ⟨e, [], rfl⟩
  | ok request =>
      split
      · cases openTracker s settings with
        | error cause => exact .inl ⟨cause, [], rfl⟩
        | ok tracker => exact .inr ⟨request, rfl, .inl ⟨tracker, rfl, rfl⟩⟩
      · exact .inr ⟨request, rfl, .inr rfl⟩

theorem spares_analyzeCode : (analyzeCode s settings arguments code).Spares s.workspace := by
  rcases analyzeCode_cases s settings arguments code with
    ⟨e, events, heq⟩ | ⟨request, -, ⟨tracker, hopen, heq⟩ | heq⟩
  · rw [heq]
    exact .inr rfl
  · rw [heq]
    cases hresult : (tracker.analyze request).1.result with
    | error e =>
        right
        rw [sessionEffect_workspace, Tracker.store_analyze_of_error hresult]
        exact store_of_openTracker hopen
    | ok found => exact .inl (status_sessionEffect hresult _ _ _)
  · rw [heq]
    exact .inr (sessionEffect_workspace _ _ _ _)

theorem spares_analyze : (analyze s settings arguments).Spares s.workspace := by
  unfold analyze
  split
  · split <;> exact .inr rfl
  · exact .inr rfl
  · split
    · exact .inr rfl
    · exact spares_analyzeCode

/-- Blank code is neither waited for nor counted. -/
theorem analyze_of_blank (hread : readCode s arguments.file = .ok code)
    (hblank : Text.allBlank code.toList = true) :
    analyze s settings arguments = Effect.early s (.ok 0) [.noCode] := by
  simp only [analyze, hread, hblank, if_true]

end Effects

section Runs

variable [Machine]

theorem status_execute {s : Situation} {debug : Bool} {command : Command} :
    (execute s debug command).status = 0 ↔ (effectOf s command).status = .ok 0 := by
  cases hstatus : (effectOf s command).status with
  | error e => simp [execute, hstatus]
  | ok status => simp [execute, hstatus]

theorem effectOf_analyze_spares {s : Situation} {arguments : AnalyzeArguments} :
    (effectOf s (.analyze arguments)).Spares s.workspace := by
  unfold effectOf
  split
  · exact .inr rfl
  · exact spares_analyze

theorem effectOf_of_blank {s : Situation} {arguments : AnalyzeArguments} {code : String}
    (hread : readCode s arguments.file = .ok code) (hblank : Text.allBlank code.toList = true) :
    (effectOf s (.analyze arguments)).workspace = s.workspace ∧
      (effectOf s (.analyze arguments)).waits = [] := by
  unfold effectOf
  split
  · exact ⟨rfl, rfl⟩
  · dsimp only
    rw [analyze_of_blank hread hblank]
    exact ⟨rfl, rfl⟩

/-- Without the progress command, a run that fails or has blank code leaves every file and directory
as it was, and blank code is not waited for. -/
theorem untouched_of_failed_or_blank {s : Situation}
    (hcommand : ∀ debug arguments, Invocation.ofArguments s.arguments ≠
      .run debug (.progress arguments))
    (h : (run s).status ≠ 0 ∨ s.HasBlankCode) :
    (run s).workspace = s.workspace ∧ (s.HasBlankCode → (run s).waits = []) := by
  have hblank : s.HasBlankCode → (run s).workspace = s.workspace ∧ (run s).waits = [] := by
    rintro ⟨debug, arguments, code, hinvocation, hread, hblank⟩
    rw [run, hinvocation]
    exact effectOf_of_blank hread hblank
  refine ⟨?_, fun hcode => (hblank hcode).2⟩
  rcases h with hstatus | hcode
  · rw [run] at hstatus ⊢
    cases hinvocation : Invocation.ofArguments s.arguments with
    | help | noCommand | refused => rfl
    | run debug command =>
        rw [hinvocation] at hstatus
        cases command with
        | analyze arguments =>
            exact effectOf_analyze_spares.resolve_left (mt status_execute.mpr hstatus)
        | progress arguments => exact absurd hinvocation (hcommand debug arguments)
  · exact (hblank hcode).1

end Runs

open scoped Machine

/-- A directory with a file of saved progress. -/
def savedDirectory : Workspace :=
  let record : WideJson := .str (Ledger.unresolved ↑"style" 2).record
  { current := []
    nodes :=
      [(["p.json"], .file (FileStore.encode (OrderedMap.set ∅ ↑Tracker.defaultKey record)))] }

/-- The saved progress was loaded and the issues were found when the clock fails the run. -/
theorem untouched_beyond_clock :
    ∃ s, s = sampleRun ["analyze"] (.finite false (2 ^ 53 - 1) 971) savedDirectory ∧
      (run s).status ≠ 0 ∧ (run s).workspace = savedDirectory := by
  obtain ⟨s, hs⟩ : ∃ s, s = sampleRun ["analyze"] (.finite false (2 ^ 53 - 1) 971)
    savedDirectory := ⟨_, rfl⟩
  have hinvocation : Invocation.ofArguments s.arguments =
      .run false (.analyze AnalyzeArguments.initial) := by
    rw [hs]
    decide +kernel
  have hstatus : (run s).status ≠ 0 := by
    rw [hs]
    decide +kernel
  have hcommand : ∀ debug arguments, Invocation.ofArguments s.arguments ≠
      .run debug (.progress arguments) := by
    intro debug arguments h
    cases hinvocation.symm.trans h
  obtain ⟨hworkspace, -⟩ := untouched_of_failed_or_blank hcommand (.inl hstatus)
  exact ⟨s, hs, hstatus, hworkspace.trans (congrArg Situation.workspace hs)⟩

end SnippetCoach.CommandLine
