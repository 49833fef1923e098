import SnippetCoach.Machine.Usual
import SnippetCoach.Proofs.CommandLine.Demand
/-! Runs one after another over one file of saved progress: what the file holds after each of them
are the counters of a machine that knows no files. -/
namespace SnippetCoach.CommandLine
open Number

def Situation.progressPath? (s : Situation) : Option Path :=
  (Path.ofText (s.environment.getOr "CODE_MENTOR_PROGRESS_FILE"
    "~/.code-mentor/progress.json")).expandHome? s.home s.users

/-- A run whose saved progress is in a file that can be written, and that draws no chart. -/
structure Shares (path : Path) (s : Situation) : Prop where
  file : s.progressPath? = some path
  canWrite : s.workspace.CanWrite path
  noChart : ∀ debug arguments,
    Invocation.ofArguments s.arguments = .run debug (.progress arguments) → arguments.chart = none

/-- Nobody wrote the file at a path. -/
def SameFile (path : Path) (w w' : Workspace) : Prop :=
  w'.isPresent path = w.isPresent path ∧
    (w.isPresent path = .ok true → w'.read path = w.read path)

theorem progressFile_of_ofEnvironment {environment : Environment} {settings : Settings}
    (h : Settings.ofEnvironment environment = .ok settings) :
    settings.progressFile =
      environment.getOr "CODE_MENTOR_PROGRESS_FILE" "~/.code-mentor/progress.json" := by
  unfold Settings.ofEnvironment at h
  dsimp only at h
  split at h
  · exact nomatch h
  · exact Except.ok.inj h ▸ rfl

section Following

variable [Machine]

/-- Runs that share a file, which nobody else writes before them or between them. -/
inductive Linked (path : Path) : Workspace → List Situation → Prop where
  | nil (w : Workspace) : Linked path w []
  | cons {w : Workspace} {s : Situation} {rest : List Situation}
      (same : SameFile path w s.workspace) (shares : Shares path s)
      (linked : Linked path (run s).workspace rest) : Linked path w (s :: rest)

/-- The file holds these counters and no others. -/
def Stored (path : Path) (w : Workspace) (counters : Counters) : Prop :=
  ∃ ledger, FileStore.ledger? { path, workspace := w } = some ledger ∧ ledger.Counts counters

/-- After each run the file holds the counters of the machine, and a run that the machine refuses
fails. -/
def Follows (path : Path) (counters : Counters) : List Situation → Prop
  | [] => True
  | s :: rest =>
    Stored path (run s).workspace (counters.step s.demand) ∧
      (counters.refuses s.demand = true → (run s).status = 1) ∧
      Follows path (counters.step s.demand) rest

section Files

variable {path : Path} {w w' : Workspace} {counters other : Counters}

theorem Carries.stored (h : Carries path w counters) : Stored path w counters := by
  obtain ⟨-, ledger, hkeeps, rfl⟩ := h
  exact ⟨ledger, hkeeps.ledger?_eq, hkeeps.sound.counts⟩

theorem Stored.unique (h : Stored path w counters) (hother : Stored path w other) :
    counters = other := by
  obtain ⟨ledger, hledger, hcounts⟩ := h
  obtain ⟨same, hsame, hotherCounts⟩ := hother
  obtain rfl := Option.some.inj (hledger.symm.trans hsame)
  funext type
  exact (hcounts.tagged type).symm.trans (hotherCounts.tagged type)

theorem SameFile.readAll_eq (h : SameFile path w w') :
    FileStore.readAll { path, workspace := w' } = FileStore.readAll { path, workspace := w } := by
  obtain ⟨hpresent, hread⟩ := h
  unfold FileStore.readAll
  dsimp only
  rw [hpresent]
  cases hcase : w.isPresent path with
  | error e => rfl
  | ok present =>
      cases present with
      | false => rfl
      | true => rw [hread hcase]

theorem keeps_of_same {ledger : Ledger} (h : FileStore.Keeps { path, workspace := w } ledger)
    (hsame : SameFile path w w') : FileStore.Keeps { path, workspace := w' } ledger :=
  ⟨h.sound, h.writable, hsame.readAll_eq ▸ h.stored⟩

end Files

theorem execute_refines {path : Path} {s : Situation} {command : Command} {counters : Counters}
    {demand : Demand} (debug : Bool) (h : (effectOf s command).Refines path counters demand) :
    Carries path (execute s debug command).workspace (counters.step demand) ∧
      (counters.refuses demand = true → (execute s debug command).status = 1) := by
  unfold execute
  dsimp only
  cases hstatus : (effectOf s command).status with
  | error e => exact ⟨h.carries, fun _ => rfl⟩
  | ok status => exact ⟨h.carries, fun hrefuses => h.fails hrefuses status hstatus⟩

/-- One run is one step of the machine. -/
theorem run_refines {path : Path} {s : Situation} {counters : Counters} (hshares : Shares path s)
    (h : Carries path s.workspace counters) :
    Carries path (run s).workspace (counters.step s.demand) ∧
      (counters.refuses s.demand = true → (run s).status = 1) := by
  have hfile := hshares.file
  have hchart := hshares.noChart
  unfold run Situation.demand
  unfold Situation.progressPath? at hfile
  cases hinvocation : Invocation.ofArguments s.arguments with
  | help scope => exact ⟨h, nofun⟩
  | noCommand => exact ⟨h, nofun⟩
  | refused scope e => exact ⟨h, nofun⟩
  | run debug command =>
      refine execute_refines debug ?_
      unfold effectOf
      cases hsettings : Settings.ofEnvironment s.environment with
      | error e =>
          cases command <;> exact Effect.refines_of_unchanged h rfl rfl
      | ok settings =>
          rw [← progressFile_of_ofEnvironment hsettings] at hfile
          cases command with
          | analyze arguments => exact analyze_refines hfile h arguments
          | progress arguments =>
              exact progress_refines hfile h (hchart debug arguments hinvocation)

theorem follows_of_carries {path : Path} {w : Workspace} {runs : List Situation}
    {counters : Counters} (hlinked : Linked path w runs)
    (h : ∃ ledger, FileStore.Keeps { path, workspace := w } ledger ∧ ledger.counters = counters) :
    Follows path counters runs := by
  induction hlinked generalizing counters with
  | nil w => trivial
  | cons same shares linked ih =>
      obtain ⟨ledger, hkeeps, hcounters⟩ := h
      obtain ⟨hcarries, hfails⟩ :=
        run_refines shares ⟨shares.canWrite, ledger, keeps_of_same hkeeps same, hcounters⟩
      exact ⟨hcarries.stored, hfails, ih hcarries.2⟩

/-- Runs that share a file which is missing at first follow the machine from no counters at all. -/
theorem follows_from_missing {path : Path} {w : Workspace} {runs : List Situation}
    (hmissing : w.isPresent path = .ok false) (hlinked : Linked path w runs) :
    Follows path Counters.empty runs :=
  follows_of_carries hlinked ⟨∅, FileStore.keeps_of_missing hmissing, rfl⟩

end Following

open scoped Machine

/-- A run in a directory, with a snippet of one letter as its input. -/
def sampleRun (arguments : List String) (now : Binary64) (workspace : Workspace) : Situation :=
  { arguments
    environment := [("CODE_MENTOR_PROGRESS_FILE", "p.json")]
    input := [120]
    now
    home := { slashes := 1, parts := ["root"] }
    users := fun _ => none
    plotter := fun _ => .ok ()
    workspace }

def samplePath : Path :=
  { slashes := 0, parts := ["p.json"] }

def emptyDirectory : Workspace :=
  { current := [], nodes := [] }

theorem sampleRun_progressPath? (arguments : List String) (now : Binary64) (w : Workspace) :
    (sampleRun arguments now w).progressPath? = some samplePath := by
  have hpath : (Path.ofText "p.json").expandHome? { slashes := 1, parts := ["root"] }
      (fun _ => none) = some samplePath := by
    decide +kernel
  exact hpath

theorem emptyDirectory_isPresent : emptyDirectory.isPresent samplePath = .ok false := rfl

theorem shares_analyze (now : Binary64) :
    Shares samplePath (sampleRun ["analyze"] now emptyDirectory) where
  file := sampleRun_progressPath? ["analyze"] now emptyDirectory
  canWrite _ := rfl
  noChart := by
    have hinvocation : Invocation.ofArguments ["analyze"] =
        .run false (.analyze AnalyzeArguments.initial) := by decide +kernel
    intro debug arguments h
    exact nomatch hinvocation.symm.trans h

/-- An analysis, and then a reset together with a type that has no encounters any more. -/
theorem follows_analyze_reset :
    let first := sampleRun ["analyze"] (.zero false) emptyDirectory
    let second := sampleRun ["progress", "--reset", "--resolve", "logic"] (.zero false)
      (run first).workspace
    emptyDirectory.isPresent samplePath = .ok false ∧
      Linked samplePath emptyDirectory [first, second] ∧
      Follows samplePath Counters.empty [first, second] := by
  intro first second
  have hfirst : Shares samplePath first := shares_analyze (.zero false)
  have hempty : Carries samplePath first.workspace Counters.empty :=
    ⟨hfirst.canWrite, ∅, FileStore.keeps_of_missing emptyDirectory_isPresent, rfl⟩
  have hinvocation : Invocation.ofArguments ["progress", "--reset", "--resolve", "logic"] =
      .run false (.progress
        { resolve := some .logic, count := some 1, reset := true, chart := none }) := by
    decide +kernel
  have hsecond : Shares samplePath second := by
    refine ⟨sampleRun_progressPath? _ _ _, (run_refines hfirst hempty).1.1, ?_⟩
    intro debug arguments h
    have hsame := hinvocation.symm.trans h
    injection hsame with _ hcommand
    injection hcommand with harguments
    rw [← harguments]
  have hlinked : Linked samplePath emptyDirectory [first, second] :=
    .cons ⟨rfl, fun _ => rfl⟩ hfirst (.cons ⟨rfl, fun _ => rfl⟩ hsecond (.nil _))
  exact ⟨emptyDirectory_isPresent, hlinked, follows_from_missing emptyDirectory_isPresent hlinked⟩

/-- The milliseconds of a finite time can be beyond all numbers, and then nothing is counted. -/
theorem not_stored_beyond_clock :
    ¬∀ (path : Path) (s : Situation) (types : List IssueType) (completes : Bool),
      s.workspace.isPresent path = .ok false → Shares path s →
      (∃ negative significand exponent, s.now = .finite negative significand exponent) →
      s.demand = .count types completes →
      Stored path (run s).workspace (Counters.empty.encounterAll types) := by
  intro hclaim
  obtain ⟨s, hs⟩ : ∃ s, s = sampleRun ["analyze"] (.finite false (2 ^ 53 - 1) 971)
    emptyDirectory := ⟨_, rfl⟩
  have hdemand : s.demand = .count [.success] false := by
    rw [hs]
    decide +kernel
  have hmissing : s.workspace.isPresent samplePath = .ok false :=
    hs ▸ emptyDirectory_isPresent
  have hshares : Shares samplePath s := hs ▸ shares_analyze _
  have hcounted := hclaim samplePath s [.success] false hmissing hshares
    ⟨false, 2 ^ 53 - 1, 971, hs ▸ rfl⟩ hdemand
  have hcarries := (run_refines hshares
    ⟨hshares.canWrite, ∅, FileStore.keeps_of_missing hmissing, rfl⟩).1
  rw [hdemand] at hcarries
  have hsame := congrFun (hcarries.stored.unique hcounted) .success
  exact nomatch hsame

end SnippetCoach.CommandLine
