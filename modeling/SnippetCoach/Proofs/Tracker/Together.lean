import Mathlib.Algebra.BigOperators.Fin
import SnippetCoach.Machine.Usual
import SnippetCoach.Proofs.Progress.Entries
import SnippetCoach.Proofs.Tracker.Gathering
import SnippetCoach.Proofs.Tracker.Refusals
/-! What analyses that share a tracker give and count. Whatever their order, the issues of each are
counted once, and each gives what it gives on its own. -/
namespace SnippetCoach
open Number

namespace Stage

/-- The issues that were counted, given those of the code: the ones of a result, or those that could
not be written down. -/
def issues (found : List Issue) : Stage → List Issue
  | ended (.ok (some analysis)) => analysis.issues
  | ended (.error (.progress _)) => found
  | _ => []

theorem issues_of_not_ended {stage : Stage} (h : ∀ outcome, stage ≠ .ended outcome)
    (found : List Issue) : stage.issues found = [] := by
  cases stage with
  | ready | asleep => rfl
  | ended outcome => exact absurd rfl (h outcome)

/-- Without a result nothing is counted. -/
theorem issues_of_no_result {request : Request}
    (h : ∀ analysis, request.run.result ≠ .ok (some analysis)) (found : List Issue) :
    (ended request.run.result).issues found = [] := by
  cases hblank : request.isBlank with
  | true =>
      rw [Request.result_of_blank hblank]
      rfl
  | false =>
      rcases request.run_cases hblank with
        ⟨-, herror | herror⟩ | ⟨e, -, herror⟩ | ⟨analysis, -, hresult, -⟩
      · rw [herror]
        rfl
      · rw [herror]
        rfl
      · rw [herror]
        rfl
      · exact absurd hresult (h analysis)

end Stage

namespace Tracker

variable {σ : Type} [Store σ] {tracker : Tracker σ} {request : Request}

/-- An analysis adds the issues that it stands for to the progress. -/
theorem progress_analyze (tracker : Tracker σ) (request : Request) :
    (tracker.analyze request).2.progress = tracker.progress.encounterAll
      (((Stage.ended (tracker.analyze request).1.result).issues
        request.issues).map Issue.type) := by
  rcases tracker.analyze_cases request with
    ⟨hnone, heq⟩ | ⟨analysis, hresult, ⟨-, heq⟩ | ⟨-, heq⟩⟩
  · rw [heq, Stage.issues_of_no_result hnone]
    rfl
  · rw [heq, save_progress, hresult]
    rfl
  · rw [heq, counted, Request.issues_of_result hresult]
    rfl

theorem whole_of_analyze (tracker : Tracker σ) (request : Request) :
    (Stage.ended (tracker.analyze request).1.result).issues request.issues = [] ∨
      (Stage.ended (tracker.analyze request).1.result).issues request.issues =
        request.issues := by
  rcases tracker.analyze_cases request with
    ⟨hnone, heq⟩ | ⟨analysis, hresult, ⟨-, heq⟩ | ⟨-, heq⟩⟩
  · rw [heq]
    exact .inl (Stage.issues_of_no_result hnone _)
  · rw [heq, hresult]
    exact .inr (Request.issues_of_result hresult)
  · rw [heq]
    exact .inr rfl

end Tracker

theorem Resumption.issues_request {n : Nat} (turn : Resumption n) (requests : Fin n → Request) :
    (turn.request requests).issues = (requests turn.task).issues := rfl

namespace Gathering

section Tally

variable {n : Nat} {requests : Fin n → Request} {stage : Fin n → Stage} {task : Fin n}

/-- How many issues of a type were counted for an analysis. -/
def share (requests : Fin n → Request) (stage : Fin n → Stage) (name : WideText) (task : Fin n) :
    Nat :=
  Ledger.tally (((stage task).issues (requests task).issues).map Issue.type) name

/-- How many issues of a type were counted for all analyses together. -/
def tally (requests : Fin n → Request) (stage : Fin n → Stage) (name : WideText) : Nat :=
  ∑ task, share requests stage name task

theorem share_update_self (next : Stage) (name : WideText) :
    share requests (Function.update stage task next) name task =
      Ledger.tally ((next.issues (requests task).issues).map Issue.type) name := by
  rw [share, Function.update_self]

theorem share_update_of_ne {other : Fin n} (h : other ≠ task) (next : Stage) (name : WideText) :
    share requests (Function.update stage task next) name other =
      share requests stage name other := by
  rw [share, share, Function.update_of_ne h]

/-- An analysis of which nothing was counted yet goes on. -/
theorem tally_update (h : (stage task).issues (requests task).issues = []) (next : Stage)
    (name : WideText) :
    tally requests (Function.update stage task next) name = tally requests stage name +
      Ledger.tally ((next.issues (requests task).issues).map Issue.type) name := by
  have hnone : share requests stage name task = 0 := by
    rw [share, h]
    rfl
  have hothers : ∑ other ∈ Finset.univ.erase task,
        share requests (Function.update stage task next) name other =
      ∑ other ∈ Finset.univ.erase task, share requests stage name other :=
    Finset.sum_congr rfl fun other hother =>
      share_update_of_ne (Finset.ne_of_mem_erase hother) next name
  rw [tally, tally, ← Finset.add_sum_erase Finset.univ _ (Finset.mem_univ task),
    ← Finset.add_sum_erase Finset.univ (share requests stage name) (Finset.mem_univ task),
    share_update_self, hothers, hnone]
  omega

/-- Each analysis counts all its issues or none. -/
def Whole (requests : Fin n → Request) (stage : Fin n → Stage) : Prop :=
  ∀ task, (stage task).issues (requests task).issues = [] ∨
    (stage task).issues (requests task).issues = (requests task).issues

theorem Whole.update (h : Whole requests stage) {next : Stage}
    (hnext : next.issues (requests task).issues = [] ∨
      next.issues (requests task).issues = (requests task).issues) :
    Whole requests (Function.update stage task next) := by
  intro other
  by_cases hother : other = task
  · subst hother
    rw [Function.update_self]
    exact hnext
  · rw [Function.update_of_ne hother]
    exact h other

/-- How many issues of a type all analyses have together. -/
def total (requests : Fin n → Request) (name : WideText) : Nat :=
  ∑ task, Ledger.tally ((requests task).issues.map Issue.type) name

theorem Whole.tally_le (h : Whole requests stage) (name : WideText) :
    tally requests stage name ≤ total requests name := by
  refine Finset.sum_le_sum fun task _ => ?_
  rw [share]
  rcases h task with hnone | hall
  · rw [hnone]
    exact Nat.zero_le _
  · rw [hall]

end Tally

/-- No counter gets too long to be written, if all issues of all analyses are counted. -/
def Fits {n : Nat} (requests : Fin n → Request) (opening : Ledger) : Prop :=
  opening.Writable ∧
    ∀ name, fitsDigitLimit (opening.encounters name + total requests name) = true

/-- An analysis gave what its request gives on its own at the time of its turn. Only a counter that
is too long to be written can keep it from that. -/
def Explains {n : Nat} (requests : Fin n → Request) (opening : Ledger) (past : List (Resumption n))
    (task : Fin n) (outcome : Except AnalysisError (Option Analysis)) : Prop :=
  (∃ turn ∈ past, turn.task = task ∧ outcome = (turn.request requests).run.result) ∨
  outcome = .error (.progress .integerTooLong) ∧ ¬Fits requests opening

theorem Explains.later {n : Nat} {requests : Fin n → Request} {opening : Ledger}
    {past : List (Resumption n)} {task : Fin n} {outcome : Except AnalysisError (Option Analysis)}
    (h : Explains requests opening past task outcome) (turn : Resumption n) :
    Explains requests opening (past ++ [turn]) task outcome := by
  rcases h with ⟨before, hbefore, hgave⟩ | hlong
  · exact .inl ⟨before, List.mem_append_left [turn] hbefore, hgave⟩
  · exact .inr hlong

/-- What holds after every turn. -/
structure Accounts {σ : Type} [Store σ] {n : Nat} (requests : Fin n → Request)
    (opening : Tracker σ) (gathering : Gathering σ n) : Prop where
  key : gathering.tracker.key = opening.key
  counted : ∀ name, gathering.tracker.progress.entryOf name =
    { encountered :=
        (opening.progress.entryOf name).encountered + tally requests gathering.stage name
      resolved := (opening.progress.entryOf name).resolved }
  joined : opening.progress.Joined → gathering.tracker.progress.Joined
  whole : Whole requests gathering.stage
  stored : gathering.saved = some (.ok true) → gathering.tracker.progress.Writable ∧
    ∃ before, Store.set before opening.key (.str gathering.tracker.progress.record) =
      (.ok (), gathering.tracker.store)

section Accounts

variable {σ : Type} [Store σ] {n : Nat} {requests : Fin n → Request} {opening : Tracker σ}
  {gathering : Gathering σ n} {turn : Resumption n}

theorem Accounts.start (requests : Fin n → Request) (tracker : Tracker σ) :
    Accounts requests tracker (start tracker n) := by
  refine ⟨rfl, fun name => ?_, id, fun task => .inl rfl, nofun⟩
  have hnone : tally requests (Gathering.start tracker n).stage name = 0 :=
    Finset.sum_eq_zero fun task _ => rfl
  rw [hnone]
  exact congrArg (Entry.mk · _) (Int.add_zero _).symm

theorem Accounts.wait (h : Accounts requests opening gathering) {task : Fin n}
    (hstage : gathering.stage task = .ready) :
    Accounts requests opening (gathering.wait task) := by
  have hnone : (gathering.stage task).issues (requests task).issues = [] := by
    rw [hstage]
    rfl
  refine ⟨h.key, fun name => ?_, h.joined, h.whole.update (.inl rfl), h.stored⟩
  have htally : tally requests (gathering.wait task).stage name =
      tally requests gathering.stage name := tally_update hnone .asleep name
  rw [htally]
  exact h.counted name

theorem Accounts.finish (h : Accounts requests opening gathering)
    (hstage : ∀ outcome, gathering.stage turn.task ≠ .ended outcome) :
    Accounts requests opening (gathering.finish turn.task (turn.request requests)) := by
  have hnone := Stage.issues_of_not_ended hstage (requests turn.task).issues
  have hprogress := gathering.tracker.progress_analyze (turn.request requests)
  refine ⟨?key, fun name => ?counted, fun hopening => ?joined, h.whole.update ?whole,
    fun hsaved => ?stored⟩
  case key =>
    exact (gathering.tracker.key_analyze _).trans h.key
  case counted =>
    have htally : tally requests (gathering.finish turn.task (turn.request requests)).stage name =
        _ := tally_update hnone _ name
    have hentry : (gathering.finish turn.task (turn.request requests)).tracker.progress = _ :=
      hprogress
    rw [htally, hentry, Ledger.entryOf_encounterAll, h.counted name]
    rw [Resumption.issues_request, Nat.cast_add, ← Int.add_assoc]
  case joined =>
    have hnames := (h.joined hopening).encounterAll
      (((Stage.ended (gathering.tracker.analyze (turn.request requests)).1.result).issues
        (turn.request requests).issues).map Issue.type)
    rwa [← hprogress] at hnames
  case whole =>
    exact gathering.tracker.whole_of_analyze (turn.request requests)
  case stored =>
    cases hsave : gathering.tracker.savedBy (turn.request requests) with
    | some success =>
        dsimp only [Gathering.finish] at hsaved
        rw [hsave] at hsaved
        obtain rfl := Option.some.inj hsaved
        have hset := Tracker.set_of_savedBy hsave
        rw [h.key] at hset
        exact hset
    | none =>
        dsimp only [Gathering.finish] at hsaved
        rw [hsave] at hsaved
        obtain ⟨hsame, hstore⟩ := Tracker.analyze_of_savedBy_none hsave
        dsimp only [Gathering.finish]
        rw [hsame, hstore]
        exact h.stored hsaved

theorem Accounts.step (h : Accounts requests opening gathering)
    (turn : Resumption n) : Accounts requests opening (gathering.step requests turn) := by
  rcases gathering.step_cases requests turn with ⟨-, heq⟩ | ⟨hstage, heq | ⟨hready, heq⟩⟩
  · rw [heq]
    exact h
  · rw [heq]
    exact h.finish hstage
  · rw [heq]
    exact h.wait hready

theorem Accounts.run (h : Accounts requests opening gathering)
    (turns : List (Resumption n)) : Accounts requests opening (gathering.run requests turns) := by
  induction turns generalizing gathering with
  | nil => exact h
  | cons turn turns ih => exact ih (h.step turn)

theorem Accounts.writable (h : Accounts requests opening gathering)
    (hfits : Fits requests opening.progress) : gathering.tracker.progress.Writable := by
  refine Ledger.writable_iff_entryOf.mpr fun name => ?_
  have hopening := Ledger.writable_iff_entryOf.mp hfits.1 name
  rw [Entry.isWritable, Bool.and_eq_true_iff, fitsDigitLimit_iff] at hopening
  have htotal := hfits.2 name
  rw [Ledger.encounters_eq, fitsDigitLimit_iff] at htotal
  have hle := h.whole.tally_le name
  rw [h.counted name, Entry.isWritable, Bool.and_eq_true_iff, fitsDigitLimit_iff]
  refine ⟨?_, hopening.2⟩
  dsimp only
  omega

/-- The analysis whose turn it is may end; the others stay as they were. -/
theorem Accounts.explains_step (h : Accounts requests opening gathering)
    {past : List (Resumption n)} (hpast : ∀ task outcome, gathering.stage task = .ended outcome →
      Explains requests opening.progress past task outcome)
    {task : Fin n} {outcome : Except AnalysisError (Option Analysis)}
    (hended : (gathering.step requests turn).stage task = .ended outcome) :
    Explains requests opening.progress (past ++ [turn]) task outcome := by
  by_cases htask : task = turn.task
  · subst htask
    rcases gathering.step_cases requests turn with ⟨-, heq⟩ | ⟨hstage, heq | ⟨-, heq⟩⟩
    · rw [heq] at hended
      exact (hpast _ _ hended).later turn
    · rw [heq, stage_finish_self] at hended
      obtain rfl := Stage.ended.inj hended
      rcases gathering.tracker.result_analyze (turn.request requests) with hgave | ⟨hlong, hnot⟩
      · exact .inl ⟨turn, List.mem_append_right past (List.mem_singleton_self turn), rfl, hgave⟩
      · exact .inr ⟨hlong, fun hfits => hnot ((h.finish hstage).writable hfits)⟩
    · rw [heq, stage_wait_self] at hended
      cases hended
  · rw [stage_step_of_ne htask] at hended
    exact (hpast _ _ hended).later turn

theorem Accounts.explains_run (h : Accounts requests opening gathering)
    {past : List (Resumption n)} (hpast : ∀ task outcome, gathering.stage task = .ended outcome →
      Explains requests opening.progress past task outcome) (turns : List (Resumption n))
    {task : Fin n} {outcome : Except AnalysisError (Option Analysis)}
    (hended : (gathering.run requests turns).stage task = .ended outcome) :
    Explains requests opening.progress (past ++ turns) task outcome := by
  induction turns generalizing gathering past with
  | nil => exact (List.append_nil past).symm ▸ hpast task outcome hended
  | cons turn turns ih =>
      have hstep := ih (h.step turn) (fun _ _ hnext => h.explains_step hpast hnext) hended
      rwa [List.append_assoc, List.singleton_append] at hstep

end Accounts

/-- Analyses that share a tracker, in any order of their beginnings and the ends of their waits and
whatever the store refuses. Each gives what it gives on its own, and the progress has the issues of
all of them, once each; a save that succeeds has stored the progress. One whose counters are too
long to be written fails after it has counted. What was stored is read as the progress unless a name
is read in another way than it is written. -/
theorem analyses_together [Machine] {σ : Type} [Store σ] {n : Nat} (tracker : Tracker σ)
    (requests : Fin n → Request) (turns : List (Resumption n)) :
    let final := (start tracker n).run requests turns
    (∀ task, 2 ≤ turns.countP (·.task = task) → ∃ outcome, final.stage task = .ended outcome) ∧
    (∀ task outcome, final.stage task = .ended outcome →
      Explains requests tracker.progress turns task outcome) ∧
    (∀ task found, final.stage task = .ended (.ok found) → ∀ now other,
      { requests task with now }.run.result = .ok other →
        found.map Analysis.undated = other.map Analysis.undated) ∧
    (∀ name, final.tracker.progress.entryOf name =
      { encountered :=
          (tracker.progress.entryOf name).encountered + tally requests final.stage name
        resolved := (tracker.progress.entryOf name).resolved }) ∧
    (LawfulStore σ → final.saved = some (.ok true) →
      ∃ stored, Store.get final.tracker.store tracker.key = .ok stored ∧
        stored = .str final.tracker.progress.record ∧
        (tracker.progress.Joined → Ledger.ofRecord? stored = .ok final.tracker.progress)) := by
  intro final
  have haccounts : Accounts requests tracker final := (Accounts.start requests tracker).run turns
  have hexplains : ∀ task outcome, final.stage task = .ended outcome →
      Explains requests tracker.progress turns task outcome := by
    intro task outcome hended
    have hnone : ∀ task outcome, (start tracker n).stage task = .ended outcome →
        Explains requests tracker.progress [] task outcome := nofun
    exact (Accounts.start requests tracker).explains_run hnone turns hended
  refine ⟨fun task hturns => ended_of_turns hturns, hexplains, ?alone, haccounts.counted, ?stored⟩
  case alone =>
    intro task found hended now other hother
    rcases hexplains task _ hended with ⟨turn, -, rfl, hgave⟩ | ⟨hlong, -⟩
    · exact Request.undated_result hgave.symm hother
    · cases hlong
  case stored =>
    intro hlawful hsaved
    obtain ⟨hwritable, before, hset⟩ := haccounts.stored hsaved
    exact ⟨_, LawfulStore.get_of_set hset, rfl,
      fun hnames => Ledger.ofRecord?_record hwritable (haccounts.joined hnames)⟩

open scoped Machine

/-- Two analyses, the first of which waits for a second. -/
def pair (task : Fin 2) : Request :=
  { Request.sample (Binary64.zero false) with
    delay := if task = 0 then Binary64.ofNat 1 else Binary64.zero false }

/-- The second analysis comes in during the wait of the first, and its save is refused. -/
theorem analyses_together_refused :
    ∃ turns : List (Resumption 2),
      ∃ final, final = (start Tracker.refusedOnce 2).run pair turns ∧
        (∀ task, ∃ outcome, final.stage task = .ended outcome) ∧
        final.tracker.progress.entryOf ↑"success" = { encountered := 2, resolved := 0 } ∧
        ∃ stored, Store.get final.tracker.store Tracker.defaultKey = .ok stored ∧
          Ledger.ofRecord? stored = .ok final.tracker.progress := by
  obtain ⟨turns, hturns⟩ : ∃ turns : List (Resumption 2),
      turns = [⟨0, Binary64.zero false⟩, ⟨1, Binary64.zero false⟩, ⟨0, Binary64.zero false⟩,
        ⟨1, Binary64.zero false⟩] := ⟨_, rfl⟩
  obtain ⟨hended, -, -, hcounted, hstored⟩ := analyses_together Tracker.refusedOnce pair turns
  have hturn (task : Fin 2) : 2 ≤ turns.countP (·.task = task) := by
    rw [hturns]
    revert task
    decide
  have hsaved : ((start Tracker.refusedOnce 2).run pair turns).saved = some (.ok true) := by
    rw [hturns]
    decide +kernel
  have htally : tally pair ((start Tracker.refusedOnce 2).run pair turns).stage ↑"success" = 2 := by
    rw [hturns]
    decide +kernel
  have hsuccess := hcounted ↑"success"
  rw [htally] at hsuccess
  obtain ⟨stored, hget, -, hread⟩ := hstored inferInstance hsaved
  exact ⟨turns, _, rfl, fun task => hended task (hturn task), hsuccess, stored, hget,
    hread Ledger.joined_empty⟩

/-- With the greatest count that can be written down, an issue is counted without a result. The sum
is over the results only. -/
theorem not_counted_by_results :
    ¬∀ (tracker : Tracker MemoryStore) (requests : Fin 1 → Request) (turns : List (Resumption 1))
      (name : WideText), let final := (start tracker 1).run requests turns
      (∀ task, ∃ outcome, final.stage task = .ended outcome) →
      (final.tracker.progress.entryOf name).encountered =
        (tracker.progress.entryOf name).encountered +
          ↑(∑ task, Ledger.tally (((final.stage task).issues []).map Issue.type) name) := by
  intro hclaim
  obtain ⟨count, hlong⟩ := Ledger.exists_not_writable_succ ↑"success"
  obtain ⟨excess, hexcess⟩ : ∃ excess, excess = Ledger.unresolved ↑"success" (count + 1) :=
    ⟨_, rfl⟩
  rw [← hexcess] at hlong
  let tracker : Tracker MemoryStore :=
    { Tracker.new ∅ Tracker.defaultKey with progress := Ledger.unresolved ↑"success" count }
  obtain ⟨request, hrequest⟩ : ∃ request, request = Request.sample (Binary64.zero false) :=
    ⟨_, rfl⟩
  obtain ⟨analysis, hresult⟩ := Request.exists_result_sample
  rw [← hrequest] at hresult
  have htypes : analysis.issues.map Issue.type = [.success] := by
    rw [Request.issues_of_result hresult, hrequest]
    decide +kernel
  have hcounted : (tracker.counted request analysis).progress = excess := by
    rw [Tracker.counted, htypes, hexcess]
    exact Ledger.encounterAll_unresolved count
  have hanalyze := Tracker.analyze_of_not_writable hresult (hcounted ▸ hlong)
  have hrun : (start tracker 1).run (fun _ => request) [⟨0, Binary64.zero false⟩] =
      (start tracker 1).finish 0 request := by
    rw [hrequest]
    rfl
  have hended : ∀ task, ∃ outcome,
      ((start tracker 1).finish 0 request).stage task = .ended outcome := by
    intro task
    rw [Subsingleton.elim task 0, stage_finish_self]
    exact ⟨_, rfl⟩
  have hsuccess := hclaim tracker (fun _ => request) [⟨0, Binary64.zero false⟩]
    ↑"success"
  dsimp only at hsuccess
  rw [hrun, Fin.sum_univ_one, stage_finish_self] at hsuccess
  have hprogress : ((start tracker 1).finish 0 request).tracker.progress = excess := by
    rw [finish, start, hanalyze, hcounted]
  have hnone :
      (Stage.ended ((start tracker 1).tracker.analyze request).1.result).issues [] = [] := by
    rw [start, hanalyze]
    rfl
  rw [hprogress, hnone, hexcess] at hsuccess
  have hrisen : ((count + 1 : Nat) : Int) = (count : Int) + 0 := hsuccess hended
  omega

end Gathering
end SnippetCoach
