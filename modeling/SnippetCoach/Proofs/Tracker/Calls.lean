import SnippetCoach.Proofs.Progress.Record
import SnippetCoach.Proofs.Store
import SnippetCoach.Tracker
/-! The calls of a tracker and runs of them. Every call but loading changes the progress and then
saves it, or changes nothing. -/
namespace SnippetCoach
open Number

inductive Call where
  | load
  | record (issues : List Issue)
  | resolve (type : WideText) (count : Int)
  | reset
  | save

/-- What a call gives, or how it breaks off. -/
inductive Answer where
  | progress (ledger : Ledger)
  | entry (entry : Option Entry)
  | saved (success : Bool)
  | done
  | unread (e : RecordError)
  | unwritten (e : ArithmeticError)

/-- The progress that a call writes, if it writes any. -/
def Call.written? (ledger : Ledger) : Call → Option Ledger
  | load => none
  | record issues => some (ledger.encounterAll (issues.map Issue.type))
  | resolve type count =>
    (ledger.get? type).map fun entry => ledger.set type (entry.resolve count)
  | reset => some ∅
  | save => some ledger

namespace Tracker

variable {σ : Type} [Store σ]

section Saves

variable {tracker : Tracker σ} {store : σ}

theorem save_of_not_writable (h : ¬tracker.progress.Writable) :
    tracker.save = (.error .integerTooLong, tracker) := by
  rw [save, Ledger.record?_of_not_writable h]

theorem save_of_set_ok (h : tracker.progress.Writable)
    (hset : Store.set tracker.store tracker.key (.str tracker.progress.record) = (.ok (), store)) :
    tracker.save = (.ok true, { tracker with store }) := by
  rw [save, Ledger.record?_of_writable h]
  simp only [hset]

theorem save_of_set_error (h : tracker.progress.Writable) {cause : StoreError}
    (hset : Store.set tracker.store tracker.key (.str tracker.progress.record) =
      (.error cause, store)) :
    tracker.save = (.ok false, report { tracker with store } (.saveFailed cause)) := by
  rw [save, Ledger.record?_of_writable h]
  simp only [hset]

end Saves

/-- What a save does, by whether the progress can be written and what the store says. -/
theorem save_cases (tracker : Tracker σ) :
    (¬tracker.progress.Writable ∧ tracker.save = (.error .integerTooLong, tracker)) ∨
    tracker.progress.Writable ∧
      ∃ result store, Store.set tracker.store tracker.key (.str tracker.progress.record) =
          (result, store) ∧
        ((result = .ok () ∧ tracker.save = (.ok true, { tracker with store })) ∨
          ∃ cause, result = .error cause ∧
            tracker.save = (.ok false, report { tracker with store } (.saveFailed cause))) := by
  by_cases hwritable : tracker.progress.Writable
  · obtain ⟨result, store, hset⟩ : ∃ result store,
        Store.set tracker.store tracker.key (.str tracker.progress.record) = (result, store) :=
      ⟨_, _, rfl⟩
    refine .inr ⟨hwritable, result, store, hset, ?_⟩
    cases result with
    | ok => exact .inl ⟨rfl, save_of_set_ok hwritable hset⟩
    | error cause => exact .inr ⟨cause, rfl, save_of_set_error hwritable hset⟩
  · exact .inl ⟨hwritable, save_of_not_writable hwritable⟩

theorem save_key (tracker : Tracker σ) : tracker.save.2.key = tracker.key := by
  rcases tracker.save_cases with ⟨-, heq⟩ | ⟨-, _, _, -, ⟨-, heq⟩ | ⟨_, -, heq⟩⟩
  · rw [heq]
  · rw [heq]
  · rw [heq, report]

theorem save_progress (tracker : Tracker σ) : tracker.save.2.progress = tracker.progress := by
  rcases tracker.save_cases with ⟨-, heq⟩ | ⟨-, _, _, -, ⟨-, heq⟩ | ⟨_, -, heq⟩⟩
  · rw [heq]
  · rw [heq]
  · rw [heq, report]

variable [Machine]

/-- A call that breaks off in the reading leaves the tracker as it was. -/
def perform (tracker : Tracker σ) : Call → Answer × Tracker σ
  | .load =>
    match tracker.load with
    | .ok after => (.progress after.progress, after)
    | .error e => (.unread e, tracker)
  | .record issues =>
    match tracker.record issues with
    | (.ok (), after) => (.progress after.progress, after)
    | (.error e, after) => (.unwritten e, after)
  | .resolve type count =>
    match tracker.resolve type count with
    | (.ok entry, after) => (.entry entry, after)
    | (.error e, after) => (.unwritten e, after)
  | .reset => (.done, tracker.reset)
  | .save =>
    match tracker.save with
    | (.ok success, after) => (.saved success, after)
    | (.error e, after) => (.unwritten e, after)

def after (tracker : Tracker σ) (call : Call) : Tracker σ :=
  (tracker.perform call).2

def run (tracker : Tracker σ) (calls : List Call) : Tracker σ :=
  calls.foldl after tracker

/-- A call that writes is a change of the progress and a save. -/
theorem after_of_written {tracker : Tracker σ} {call : Call} {ledger : Ledger}
    (h : call.written? tracker.progress = some ledger) :
    tracker.after call = (save { tracker with progress := ledger }).2 := by
  cases call with
  | load => exact nomatch h
  | record issues =>
      obtain rfl := Option.some.inj h
      rw [after, perform]
      split <;> rename_i heq <;> exact (congrArg Prod.snd heq).symm
  | resolve type count =>
      obtain ⟨entry, hentry, rfl⟩ := Option.map_eq_some_iff.mp h
      have hresolve : (tracker.resolve type count).2 =
          (save
            { tracker with progress := tracker.progress.set type (entry.resolve count) }).2 := by
        rw [resolve, hentry]
        rfl
      rw [after, perform]
      split <;> rename_i heq <;> rw [heq] at hresolve <;> exact hresolve
  | reset =>
      obtain rfl := Option.some.inj h
      rfl
  | save =>
      obtain rfl := Option.some.inj h
      rw [after, perform]
      split <;> rename_i heq <;> exact (congrArg Prod.snd heq).symm

/-- A call that neither loads nor writes resolves a type without an entry. -/
theorem after_of_not_written {tracker : Tracker σ} {call : Call} (hload : call ≠ .load)
    (h : call.written? tracker.progress = none) :
    ∃ event, tracker.after call = tracker.report event := by
  cases call with
  | load => exact absurd rfl hload
  | record issues => exact nomatch h
  | resolve type count =>
      have hnone := Option.map_eq_none_iff.mp h
      refine ⟨.nothingToResolve type, ?_⟩
      rw [after, perform, resolve, hnone]
  | reset => exact nomatch h
  | save => exact nomatch h

theorem progress_after {tracker : Tracker σ} {call : Call} (hload : call ≠ .load) :
    (tracker.after call).progress = (call.written? tracker.progress).getD tracker.progress := by
  cases hwritten : call.written? tracker.progress with
  | some ledger => rw [after_of_written hwritten, save_progress, Option.getD_some]
  | none =>
      obtain ⟨event, heq⟩ := after_of_not_written hload hwritten
      rw [heq, report, Option.getD_none]

/-- What loading does, by what the store gives. -/
theorem load_cases (tracker : Tracker σ) :
    (∃ cause, Store.get tracker.store tracker.key = .error cause ∧
      tracker.load = .ok (tracker.report (.loadFailed cause))) ∨
    (Store.get tracker.store tracker.key = .ok .null ∧
      tracker.load = .ok (tracker.report .noSavedProgress)) ∨
    ∃ stored, Store.get tracker.store tracker.key = .ok stored ∧
      ((∃ progress, Ledger.ofRecord? stored = .ok progress ∧
        tracker.load = .ok { tracker with progress }) ∨
      ∃ cause, Ledger.ofRecord? stored = .error cause ∧
        ((cause.breaksOff = true ∧ tracker.load = .error cause) ∨
          tracker.load = .ok { tracker.report (.recordIgnored cause) with progress := ∅ })) := by
  rw [load]
  cases Store.get tracker.store tracker.key with
  | error cause => exact .inl ⟨cause, rfl, rfl⟩
  | ok stored =>
      dsimp only
      rw [accept.eq_def]
      split
      · exact .inr (.inl ⟨rfl, rfl⟩)
      · refine .inr (.inr ⟨stored, rfl, ?_⟩)
        cases Ledger.ofRecord? stored with
        | ok progress => exact .inl ⟨progress, rfl, rfl⟩
        | error cause =>
            refine .inr ⟨cause, rfl, ?_⟩
            cases hbreak : cause.breaksOff with
            | true => exact .inl ⟨rfl, by simp [hbreak]⟩
            | false => exact .inr (by simp [hbreak])

theorem store_after_load (tracker : Tracker σ) : (tracker.after .load).store = tracker.store := by
  rw [after, perform]
  rcases tracker.load_cases with
    ⟨_, -, heq⟩ | ⟨-, heq⟩ | ⟨_, -, ⟨_, -, heq⟩ | ⟨_, -, ⟨-, heq⟩ | heq⟩⟩ <;>
    rw [heq] <;> rfl

theorem after_key (tracker : Tracker σ) (call : Call) : (tracker.after call).key = tracker.key := by
  cases hwritten : call.written? tracker.progress with
  | some ledger => rw [after_of_written hwritten, save_key]
  | none =>
      by_cases hload : call = .load
      · subst hload
        rw [after, perform]
        rcases tracker.load_cases with
            ⟨_, -, heq⟩ | ⟨-, heq⟩ | ⟨_, -, ⟨_, -, heq⟩ | ⟨_, -, ⟨-, heq⟩ | heq⟩⟩ <;>
          rw [heq] <;> rfl
      · obtain ⟨event, heq⟩ := after_of_not_written hload hwritten
        rw [heq, report]

theorem run_key (tracker : Tracker σ) (calls : List Call) :
    (tracker.run calls).key = tracker.key := by
  induction calls generalizing tracker with
  | nil => rfl
  | cons call calls ih => exact (ih (tracker.after call)).trans (tracker.after_key call)

end Tracker
end SnippetCoach
