import SnippetCoach.Proofs.Tracker.Calls
import SnippetCoach.Session
/-! One analysis whose issues a tracker counts: what it gives and what it leaves in the tracker. -/
namespace SnippetCoach
open Number

namespace Tracker

variable {σ : Type} [Store σ] {tracker : Tracker σ} {request : Request} {analysis : Analysis}

/-- The tracker after the events of a session were reported and its issues were counted, before the
progress is saved. -/
def counted (tracker : Tracker σ) (request : Request) (analysis : Analysis) : Tracker σ :=
  { tracker with
    events := tracker.events ++ request.run.events
    progress := tracker.progress.encounterAll (analysis.issues.map Issue.type) }

theorem analyze_of_no_analysis (h : ∀ analysis, request.run.result ≠ .ok (some analysis)) :
    tracker.analyze request =
      (request.run, { tracker with events := tracker.events ++ request.run.events }) := by
  rw [analyze]
  split
  · rename_i analysis hresult
    exact absurd hresult (h analysis)
  · rfl

/-- Where there is a result, the tracker counts its issues and saves them. -/
theorem analyze_of_writable (hresult : request.run.result = .ok (some analysis))
    (hwritable : (tracker.counted request analysis).progress.Writable) :
    tracker.analyze request = (request.run, (tracker.counted request analysis).save.2) := by
  have hsaved : ∃ success after,
      (tracker.counted request analysis).save = (.ok success, after) := by
    rcases (tracker.counted request analysis).save_cases with
      ⟨hnot, -⟩ | ⟨-, _, store, -, ⟨-, heq⟩ | ⟨cause, -, heq⟩⟩
    · exact absurd hwritable hnot
    · exact ⟨true, _, heq⟩
    · exact ⟨false, _, heq⟩
  obtain ⟨success, after, hsave⟩ := hsaved
  have hupdate : (tracker.counted request analysis).save = _ := hsave
  rw [counted] at hupdate
  simp only [analyze, hresult, record, update, hupdate, hsave]
  rfl

/-- Counters that are too long to be written take the result away. The issues are counted all the
same. -/
theorem analyze_of_not_writable (hresult : request.run.result = .ok (some analysis))
    (hwritable : ¬(tracker.counted request analysis).progress.Writable) :
    tracker.analyze request =
      ({ request.run with result := .error (.progress .integerTooLong) },
        tracker.counted request analysis) := by
  have hsave := save_of_not_writable hwritable
  rw [counted] at hsave
  simp only [analyze, hresult, record, update, hsave]
  rfl

/-- What an analysis does, by whether there is a result and its counters can be written. -/
theorem analyze_cases (tracker : Tracker σ) (request : Request) :
    ((∀ analysis, request.run.result ≠ .ok (some analysis)) ∧
      tracker.analyze request =
        (request.run, { tracker with events := tracker.events ++ request.run.events })) ∨
    ∃ analysis, request.run.result = .ok (some analysis) ∧
      (((tracker.counted request analysis).progress.Writable ∧
        tracker.analyze request = (request.run, (tracker.counted request analysis).save.2)) ∨
      ¬(tracker.counted request analysis).progress.Writable ∧
        tracker.analyze request =
          ({ request.run with result := .error (.progress .integerTooLong) },
            tracker.counted request analysis)) := by
  by_cases hsome : ∃ analysis, request.run.result = .ok (some analysis)
  · obtain ⟨analysis, hresult⟩ := hsome
    refine .inr ⟨analysis, hresult, ?_⟩
    by_cases hwritable : (tracker.counted request analysis).progress.Writable
    · exact .inl ⟨hwritable, analyze_of_writable hresult hwritable⟩
    · exact .inr ⟨hwritable, analyze_of_not_writable hresult hwritable⟩
  · have hnone := not_exists.mp hsome
    exact .inl ⟨hnone, analyze_of_no_analysis hnone⟩

/-- A result that is given is the one of the request on its own. -/
theorem result_of_analyze {found : Option Analysis}
    (h : (tracker.analyze request).1.result = .ok found) : request.run.result = .ok found := by
  rcases tracker.analyze_cases request with ⟨-, heq⟩ | ⟨analysis, -, ⟨-, heq⟩ | ⟨-, heq⟩⟩ <;>
    rw [heq] at h
  · exact h
  · exact h
  · cases h

/-- Counting the issues fails before the store is asked. -/
theorem store_analyze_of_error {e : AnalysisError}
    (h : (tracker.analyze request).1.result = .error e) :
    (tracker.analyze request).2.store = tracker.store := by
  rcases tracker.analyze_cases request with ⟨-, heq⟩ | ⟨analysis, hresult, ⟨-, heq⟩ | ⟨-, heq⟩⟩
  · rw [heq]
  · rw [heq] at h
    cases hresult.symm.trans h
  · rw [heq, counted]

/-- What the save of an analysis gives, if it comes to a save. -/
def savedBy (tracker : Tracker σ) (request : Request) : Option (Except ArithmeticError Bool) :=
  match request.run.result with
  | .ok (some analysis) => some (tracker.counted request analysis).save.1
  | _ => none

theorem set_of_save (h : tracker.save.1 = .ok true) :
    tracker.progress.Writable ∧
      Store.set tracker.store tracker.key (.str tracker.progress.record) =
        (.ok (), tracker.save.2.store) := by
  rcases tracker.save_cases with
    ⟨-, heq⟩ | ⟨hwritable, result, store, hset, ⟨rfl, heq⟩ | ⟨_, -, heq⟩⟩
  · rw [heq] at h
    cases h
  · rw [heq]
    exact ⟨hwritable, hset⟩
  · rw [heq] at h
    cases h

/-- Counting takes a result away only where the counters are too long to be written. -/
theorem result_analyze (tracker : Tracker σ) (request : Request) :
    (tracker.analyze request).1.result = request.run.result ∨
      (tracker.analyze request).1.result = .error (.progress .integerTooLong) ∧
        ¬(tracker.analyze request).2.progress.Writable := by
  rcases tracker.analyze_cases request with ⟨-, heq⟩ | ⟨analysis, -, ⟨-, heq⟩ | ⟨hlong, heq⟩⟩
  · rw [heq]
    exact .inl rfl
  · rw [heq]
    exact .inl rfl
  · rw [heq]
    exact .inr ⟨rfl, hlong⟩

theorem key_analyze (tracker : Tracker σ) (request : Request) :
    (tracker.analyze request).2.key = tracker.key := by
  rcases tracker.analyze_cases request with ⟨-, heq⟩ | ⟨analysis, -, ⟨-, heq⟩ | ⟨-, heq⟩⟩
  · rw [heq]
  · rw [heq, save_key, counted]
  · rw [heq, counted]

/-- A save that succeeds stores the whole progress. -/
theorem set_of_savedBy (h : tracker.savedBy request = some (.ok true)) :
    (tracker.analyze request).2.progress.Writable ∧
      ∃ before, Store.set before tracker.key
          (.str (tracker.analyze request).2.progress.record) =
        (.ok (), (tracker.analyze request).2.store) := by
  rw [savedBy] at h
  split at h
  · rename_i analysis hresult
    obtain ⟨hwritable, hset⟩ := set_of_save (Option.some.inj h)
    rw [analyze_of_writable hresult hwritable, save_progress]
    exact ⟨hwritable, _, hset⟩
  · cases h

/-- Without a save the progress and the store are as they were. -/
theorem analyze_of_savedBy_none (h : tracker.savedBy request = none) :
    (tracker.analyze request).2.progress = tracker.progress ∧
      (tracker.analyze request).2.store = tracker.store := by
  have hnone : ∀ analysis, request.run.result ≠ .ok (some analysis) := by
    intro analysis hresult
    rw [savedBy, hresult] at h
    cases h
  rw [analyze_of_no_analysis hnone]
  exact ⟨rfl, rfl⟩

end Tracker
end SnippetCoach
