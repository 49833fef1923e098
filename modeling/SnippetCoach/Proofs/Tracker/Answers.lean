import SnippetCoach.Proofs.Tracker.Calls
/-! What calls give. Whatever the store does, the counters decide the answer, but for the success
of a save. -/
namespace SnippetCoach
open Number

def Answer.raises : Answer → Bool
  | unread _ | unwritten _ => true
  | progress _ | entry _ | saved _ | done => false

/-- Equal answers, or two saves of which one may have failed. -/
def Answer.Matches (answer other : Answer) : Prop :=
  answer = other ∨ ∃ success success', answer = saved success ∧ other = saved success'

/-- The answer of a call that writes a ledger, unless a counter is too long to be written. -/
def Ledger.answering (written : Ledger) (answer : Answer) : Answer :=
  match written.record? with
  | .ok _ => answer
  | .error e => .unwritten e

/-- What a call gives if the store cannot be read, and a save of it has this success. -/
def Call.reply (ledger : Ledger) (success : Bool) : Call → Answer
  | load => .progress ledger
  | record issues =>
    let counted := ledger.encounterAll (issues.map Issue.type)
    counted.answering (.progress counted)
  | resolve type count =>
    match ledger.get? type with
    | none => .entry none
    | some entry =>
      let resolved := entry.resolve count
      Ledger.answering (ledger.set type resolved) (.entry (some resolved))
  | reset => .done
  | save => ledger.answering (.saved success)

namespace Ledger

variable {ledger : Ledger}

theorem answering_of_writable (h : ledger.Writable) (answer : Answer) :
    ledger.answering answer = answer := by
  rw [answering, record?_of_writable h]

theorem raises_answering {answer : Answer} (hanswer : answer.raises = false)
    (h : (ledger.answering answer).raises = true) : ¬ledger.Writable := by
  intro hwritable
  rw [answering_of_writable hwritable, hanswer] at h
  cases h

theorem answering_matches (ledger : Ledger) {answer other : Answer} (h : answer.Matches other) :
    (ledger.answering answer).Matches (ledger.answering other) := by
  rw [answering, answering]
  cases ledger.record? with
  | ok _ => exact h
  | error e => exact .inl rfl

end Ledger

namespace Call

variable {ledger : Ledger} {call : Call} {success success' : Bool}

theorem reply_of_ne_save (h : call ≠ .save) :
    call.reply ledger success = call.reply ledger success' := by
  cases call with
  | save => exact absurd rfl h
  | load | record | resolve | reset => rfl

theorem reply_matches (ledger : Ledger) (call : Call) (success success' : Bool) :
    (call.reply ledger success).Matches (call.reply ledger success') := by
  by_cases hsave : call = .save
  · subst hsave
    exact ledger.answering_matches (.inr ⟨success, success', rfl, rfl⟩)
  · exact .inl (reply_of_ne_save hsave)

/-- A call breaks off only over progress that cannot be written down. -/
theorem not_writable_of_reply_raises (h : (call.reply ledger success).raises = true) :
    ¬((call.written? ledger).getD ledger).Writable := by
  cases call with
  | load => cases h
  | record issues => exact Ledger.raises_answering rfl h
  | resolve type count =>
      rw [reply] at h
      cases hget : ledger.get? type with
      | none =>
          rw [hget] at h
          cases h
      | some entry =>
          rw [hget] at h
          rw [written?, hget]
          exact Ledger.raises_answering rfl h
  | reset => cases h
  | save => exact Ledger.raises_answering rfl h

end Call

namespace Tracker

variable {σ : Type} [Store σ] {call : Call}

/-- A save succeeds or not, unless the progress cannot be written. -/
theorem save_eq (tracker : Tracker σ) :
    ∃ success after, tracker.save = (tracker.progress.record?.map fun _ => success, after) ∧
      after.progress = tracker.progress := by
  obtain ⟨success, hresult⟩ : ∃ success,
      tracker.save.1 = tracker.progress.record?.map fun _ => success := by
    rcases tracker.save_cases with ⟨hnot, heq⟩ | ⟨hwritable, _, _, -, ⟨-, heq⟩ | ⟨_, -, heq⟩⟩
    · exact ⟨false, by rw [heq, Ledger.record?_of_not_writable hnot]; rfl⟩
    · exact ⟨true, by rw [heq, Ledger.record?_of_writable hwritable]; rfl⟩
    · exact ⟨false, by rw [heq, Ledger.record?_of_writable hwritable]; rfl⟩
  exact ⟨success, tracker.save.2, Prod.ext hresult rfl, tracker.save_progress⟩

theorem update_eq (tracker : Tracker σ) (ledger : Ledger) :
    ∃ after, tracker.update ledger = (ledger.record?.map fun _ => (), after) ∧
      after.progress = ledger := by
  obtain ⟨success, after, heq, hafter⟩ := save_eq { tracker with progress := ledger }
  refine ⟨after, ?_, hafter⟩
  rw [update, heq]
  cases ledger.record? <;> rfl

theorem perform_save [Machine] {tracker : Tracker σ} {success : Bool}
    (h : tracker.save.1 = tracker.progress.record?.map fun _ => success) :
    (tracker.perform .save).1 = Call.save.reply tracker.progress success := by
  have heq : tracker.save = (tracker.progress.record?.map fun _ => success, tracker.save.2) :=
    Prod.ext h rfl
  rw [perform, heq, Call.reply, Ledger.answering]
  cases tracker.progress.record? <;> rfl

/-- The answer of a call that does not load. -/
theorem perform_fst [Machine] (tracker : Tracker σ) (hload : call ≠ .load) :
    ∃ success, (tracker.perform call).1 = call.reply tracker.progress success := by
  cases call with
  | load => exact absurd rfl hload
  | record issues =>
      obtain ⟨after, heq, hafter⟩ :=
        tracker.update_eq (tracker.progress.encounterAll (issues.map Issue.type))
      refine ⟨true, ?_⟩
      rw [perform, record, heq, Call.reply, Ledger.answering, ← hafter]
      cases after.progress.record? <;> rfl
  | resolve type count =>
      refine ⟨true, ?_⟩
      rw [perform, resolve, Call.reply]
      cases hget : tracker.progress.get? type with
      | none => rfl
      | some entry =>
          obtain ⟨after, heq, -⟩ :=
            tracker.update_eq (tracker.progress.set type (entry.resolve count))
          simp only [heq, Ledger.answering]
          cases Ledger.record? (tracker.progress.set type (entry.resolve count)) <;> rfl
  | reset => exact ⟨true, rfl⟩
  | save =>
      obtain ⟨success, after, heq, -⟩ := tracker.save_eq
      exact ⟨success, perform_save (congrArg Prod.fst heq)⟩

end Tracker
end SnippetCoach
