import SnippetCoach.Proofs.Tracker.Sound
/-! What reaches the store: a step of a session puts one record into it or leaves it as it was. -/
namespace SnippetCoach

theorem Ledger.writable_of_isOk {ledger : Ledger} (h : ledger.record?.isOk = true) :
    ledger.Writable := by
  cases hrecord : ledger.record? with
  | ok text => exact (writable_of_record? hrecord).1
  | error e =>
      rw [hrecord] at h
      exact nomatch h

namespace Tracker

variable {tracker : Tracker (FaultyStore MemoryStore)} {attempt : Attempt}

/-- The ledger whose record an attempt puts into the store, if it puts one there. -/
def puts? (tracker : Tracker (FaultyStore MemoryStore)) (attempt : Attempt) : Option Ledger :=
  match attempt.action, attempt.onSet with
  | .call call, none => (call.written? tracker.progress).filter fun ledger => ledger.record?.isOk
  | _, _ => none

theorem stored?_save (tracker : Tracker (FaultyStore MemoryStore)) :
    tracker.save.2.stored? =
      if tracker.store.onSet.isNone && tracker.progress.record?.isOk then
        some (.str tracker.progress.record)
      else tracker.stored? := by
  rcases tracker.save_cases with ⟨hnot, heq⟩ | ⟨hwritable, result, store, hset, hcase⟩
  · rw [heq, Ledger.record?_of_not_writable hnot]
    simp [Except.isOk, Except.toBool]
  · rw [Ledger.record?_of_writable hwritable]
    cases honSet : tracker.store.onSet with
    | none =>
        simp only [Store.set, honSet] at hset
        obtain ⟨rfl, rfl⟩ := Prod.mk.inj hset
        rcases hcase with ⟨-, heq⟩ | ⟨cause, hresult, -⟩
        · rw [heq]
          exact OrderedMap.get?_set_self _ _ _
        · cases hresult
    | some e =>
        simp only [Store.set, honSet] at hset
        obtain ⟨rfl, rfl⟩ := Prod.mk.inj hset
        rcases hcase with ⟨hresult, -⟩ | ⟨cause, -, heq⟩
        · cases hresult
        · rw [heq]
          rfl

/-- The tracker while its store refuses what it is told to. -/
def told (tracker : Tracker (FaultyStore MemoryStore)) (onGet onSet : Option StoreError) :
    Tracker (FaultyStore MemoryStore) :=
  { tracker with store := { tracker.store with onGet, onSet } }

theorem told_stored? (tracker : Tracker (FaultyStore MemoryStore))
    (onGet onSet : Option StoreError) : (tracker.told onGet onSet).stored? = tracker.stored? := rfl

theorem told_progress (tracker : Tracker (FaultyStore MemoryStore))
    (onGet onSet : Option StoreError) :
    (tracker.told onGet onSet).progress = tracker.progress := rfl

/-- What is put into the store can be read, and a call writes it. -/
theorem puts?_eq_some {ledger : Ledger} (h : tracker.puts? attempt = some ledger) :
    ledger.Writable ∧ ∃ call, attempt.action = .call call ∧
      call.written? tracker.progress = some ledger := by
  obtain ⟨onGet, onSet, action⟩ := attempt
  cases action with
  | fresh => exact nomatch h
  | call call =>
      cases onSet with
      | some e => exact nomatch h
      | none =>
          obtain ⟨hwritten, hwritable⟩ := Option.filter_eq_some_iff.mp h
          exact ⟨Ledger.writable_of_isOk hwritable, call, rfl, hwritten⟩

theorem puts?_of_written {call : Call} {ledger : Ledger}
    (hwritten : call.written? tracker.progress = some ledger) (hwritable : ledger.Writable)
    (onGet : Option StoreError) :
    tracker.puts? { onGet, onSet := none, action := .call call } = some ledger := by
  have hok : ledger.record?.isOk = true := by
    rw [Ledger.record?_of_writable hwritable]
    rfl
  exact Option.filter_eq_some_iff.mpr ⟨hwritten, hok⟩

section Steps

variable [Machine]

theorem stored?_load (tracker : Tracker (FaultyStore MemoryStore)) :
    (tracker.after .load).stored? = tracker.stored? := by
  rw [after, perform]
  rcases tracker.load_cases with
      ⟨_, -, heq⟩ | ⟨-, heq⟩ | ⟨_, -, ⟨_, -, heq⟩ | ⟨_, -, ⟨-, heq⟩ | heq⟩⟩ <;>
    rw [heq] <;> rfl

theorem progress_load_refused {e : StoreError} (h : tracker.store.onGet = some e) :
    (tracker.after .load).progress = tracker.progress := by
  have hget : Store.get tracker.store tracker.key = .error e := by simp only [Store.get, h]
  simp only [after, perform, load, hget, report]

theorem attempt_call (tracker : Tracker (FaultyStore MemoryStore)) (onGet onSet : Option StoreError)
    (call : Call) :
    tracker.attempt { onGet, onSet, action := .call call } =
      (tracker.told onGet onSet).after call :=
  rfl

/-- The store changes by what an attempt puts into it and by nothing else. -/
theorem stored?_attempt (tracker : Tracker (FaultyStore MemoryStore)) (attempt : Attempt) :
    (tracker.attempt attempt).stored? =
      (tracker.puts? attempt).elim tracker.stored? fun ledger => some (.str ledger.record) := by
  obtain ⟨onGet, onSet, action⟩ := attempt
  cases action with
  | fresh => rfl
  | call call =>
      rw [attempt_call, ← tracker.told_stored? onGet onSet]
      cases hwritten : call.written? tracker.progress with
      | none =>
          have hputs : tracker.puts? { onGet, onSet, action := .call call } = none := by
            cases onSet <;> simp [puts?, hwritten]
          rw [hputs]
          by_cases hload : call = .load
          · rw [hload]
            exact stored?_load _
          · have hnone : call.written? (tracker.told onGet onSet).progress = none := hwritten
            obtain ⟨event, heq⟩ := after_of_not_written hload hnone
            rw [heq]
            rfl
      | some ledger =>
          have hsome : call.written? (tracker.told onGet onSet).progress = some ledger := hwritten
          rw [after_of_written hsome, stored?_save]
          cases onSet with
          | none =>
              simp only [puts?, hwritten, Option.filter, told, Option.isNone_none, Bool.true_and]
              split <;> rfl
          | some e => rfl

end Steps

end Tracker
end SnippetCoach
