import SnippetCoach.Machine.Usual
import SnippetCoach.Proofs.Progress.Sound
import SnippetCoach.Proofs.Tracker.Calls
/-! Counters: whatever is called and whatever the store refuses, no type has more resolved than
encountered issues, in memory and in the store. -/
namespace SnippetCoach

theorem Ledger.Sound.written {call : Call} {ledger written : Ledger} (h : ledger.Sound)
    (hwritten : call.written? ledger = some written) : written.Sound := by
  cases call with
  | load => exact nomatch hwritten
  | record issues => exact Option.some.inj hwritten ▸ h.encounterAll _
  | resolve type count =>
      obtain ⟨entry, hget, rfl⟩ := Option.map_eq_some_iff.mp hwritten
      exact h.resolve count hget
  | reset => exact Option.some.inj hwritten ▸ sound_empty
  | save => exact Option.some.inj hwritten ▸ h

/-- One step of a session: a call, or a fresh tracker in place of the old one. -/
inductive Action where
  | call (call : Call)
  | fresh

/-- An action while the store refuses reading or writing as told. -/
structure Attempt where
  onGet : Option StoreError
  onSet : Option StoreError
  action : Action

namespace Tracker

theorem get_faulty {faulty : FaultyStore MemoryStore} {key : String} {stored : WideJson}
    (h : Store.get faulty key = .ok stored) :
    stored = (OrderedMap.get? faulty.store key).getD .null := by
  cases hget : faulty.onGet with
  | none =>
      simp only [Store.get, hget] at h
      exact (Except.ok.inj h).symm
  | some e =>
      simp only [Store.get, hget] at h
      exact nomatch h

theorem set_faulty (faulty : FaultyStore MemoryStore) (key : String) (value : WideJson) :
    Store.set faulty key value =
        (.ok (), { faulty with store := OrderedMap.set faulty.store key value }) ∨
      ∃ e, Store.set faulty key value = (.error e, faulty) := by
  cases hset : faulty.onSet with
  | none => exact .inl (by simp only [Store.set, hset])
  | some e => exact .inr ⟨e, by simp only [Store.set, hset]⟩

section Sessions

variable [Machine]

/-- What the store of a tracker really holds under its key. -/
def stored? (tracker : Tracker (FaultyStore MemoryStore)) : Option WideJson :=
  OrderedMap.get? tracker.store.store tracker.key

/-- A refused write leaves the store as it was. -/
def attempt (tracker : Tracker (FaultyStore MemoryStore)) (step : Attempt) :
    Tracker (FaultyStore MemoryStore) :=
  let store := { tracker.store with onGet := step.onGet, onSet := step.onSet }
  match step.action with
  | .call call => { tracker with store }.after call
  | .fresh => new store tracker.key

/-- A fresh tracker on a store, and then so many steps. -/
def session (store : MemoryStore) (key : String) (steps : List Attempt) :
    Tracker (FaultyStore MemoryStore) :=
  steps.foldl attempt (new { store, onGet := none, onSet := none } key)

/-- The stores that sessions begin with: nothing is under the key, or what a session left there. -/
inductive Begins (key : String) : MemoryStore → Prop where
  | unset {store : MemoryStore} (h : OrderedMap.get? store key = none) : Begins key store
  | written {store before : MemoryStore} {steps : List Attempt} {record : WideJson}
      (begins : Begins key before) (left : (session before key steps).stored? = some record)
      (h : OrderedMap.get? store key = some record) : Begins key store

/-- Memory and store are both sound, and what is stored is read as what was written. -/
structure Kept (tracker : Tracker (FaultyStore MemoryStore)) : Prop where
  memory : tracker.progress.Sound
  store : ∀ stored, tracker.stored? = some stored →
    ∃ ledger : Ledger, stored = .str ledger.record ∧
      Ledger.ofRecord? stored = .ok ledger ∧ ledger.Sound

section Steps

variable {tracker : Tracker (FaultyStore MemoryStore)} {key : String}

theorem Kept.of_same (h : tracker.Kept) {after : Tracker (FaultyStore MemoryStore)}
    (hmemory : after.progress.Sound) (hstored : after.stored? = tracker.stored?) : after.Kept :=
  ⟨hmemory, hstored ▸ h.store⟩

theorem Kept.save (h : tracker.Kept) : tracker.save.2.Kept := by
  rcases tracker.save_cases with ⟨-, heq⟩ | ⟨hwritable, result, store, hset, hcase⟩
  · rw [heq]
    exact h
  · rcases set_faulty tracker.store tracker.key (.str tracker.progress.record) with
      hok | ⟨e, herror⟩
    · obtain ⟨rfl, rfl⟩ := Prod.mk.inj (hset.symm.trans hok)
      rcases hcase with ⟨-, heq⟩ | ⟨cause, hresult, -⟩
      · rw [heq]
        refine ⟨h.memory, fun stored hstored => ?_⟩
        rw [stored?, OrderedMap.get?_set_self] at hstored
        obtain rfl := Option.some.inj hstored
        exact ⟨tracker.progress, rfl, Ledger.ofRecord?_record hwritable h.memory.joined, h.memory⟩
      · cases hresult
    · obtain ⟨rfl, rfl⟩ := Prod.mk.inj (hset.symm.trans herror)
      rcases hcase with ⟨hresult, -⟩ | ⟨cause, -, heq⟩
      · cases hresult
      · rw [heq]
        exact h.of_same h.memory rfl

theorem Kept.load (h : tracker.Kept) : (tracker.after .load).Kept := by
  rw [after, perform]
  rcases tracker.load_cases with ⟨_, -, heq⟩ | ⟨-, heq⟩ | ⟨stored, hget, hcase⟩
  · rw [heq]
    exact h.of_same h.memory rfl
  · rw [heq]
    exact h.of_same h.memory rfl
  · rcases hcase with ⟨progress, hprogress, heq⟩ | ⟨cause, -, ⟨-, heq⟩ | heq⟩
    · rw [heq]
      refine h.of_same ?_ rfl
      cases hstored : tracker.stored? with
      | none =>
          rw [get_faulty hget, ← stored?, hstored] at hprogress
          cases hprogress
      | some held =>
          have hheld : stored = held := by
            rw [get_faulty hget, ← stored?, hstored, Option.getD_some]
          obtain ⟨ledger, -, hledger, hsound⟩ := h.store held hstored
          rw [hheld, hledger] at hprogress
          exact Except.ok.inj hprogress ▸ hsound
    · rw [heq]
      exact h
    · rw [heq]
      exact h.of_same Ledger.sound_empty rfl

theorem Kept.after (h : tracker.Kept) (call : Call) : (tracker.after call).Kept := by
  cases hwritten : call.written? tracker.progress with
  | some ledger =>
      rw [after_of_written hwritten]
      have hledger : ({ tracker with progress := ledger } : Tracker _).Kept :=
        h.of_same (h.memory.written hwritten) rfl
      exact hledger.save
  | none =>
      by_cases hload : call = .load
      · rw [hload]
        exact h.load
      · obtain ⟨event, heq⟩ := after_of_not_written hload hwritten
        rw [heq]
        exact h.of_same h.memory rfl

theorem Kept.attempt (h : tracker.Kept) (step : Attempt) : (tracker.attempt step).Kept := by
  obtain ⟨onGet, onSet, action⟩ := step
  have htold : ({ tracker with store := { tracker.store with onGet, onSet } } : Tracker _).Kept :=
    h.of_same h.memory rfl
  cases action with
  | call call => exact htold.after call
  | fresh => exact h.of_same Ledger.sound_empty rfl

theorem Kept.foldl (h : tracker.Kept) (steps : List Attempt) :
    (steps.foldl Tracker.attempt tracker).Kept := by
  induction steps generalizing tracker with
  | nil => exact h
  | cons step steps ih => exact ih (h.attempt step)

end Steps

theorem kept_of_begins {store : MemoryStore} {key : String} (h : Begins key store) :
    (new { store, onGet := none, onSet := none : FaultyStore _ } key).Kept := by
  induction h with
  | unset h => exact ⟨Ledger.sound_empty, fun stored hstored => nomatch h.symm.trans hstored⟩
  | written _ left h ih =>
      refine ⟨Ledger.sound_empty, fun stored hstored => ?_⟩
      have hkept := (ih.foldl _).store _ left
      rwa [Option.some.inj (h.symm.trans hstored)] at hkept

/-- Whatever a session does and whatever its store refuses, the counters in memory and those that
are stored are sound after every step. -/
theorem kept_session {store : MemoryStore} {key : String} (h : Begins key store)
    (steps : List Attempt) : (session store key steps).Kept :=
  (kept_of_begins h).foldl steps

end Sessions

open scoped Machine

/-- A refused write, a negative count and a count that is too great. -/
theorem kept_session_refused :
    Begins "progress" ∅ ∧
      (session ∅ "progress"
        [{ onGet := none, onSet := some (.backend "OSError")
           action := .call (.record [Issue.noIssues]) },
          { onGet := none, onSet := none, action := .call (.resolve "success" (-3)) },
          { onGet := some (.backend "OSError"), onSet := none, action := .fresh },
          { onGet := none, onSet := none, action := .call .load },
          { onGet := none, onSet := none, action := .call (.resolve "success" 7) }]).Kept :=
  ⟨.unset rfl, kept_session (.unset rfl) _⟩

end Tracker
end SnippetCoach
