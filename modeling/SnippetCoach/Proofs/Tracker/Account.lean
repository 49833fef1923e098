import Mathlib
import SnippetCoach.Proofs.Store.Separate
import SnippetCoach.Proofs.Tracker.Answers
/-! What a tracker makes of a store that works: its progress and the one value under its key.
Nothing else in the store counts for a call, and a call changes nothing else. -/
namespace SnippetCoach

/-- A tracker on a store that works, without the rest of that store. -/
structure Account where
  progress : Ledger
  stored : WideJson

namespace Account

/-- The account after a ledger was written down, unless a counter of it is too long. -/
def write (account : Account) (ledger : Ledger) : Account :=
  { progress := ledger
    stored :=
      match ledger.record? with
      | .ok record => .str record
      | .error _ => account.stored }

theorem write_of_writable (account : Account) {ledger : Ledger} (h : ledger.Writable) :
    account.write ledger = { progress := ledger, stored := .str ledger.record } := by
  rw [write, Ledger.record?_of_writable h]

theorem write_of_not_writable (account : Account) {ledger : Ledger} (h : ¬ledger.Writable) :
    account.write ledger = { account with progress := ledger } := by
  rw [write, Ledger.record?_of_not_writable h]

variable [Machine]

/-- Takes the stored value over as far as it is a record. -/
def load (account : Account) : Answer × Account :=
  match account.stored with
  | .null => (.progress account.progress, account)
  | stored =>
    match Ledger.ofRecord? stored with
    | .ok progress => (.progress progress, { account with progress })
    | .error cause =>
      if cause.breaksOff then (.unread cause, account)
      else (.progress ∅, { account with progress := ∅ })

theorem load_of_null {account : Account} (hnull : account.stored = .null) :
    account.load = (.progress account.progress, account) := by
  rw [load, hnull]

theorem load_of_ne_null {account : Account} (hnull : account.stored ≠ .null) :
    account.load =
      match Ledger.ofRecord? account.stored with
      | .ok progress => (.progress progress, { account with progress })
      | .error cause =>
        if cause.breaksOff then (.unread cause, account)
        else (.progress ∅, { account with progress := ∅ }) := by
  rw [load]
  cases hstored : account.stored with
  | null => exact absurd hstored hnull
  | bool | int | float | str | arr | obj => rfl

def step (account : Account) : Call → Answer × Account
  | .load => account.load
  | call =>
    (call.reply account.progress true,
      (call.written? account.progress).elim account account.write)

theorem step_of_ne_load (account : Account) {call : Call} (hload : call ≠ .load) :
    account.step call = (call.reply account.progress true,
      (call.written? account.progress).elim account account.write) := by
  cases call with
  | load => exact absurd rfl hload
  | record | resolve | reset | save => rfl

end Account

/-- What a session asks of its tracker: a call, or a copy of the progress. -/
inductive Operation where
  | call (call : Call)
  | snapshot

namespace Account

variable [Machine]

def operate (account : Account) : Operation → Answer × Account
  | .call call => account.step call
  | .snapshot => (.progress account.progress, account)

/-- The answers of all operations, and the account after them. -/
def run (account : Account) : List Operation → List Answer × Account
  | [] => ([], account)
  | operation :: rest =>
    let (answer, next) := account.operate operation
    let (answers, last) := next.run rest
    (answer :: answers, last)

end Account

namespace Tracker

variable {σ : Type} {tracker : Tracker σ} {account : Account}

section Saves

variable [Store σ]

/-- On a store that works a save fails over the digits of a counter only. -/
theorem save_of_works (hworks : Works tracker.store) :
    tracker.save.1 = tracker.progress.record?.map fun _ => true := by
  by_cases hwritable : tracker.progress.Writable
  · obtain ⟨store, hset, -⟩ := hworks.set tracker.key tracker.progress.record
    rw [save_of_set_ok hwritable hset, Ledger.record?_of_writable hwritable]
    rfl
  · rw [save_of_not_writable hwritable, Ledger.record?_of_not_writable hwritable]
    rfl

theorem get_save_of_ne [SeparateStore σ] {key : String} (tracker : Tracker σ)
    (hworks : Works tracker.store) (hkey : key ≠ tracker.key) :
    Store.get tracker.save.2.store key = Store.get tracker.store key := by
  by_cases hwritable : tracker.progress.Writable
  · obtain ⟨store, hset, -⟩ := hworks.set tracker.key tracker.progress.record
    rw [save_of_set_ok hwritable hset]
    exact SeparateStore.get_of_set_ne hkey hset
  · rw [save_of_not_writable hwritable]

/-- The tracker has the progress of the account, and its store works and has the stored value. -/
structure Shows (tracker : Tracker σ) (account : Account) : Prop where
  works : Works tracker.store
  progress : tracker.progress = account.progress
  stored : Store.get tracker.store tracker.key = .ok account.stored

theorem Shows.save [LawfulStore σ] (h : tracker.Shows account) (ledger : Ledger) :
    (Tracker.save { tracker with progress := ledger }).2.Shows (account.write ledger) := by
  by_cases hwritable : ledger.Writable
  · obtain ⟨store, hset, hworks⟩ := h.works.set tracker.key ledger.record
    rw [save_of_set_ok hwritable hset, account.write_of_writable hwritable]
    exact ⟨hworks, rfl, LawfulStore.get_of_set hset⟩
  · rw [save_of_not_writable hwritable, account.write_of_not_writable hwritable]
    exact ⟨h.works, rfl, h.stored⟩

end Saves

variable [Machine]

theorem accept_of_ne_null {stored : WideJson} (hnull : stored ≠ .null) :
    tracker.accept stored =
      match Ledger.ofRecord? stored with
      | .ok progress => .ok { tracker with progress }
      | .error cause =>
        if cause.breaksOff then .error cause
        else .ok { tracker.report (.recordIgnored cause) with progress := ∅ } := by
  cases stored with
  | null => exact absurd rfl hnull
  | bool | int | float | str | arr | obj => rfl

variable [Store σ]

theorem Shows.load (h : tracker.Shows account) :
    (tracker.perform .load).1 = account.load.1 ∧ (tracker.after .load).Shows account.load.2 := by
  obtain ⟨hworks, hprogress, hstored⟩ := h
  have hload : tracker.load = tracker.accept account.stored := by
    rw [Tracker.load, hstored]
  rw [after, perform, hload]
  by_cases hnull : account.stored = .null
  · rw [hnull, accept, Account.load_of_null hnull]
    exact ⟨congrArg Answer.progress hprogress, hworks, hprogress, hstored⟩
  · rw [accept_of_ne_null hnull, Account.load_of_ne_null hnull]
    cases Ledger.ofRecord? account.stored with
    | ok progress => exact ⟨rfl, hworks, rfl, hstored⟩
    | error cause =>
        dsimp only
        by_cases hbreaks : cause.breaksOff = true
        · rw [if_pos hbreaks, if_pos hbreaks]
          exact ⟨rfl, hworks, hprogress, hstored⟩
        · rw [if_neg hbreaks, if_neg hbreaks]
          exact ⟨rfl, hworks, rfl, hstored⟩

/-- A call gives what the account gives for it, and the account stays true. -/
theorem Shows.perform [LawfulStore σ] (h : tracker.Shows account) (call : Call) :
    (tracker.perform call).1 = (account.step call).1 ∧
      (tracker.after call).Shows (account.step call).2 := by
  by_cases hload : call = .load
  · subst hload
    exact h.load
  · rw [account.step_of_ne_load hload, ← h.progress]
    constructor
    · by_cases hsave : call = .save
      · subst hsave
        exact perform_save (save_of_works h.works)
      · obtain ⟨success, heq⟩ := tracker.perform_fst hload
        exact heq.trans (Call.reply_of_ne_save hsave)
    · cases hwritten : call.written? tracker.progress with
      | some ledger =>
          rw [after_of_written hwritten]
          exact h.save ledger
      | none =>
          obtain ⟨event, heq⟩ := after_of_not_written hload hwritten
          rw [heq]
          exact ⟨h.works, h.progress, h.stored⟩

def operate (tracker : Tracker σ) : Operation → Answer × Tracker σ
  | .call call => tracker.perform call
  | .snapshot => (.progress tracker.progress, tracker)

theorem operate_key (tracker : Tracker σ) (operation : Operation) :
    (tracker.operate operation).2.key = tracker.key := by
  cases operation with
  | call call => exact tracker.after_key call
  | snapshot => rfl

theorem Shows.operate [LawfulStore σ] (h : tracker.Shows account) (operation : Operation) :
    (tracker.operate operation).1 = (account.operate operation).1 ∧
      (tracker.operate operation).2.Shows (account.operate operation).2 := by
  cases operation with
  | call call => exact h.perform call
  | snapshot => exact ⟨congrArg Answer.progress h.progress, h⟩

section Others

variable [SeparateStore σ] {key : String}

/-- What a store that works has under other keys is the same after every call. -/
theorem get_after_of_ne (hworks : Works tracker.store) (hkey : key ≠ tracker.key) (call : Call) :
    Store.get (tracker.after call).store key = Store.get tracker.store key := by
  cases hwritten : call.written? tracker.progress with
  | some ledger =>
      rw [after_of_written hwritten]
      exact get_save_of_ne { tracker with progress := ledger } hworks hkey
  | none =>
      by_cases hload : call = .load
      · subst hload
        rw [store_after_load]
      · obtain ⟨event, heq⟩ := after_of_not_written hload hwritten
        rw [heq, report]

theorem get_operate_of_ne (hworks : Works tracker.store) (hkey : key ≠ tracker.key)
    (operation : Operation) :
    Store.get (tracker.operate operation).2.store key = Store.get tracker.store key := by
  cases operation with
  | call call => exact get_after_of_ne hworks hkey call
  | snapshot => rfl

end Others

end Tracker
end SnippetCoach
