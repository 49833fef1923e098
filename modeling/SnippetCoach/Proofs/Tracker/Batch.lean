import Mathlib
import SnippetCoach.Machine.Usual
import SnippetCoach.Proofs.Progress.Batch
import SnippetCoach.Proofs.Tracker.Account
/-! Calls in parts. Two batches that are recorded one after the other end as one batch, and two
counts that are resolved end as their sum. Only the limit of digits tells them apart: what is
written in between stays where the end cannot be written. -/
namespace SnippetCoach
open Number

theorem resolve_ne_load (type : WideText) (count : Int) : Call.resolve type count ≠ .load := nofun

namespace Account

variable {account : Account}

/-- Nothing is left of the first of two writes, unless it is the only one that can be made. -/
theorem write_write {first second : Ledger} (h : first.Writable → second.Writable) :
    (account.write first).write second = account.write second := by
  by_cases hsecond : second.Writable
  · rw [write_of_writable _ hsecond, write_of_writable _ hsecond]
  · have hfirst : ¬first.Writable := fun hfirst => hsecond (h hfirst)
    rw [write_of_not_writable _ hsecond, write_of_not_writable _ hsecond,
      write_of_not_writable _ hfirst]

variable [Machine]

theorem step_record (account : Account) (issues : List Issue) :
    (account.step (.record issues)).2 =
      account.write (account.progress.encounterAll (issues.map Issue.type)) := rfl

theorem step_record_append {xs ys : List Issue}
    (h : (account.progress.encounterAll (xs.map Issue.type)).Writable →
      (account.progress.encounterAll ((xs ++ ys).map Issue.type)).Writable) :
    ((account.step (.record xs)).2.step (.record ys)).2 =
      (account.step (.record (xs ++ ys))).2 := by
  rw [step_record, step_record, step_record]
  rw [List.map_append, Ledger.encounterAll_append] at h ⊢
  exact write_write h

theorem step_resolve_of_none {type : WideText} (h : account.progress.get? type = none)
    (count : Int) : account.step (.resolve type count) = (.entry none, account) := by
  have hstep := account.step_of_ne_load (resolve_ne_load type count)
  rwa [Call.reply, Call.written?, h] at hstep

theorem step_resolve_of_some {type : WideText} {entry : Entry}
    (h : account.progress.get? type = some entry) (count : Int) :
    account.step (.resolve type count) =
      (Ledger.answering (OrderedMap.set account.progress type (entry.resolve count))
          (.entry (some (entry.resolve count))),
        account.write (OrderedMap.set account.progress type (entry.resolve count))) := by
  have hstep := account.step_of_ne_load (resolve_ne_load type count)
  rwa [Call.reply, Call.written?, h] at hstep

/-- The second count finds the entry that the first one left. It can be written if that one can,
since resolving keeps the counter between the old one and the encounters. -/
theorem step_resolve_resolve (account : Account) (type : WideText) (a b : Nat) :
    (account.step (.resolve type a)).2.step (.resolve type b) =
      account.step (.resolve type (a + b)) := by
  cases hget : account.progress.get? type with
  | none => rw [step_resolve_of_none hget, step_resolve_of_none hget, step_resolve_of_none hget]
  | some entry =>
      have hpart : (OrderedMap.set account.progress type (entry.resolve a)).get? type =
          some (entry.resolve a) := OrderedMap.get?_set_self _ _ _
      have hboth : OrderedMap.set (OrderedMap.set account.progress type (entry.resolve a)) type
          ((entry.resolve a).resolve b) =
            OrderedMap.set account.progress type (entry.resolve (a + b)) := by
        rw [OrderedMap.set_set, Entry.resolve_resolve]
      have hwritable : Ledger.Writable (OrderedMap.set account.progress type (entry.resolve a)) →
          Ledger.Writable (OrderedMap.set account.progress type (entry.resolve (a + b))) := by
        intro h
        rw [← hboth]
        exact h.resolve hpart (entry.resolved_resolve_le a) b
      have hnext : (account.write (OrderedMap.set account.progress type (entry.resolve a))).step
          (.resolve type b) = _ := step_resolve_of_some hpart b
      rw [step_resolve_of_some hget, step_resolve_of_some hget, hnext]
      dsimp only [write]
      rw [hboth, Entry.resolve_resolve]
      exact Prod.ext rfl (write_write hwritable)

end Account

namespace Tracker

section Parts

variable [Machine] {σ : Type} [Store σ] {tracker : Tracker σ}

/-- Two batches end as one. On a store that works so does the record, unless it can be written
between them and no longer behind them. -/
structure JoinsRecords (tracker : Tracker σ) (xs ys : List Issue) : Prop where
  progress : ((tracker.after (.record xs)).after (.record ys)).progress =
    (tracker.after (.record (xs ++ ys))).progress
  stored [LawfulStore σ] : Works tracker.store →
    ((tracker.after (.record xs)).progress.Writable →
      (tracker.after (.record (xs ++ ys))).progress.Writable) →
    Store.get ((tracker.after (.record xs)).after (.record ys)).store tracker.key =
      Store.get (tracker.after (.record (xs ++ ys))).store tracker.key

/-- Two counts of a type end as their sum, and no other type is touched. -/
structure JoinsCounts (tracker : Tracker σ) (type : WideText) (a b : Nat) : Prop where
  answer : ((tracker.after (.resolve type a)).perform (.resolve type b)).1 =
    (tracker.perform (.resolve type (a + b))).1
  progress : ((tracker.after (.resolve type a)).after (.resolve type b)).progress =
    (tracker.after (.resolve type (a + b))).progress
  stored [LawfulStore σ] : Works tracker.store →
    Store.get ((tracker.after (.resolve type a)).after (.resolve type b)).store tracker.key =
      Store.get (tracker.after (.resolve type (a + b))).store tracker.key
  keys : (tracker.after (.resolve type (a + b))).progress.keys = tracker.progress.keys
  others : ∀ name ≠ type,
    (tracker.after (.resolve type (a + b))).progress.get? name = tracker.progress.get? name

theorem progress_record (tracker : Tracker σ) (issues : List Issue) :
    (tracker.after (.record issues)).progress =
      tracker.progress.encounterAll (issues.map Issue.type) :=
  progress_after nofun

theorem progress_resolve (tracker : Tracker σ) (type : WideText) (count : Int) :
    (tracker.after (.resolve type count)).progress =
      (tracker.progress.get? type).elim tracker.progress fun entry =>
        OrderedMap.set tracker.progress type (entry.resolve count) := by
  rw [progress_after (resolve_ne_load type count), Call.written?]
  cases tracker.progress.get? type <;> rfl

/-- Progress and answers do not depend on the store. -/
theorem resolve_eq_step {account : Account} (h : tracker.progress = account.progress)
    (type : WideText) (count : Int) :
    (tracker.perform (.resolve type count)).1 = (account.step (.resolve type count)).1 ∧
      (tracker.after (.resolve type count)).progress =
        (account.step (.resolve type count)).2.progress := by
  obtain ⟨success, hanswer⟩ := tracker.perform_fst (resolve_ne_load type count)
  rw [hanswer, progress_resolve, h]
  cases hget : account.progress.get? type with
  | none =>
      rw [Account.step_resolve_of_none hget, Call.reply, hget]
      exact ⟨rfl, rfl⟩
  | some entry =>
      rw [Account.step_resolve_of_some hget, Call.reply, hget]
      exact ⟨rfl, rfl⟩

/-- Calls that lead an account to the same end leave the same value in a store that works. -/
theorem get_run_eq [LawfulStore σ] (hworks : Works tracker.store) {first second joint : Call}
    (h : ∀ account : Account, account.progress = tracker.progress →
      ((account.step first).2.step second).2 = (account.step joint).2) :
    Store.get ((tracker.after first).after second).store tracker.key =
      Store.get (tracker.after joint).store tracker.key := by
  obtain ⟨stored, hstored⟩ := hworks.get tracker.key
  have hshows : tracker.Shows { progress := tracker.progress, stored } := ⟨hworks, rfl, hstored⟩
  have htwice := (((hshows.perform first).2.perform second).2).stored
  have honce := (hshows.perform joint).2.stored
  rw [after_key, after_key] at htwice
  rw [after_key] at honce
  rw [htwice, honce, h _ rfl]

theorem joinsRecords (tracker : Tracker σ) (xs ys : List Issue) :
    tracker.JoinsRecords xs ys where
  progress := by
    rw [progress_record, progress_record, progress_record, List.map_append,
      Ledger.encounterAll_append]
  stored hworks hwritable := by
    rw [progress_record, progress_record] at hwritable
    refine get_run_eq hworks fun account hprogress => ?_
    rw [← hprogress] at hwritable
    exact Account.step_record_append hwritable

theorem joinsCounts (tracker : Tracker σ) (type : WideText) (a b : Nat) :
    tracker.JoinsCounts type a b := by
  obtain ⟨account, haccount⟩ : ∃ account : Account, tracker.progress = account.progress :=
    ⟨{ progress := tracker.progress, stored := .null }, rfl⟩
  have hpart := (resolve_eq_step haccount type a).2
  obtain ⟨hanswer, hprogress⟩ := resolve_eq_step hpart type b
  obtain ⟨hanswerOnce, honce⟩ := resolve_eq_step haccount type (a + b)
  rw [account.step_resolve_resolve] at hanswer hprogress
  constructor
  case answer => rw [hanswer, hanswerOnce]
  case progress => rw [hprogress, honce]
  case stored =>
    intro _ hworks
    refine get_run_eq hworks fun account _ => ?_
    rw [account.step_resolve_resolve]
  case keys =>
    rw [progress_resolve]
    cases hget : tracker.progress.get? type with
    | none => rfl
    | some entry => exact OrderedMap.keys_set_of_get? hget _
  case others =>
    intro name hname
    rw [progress_resolve]
    cases hget : tracker.progress.get? type with
    | none => rfl
    | some entry => exact (OrderedMap.get?_set _ _ _ _).trans (if_neg hname)

/-- What a batch adds, and that neither a batch nor a count can be told from its parts. A type
without an entry is only reported. -/
theorem joins_parts (tracker : Tracker σ) :
    (∀ issues, Ledger.Adds (issues.map Issue.type) tracker.progress
      (tracker.after (.record issues)).progress) ∧
    (∀ xs ys, tracker.JoinsRecords xs ys) ∧
    (∀ type a b, tracker.JoinsCounts type a b) ∧
    ∀ type count, tracker.progress.get? type = none →
      tracker.perform (.resolve type count) =
        (.entry none, tracker.report (.nothingToResolve type)) := by
  refine ⟨fun issues => ?_, tracker.joinsRecords, tracker.joinsCounts, fun type count hget => ?_⟩
  · rw [progress_record]
    exact Ledger.adds_encounterAll _ _
  · rw [perform, resolve, hget]

end Parts

open scoped Machine

def withSuccesses (count : Nat) : Tracker MemoryStore :=
  { new ∅ defaultKey with progress := Ledger.unresolved ("success" : String) count }

/-- A success is recorded and resolved in two parts, and a type without an entry is resolved. -/
theorem joins_parts_successes :
    Works (withSuccesses 1).store ∧
    ((withSuccesses 1).after (.record [.noIssues, .noIssues])).progress.Writable ∧
    Store.get (((withSuccesses 1).after (.record [.noIssues])).after (.record [.noIssues])).store
        defaultKey =
      Store.get ((withSuccesses 1).after (.record [.noIssues, .noIssues])).store defaultKey ∧
    Store.get
        (((withSuccesses 1).after (.resolve ↑"success" 1)).after (.resolve ↑"success" 2)).store
        defaultKey =
      Store.get ((withSuccesses 1).after (.resolve ↑"success" (1 + 2))).store defaultKey ∧
    (withSuccesses 1).progress.get? ↑"logic" = none ∧
    (withSuccesses 1).perform (.resolve ↑"logic" 1) =
      (.entry none, (withSuccesses 1).report (.nothingToResolve ↑"logic")) := by
  obtain ⟨-, hrecords, hcounts, habsent⟩ := joins_parts (withSuccesses 1)
  have hworks : Works (withSuccesses 1).store := works_memory _
  have hwritable :
      ((withSuccesses 1).after (.record [.noIssues, .noIssues])).progress.Writable := by
    rw [progress_record]
    exact Ledger.writable_unresolved.mpr
      (Nat.lt_trans (by decide : 3 < digitLimit) (Nat.lt_pow_self (by decide)))
  have hnone : (withSuccesses 1).progress.get? ↑"logic" = none := by decide
  exact ⟨hworks, hwritable, (hrecords [.noIssues] [.noIssues]).stored hworks fun _ => hwritable,
    (hcounts ↑"success" 1 2).stored hworks, hnone, habsent ↑"logic" 1 hnone⟩

/-- The record between two batches is the last one that can be written. -/
theorem not_joins_parts :
    ¬∀ (tracker : Tracker MemoryStore) (xs ys : List Issue), Works tracker.store →
      Store.get ((tracker.after (.record xs)).after (.record ys)).store tracker.key =
        Store.get (tracker.after (.record (xs ++ ys))).store tracker.key := by
  intro hclaim
  obtain ⟨last, hpart, hboth⟩ := Ledger.exists_last_writable ("success" : String)
  obtain ⟨count, rfl⟩ : ∃ count, last = count + 1 := by
    cases last with
    | zero => exact absurd Ledger.writable_unresolved_one hboth
    | succ count => exact ⟨count, rfl⟩
  have hone (count : Nat) : (Ledger.unresolved ("success" : String) count).encounterAll
      ([Issue.noIssues].map Issue.type) = Ledger.unresolved ("success" : String) (count + 1) := rfl
  have htwo : (Ledger.unresolved ("success" : String) count).encounterAll
      ([Issue.noIssues, Issue.noIssues].map Issue.type) =
        Ledger.unresolved ("success" : String) (count + 2) := rfl
  let account : Account :=
    { progress := Ledger.unresolved ("success" : String) count, stored := .null }
  have hshows : (withSuccesses count).Shows account := ⟨works_memory _, rfl, rfl⟩
  have htwice := (((hshows.perform (.record [.noIssues])).2.perform (.record [.noIssues])).2).stored
  have honce := (hshows.perform (.record [.noIssues, .noIssues])).2.stored
  rw [Account.step_record, Account.step_record, hone, Account.write_of_writable _ hpart, hone,
    Account.write_of_not_writable _ hboth, after_key, after_key] at htwice
  rw [Account.step_record, htwo, Account.write_of_not_writable _ hboth, after_key] at honce
  have hsame := hclaim (withSuccesses count) [.noIssues] [.noIssues] (works_memory _)
  cases htwice.symm.trans (hsame.trans honce)

end Tracker
end SnippetCoach
