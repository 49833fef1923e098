import SnippetCoach.Machine.Usual
import SnippetCoach.Proofs.Tracker.Calls
/-! Write-through: after a call whose record the store took, a fresh tracker on the store loads the
same progress. -/
namespace SnippetCoach

theorem Ledger.Joined.written {call : Call} {ledger written : Ledger}
    (h : ledger.Joined) (hwritten : call.written? ledger = some written) : written.Joined := by
  cases call with
  | load => exact nomatch hwritten
  | record issues =>
      obtain rfl := Option.some.inj hwritten
      exact h.encounterAll _
  | resolve type count =>
      obtain ⟨entry, hget, rfl⟩ := Option.map_eq_some_iff.mp hwritten
      exact h.resolve hget count
  | reset =>
      obtain rfl := Option.some.inj hwritten
      exact Ledger.joined_empty
  | save => exact Option.some.inj hwritten ▸ h

namespace Tracker

section Generic

variable {σ : Type} [Store σ] {tracker : Tracker σ} {call : Call}

/-- The call writes a record, and the store takes it. -/
def Stores (tracker : Tracker σ) (call : Call) : Prop :=
  ∃ ledger record, call.written? tracker.progress = some ledger ∧ ledger.record? = .ok record ∧
    (Store.set tracker.store tracker.key (.str record)).1 = .ok ()

variable [Machine]

theorem load_of_get {ledger : Ledger} (hwritable : ledger.Writable) (hjoined : ledger.Joined)
    (h : Store.get tracker.store tracker.key = .ok (.str ledger.record)) :
    tracker.load = .ok { tracker with progress := ledger } := by
  rw [load, h]
  simp only [accept, Ledger.ofRecord?_record hwritable hjoined]

/-- The store then has the record of the progress, whatever the tracker did before. -/
theorem get_of_stores [LawfulStore σ] (h : tracker.Stores call) :
    (tracker.after call).progress.Writable ∧
      Store.get (tracker.after call).store (tracker.after call).key =
        .ok (.str (tracker.after call).progress.record) := by
  obtain ⟨ledger, record, hwritten, hrecord, hset⟩ := h
  obtain ⟨hwritable, rfl⟩ := Ledger.writable_of_record? hrecord
  rw [after_of_written hwritten]
  rcases save_cases { tracker with progress := ledger } with
    ⟨hnot, -⟩ | ⟨-, result, store, heq, ⟨rfl, hsave⟩ | ⟨cause, rfl, -⟩⟩
  · exact absurd hwritable hnot
  · rw [hsave]
    exact ⟨hwritable, LawfulStore.get_of_set heq⟩
  · dsimp only at heq
    rw [heq] at hset
    exact nomatch hset

/-- Under the key there is no record with a name that is read in another way than it is written. -/
def JoinedRecord (store : σ) (key : String) : Prop :=
  ∀ stored ledger, Store.get store key = .ok stored → Ledger.ofRecord? stored = .ok ledger →
    ledger.Joined

/-- No name is read in another way than it is written, in memory and in the record. -/
structure AllJoined (tracker : Tracker σ) : Prop where
  progress : tracker.progress.Joined
  record : JoinedRecord tracker.store tracker.key

/-- A record that the store took has the names of the progress, and where it took none there is
what was there. -/
theorem AllJoined.save [SteadyStore σ] (h : tracker.AllJoined) : tracker.save.2.AllJoined := by
  rcases save_cases tracker with
    ⟨-, hsave⟩ | ⟨hwritable, result, store, heq, ⟨rfl, hsave⟩ | ⟨cause, rfl, hsave⟩⟩
  · rw [hsave]
    exact h
  · rw [hsave]
    refine ⟨h.progress, fun stored ledger hget hledger => ?_⟩
    obtain rfl := Except.ok.inj (hget.symm.trans (LawfulStore.get_of_set heq))
    have hsame := hledger.symm.trans (Ledger.ofRecord?_record hwritable h.progress)
    exact Except.ok.inj hsame ▸ h.progress
  · rw [hsave]
    refine ⟨h.progress, fun stored ledger hget hledger => ?_⟩
    rcases SteadyStore.get_of_failed_set heq hget with rfl | hbefore
    · exact nomatch hledger
    · exact h.record stored ledger hbefore hledger

theorem AllJoined.load (h : tracker.AllJoined) : (tracker.after .load).AllJoined := by
  have hstore := tracker.store_after_load
  have hkey := tracker.after_key .load
  refine ⟨?_, by rw [hstore, hkey]; exact h.record⟩
  rw [after, perform]
  rcases tracker.load_cases with
    ⟨cause, -, heq⟩ | ⟨-, heq⟩ | ⟨stored, hget, ⟨progress, hledger, heq⟩ |
      ⟨cause, -, ⟨-, heq⟩ | heq⟩⟩ <;> rw [heq]
  · exact h.progress
  · exact h.progress
  · exact h.record stored progress hget hledger
  · exact h.progress
  · exact Ledger.joined_empty

theorem AllJoined.after [SteadyStore σ] (h : tracker.AllJoined) (call : Call) :
    (tracker.after call).AllJoined := by
  cases hwritten : call.written? tracker.progress with
  | some ledger =>
      rw [after_of_written hwritten]
      exact AllJoined.save ⟨h.progress.written hwritten, h.record⟩
  | none =>
      by_cases hload : call = .load
      · exact hload ▸ h.load
      · obtain ⟨event, heq⟩ := after_of_not_written hload hwritten
        rw [heq]
        exact ⟨h.progress, h.record⟩

theorem AllJoined.run [SteadyStore σ] (h : tracker.AllJoined) (calls : List Call) :
    (tracker.run calls).AllJoined := by
  induction calls generalizing tracker with
  | nil => exact h
  | cons call calls ih => exact ih (h.after call)

end Generic

open scoped Machine

end Tracker
end SnippetCoach
