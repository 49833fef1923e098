import SnippetCoach.Proofs.Tracker.Answers
import SnippetCoach.Proofs.Tracker.Reload
/-! Refused writes. No counter and no answer tells them apart from writes that succeed, and the next
write that succeeds makes up for all that were missed. -/
namespace SnippetCoach

/-- A store that refuses its next sets as told, and then no more. -/
structure FitfulStore (σ : Type) where
  store : σ
  refusals : List (Option StoreError)

namespace FitfulStore

variable {σ : Type} [Store σ]

instance : Store (FitfulStore σ) where
  get fitful key := Store.get fitful.store key
  set fitful key value :=
    match fitful.refusals with
    | some e :: rest => (.error e, { fitful with refusals := rest })
    | none :: rest =>
      (Store.set fitful.store key value).map id fun store => { store, refusals := rest }
    | [] => (Store.set fitful.store key value).map id fun store => { store, refusals := [] }

instance [LawfulStore σ] : LawfulStore (FitfulStore σ) where
  get_of_set {fitful after key text} h := by
    obtain ⟨store, refusals⟩ := fitful
    have hpassed (rest : List (Option StoreError))
        (hset : (Store.set store key (.str text)).map id (fun store => mk store rest) =
          (.ok (), after)) : Store.get after key = .ok (.str text) := by
      obtain ⟨hresult, rfl⟩ := Prod.mk.inj hset
      have hget := LawfulStore.get_of_set_fst hresult
      exact hget
    cases refusals with
    | nil => exact hpassed [] h
    | cons refusal rest =>
        cases refusal with
        | none => exact hpassed rest h
        | some e => cases (Prod.mk.inj h).1

end FitfulStore

inductive Use where
  | record (issues : List Issue)
  | resolve (type : WideText) (count : Int)
  | reset
  | save
  | snapshot

/-- Only a snapshot is no call on the store. -/
def Use.call? : Use → Option Call
  | record issues => some (.record issues)
  | resolve type count => some (.resolve type count)
  | reset => some .reset
  | save => some .save
  | snapshot => none

theorem Use.ne_load {use : Use} {call : Call} (h : use.call? = some call) : call ≠ .load := by
  rintro rfl
  cases use <;> cases h

namespace Tracker

section Uses

variable [Machine] {σ τ : Type} [Store σ] [Store τ]

def use (tracker : Tracker σ) (next : Use) : Answer × Tracker σ :=
  match next.call? with
  | some call => tracker.perform call
  | none => (.progress tracker.progress, tracker)

def useAll (tracker : Tracker σ) (uses : List Use) : Tracker σ :=
  uses.foldl (fun tracker next => (tracker.use next).2) tracker

theorem use_of_call {tracker : Tracker σ} {next : Use} {call : Call} (h : next.call? = some call) :
    tracker.use next = tracker.perform call := by
  rw [use, h]

theorem use_of_snapshot {tracker : Tracker σ} {next : Use} (h : next.call? = none) :
    tracker.use next = (.progress tracker.progress, tracker) := by
  rw [use, h]

theorem use_key (tracker : Tracker σ) (next : Use) : (tracker.use next).2.key = tracker.key := by
  cases hcall : next.call? with
  | none => rw [use_of_snapshot hcall]
  | some call =>
      rw [use_of_call hcall]
      exact tracker.after_key call

theorem useAll_key (tracker : Tracker σ) (uses : List Use) :
    (tracker.useAll uses).key = tracker.key := by
  induction uses generalizing tracker with
  | nil => rfl
  | cons next uses ih => exact (ih (tracker.use next).2).trans (tracker.use_key next)

/-- Trackers with the same progress answer alike, and have the same progress afterwards. -/
theorem use_matches {left : Tracker σ} {right : Tracker τ} (h : left.progress = right.progress)
    (next : Use) :
    (left.use next).1.Matches (right.use next).1 ∧
      (left.use next).2.progress = (right.use next).2.progress := by
  cases hcall : next.call? with
  | none =>
      rw [use_of_snapshot hcall, use_of_snapshot hcall]
      exact ⟨.inl (congrArg Answer.progress h), h⟩
  | some call =>
      have hload := Use.ne_load hcall
      rw [use_of_call hcall, use_of_call hcall]
      constructor
      · obtain ⟨success, hleft⟩ := left.perform_fst hload
        obtain ⟨success', hright⟩ := right.perform_fst hload
        rw [hleft, hright, h]
        exact Call.reply_matches right.progress call success success'
      · calc (left.after call).progress
            = (call.written? left.progress).getD left.progress := progress_after hload
          _ = (call.written? right.progress).getD right.progress := by rw [h]
          _ = (right.after call).progress := (progress_after hload).symm

theorem useAll_progress {left : Tracker σ} {right : Tracker τ}
    (h : left.progress = right.progress) (uses : List Use) :
    (left.useAll uses).progress = (right.useAll uses).progress := by
  induction uses generalizing left right with
  | nil => exact h
  | cons next uses ih => exact ih (use_matches h next).2

theorem joined_use {tracker : Tracker σ} (h : tracker.progress.Joined) (next : Use) :
    (tracker.use next).2.progress.Joined := by
  cases hcall : next.call? with
  | none =>
      rw [use_of_snapshot hcall]
      exact h
  | some call =>
      have hprogress : (tracker.perform call).2.progress = _ := progress_after (Use.ne_load hcall)
      rw [use_of_call hcall, hprogress]
      cases hwritten : call.written? tracker.progress with
      | none => exact h
      | some ledger => exact h.written hwritten

theorem joined_useAll {tracker : Tracker σ} (h : tracker.progress.Joined) (uses : List Use) :
    (tracker.useAll uses).progress.Joined := by
  induction uses generalizing tracker with
  | nil => exact h
  | cons next uses ih => exact ih (joined_use h next)

theorem not_writable_of_use_raises {tracker : Tracker σ} {next : Use}
    (h : (tracker.use next).1.raises = true) : ¬(tracker.use next).2.progress.Writable := by
  cases hcall : next.call? with
  | none =>
      rw [use_of_snapshot hcall] at h
      cases h
  | some call =>
      have hload := Use.ne_load hcall
      rw [use_of_call hcall] at h ⊢
      obtain ⟨success, hreply⟩ := tracker.perform_fst hload
      rw [hreply] at h
      have hprogress : (tracker.perform call).2.progress = _ := progress_after hload
      rw [hprogress]
      exact Call.not_writable_of_reply_raises h

end Uses

variable {σ : Type}

/-- The tracker while its store refuses the next sets as told. -/
def fitful (tracker : Tracker σ) (refusals : List (Option StoreError)) :
    Tracker (FitfulStore σ) :=
  { key := tracker.key
    progress := tracker.progress
    store := { store := tracker.store, refusals }
    events := tracker.events }

/-- Two runs that differ in the sets that the store refuses have the same progress after every use
and the same answers but for the success of saves. Nothing breaks off but over counters that are too
long to be written, and after a set that succeeds the whole progress is stored: its record, which is
read as the progress unless a name is read in another way than it is written. -/
theorem refusals_unseen [Machine] [Store σ] [LawfulStore σ] (tracker : Tracker σ)
    (refusals others : List (Option StoreError)) (uses : List Use) (next : Use) :
    let left := (tracker.fitful refusals).useAll uses
    let right := (tracker.fitful others).useAll uses
    left.progress = right.progress ∧
      (left.use next).1.Matches (right.use next).1 ∧
      (left.use next).2.progress = (right.use next).2.progress ∧
      ((left.use next).1.raises = true → ¬(left.use next).2.progress.Writable) ∧
      ∀ call, next.call? = some call → left.Stores call →
        ∃ stored, Store.get (left.use next).2.store tracker.key = .ok stored ∧
          stored = .str (left.use next).2.progress.record ∧
          (tracker.progress.Joined →
            Ledger.ofRecord? stored = .ok (left.use next).2.progress) := by
  intro left right
  have hstart : (tracker.fitful refusals).progress = (tracker.fitful others).progress := rfl
  have hprogress : left.progress = right.progress := useAll_progress hstart uses
  obtain ⟨hmatches, hafter⟩ := use_matches hprogress next
  refine ⟨hprogress, hmatches, hafter, not_writable_of_use_raises, ?_⟩
  intro call hcall hstores
  obtain ⟨hwritable, hget⟩ := get_of_stores hstores
  have hkey : (left.after call).key = tracker.key := by
    rw [after_key]
    exact useAll_key _ uses
  rw [hkey] at hget
  rw [use_of_call hcall]
  refine ⟨_, hget, rfl, fun hjoined => ?_⟩
  have hfirst : (tracker.fitful refusals).progress.Joined := hjoined
  have hnames := joined_use (joined_useAll hfirst uses) next
  rw [use_of_call hcall] at hnames
  exact Ledger.ofRecord?_record hwritable hnames

def refusedOnce : Tracker (FitfulStore MemoryStore) :=
  (new ∅ defaultKey : Tracker MemoryStore).fitful [some (.backend "OSError")]

open scoped Machine

/-- A set that succeeds after one that was refused. -/
theorem refusals_unseen_once :
    ∃ left, left = refusedOnce.useAll [.record [Issue.noIssues]] ∧ left.Stores .save ∧
      ∃ stored, Store.get (left.use .save).2.store defaultKey = .ok stored ∧
        Ledger.ofRecord? stored = .ok (left.use .save).2.progress := by
  obtain ⟨left, hleft⟩ : ∃ left, left = refusedOnce.useAll [.record [Issue.noIssues]] := ⟨_, rfl⟩
  obtain ⟨one, hone⟩ : ∃ one, one = Ledger.unresolved ("success" : String) 1 := ⟨_, rfl⟩
  have hwritable : one.Writable :=
    hone ▸ Ledger.writable_unresolved_one
  have hwritten : (Call.record [Issue.noIssues]).written? refusedOnce.progress = some one := by
    rw [hone]
    rfl
  have hstate : left = report
      { refusedOnce with progress := one, store := { store := ∅, refusals := [] } }
      (.saveFailed (.backend "OSError")) := by
    have hused : left = refusedOnce.after (.record [Issue.noIssues]) := hleft
    rw [hused, after_of_written hwritten, save, Ledger.record?_of_writable hwritable]
    rfl
  have hstores : left.Stores .save := by
    rw [hstate]
    exact ⟨one, one.record, rfl, Ledger.record?_of_writable hwritable, rfl⟩
  obtain ⟨-, -, -, -, hstored⟩ := refusals_unseen (new ∅ defaultKey : Tracker MemoryStore)
    [some (.backend "OSError")] [] [.record [Issue.noIssues]] .save
  rw [← refusedOnce, ← hleft] at hstored
  obtain ⟨stored, hget, -, hread⟩ := hstored .save rfl hstores
  exact ⟨left, hleft, hstores, stored, hget, hread Ledger.joined_empty⟩

/-- One more encounter than the greatest count that can be written down. -/
theorem not_use_quiet :
    ¬∀ (tracker : Tracker MemoryStore) (next : Use), (tracker.use next).1.raises = false := by
  intro hclaim
  obtain ⟨count, hlong⟩ := Ledger.exists_not_writable_succ ("success" : String)
  obtain ⟨excess, hexcess⟩ : ∃ excess,
      excess = Ledger.unresolved ("success" : String) (count + 1) := ⟨_, rfl⟩
  rw [← hexcess] at hlong
  let tracker : Tracker MemoryStore :=
    { new ∅ defaultKey with progress := Ledger.unresolved ("success" : String) count }
  have hcounted : tracker.progress.encounterAll ([Issue.noIssues].map Issue.type) = excess :=
    hexcess ▸ Ledger.encounterAll_unresolved count
  have hload : Call.record [Issue.noIssues] ≠ .load := by
    intro hsame
    cases hsame
  obtain ⟨success, hreply⟩ := tracker.perform_fst hload
  have hquiet := hclaim tracker (.record [Issue.noIssues])
  rw [use_of_call rfl, hreply, Call.reply, hcounted] at hquiet
  rw [Ledger.answering, Ledger.record?_of_not_writable hlong] at hquiet
  cases hquiet

end Tracker
end SnippetCoach
