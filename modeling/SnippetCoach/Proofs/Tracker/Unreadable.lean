import SnippetCoach.Proofs.Progress.Room
import SnippetCoach.Proofs.Store.Agreement
import SnippetCoach.Proofs.Tracker.Answers
/-! Files that cannot be read. Every call on such a file fails alike and leaves it as it is, and a
tracker on it goes on counting in memory. -/
namespace SnippetCoach
open Number

/-- Every call on the store fails and changes nothing. -/
structure Refuses {σ : Type} [Store σ] (store : σ) : Prop where
  get (key : String) : ∃ e, Store.get store key = .error e
  set (key : String) (value : WideJson) : ∃ e, Store.set store key value = (.error e, store)

theorem FaultyStore.refuses {σ : Type} [Store σ] (store : σ) (onGet onSet : StoreError) :
    Refuses { store, onGet := some onGet, onSet := some onSet : FaultyStore σ } :=
  ⟨fun _ => ⟨onGet, rfl⟩, fun _ _ => ⟨onSet, rfl⟩⟩

namespace FileStore

variable [Machine]

/-- The path leads to a directory, or to a file that is not the text of an object. -/
inductive Unreadable (file : FileStore) : Prop
  | content {bytes : List UInt8} (holds : file.workspace.Holds file.path bytes)
      (spells : ¬∃ fields, Spells bytes fields) : Unreadable file
  | directory (found : file.workspace.find? file.path = some .directory) : Unreadable file

variable {file : FileStore}

theorem Unreadable.readAll (h : file.Unreadable) : ∃ e, file.readAll = .error e := by
  cases h with
  | content holds spells =>
      rename_i bytes
      rw [readAll_of_holds holds]
      cases hdecode : decode file.path bytes with
      | ok fields => exact absurd ⟨fields, decode_eq_ok_iff.mp hdecode⟩ spells
      | error e => exact ⟨e, rfl⟩
  | directory found =>
      obtain ⟨place, hlocate, hnode⟩ := Workspace.find?_eq_some found
      have hpresent : file.workspace.isPresent file.path = .ok true := by
        simp only [Workspace.isPresent, hlocate, hnode, Option.isSome_some]
      have hread : file.workspace.read file.path =
          .error { cause := .isDirectory, path := file.path } := by
        simp only [Workspace.read, hlocate, hnode]
      refine ⟨.file { cause := .isDirectory, path := file.path }, ?_⟩
      rw [FileStore.readAll, hpresent, hread]
      rfl

theorem Unreadable.fails (h : file.Unreadable) :
    ∃ e, ∀ key value, Store.get file key = .error e ∧
      Store.set file key value = (.error e, file) := by
  obtain ⟨e, hread⟩ := h.readAll
  refine ⟨e, fun key value => ⟨?_, ?_⟩⟩
  · simp only [Store.get, hread, Except.map]
  · -- the file is read before it is opened for writing
    simp only [Store.set, hread]

theorem Unreadable.refuses (h : file.Unreadable) : Refuses file := by
  obtain ⟨e, hfails⟩ := h.fails
  exact ⟨fun key => ⟨e, (hfails key .null).1⟩, fun key value => ⟨e, (hfails key value).2⟩⟩

end FileStore

/-- The progress after a call that does not reach the store. -/
def Call.leave (ledger : Ledger) (call : Call) : Ledger :=
  (call.written? ledger).getD ledger

def Call.recorded : Call → Nat
  | record issues => issues.length
  | load | resolve .. | reset | save => 0

def Call.recordedAll (calls : List Call) : Nat :=
  (calls.map recorded).sum

namespace Ledger

variable {ledger : Ledger} {room : Nat}

theorem HasRoom.leave {call : Call} (h : ledger.HasRoom (call.recorded + room)) :
    (call.leave ledger).HasRoom room := by
  cases call with
  | load => exact h.mono (Nat.le_add_left room _)
  | record issues =>
      refine HasRoom.encounterAll ?_
      rw [List.length_map]
      exact h
  | resolve type count =>
      have hroom := h.mono (Nat.le_add_left room _)
      rw [Call.leave, Call.written?]
      cases hget : ledger.get? type with
      | none => exact hroom
      | some entry => exact hroom.resolve count hget
  | reset => exact (h.mono (Nat.le_add_left room _)).empty
  | save => exact h.mono (Nat.le_add_left room _)

theorem HasRoom.leaveAll {calls : List Call}
    (h : ledger.HasRoom (Call.recordedAll calls + room)) :
    HasRoom (calls.foldl Call.leave ledger) room := by
  induction calls generalizing ledger with
  | nil => exact h.mono (Nat.le_add_left room _)
  | cons call calls ih =>
      refine ih (HasRoom.leave ?_)
      rw [Call.recordedAll, List.map_cons, List.sum_cons, Nat.add_assoc] at h
      exact h

end Ledger

namespace Tracker

section Refusing

variable [Machine] {σ : Type} [Store σ] {tracker : Tracker σ}

/-- No call reaches the store, and the counters alone decide the answer. -/
theorem perform_of_refuses (h : Refuses tracker.store) (call : Call) :
    (tracker.perform call).1 = call.reply tracker.progress false ∧
      (tracker.after call).store = tracker.store ∧
      (tracker.after call).progress = call.leave tracker.progress := by
  have hsave (ledger : Ledger) :
      (save { tracker with progress := ledger }).1 = ledger.record?.map (fun _ => false) ∧
        (save { tracker with progress := ledger }).2.store = tracker.store := by
    obtain ⟨e, hset⟩ := h.set tracker.key (.str ledger.record)
    let changed : Tracker σ := { tracker with progress := ledger }
    by_cases hwritable : ledger.Writable
    · have heq : changed.save = _ := save_of_set_error hwritable hset
      rw [heq, Ledger.record?_of_writable hwritable]
      exact ⟨rfl, rfl⟩
    · have heq : changed.save = _ := save_of_not_writable hwritable
      rw [heq, Ledger.record?_of_not_writable hwritable]
      exact ⟨rfl, rfl⟩
  by_cases hload : call = .load
  · subst hload
    obtain ⟨e, hget⟩ := h.get tracker.key
    have heq : tracker.load = .ok (tracker.report (.loadFailed e)) := by
      rw [load, hget]
    rw [after, perform, heq]
    exact ⟨rfl, rfl, rfl⟩
  · refine ⟨?_, ?_, progress_after hload⟩
    · by_cases hsaves : call = .save
      · subst hsaves
        exact perform_save (hsave tracker.progress).1
      · obtain ⟨success, hreply⟩ := tracker.perform_fst hload
        rw [hreply]
        exact Call.reply_of_ne_save hsaves
    · cases hwritten : call.written? tracker.progress with
      | some ledger =>
          rw [after_of_written hwritten]
          exact (hsave ledger).2
      | none =>
          obtain ⟨event, heq⟩ := after_of_not_written hload hwritten
          rw [heq, report]

theorem run_of_refuses (h : Refuses tracker.store) (calls : List Call) :
    (tracker.run calls).store = tracker.store ∧
      (tracker.run calls).progress = calls.foldl Call.leave tracker.progress := by
  induction calls generalizing tracker with
  | nil => exact ⟨rfl, rfl⟩
  | cons call calls ih =>
      obtain ⟨-, hstore, hprogress⟩ := perform_of_refuses h call
      obtain ⟨hlast, hcounted⟩ := ih (hstore.symm ▸ h)
      rw [hprogress] at hcounted
      exact ⟨hlast.trans hstore, hcounted⟩

end Refusing

/-- Every get and every set on a file that cannot be read fails alike, and after any calls the file
is as it was. The progress and the answers are those on any store where every call fails. As long
as there is room for the recorded issues nothing breaks off, and no save succeeds. -/
theorem unreadable_kept [Machine] {τ : Type} [Store τ] {tracker : Tracker FileStore}
    {other : Tracker τ} (h : tracker.store.Unreadable) (hother : Refuses other.store)
    (hsame : tracker.progress = other.progress) (calls : List Call) (next : Call) :
    (∃ e, ∀ key value, Store.get tracker.store key = .error e ∧
      Store.set tracker.store key value = (.error e, tracker.store)) ∧
    (tracker.run calls).store = tracker.store ∧
    (tracker.run calls).progress = (other.run calls).progress ∧
    ((tracker.run calls).perform next).1 = ((other.run calls).perform next).1 ∧
    (tracker.progress.HasRoom (Call.recordedAll (calls ++ [next])) →
      ((tracker.run calls).perform next).1.raises = false ∧
      (next = .save → ((tracker.run calls).perform next).1 = .saved false)) := by
  obtain ⟨hstore, hprogress⟩ := run_of_refuses h.refuses calls
  obtain ⟨hotherStore, hotherProgress⟩ := run_of_refuses hother calls
  have hagree : (tracker.run calls).progress = (other.run calls).progress := by
    rw [hprogress, hotherProgress, hsame]
  obtain ⟨hreply, -, hafter⟩ := perform_of_refuses (hstore.symm ▸ h.refuses) next
  obtain ⟨hotherReply, -, -⟩ := perform_of_refuses (hotherStore.symm ▸ hother) next
  refine ⟨h.fails, hstore, hagree, ?_, ?_⟩
  · rw [hreply, hotherReply, hagree]
  · intro hroom
    have hlast : (next.leave (tracker.run calls).progress).Writable := by
      have hall : Ledger.HasRoom ((calls ++ [next]).foldl Call.leave tracker.progress) 0 :=
        Ledger.HasRoom.leaveAll hroom
      rw [List.foldl_append, ← hprogress] at hall
      exact hall.writable
    rw [hreply]
    constructor
    · exact Bool.eq_false_iff.mpr fun hraises => Call.not_writable_of_reply_raises hraises hlast
    · rintro rfl
      exact Ledger.answering_of_writable hlast _

/-- A file with a byte that begins no character. -/
def garbledFile : FileStore :=
  FileStore.inDirectory [255]

theorem unreadable_garbledFile [Machine] : garbledFile.Unreadable := by
  refine .content (Workspace.holds_writeWithin (FileStore.written_inDirectory [255])) ?_
  rintro ⟨fields, text, entries, htext, -⟩
  have hfails : (Text.Utf8.decode [255]).isOk = false := by decide +kernel
  rw [htext] at hfails
  cases hfails

open scoped Machine

/-- A fresh tracker on it counts an issue and cannot save it. -/
theorem unreadable_kept_garbled :
    garbledFile.Unreadable ∧ Ledger.HasRoom ∅ 1 ∧
      ∃ other : Tracker (FaultyStore MemoryStore), Refuses other.store ∧ other.progress = ∅ ∧
        ((new garbledFile defaultKey).run [.load, .record [Issue.noIssues]]).store = garbledFile ∧
        ((new garbledFile defaultKey).run [.load, .record [Issue.noIssues]]).progress =
          (other.run [.load, .record [Issue.noIssues]]).progress ∧
        (((new garbledFile defaultKey).run [.load, .record [Issue.noIssues]]).perform .save).1 =
          .saved false := by
  have hroom : Ledger.HasRoom ∅ 1 :=
    Ledger.hasRoom_empty (Nat.one_lt_pow (by decide) (by decide))
  let refusing : FaultyStore MemoryStore :=
    { store := ∅, onGet := some (.backend "OSError"), onSet := some (.backend "OSError") }
  have hrefuses : Refuses refusing := FaultyStore.refuses ∅ _ _
  have hempty : (new garbledFile defaultKey).progress = (new refusing defaultKey).progress := rfl
  obtain ⟨-, hstore, hprogress, -, hanswer⟩ :=
    unreadable_kept unreadable_garbledFile hrefuses hempty [.load, .record [Issue.noIssues]] .save
  exact ⟨unreadable_garbledFile, hroom, new refusing defaultKey, hrefuses, rfl, hstore, hprogress,
    (hanswer hroom).2 rfl⟩

end Tracker
end SnippetCoach
