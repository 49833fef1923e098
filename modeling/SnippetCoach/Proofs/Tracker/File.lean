import SnippetCoach.Proofs.Progress.Counters
import SnippetCoach.Proofs.Tracker.Reload
/-! Trackers over a file that nobody else writes: their progress is in the file after every change
that can be written down. -/
namespace SnippetCoach
open Number

variable [Machine]

namespace FileStore

/-- The ledger in the file of a store, an empty one without a file or a record. -/
def ledger? (store : FileStore) : Option Ledger :=
  match store.readAll with
  | .error _ => none
  | .ok fields =>
    match fields.get? Tracker.defaultKey with
    | none => some ∅
    | some stored => (Ledger.ofRecord? stored).toOption

/-- The file has the record of a ledger, or no record while nothing was counted. -/
structure Keeps (store : FileStore) (ledger : Ledger) : Prop where
  sound : ledger.Sound
  writable : ledger.Writable
  stored : ∃ fields : MemoryStore, store.readAll = .ok fields ∧
    (fields.get? Tracker.defaultKey = some (.str ledger.record) ∨
      fields.get? Tracker.defaultKey = none ∧ ledger = ∅)

variable {store : FileStore} {ledger : Ledger}

theorem Keeps.ledger?_eq (h : store.Keeps ledger) : store.ledger? = some ledger := by
  obtain ⟨fields, hread, hrecord | ⟨hnone, rfl⟩⟩ := h.stored
  · simp only [ledger?, hread, hrecord, Ledger.ofRecord?_record h.writable h.sound.joined,
      Except.toOption]
  · simp only [ledger?, hread, hnone]

theorem keeps_of_missing (h : store.workspace.isPresent store.path = .ok false) :
    store.Keeps ∅ := by
  refine ⟨Ledger.sound_empty, Ledger.writable_empty, ∅, ?_, .inr ⟨rfl, rfl⟩⟩
  rw [readAll, h]
  rfl

end FileStore

namespace Tracker

variable {tracker : Tracker FileStore} {path : Path} {ledger : Ledger}

/-- The file of a tracker keeps its progress and can be written. -/
structure InStep (tracker : Tracker FileStore) (path : Path) : Prop where
  key : tracker.key = defaultKey
  file : tracker.store.path = path
  canWrite : tracker.store.workspace.CanWrite path
  keeps : tracker.store.Keeps tracker.progress

theorem InStep.report (h : tracker.InStep path) (event : Event) :
    (tracker.report event).InStep path :=
  ⟨h.key, h.file, h.canWrite, h.keeps⟩

/-- A tracker on the file takes the progress over. -/
theorem load_of_keeps {store : FileStore} (h : store.Keeps ledger)
    (hwrite : store.workspace.CanWrite store.path) :
    ∃ tracker, (new store defaultKey).load = .ok tracker ∧ tracker.InStep store.path ∧
      tracker.progress = ledger ∧ tracker.store = store := by
  obtain ⟨fields, hread, hrecord | ⟨hnone, rfl⟩⟩ := h.stored
  · have hget : Store.get store defaultKey = .ok (.str ledger.record) := by
      simp only [Store.get, hread, Except.map, hrecord, Option.getD_some]
    have hload : (new store defaultKey).load =
        .ok { new store defaultKey with progress := ledger } :=
      load_of_get h.writable h.sound.joined hget
    exact ⟨_, hload, ⟨rfl, rfl, hwrite, h⟩, rfl, rfl⟩
  · have hget : Store.get store defaultKey = .ok .null := by
      simp only [Store.get, hread, Except.map, hnone, Option.getD_none]
    refine ⟨(new store defaultKey).report .noSavedProgress, ?_, ⟨rfl, rfl, hwrite, h⟩, rfl, rfl⟩
    simp only [load, new, hget, accept]

/-- A change that can be written down is in the file afterwards. -/
theorem InStep.update (h : tracker.InStep path) (hsound : ledger.Sound)
    (hwritable : ledger.Writable) :
    ∃ after, tracker.update ledger = (.ok (), after) ∧ after.InStep path ∧
      after.progress = ledger := by
  obtain rfl := h.file
  obtain ⟨fields, hread, -⟩ := h.keeps.stored
  obtain ⟨store, hset, hpath, hwrite, hafter⟩ :=
    FileStore.set_of_canWrite hread h.canWrite tracker.key ledger.record
  refine ⟨{ tracker with progress := ledger, store }, ?_, ⟨h.key, hpath, hwrite, ?_⟩, rfl⟩
  · simp only [Tracker.update, save, Ledger.record?_of_writable hwritable, hset, Except.map]
  · refine ⟨hsound, hwritable, _, hafter, .inl ?_⟩
    rw [← h.key]
    exact OrderedMap.get?_set_self fields _ _

/-- Any other change stays in memory. -/
theorem update_of_not_writable (h : ¬ledger.Writable) :
    tracker.update ledger = (.error .integerTooLong, { tracker with progress := ledger }) := by
  simp only [update, save, Ledger.record?_of_not_writable h, Except.map]

theorem InStep.reset (h : tracker.InStep path) :
    tracker.reset.InStep path ∧ tracker.reset.progress = ∅ := by
  obtain ⟨after, hupdate, hafter, hprogress⟩ :=
    h.update Ledger.sound_empty Ledger.writable_empty
  rw [Tracker.reset, hupdate]
  exact ⟨hafter, hprogress⟩

theorem InStep.resolve (h : tracker.InStep path) {type : IssueType} {entry : Entry} (count : Int)
    (hget : tracker.progress.get? type.tag = some entry) :
    ∃ after, tracker.resolve type.tag count = (.ok (some (entry.resolve count)), after) ∧
      after.InStep path ∧
      after.progress.counters = tracker.progress.counters.resolve type count := by
  obtain ⟨-, hentry⟩ := h.keeps.sound _ (OrderedMap.mem_entries_of_get? hget)
  obtain ⟨after, hupdate, hafter, hprogress⟩ :=
    h.update (h.keeps.sound.resolve count hget) (h.keeps.writable.resolve hget hentry.capped count)
  refine ⟨after, ?_, hafter, ?_⟩
  · simp only [Tracker.resolve, hget, hupdate, Except.map]
  · rw [hprogress, Ledger.counters_resolve count hget]

end Tracker
end SnippetCoach
