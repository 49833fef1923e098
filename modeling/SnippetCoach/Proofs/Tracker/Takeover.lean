import Mathlib
import SnippetCoach.Proofs.Json.RoundTrip
import SnippetCoach.Proofs.Tracker.Loading
/-! Loading takes a record over as a whole or not at all: the progress before it stays, goes, or
makes way for every entry of the record. -/
namespace SnippetCoach
open Json (IsRecord BreaksOff)

namespace Ledger

variable {fields : List (WideText × WideJson)} {entries : List (WideText × Entry)}

/-- The entry has the name of the field and is read from its value. -/
def ReadsAs (field : WideText × WideJson) (entry : WideText × Entry) : Prop :=
  entry.1 = field.1 ∧ Entry.ofJson? field.2 = .ok entry.2

/-- The ledger has an entry for each field, in order. A name that the text has twice is one
field. -/
def Decodes [Machine] (text : WideText) (ledger : Ledger) : Prop :=
  ∃ fields, Json.read Machine.recordDepth text.points = .ok (.obj fields) ∧
    List.Forall₂ ReadsAs fields ledger.entries

theorem map_fst_of_readsAs (h : List.Forall₂ ReadsAs fields entries) :
    entries.map Prod.fst = fields.map Prod.fst := by
  induction h with
  | nil => rfl
  | cons hfirst _ ih => rw [List.map_cons, List.map_cons, hfirst.1, ih]

theorem ofEntries?_eq_ok_iff :
    ofEntries? fields = .ok entries ↔ List.Forall₂ ReadsAs fields entries := by
  induction fields generalizing entries with
  | nil =>
      constructor
      · intro h
        obtain rfl := Except.ok.inj h
        exact .nil
      · intro h
        cases h
        rfl
  | cons field rest ih =>
      rw [ofEntries?_cons]
      constructor
      · intro h
        obtain ⟨entry, hentry, h⟩ := bind_eq_ok_iff.mp h
        obtain ⟨others, hothers, h⟩ := bind_eq_ok_iff.mp h
        obtain rfl := Except.ok.inj h
        exact .cons ⟨rfl, hentry⟩ (ih.mp hothers)
      · intro h
        cases h with
        | @cons _ entry _ others hfirst hrest =>
            obtain ⟨name, entry⟩ := entry
            obtain ⟨rfl, hentry⟩ := hfirst
            rw [hentry, ih.mpr hrest]
            rfl

theorem ofRecord?_str_eq_ok_iff [Machine] {text : WideText} {ledger : Ledger} :
    ofRecord? (.str text) = .ok ledger ↔ Decodes text ledger := by
  constructor
  · intro h
    obtain ⟨_, heq, fields, hread, -⟩ := ofRecord?_ok_iff.mp ⟨ledger, h⟩
    obtain rfl := Json.str.inj heq
    rw [ofRecord?_of_read hread, ofJson?_obj] at h
    obtain ⟨entries, hentries, h⟩ := bind_eq_ok_iff.mp h
    obtain rfl := Except.ok.inj h
    have hfields := ofEntries?_eq_ok_iff.mp (mapError_eq_ok_iff.mp hentries)
    have hdistinct : (fields.map Prod.fst).Nodup :=
      (Json.admits_any.readable_of_read trivial hread).nodup
    refine ⟨fields, hread, ?_⟩
    rw [OrderedMap.ofList_eq (map_fst_of_readsAs hfields ▸ hdistinct)]
    exact hfields
  · rintro ⟨fields, hread, hentries⟩
    rw [ofRecord?_of_read hread, ofJson?_obj, ofEntries?_eq_ok_iff.mpr hentries]
    exact congrArg Except.ok ledger.ofList_entries

end Ledger

namespace Tracker

variable [Machine]

/-- The progress that loading leaves, by the progress before it and by what the store gives. -/
inductive Loads (prior : Ledger) : Except StoreError WideJson → Ledger → Prop where
  | refused (cause : StoreError) : Loads prior (.error cause) prior
  | absent : Loads prior (.ok .null) prior
  | brokenOff {text : WideText} (breaksOff : BreaksOff text) : Loads prior (.ok (.str text)) prior
  | ignored {stored : WideJson} (present : stored ≠ .null)
      (unread : ∀ text, stored = .str text → ¬IsRecord text ∧ ¬BreaksOff text) :
      Loads prior (.ok stored) ∅
  | taken {text : WideText} {ledger : Ledger} (decodes : Ledger.Decodes text ledger) :
      Loads prior (.ok (.str text)) ledger

theorem exists_loads (prior : Ledger) (result : Except StoreError WideJson) :
    ∃ ledger, Loads prior result ledger := by
  cases result with
  | error cause => exact ⟨prior, .refused cause⟩
  | ok stored =>
      by_cases hrecord : ∃ ledger, Ledger.ofRecord? stored = .ok ledger
      · obtain ⟨ledger, h⟩ := hrecord
        obtain ⟨text, rfl, -⟩ := Ledger.ofRecord?_ok_iff.mp ⟨ledger, h⟩
        exact ⟨ledger, .taken (Ledger.ofRecord?_str_eq_ok_iff.mp h)⟩
      · rw [Ledger.ofRecord?_ok_iff] at hrecord
        by_cases hends : ∃ text, stored = .str text ∧ BreaksOff text
        · obtain ⟨text, rfl, h⟩ := hends
          exact ⟨prior, .brokenOff h⟩
        · by_cases hnull : stored = .null
          · exact ⟨prior, hnull ▸ .absent⟩
          · exact ⟨∅, .ignored hnull fun text heq =>
              ⟨fun h => hrecord ⟨text, heq, h⟩, fun h => hends ⟨text, heq, h⟩⟩⟩

variable {σ : Type} [Store σ] {tracker : Tracker σ}

theorem perform_load_of_ok {loaded : Tracker σ} (h : tracker.load = .ok loaded) :
    tracker.perform .load = (.progress loaded.progress, loaded) := by
  rw [perform, h]

theorem perform_load_of_error {cause : RecordError} (h : tracker.load = .error cause) :
    tracker.perform .load = (.unread cause, tracker) := by
  rw [perform, h]

theorem Loads.eq_progress {result : Except StoreError WideJson} {ledger : Ledger}
    (h : Loads tracker.progress result ledger)
    (hget : Store.get tracker.store tracker.key = result) :
    ledger = (tracker.after .load).progress := by
  cases h with
  | refused cause =>
      have hload : tracker.load = .ok (tracker.report (.loadFailed cause)) := by rw [load, hget]
      rw [after, perform_load_of_ok hload, report]
  | absent =>
      have hload : tracker.load = .ok (tracker.report .noSavedProgress) := by
        rw [load, hget]
        rfl
      rw [after, perform_load_of_ok hload, report]
  | brokenOff hbreaks =>
      obtain ⟨cause, hload⟩ := load_breaksOff_iff.mpr ⟨_, hget, hbreaks⟩
      rw [after, perform_load_of_error hload]
  | ignored hpresent hunread =>
      obtain ⟨cause, hload⟩ : ∃ cause, tracker.load =
          .ok { tracker.report (.recordIgnored cause) with progress := ∅ } := by
        apply load_ignored hget hpresent
        · rintro ⟨text, heq, hrecord⟩
          exact (hunread text heq).1 hrecord
        · rintro ⟨text, heq, hbreaks⟩
          exact (hunread text heq).2 hbreaks
      rw [after, perform_load_of_ok hload]
  | taken hdecodes =>
      have hload : tracker.load = .ok { tracker with progress := ledger } := by
        simp only [load, hget, accept, Ledger.ofRecord?_str_eq_ok_iff.mpr hdecodes]
      rw [after, perform_load_of_ok hload]

/-- Whatever the store gives, loading leaves what it is to leave and nothing else, and the store
as it was. It breaks off at the values that keep the progress for that reason, and gives the
progress it leaves for all others. -/
theorem load_takesOver (tracker : Tracker σ) :
    (∀ ledger, Loads tracker.progress (Store.get tracker.store tracker.key) ledger ↔
      ledger = (tracker.after .load).progress) ∧
    (tracker.after .load).store = tracker.store ∧
    ((∃ cause, (tracker.perform .load).1 = .unread cause) ∧
        (∃ text, Store.get tracker.store tracker.key = .ok (.str text) ∧ BreaksOff text) ∨
      (tracker.perform .load).1 = .progress (tracker.after .load).progress ∧
        ¬∃ text, Store.get tracker.store tracker.key = .ok (.str text) ∧ BreaksOff text) := by
  refine ⟨fun ledger => ⟨fun h => h.eq_progress rfl, ?_⟩, tracker.store_after_load, ?_⟩
  · rintro rfl
    obtain ⟨ledger, h⟩ := exists_loads tracker.progress (Store.get tracker.store tracker.key)
    rwa [h.eq_progress rfl] at h
  · rw [← load_breaksOff_iff]
    cases hload : tracker.load with
    | error cause =>
        rw [after, perform_load_of_error hload]
        exact .inl ⟨⟨cause, rfl⟩, cause, rfl⟩
    | ok loaded =>
        rw [after, perform_load_of_ok hload]
        refine .inr ⟨rfl, ?_⟩
        rintro ⟨_, heq⟩
        cases heq

end Tracker
end SnippetCoach
