import Mathlib
import SnippetCoach.Machine.Usual
import SnippetCoach.Proofs.Progress.Decode
import SnippetCoach.Proofs.Tracker.Calls
/-! Loading. A store that fails and a value that is no record are reported; the reading breaks off
at texts with too many containers within each other and at infinite counters, and at nothing
else. -/
namespace SnippetCoach.Tracker
open Json (IsRecord BreaksOff)

section Outcomes

variable [Machine] {σ : Type} [Store σ] {tracker : Tracker σ} {stored : WideJson}

/-- Loading breaks off at these texts and at no other value. -/
theorem load_breaksOff_iff :
    (∃ cause, tracker.load = .error cause) ↔
      ∃ text, Store.get tracker.store tracker.key = .ok (.str text) ∧ BreaksOff text := by
  constructor
  · rintro ⟨cause, h⟩
    rcases tracker.load_cases with
        ⟨_, -, heq⟩ | ⟨-, heq⟩ | ⟨stored, hget, ⟨_, -, heq⟩ | ⟨cause, hcause, ⟨hbreaks, -⟩ | heq⟩⟩
    · exact nomatch heq.symm.trans h
    · exact nomatch heq.symm.trans h
    · exact nomatch heq.symm.trans h
    · obtain ⟨text, rfl, htext⟩ := Ledger.ofRecord?_breaksOff_iff.mp ⟨cause, hcause, hbreaks⟩
      exact ⟨text, hget, htext⟩
    · exact nomatch heq.symm.trans h
  · rintro ⟨text, hget, htext⟩
    obtain ⟨cause, hcause, hbreaks⟩ := Ledger.ofRecord?_breaksOff_iff.mpr ⟨text, rfl, htext⟩
    refine ⟨cause, ?_⟩
    simp only [load, hget, accept, hcause, hbreaks, if_true]

/-- A value that is no record leaves no progress behind, but a warning. -/
theorem load_ignored (hget : Store.get tracker.store tracker.key = .ok stored)
    (hnull : stored ≠ .null) (hrecord : ¬∃ text, stored = .str text ∧ IsRecord text)
    (hends : ¬∃ text, stored = .str text ∧ BreaksOff text) :
    ∃ cause, tracker.load =
      .ok { tracker.report (.recordIgnored cause) with progress := ∅ } := by
  rcases tracker.load_cases with
      ⟨_, hrefused, -⟩ | ⟨habsent, -⟩ |
        ⟨held, hheld, ⟨ledger, hledger, -⟩ | ⟨cause, hcause, ⟨hbreaks, -⟩ | heq⟩⟩
  · exact nomatch hrefused.symm.trans hget
  · exact absurd (Except.ok.inj (hget.symm.trans habsent)) hnull
  · obtain rfl := Except.ok.inj (hget.symm.trans hheld)
    exact absurd (Ledger.ofRecord?_ok_iff.mp ⟨ledger, hledger⟩) hrecord
  · obtain rfl := Except.ok.inj (hget.symm.trans hheld)
    exact absurd (Ledger.ofRecord?_breaksOff_iff.mp ⟨cause, hcause, hbreaks⟩) hends
  · exact ⟨cause, heq⟩

/-- Whatever else is stored and however the store fails, loading succeeds, and a text that is no
record is reported with a warning and leaves no progress. -/
theorem load_succeeds (tracker : Tracker σ)
    (hends : ∀ text, Store.get tracker.store tracker.key = .ok (.str text) → ¬BreaksOff text) :
    ∃ after, tracker.load = .ok after ∧
      ∀ text, Store.get tracker.store tracker.key = .ok (.str text) → ¬IsRecord text →
        after.progress = ∅ ∧
          ∃ event, after.events = tracker.events ++ [event] ∧ event.level = .warning := by
  cases hload : tracker.load with
  | error cause =>
      obtain ⟨text, hget, htext⟩ := load_breaksOff_iff.mp ⟨cause, hload⟩
      exact absurd htext (hends text hget)
  | ok after =>
      refine ⟨after, rfl, fun text hget hrecord => ?_⟩
      have hignored := load_ignored hget nofun
        (fun ⟨_, heq, h⟩ => hrecord (Json.str.inj heq ▸ h))
        (fun ⟨_, heq, h⟩ => hends text hget (Json.str.inj heq ▸ h))
      obtain ⟨cause, heq⟩ := hignored
      obtain rfl := Except.ok.inj (hload.symm.trans heq)
      exact ⟨rfl, .recordIgnored cause, rfl, rfl⟩

end Outcomes

open scoped Machine

def holding (text : String) : Tracker MemoryStore :=
  new (OrderedMap.set ∅ ↑defaultKey (.str text)) defaultKey

theorem get_holding (text : String) :
    Store.get (holding text).store (holding text).key = .ok (.str text) := by
  simp only [holding, new, Store.get, OrderedMap.get?_set_self, Option.getD_some]

/-- A text that is no document. -/
theorem load_succeeds_garbled :
    ∃ after, (holding "not json\x7b").load = .ok after ∧
      ∀ text, Store.get (holding "not json\x7b").store (holding "not json\x7b").key =
          .ok (.str text) → ¬IsRecord text →
        after.progress = ∅ ∧ ∃ event,
          after.events = (holding "not json\x7b").events ++ [event] ∧ event.level = .warning := by
  refine load_succeeds (holding "not json\x7b") fun text hget hends => ?_
  have hread : Json.read Machine.recordDepth (codePoints "not json\x7b".toList) =
      .error .malformed := by
    cbv
  obtain rfl := Json.str.inj (Except.ok.inj ((get_holding _).symm.trans hget))
  rcases hends with ⟨container, hdeep⟩ | ⟨_, _, _, hdocument, -⟩
  · cases hread.symm.trans hdeep
  · cases hread.symm.trans hdocument

/-- A record with an infinite counter. -/
theorem not_load_succeeds :
    ¬∀ tracker : Tracker MemoryStore, ∃ after, tracker.load = .ok after := by
  intro hclaim
  obtain ⟨text, htext⟩ : ∃ text, text = "\x7b\"logic\": \x7b\"encountered\": Infinity\x7d\x7d" :=
    ⟨_, rfl⟩
  have hread : Json.read Machine.recordDepth (codePoints text.toList) =
      .ok (.obj [(↑"logic", .obj [(↑"encountered", .float (.infinite false))])]) := by
    rw [htext]
    cbv
  have hends : BreaksOff text :=
    .inr ⟨[], _, [], hread, List.forall_mem_nil _, _, rfl, .inl ⟨false, rfl⟩⟩
  obtain ⟨after, hafter⟩ := hclaim (holding text)
  obtain ⟨cause, hcause⟩ := load_breaksOff_iff.mpr ⟨text, get_holding text, hends⟩
  cases hafter.symm.trans hcause

end SnippetCoach.Tracker
