import SnippetCoach.Proofs.Progress.Bar
import SnippetCoach.Proofs.Progress.Limit
import SnippetCoach.Proofs.Tracker.Loading
import SnippetCoach.Proofs.Tracker.Reload
/-! Loaded progress as text. A record can hold any whole numbers, and what they are rendered as
depends on their share. -/
namespace SnippetCoach
open Number

namespace Tracker

section Loaded

variable [Machine] {σ : Type} [Store σ] {store : σ} {key : String} {loaded : Tracker σ}

/-- Progress that a fresh tracker has loaded can be written again, since only records give any. -/
theorem writable_of_load (h : (new store key).load = .ok loaded) : loaded.progress.Writable := by
  have hnone : Ledger.Writable ∅ := List.forall_mem_nil _
  rcases (new store key).load_cases with
      ⟨_, -, heq⟩ | ⟨-, heq⟩ |
        ⟨stored, -, ⟨progress, hrecord, heq⟩ | ⟨_, -, ⟨-, heq⟩ | heq⟩⟩
  · obtain rfl := Except.ok.inj (heq.symm.trans h)
    exact hnone
  · obtain rfl := Except.ok.inj (heq.symm.trans h)
    exact hnone
  · obtain rfl := Except.ok.inj (heq.symm.trans h)
    exact Ledger.writable_of_ofRecord? hrecord
  · exact nomatch heq.symm.trans h
  · obtain rfl := Except.ok.inj (heq.symm.trans h)
    exact hnone

/-- Without shares that are negative or beyond the number format, loaded progress has a text at
every width that fits in memory. In every text each bar has as many cells as the width, and more
only if the share is negative. -/
theorem text_of_load (h : (new store key).load = .ok loaded)
    (hsome : loaded.progress.isEmpty = false) (width : Nat) :
    ((∀ entry ∈ loaded.progress.entries, entry.2.InRange ∧ ¬entry.2.IsNegative) →
      width ≤ Machine.textLimit → ∃ text, loaded.progress.text width = .ok text) ∧
    ∀ text, loaded.progress.text width = .ok text →
      (∀ entry ∈ loaded.progress.entries, entry.2.InRange) ∧
      ∃ lines, text = WideText.joinLines (↑"## Your Progress" :: ↑"" :: lines) ∧
        List.Forall₂ (fun entry line => ∃ excess, Exceeds width entry.2 excess ∧
          Ledger.IsLine (width + excess) entry line) loaded.progress.entries lines := by
  have hwritable := writable_of_load h
  refine ⟨fun hshares hwidth => ?_, fun text htext => ⟨?_, ?_⟩⟩
  · exact Ledger.exists_text hsome hwritable (fun entry hmem => (hshares entry hmem).1)
      (fun entry hmem => (hshares entry hmem).2) hwidth
  · exact Ledger.inRange_of_text hsome hwritable htext
  · exact Ledger.lines_of_text hsome hwritable htext

end Loaded

open scoped Machine

/-- Progress with one type. -/
def single (entry : Entry) : Ledger :=
  OrderedMap.set ∅ ("logic" : String) entry

theorem writable_single {entry : Entry} (h : entry.isWritable = true) : (single entry).Writable :=
  List.forall_mem_singleton.mpr h

theorem joined_single (entry : Entry) : (single entry).Joined :=
  Ledger.joined_empty.set (WideText.joined_ofString "logic") entry

theorem load_single {entry : Entry} (h : entry.isWritable = true) :
    (holding (single entry).record).load =
      .ok { holding (single entry).record with progress := single entry } :=
  load_of_get (writable_single h) (joined_single entry) (get_holding _)

/-- Two of four resolved. -/
theorem text_of_load_half :
    ∃ text, (single { encountered := 4, resolved := 2 }).text 10 = .ok text ∧
      ∃ lines, text = WideText.joinLines (↑"## Your Progress" :: ↑"" :: lines) ∧
        List.Forall₂ (fun entry line => ∃ excess, Exceeds 10 entry.2 excess ∧
          Ledger.IsLine (10 + excess) entry line)
          (single { encountered := 4, resolved := 2 }).entries lines := by
  have hwritable : Entry.isWritable { encountered := 4, resolved := 2 } = true :=
    Entry.isWritable_of_lt (by decide) (by decide)
  have hrange : Entry.InRange { encountered := 4, resolved := 2 } := fun _ => by decide +kernel
  have hnonneg : ¬Entry.IsNegative { encountered := 4, resolved := 2 } := fun h =>
    absurd h.2 (by decide)
  obtain ⟨hexists, hlines⟩ := text_of_load (load_single hwritable) rfl 10
  obtain ⟨text, htext⟩ := hexists (List.forall_mem_singleton.mpr ⟨hrange, hnonneg⟩) (by decide)
  exact ⟨text, htext, (hlines text htext).2⟩

/-- Less than nothing resolved: the bar has a hundred cells too many. -/
theorem not_text_of_load :
    ¬∀ (record : String) (loaded : Tracker MemoryStore), (holding record).load = .ok loaded →
      loaded.progress.isEmpty = false → ∀ width : Nat,
        ∃ lines, loaded.progress.text width =
            .ok (WideText.joinLines (↑"## Your Progress" :: ↑"" :: lines)) ∧
          List.Forall₂ (Ledger.IsLine width) loaded.progress.entries lines := by
  intro hclaim
  obtain ⟨entry, hentry⟩ : ∃ entry : Entry, entry = { encountered := 1, resolved := -5 } :=
    ⟨_, rfl⟩
  have hwritable : entry.isWritable = true := by
    rw [hentry]
    exact Entry.isWritable_of_lt (by decide) (by decide)
  have hnegative : entry.IsNegative := by
    rw [hentry]
    exact ⟨by decide, by decide⟩
  have hfilled : entry.filledCells (20 : Nat) = .ok (-100) := by
    rw [hentry]
    decide +kernel
  obtain ⟨lines, htext, hlines⟩ := hclaim _ _ (load_single hwritable) rfl 20
  obtain ⟨others, heq, hothers⟩ := Ledger.lines_of_text rfl (writable_single hwritable) htext
  cases hlines with
  | cons hline hnone =>
      cases hnone
      cases hothers with
      | cons hother hnone =>
          cases hnone
          obtain ⟨excess, hexcess, hother⟩ := hother
          have hlast := WideText.joinLines_cons_inj (List.cons_ne_nil _ _) (List.cons_ne_nil _ _)
            (WideText.joinLines_cons_inj (List.cons_ne_nil _ _) (List.cons_ne_nil _ _) heq)
          rw [WideText.joinLines_singleton, WideText.joinLines_singleton] at hlast
          obtain rfl := hlast
          have hcells := hline.cells_eq hother
          have hbelow := Except.ok.inj (hfilled.symm.trans (hexcess.negative hnegative))
          omega

end Tracker
end SnippetCoach
