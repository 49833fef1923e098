import Mathlib
import SnippetCoach.Proofs.Tracker.Batch
import SnippetCoach.Proofs.Tracker.History
import SnippetCoach.Proofs.Tracker.Loading
import SnippetCoach.Proofs.Tracker.Reload
/-! Resolved counts. A record can hold more resolved than encountered issues, and resolving then
takes the excess away. Other than that no resolved count ever decreases. -/
namespace SnippetCoach
open Number

namespace Entry

/-- No more resolved than encountered. -/
def Settled (entry : Entry) : Prop :=
  entry.resolved ≤ entry.encountered

/-- The resolved count of an entry can only lose what exceeds the encounters. -/
structure Grows (before after : Entry) : Prop where
  encountered : before.encountered ≤ after.encountered
  resolved : min before.resolved before.encountered ≤ after.resolved
  settled : before.Settled → after.Settled

theorem Grows.refl (entry : Entry) : entry.Grows entry :=
  ⟨Int.le_refl _, Int.min_le_left _ _, id⟩

theorem Grows.trans {before between after : Entry} (h : before.Grows between)
    (h' : between.Grows after) : before.Grows after := by
  obtain ⟨hencountered, hresolved, hsettled⟩ := h
  obtain ⟨hencountered', hresolved', hsettled'⟩ := h'
  refine ⟨Int.le_trans hencountered hencountered', ?_, fun hbefore => hsettled' (hsettled hbefore)⟩
  omega

theorem Grows.le_of_settled {before after : Entry} (h : before.Grows after)
    (hsettled : before.Settled) : before.resolved ≤ after.resolved := by
  have hresolved := h.resolved
  rwa [Int.min_eq_left hsettled] at hresolved

theorem settled_resolve (entry : Entry) (count : Int) : (entry.resolve count).Settled :=
  entry.resolved_resolve_le count

theorem grows_resolve (entry : Entry) (count : Int) : entry.Grows (entry.resolve count) := by
  refine ⟨Int.le_refl _, ?_, fun _ => entry.settled_resolve count⟩
  simp only [resolve]
  omega

theorem resolve_new (count : Int) : new.resolve count = new := by
  simp only [resolve, new, mk.injEq, true_and]
  omega

/-- The excess is lost at once, whatever the count. -/
theorem resolved_resolve_of_not_settled {entry : Entry} (h : ¬entry.Settled) (count : Int) :
    (entry.resolve count).resolved = entry.encountered := by
  rw [Settled] at h
  simp only [resolve]
  omega

end Entry

namespace Change

/-- What becomes of the entry of a type. -/
def update (name : WideText) (entry : Entry) : Change → Entry
  | record issues =>
    { entry with encountered := entry.encountered + Ledger.tally (issues.map Issue.type) name }
  | resolve type count => if name = type then entry.resolve count else entry

theorem grows_update (name : WideText) (entry : Entry) (change : Change) :
    entry.Grows (change.update name entry) := by
  cases change with
  | record issues =>
      constructor
      case encountered => exact Int.le_add_of_nonneg_right (Int.natCast_nonneg _)
      case resolved => exact Int.min_le_left _ _
      case settled =>
        exact fun h => Int.le_trans h (Int.le_add_of_nonneg_right (Int.natCast_nonneg _))
  | resolve type count =>
      rw [update]
      split
      · exact entry.grows_resolve count
      · exact .refl entry

end Change

namespace Tracker

section Runs

variable [Machine] {σ : Type} [Store σ]

/-- The entry of a type after a run of changes. -/
def entryAfter (tracker : Tracker σ) (changes : List Change) (name : WideText) : Entry :=
  (tracker.run (changes.map Change.call)).progress.entryOf name

theorem entryOf_after_change (tracker : Tracker σ) (change : Change) (name : WideText) :
    (tracker.after change.call).progress.entryOf name =
      change.update name (tracker.progress.entryOf name) := by
  cases change with
  | record issues =>
      rw [Change.call, progress_record, Ledger.entryOf_encounterAll]
      rfl
  | resolve type count =>
      rw [Change.call, progress_resolve, Change.update]
      cases hget : tracker.progress.get? type with
      | none =>
          -- a type without an entry has nothing to resolve
          have hnew : tracker.progress.entryOf type = Entry.new := by
            rw [Ledger.entryOf, hget, Option.getD_none]
          rw [Option.elim_none]
          split
          · rename_i hname
            rw [hname, hnew, Entry.resolve_new]
          · rfl
      | some entry =>
          rw [Option.elim_some, Ledger.entryOf_set]
          split
          · rename_i hname
            rw [hname, Ledger.entryOf, hget, Option.getD_some]
          · rfl

theorem entryAfter_cons (tracker : Tracker σ) (change : Change) (changes : List Change)
    (name : WideText) :
    tracker.entryAfter (change :: changes) name =
      (tracker.after change.call).entryAfter changes name :=
  rfl

theorem entryAfter_append (tracker : Tracker σ) (earlier later : List Change) (name : WideText) :
    tracker.entryAfter (earlier ++ later) name =
      (tracker.run (earlier.map Change.call)).entryAfter later name := by
  rw [entryAfter, List.map_append, run, List.foldl_append]
  rfl

/-- What single changes keep, a run of them keeps. -/
theorem grows_entryAfter (tracker : Tracker σ) (changes : List Change) (name : WideText) :
    (tracker.progress.entryOf name).Grows (tracker.entryAfter changes name) := by
  induction changes generalizing tracker with
  | nil => exact .refl _
  | cons change changes ih =>
      have hfirst := change.grows_update name (tracker.progress.entryOf name)
      rw [← entryOf_after_change] at hfirst
      exact hfirst.trans (ih (tracker.after change.call))

theorem resolved_entryAfter_of_not_mem (tracker : Tracker σ) {changes : List Change}
    {name : WideText} (h : ∀ count, Change.resolve name count ∉ changes) :
    (tracker.entryAfter changes name).resolved = (tracker.progress.entryOf name).resolved := by
  induction changes generalizing tracker with
  | nil => rfl
  | cons change changes ih =>
      have hrest := ih (tracker.after change.call) fun count hmem =>
        h count (List.mem_cons_of_mem change hmem)
      rw [entryAfter_cons, hrest, entryOf_after_change]
      cases change with
      | record issues => rfl
      | resolve type count =>
          have hname : name ≠ type := by
            rintro rfl
            exact h count List.mem_cons_self
          rw [Change.update, if_neg hname]

theorem settled_entryAfter_of_mem (tracker : Tracker σ) {changes : List Change} {name : WideText}
    {count : Int} (h : Change.resolve name count ∈ changes) :
    (tracker.entryAfter changes name).Settled := by
  obtain ⟨before, after, rfl⟩ := List.append_of_mem h
  rw [entryAfter_append, entryAfter_cons]
  refine (grows_entryAfter _ after name).settled ?_
  rw [entryOf_after_change, Change.update, if_pos rfl]
  exact Entry.settled_resolve _ count

/-- A type is settled if it was so from the start, or once it was resolved. From then on its
resolved count never decreases; before, resolving lowers it to its encounters, and nothing else
changes it. -/
theorem resolved_mono (tracker : Tracker σ) (earlier later : List Change) (name : WideText) :
    ((tracker.progress.entryOf name).Settled ∨ (∃ count, Change.resolve name count ∈ earlier) →
      (tracker.entryAfter earlier name).Settled) ∧
    ((tracker.entryAfter earlier name).Settled →
      (tracker.entryAfter earlier name).resolved ≤
        (tracker.entryAfter (earlier ++ later) name).resolved) ∧
    (¬(tracker.entryAfter earlier name).Settled → ∀ count,
      (tracker.entryAfter (earlier ++ [.resolve name count]) name).resolved =
        (tracker.entryAfter earlier name).encountered) ∧
    ((∀ count, Change.resolve name count ∉ later) →
      (tracker.entryAfter (earlier ++ later) name).resolved =
        (tracker.entryAfter earlier name).resolved) := by
  refine ⟨?_, fun h => ?_, fun h count => ?_, fun h => ?_⟩
  · rintro (h | ⟨count, hmem⟩)
    · exact (tracker.grows_entryAfter earlier name).settled h
    · exact tracker.settled_entryAfter_of_mem hmem
  · rw [entryAfter_append]
    exact (grows_entryAfter _ later name).le_of_settled h
  · rw [entryAfter_append, entryAfter_cons]
    have hlast := entryOf_after_change (tracker.run (earlier.map Change.call)) (.resolve name count)
      name
    rw [Change.update, if_pos rfl] at hlast
    exact (congrArg Entry.resolved hlast).trans (Entry.resolved_resolve_of_not_settled h count)
  · rw [entryAfter_append]
    exact resolved_entryAfter_of_not_mem _ h

end Runs

open scoped Machine

/-- More resolved than encountered issues. -/
def excessive : Ledger :=
  OrderedMap.set ∅ ↑"logic" { encountered := 1, resolved := 5 }

def withExcess : Tracker MemoryStore :=
  { holding excessive.record with progress := excessive }

theorem load_excessive : (holding excessive.record).load = .ok withExcess := by
  have hwritable : excessive.Writable :=
    List.forall_mem_singleton.mpr (Entry.isWritable_of_lt (by decide) (by decide))
  have hjoined : excessive.Joined :=
    Ledger.joined_empty.set (WideText.joined_ofString "logic") _
  exact load_of_get hwritable hjoined (get_holding _)

/-- The excess outlasts an encounter of another type but not a count that is resolved. -/
theorem resolved_mono_excessive :
    ¬(withExcess.entryAfter [] ↑"logic").Settled ∧
    (withExcess.entryAfter [.record [.noIssues]] ↑"logic").resolved =
      (withExcess.entryAfter [] ↑"logic").resolved ∧
    (withExcess.entryAfter [.resolve ↑"logic" 2] ↑"logic").resolved =
      (withExcess.entryAfter [] ↑"logic").encountered ∧
    (withExcess.entryAfter [.resolve ↑"logic" 2] ↑"logic").Settled ∧
    (withExcess.entryAfter [.resolve ↑"logic" 2] ↑"logic").resolved ≤
      (withExcess.entryAfter [.resolve ↑"logic" 2, .resolve ↑"logic" 1] ↑"logic").resolved := by
  have hexcess : ¬(withExcess.entryAfter [] ↑"logic").Settled := by
    unfold Entry.Settled
    decide
  have hunmarked : ∀ count, Change.resolve ↑"logic" count ∉ [Change.record [.noIssues]] := by
    simp
  obtain ⟨-, -, hlowered, hkept⟩ := resolved_mono withExcess [] [.record [.noIssues]] ↑"logic"
  obtain ⟨hsettles, hgrows, -, -⟩ :=
    resolved_mono withExcess [.resolve ↑"logic" 2] [.resolve ↑"logic" 1] ↑"logic"
  have hsettled := hsettles (.inr ⟨2, List.mem_cons_self⟩)
  exact ⟨hexcess, hkept hunmarked, hlowered hexcess 2, hsettled, hgrows hsettled⟩

/-- A loaded count is lowered, though nothing is resolved. -/
theorem not_resolved_mono :
    ¬∀ (text : String) (loaded : Tracker MemoryStore), (holding text).load = .ok loaded →
      ∀ type count, (loaded.progress.entryOf type).resolved ≤
        ((loaded.after (.resolve type count)).progress.entryOf type).resolved := by
  intro hclaim
  have hraised := hclaim _ _ load_excessive ↑"logic" 0
  have hlast := entryOf_after_change withExcess (.resolve ↑"logic" 0) ↑"logic"
  rw [Change.call] at hlast
  rw [hlast] at hraised
  exact absurd hraised (by decide)

end Tracker
end SnippetCoach
