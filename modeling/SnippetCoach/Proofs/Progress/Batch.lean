import SnippetCoach.Proofs.Progress.Entries
/-! Counting and resolving in parts. Issues that are counted in two batches count as one, and so do
two counts that are resolved of a type. -/
namespace SnippetCoach

namespace Entry

/-- Counts add up below the encounters and at them. -/
theorem resolve_resolve (entry : Entry) (a b : Nat) :
    (entry.resolve a).resolve b = entry.resolve (a + b) := by
  simp only [resolve, mk.injEq, true_and]
  omega

theorem resolved_resolve_le (entry : Entry) (count : Int) :
    (entry.resolve count).resolved ≤ (entry.resolve count).encountered :=
  Int.min_le_right _ _

end Entry

namespace Ledger

/-- The names under which types are counted. -/
def names (types : List IssueType) : List WideText :=
  types.map fun type => type.tag

theorem names_cons (type : IssueType) (types : List IssueType) :
    names (type :: types) = ↑type.tag :: names types := rfl

/-- What is left of a ledger when types are counted: the keys stay in place, with new ones behind
them in the order of their first encounter, and entries change in their encounters only. -/
structure Adds (types : List IssueType) (before after : Ledger) : Prop where
  keys : after.keys =
    before.keys ++ ((names types).filter fun name => name ∉ before.keys).eraseDups
  entries : ∀ name, after.get? name =
    if tally types name = 0 then before.get? name
    else some
      { encountered := (before.entryOf name).encountered + tally types name
        resolved := (before.entryOf name).resolved }

theorem tally_eq_zero_iff {types : List IssueType} {name : WideText} :
    tally types name = 0 ↔ name ∉ names types := by
  simp only [tally, names, List.countP_eq_zero, decide_eq_true_eq, List.mem_map, not_exists,
    not_and]

theorem get?_eq_ite (ledger : Ledger) (name : WideText) :
    ledger.get? name = if name ∈ ledger.keys then some (ledger.entryOf name) else none := by
  split
  · rename_i hkey
    cases hget : ledger.get? name with
    | none => exact absurd hkey (OrderedMap.get?_eq_none_iff.mp hget)
    | some entry => rw [entryOf, hget, Option.getD_some]
  · rename_i hkey
    exact OrderedMap.get?_eq_none_iff.mpr hkey

theorem keys_encounterAll (ledger : Ledger) (types : List IssueType) :
    (ledger.encounterAll types).keys =
      ledger.keys ++ ((names types).filter fun name => name ∉ ledger.keys).eraseDups := by
  induction types generalizing ledger with
  | nil => exact (List.append_nil _).symm
  | cons type types ih =>
      have hrest : (ledger.encounterAll (type :: types)).keys = _ := ih (ledger.encounter type)
      have hkeys : (ledger.encounter type).keys = _ := OrderedMap.keys_set ledger type.tag _
      rw [hrest, hkeys, names_cons, List.filter_cons]
      by_cases hold : (type.tag : WideText) ∈ ledger.keys
      · simp only [hold, if_true, not_true, decide_false, Bool.false_eq_true, if_false]
      · have hnew (name : WideText) : decide (name ∉ ledger.keys ++ [(type.tag : WideText)]) =
            (!name == (type.tag : WideText) && decide (name ∉ ledger.keys)) := by
          simp [Bool.and_comm, beq_eq_decide]
        simp only [hold, if_false, not_false_eq_true, decide_true, if_true, hnew]
        rw [List.eraseDups_cons, List.filter_filter, List.append_assoc, List.singleton_append]

theorem adds_encounterAll (ledger : Ledger) (types : List IssueType) :
    Adds types ledger (ledger.encounterAll types) := by
  refine ⟨ledger.keys_encounterAll types, fun name => ?_⟩
  have hkey : name ∈ (ledger.encounterAll types).keys ↔
      name ∈ ledger.keys ∨ tally types name ≠ 0 := by
    rw [keys_encounterAll, List.mem_append, List.mem_eraseDups, List.mem_filter, ne_eq,
      tally_eq_zero_iff, not_not, decide_eq_true_iff]
    tauto
  rw [get?_eq_ite, get?_eq_ite, entryOf_encounterAll]
  by_cases hnone : tally types name = 0
  · simp only [hkey, hnone, ne_eq, not_true, or_false, if_true, Nat.cast_zero, Int.add_zero]
  · simp only [hkey, hnone, ne_eq, not_false_eq_true, or_true, if_true, if_false]

theorem encounterAll_append (ledger : Ledger) (types others : List IssueType) :
    ledger.encounterAll (types ++ others) = (ledger.encounterAll types).encounterAll others :=
  List.foldl_append

end Ledger
end SnippetCoach
