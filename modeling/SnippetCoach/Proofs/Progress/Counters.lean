import SnippetCoach.Proofs.Progress.Record
import SnippetCoach.Proofs.Progress.Sound
/-! The machine that saved progress follows: counters on their own, without records or an order of
keys. -/
namespace SnippetCoach
open Number

abbrev Counters := IssueType → Option Entry

namespace Counters

def empty : Counters :=
  fun _ => none

def put (counters : Counters) (type : IssueType) (entry : Entry) : Counters :=
  fun other => if other = type then some entry else counters other

def encounter (counters : Counters) (type : IssueType) : Counters :=
  match counters type with
  | none => counters.put type { encountered := 1, resolved := 0 }
  | some entry => counters.put type { entry with encountered := entry.encountered + 1 }

def encounterAll (counters : Counters) (types : List IssueType) : Counters :=
  types.foldl encounter counters

/-- Negative counts resolve nothing, and there are never more resolved than encountered. -/
def resolve (counters : Counters) (type : IssueType) (count : Int) : Counters :=
  match counters type with
  | none => counters
  | some entry =>
    counters.put type
      { entry with resolved := min (entry.resolved + max count 0) entry.encountered }

def fits (counters : Counters) : Bool :=
  IssueType.all.all fun type => (counters type).all Entry.isWritable

end Counters

/-- What a run asks of the counters. Encounters are counted by an analysis that completes. The count
to resolve can be given without a number. -/
inductive Demand where
  | nothing
  | count (types : List IssueType) (completes : Bool)
  | manage (reset : Bool) (resolve : Option IssueType) (count : Option Int)
  deriving DecidableEq

namespace Counters

/-- The counters that are left to resolve after a possible reset. -/
def kept (counters : Counters) (reset : Bool) : Counters :=
  if reset then empty else counters

def step (counters : Counters) : Demand → Counters
  | .nothing => counters
  | .count types completes =>
    if completes && (counters.encounterAll types).fits then counters.encounterAll types
    else counters
  | .manage reset (some type) (some count) => (counters.kept reset).resolve type count
  | .manage reset _ _ => counters.kept reset

/-- Encounters are to be resolved of a type that has none. -/
def refuses (counters : Counters) : Demand → Bool
  | .manage reset (some type) _ => (counters.kept reset type).isNone
  | _ => false

end Counters

theorem IssueType.tag_injective {type other : IssueType} (h : type.tag = other.tag) :
    type = other := by
  have hsame := ofTag?_tag type
  rw [h, ofTag?_tag] at hsame
  exact (Option.some.inj hsame).symm

theorem IssueType.mem_all (type : IssueType) : type ∈ all := by
  cases type <;> decide

namespace Ledger

variable {ledger : Ledger}

/-- What a ledger counts, whatever the order of its keys. -/
def counters (ledger : Ledger) : Counters :=
  fun type => ledger.get? type.tag

theorem counters_set (ledger : Ledger) (type : IssueType) (entry : Entry) :
    counters (OrderedMap.set ledger type.tag entry) = ledger.counters.put type entry := by
  funext other
  rw [counters, OrderedMap.get?_set, Counters.put]
  by_cases h : other = type
  · rw [if_pos h, if_pos (congrArg (fun tagged => (IssueType.tag tagged : WideText)) h)]
  · have htag : (other.tag : WideText) ≠ type.tag := fun hsame =>
      h (IssueType.tag_injective (WideText.ofString_inj.mp hsame))
    rw [if_neg h, if_neg htag, counters]

theorem counters_encounter (ledger : Ledger) (type : IssueType) :
    (ledger.encounter type).counters = ledger.counters.encounter type := by
  unfold encounter
  rw [counters_set, Counters.encounter]
  cases h : ledger.counters type with
  | none =>
      have hget : ledger.get? type.tag = none := h
      rw [hget]
      rfl
  | some entry =>
      have hget : ledger.get? type.tag = some entry := h
      rw [hget]
      rfl

theorem counters_encounterAll (ledger : Ledger) (types : List IssueType) :
    (ledger.encounterAll types).counters = ledger.counters.encounterAll types := by
  induction types generalizing ledger with
  | nil => rfl
  | cons type types ih =>
      have hrest := ih (ledger.encounter type)
      rw [counters_encounter] at hrest
      exact hrest

theorem counters_resolve {type : IssueType} {entry : Entry} (count : Int)
    (h : ledger.get? type.tag = some entry) :
    counters (OrderedMap.set ledger type.tag (entry.resolve count)) =
      ledger.counters.resolve type count := by
  have hcounters : ledger.counters type = some entry := h
  rw [counters_set, Counters.resolve, hcounters]
  rfl

theorem counters_resolve_of_none {type : IssueType} (count : Int)
    (h : ledger.get? type.tag = none) : ledger.counters.resolve type count = ledger.counters := by
  have hcounters : ledger.counters type = none := h
  rw [Counters.resolve, hcounters]

/-- The keys of a sound ledger are all counted. -/
theorem Sound.writable_iff (h : ledger.Sound) : ledger.Writable ↔ ledger.counters.fits = true := by
  rw [Counters.fits, List.all_eq_true]
  constructor
  · intro hwritable type _
    rw [Option.all_eq_true]
    intro entry hentry
    exact hwritable (type.tag, entry) (OrderedMap.mem_entries_of_get? hentry)
  · intro hfits entry hentry
    obtain ⟨type, htype⟩ := (h entry hentry).1
    have hget : ledger.counters type = some entry.2 := by
      rw [counters, ← htype]
      exact OrderedMap.get?_of_mem_entries hentry
    exact (Option.all_eq_true _ _).mp (hfits type type.mem_all) _ hget

/-- The ledger has these counters under the tags of their types, and nothing else. -/
structure Counts (ledger : Ledger) (counters : Counters) : Prop where
  tagged : ∀ type : IssueType, ledger.get? type.tag = counters type
  named : ∀ name ∈ ledger.keys, ∃ type : IssueType, name = type.tag

theorem Sound.counts (h : ledger.Sound) : ledger.Counts ledger.counters := by
  refine ⟨fun type => rfl, fun name hname => ?_⟩
  obtain ⟨entry, hentry, rfl⟩ := List.mem_map.mp hname
  exact (h entry hentry).1

theorem writable_empty : Writable ∅ :=
  fun _ hentry => absurd hentry List.not_mem_nil

end Ledger
end SnippetCoach
