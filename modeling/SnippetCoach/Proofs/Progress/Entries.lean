import SnippetCoach.Proofs.Progress.Record
/-! The entry of every type, with or without encounters, and what counting adds to it. -/
namespace SnippetCoach
open Number

namespace Ledger

variable {ledger : Ledger}

/-- The entry of a type, without counts if it was never encountered. -/
def entryOf (ledger : Ledger) (name : WideText) : Entry :=
  (ledger.get? name).getD Entry.new

/-- The encounters of a type; none without an entry. -/
def encounters (ledger : Ledger) (name : WideText) : Int :=
  (ledger.get? name).elim 0 Entry.encountered

/-- How many of the types have this name. -/
def tally (types : List IssueType) (name : WideText) : Nat :=
  types.countP fun type => type.tag = name

theorem entryOf_set (ledger : Ledger) (key name : WideText) (entry : Entry) :
    entryOf (OrderedMap.set ledger key entry) name =
      if name = key then entry else ledger.entryOf name := by
  rw [entryOf, OrderedMap.get?_set]
  split <;> rfl

theorem encounters_eq (ledger : Ledger) (name : WideText) :
    ledger.encounters name = (ledger.entryOf name).encountered := by
  rw [encounters, entryOf]
  cases ledger.get? name <;> rfl

theorem encounters_set (ledger : Ledger) (key name : WideText) (entry : Entry) :
    encounters (OrderedMap.set ledger key entry) name =
      if name = key then entry.encountered else ledger.encounters name := by
  rw [encounters_eq, entryOf_set, encounters_eq]
  split <;> rfl

theorem entryOf_encounter (ledger : Ledger) (type : IssueType) (name : WideText) :
    (ledger.encounter type).entryOf name =
      if name = type.tag then (ledger.entryOf name).encounter else ledger.entryOf name := by
  rw [encounter, entryOf_set]
  split
  · rename_i hname
    rw [hname, entryOf]
  · rfl

theorem entryOf_encounterAll (ledger : Ledger) (types : List IssueType) (name : WideText) :
    (ledger.encounterAll types).entryOf name =
      { encountered := (ledger.entryOf name).encountered + tally types name
        resolved := (ledger.entryOf name).resolved } := by
  induction types generalizing ledger with
  | nil => exact congrArg (Entry.mk · _) (Int.add_zero _).symm
  | cons type types ih =>
      have hrest : (ledger.encounterAll (type :: types)).entryOf name = _ :=
        ih (ledger.encounter type)
      rw [hrest, entryOf_encounter, tally, tally, List.countP_cons]
      by_cases hname : name = type.tag
      · have htag : decide (type.tag = name) = true := decide_eq_true hname.symm
        rw [if_pos hname, if_pos htag, Entry.encounter]
        congr 1
        dsimp only
        omega
      · have htag : ¬decide (type.tag = name) = true := fun h => hname (of_decide_eq_true h).symm
        rw [if_neg hname, if_neg htag, Nat.add_zero]

theorem encounters_encounterAll (ledger : Ledger) (types : List IssueType) (name : WideText) :
    (ledger.encounterAll types).encounters name = ledger.encounters name + tally types name := by
  rw [encounters_eq, entryOf_encounterAll, encounters_eq]

theorem writable_iff_entryOf :
    ledger.Writable ↔ ∀ name, (ledger.entryOf name).isWritable = true := by
  constructor
  · intro h name
    rw [entryOf]
    cases hget : ledger.get? name with
    | none =>
        have hzero : fitsDigitLimit 0 = true := fitsDigitLimit_of_lt (by decide)
        simp only [Option.getD_none, Entry.isWritable, Entry.new, hzero, Bool.and_self]
    | some entry =>
        rw [Option.getD_some]
        exact h (name, entry) (OrderedMap.mem_entries_of_get? hget)
  · intro h entry hentry
    have hwritable := h entry.1
    rw [entryOf, OrderedMap.get?_of_mem_entries hentry, Option.getD_some] at hwritable
    exact hwritable

theorem Writable.fits_encounters (h : ledger.Writable) (name : WideText) :
    fitsDigitLimit (ledger.encounters name) = true := by
  rw [encounters_eq]
  exact (Bool.and_eq_true_iff.mp (writable_iff_entryOf.mp h name)).1

/-- Counting lengthens the encountered counters of issue types only. -/
theorem Writable.encounterAll (h : ledger.Writable) {types : List IssueType}
    (hfits : ∀ type : IssueType,
      fitsDigitLimit (ledger.encounters type.tag + tally types type.tag) = true) :
    (ledger.encounterAll types).Writable := by
  refine writable_iff_entryOf.mpr fun name => ?_
  obtain ⟨-, hresolved⟩ := Bool.and_eq_true_iff.mp (writable_iff_entryOf.mp h name)
  have hencountered : fitsDigitLimit (ledger.encounters name + tally types name) = true := by
    by_cases htag : ∃ type : IssueType, name = type.tag
    · obtain ⟨type, rfl⟩ := htag
      exact hfits type
    · have hnone : tally types name = 0 := List.countP_eq_zero.mpr fun type _ hname =>
        htag ⟨type, (of_decide_eq_true hname).symm⟩
      rw [hnone]
      exact (congrArg _ (Int.add_zero _)).trans (h.fits_encounters name)
  rw [encounters_eq] at hencountered
  rw [entryOf_encounterAll]
  exact Bool.and_eq_true_iff.mpr ⟨hencountered, hresolved⟩

/-- The name is that of an issue type, or no name of the ledger is read in another way than it is
written. What is counted under it can be read again. -/
def Keeps (ledger : Ledger) (name : WideText) : Prop :=
  ledger.Joined ∨ ∃ type : IssueType, name = type.tag

section Keeps

variable {name : WideText}

theorem Keeps.encounterAll (h : ledger.Keeps name) (types : List IssueType) :
    (ledger.encounterAll types).Keeps name :=
  h.imp_left fun hjoined => hjoined.encounterAll types

theorem Keeps.paired (h : ledger.Keeps name) : ledger.paired.Keeps name :=
  h.imp_left fun hjoined => by rwa [paired_of_joined hjoined]

theorem Keeps.encounters_paired (h : ledger.Keeps name) :
    ledger.paired.encounters name = ledger.encounters name := by
  rcases h with hjoined | ⟨type, rfl⟩
  · rw [paired_of_joined hjoined]
  · rw [encounters, get?_paired_tag, encounters]

end Keeps

end Ledger
end SnippetCoach
