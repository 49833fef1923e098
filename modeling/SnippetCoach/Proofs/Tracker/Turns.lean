import SnippetCoach.Proofs.Progress.Entries
import SnippetCoach.Proofs.Tracker.Calls
/-! The turns of two sessions, and the orders in which they can come. -/
namespace SnippetCoach
open Number

inductive Party where
  | first
  | second
  deriving DecidableEq

def Party.other : Party → Party
  | first => second
  | second => first

inductive Turn where
  | load (party : Party)
  | record (party : Party) (issues : List Issue)

namespace Turn

def party : Turn → Party
  | load party | record party _ => party

def call : Turn → Call
  | load _ => .load
  | record _ issues => .record issues

end Turn

def Party.session (party : Party) (issues : List Issue) : List Turn :=
  [.load party, .record party issues]

/-- How many issues of a type the party records. -/
def Party.tally (party : Party) (issues : Party → List Issue) (name : WideText) : Nat :=
  Ledger.tally ((issues party).map Issue.type) name

/-- The ledger after the party recorded its issues. -/
def Party.count (party : Party) (issues : Party → List Issue) (ledger : Ledger) : Ledger :=
  ledger.encounterAll ((issues party).map Issue.type)

section Counting

variable {party : Party} {issues : Party → List Issue} {ledger : Ledger}

theorem Party.encounters_count (name : WideText) : (party.count issues ledger).encounters name =
    ledger.encounters name + party.tally issues name :=
  ledger.encounters_encounterAll _ name

theorem Party.writable_count (h : ledger.Writable)
    (hfits : ∀ type : IssueType,
      fitsDigitLimit (ledger.encounters type.tag + party.tally issues type.tag) = true) :
    (party.count issues ledger).Writable :=
  h.encounterAll hfits

/-- What one session counts, and what the other one counts on from its record. -/
theorem Party.writable_both (party : Party) (h : ledger.Writable)
    (hfits : ∀ type : IssueType, fitsDigitLimit (ledger.encounters type.tag +
      Party.first.tally issues type.tag + Party.second.tally issues type.tag) = true) :
    (party.count issues ledger).Writable ∧
      (party.other.count issues (party.count issues ledger).paired).Writable := by
  have hone : (party.count issues ledger).Writable := by
    apply Party.writable_count h
    intro type
    have hstart := fitsDigitLimit_iff.mp (h.fits_encounters type.tag)
    have hboth := fitsDigitLimit_iff.mp (hfits type)
    rw [fitsDigitLimit_iff]
    cases party <;> omega
  refine ⟨hone, ?_⟩
  apply Party.writable_count hone.paired
  intro type
  have hkeeps : (party.count issues ledger).Keeps type.tag := .inr ⟨type, rfl⟩
  rw [hkeeps.encounters_paired, Party.encounters_count]
  cases party with
  | first => exact hfits type
  | second =>
      rw [Int.add_right_comm]
      exact hfits type

end Counting

/-- One session ends before the other begins. -/
def Apart (issues : Party → List Issue) (turns : List Turn) : Prop :=
  ∃ party : Party,
    turns = party.session (issues party) ++ party.other.session (issues party.other)

/-- All turns of two lists, those of each in their order. -/
inductive Interleaves : List Turn → List Turn → List Turn → Prop
  | nil : Interleaves [] [] []
  | left {turn : Turn} {firsts seconds turns : List Turn}
      (rest : Interleaves firsts seconds turns) :
      Interleaves (turn :: firsts) seconds (turn :: turns)
  | right {turn : Turn} {firsts seconds turns : List Turn}
      (rest : Interleaves firsts seconds turns) :
      Interleaves firsts (turn :: seconds) (turn :: turns)

namespace Interleaves

variable {firsts seconds turns : List Turn}

theorem eq_right (h : Interleaves [] seconds turns) : turns = seconds := by
  induction seconds generalizing turns with
  | nil => cases h; rfl
  | cons turn seconds ih =>
      cases h with
      | right rest => rw [ih rest]

theorem eq_left (h : Interleaves firsts [] turns) : turns = firsts := by
  induction firsts generalizing turns with
  | nil => cases h; rfl
  | cons turn firsts ih =>
      cases h with
      | left rest => rw [ih rest]

/-- Either one session ends before the other begins, or both load before either records. -/
theorem sessions {issues : Party → List Issue}
    (h : Interleaves (Party.first.session (issues .first)) (Party.second.session (issues .second))
      turns) :
    Apart issues turns ∨ ∃ start last : Party, turns =
      [.load start, .load start.other, .record last.other (issues last.other),
        .record last (issues last)] := by
  cases h with
  | left h => -- the first session begins, and ends or is joined
      cases h with
      | left h =>
          obtain rfl := h.eq_right
          exact .inl ⟨.first, rfl⟩
      | right h =>
          cases h with
          | left h =>
              obtain rfl := h.eq_right
              exact .inr ⟨.first, .second, rfl⟩
          | right h =>
              obtain rfl := h.eq_left
              exact .inr ⟨.first, .first, rfl⟩
  | right h => -- the second one does
      cases h with
      | right h =>
          obtain rfl := h.eq_left
          exact .inl ⟨.second, rfl⟩
      | left h =>
          cases h with
          | left h =>
              obtain rfl := h.eq_right
              exact .inr ⟨.second, .second, rfl⟩
          | right h =>
              obtain rfl := h.eq_left
              exact .inr ⟨.second, .first, rfl⟩

end Interleaves

end SnippetCoach
