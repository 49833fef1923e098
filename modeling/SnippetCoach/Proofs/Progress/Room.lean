import SnippetCoach.Proofs.Progress.Entries
/-! Room in a ledger: how many encounters it can still count before a counter is too long to be
written. -/
namespace SnippetCoach
open Number

namespace Entry

variable {entry : Entry} {room : Nat}

/-- Both counters can be written, also after so many more encounters. -/
def HasRoom (entry : Entry) (room : Nat) : Prop :=
  entry.encountered.natAbs + room < 10 ^ digitLimit ∧ entry.resolved.natAbs < 10 ^ digitLimit

theorem HasRoom.isWritable (h : entry.HasRoom room) : entry.isWritable = true := by
  rw [Entry.isWritable, Bool.and_eq_true_iff, fitsDigitLimit_iff, fitsDigitLimit_iff]
  exact ⟨Nat.lt_of_le_of_lt (Nat.le_add_right _ room) h.1, h.2⟩

theorem HasRoom.mono {less : Nat} (h : entry.HasRoom room) (hless : less ≤ room) :
    entry.HasRoom less :=
  ⟨Nat.lt_of_le_of_lt (Nat.add_le_add_left hless _) h.1, h.2⟩

theorem HasRoom.count {less more : Nat} (h : entry.HasRoom room) (hmore : more + less ≤ room) :
    HasRoom { entry with encountered := entry.encountered + more } less := by
  obtain ⟨hencountered, hresolved⟩ := h
  refine ⟨?_, hresolved⟩
  dsimp only
  omega

theorem HasRoom.resolve (h : entry.HasRoom room) (count : Int) :
    (entry.resolve count).HasRoom room := by
  obtain ⟨hencountered, hresolved⟩ := h
  refine ⟨hencountered, ?_⟩
  -- never further from zero than what was resolved before or what was encountered
  dsimp only [Entry.resolve]
  omega

end Entry

namespace Ledger

variable {ledger : Ledger} {room : Nat}

/-- Every type has room, those without an entry too. -/
def HasRoom (ledger : Ledger) (room : Nat) : Prop :=
  ∀ name, (ledger.entryOf name).HasRoom room

theorem hasRoom_empty (h : room < 10 ^ digitLimit) : HasRoom ∅ room := by
  intro name
  refine ⟨?_, Nat.pow_pos (by decide)⟩
  exact (Nat.zero_add room).symm ▸ h

theorem HasRoom.empty (h : ledger.HasRoom room) : HasRoom ∅ room := by
  obtain ⟨hencountered, -⟩ := h ""
  exact hasRoom_empty (Nat.lt_of_le_of_lt (Nat.le_add_left room _) hencountered)

theorem HasRoom.writable (h : ledger.HasRoom room) : ledger.Writable :=
  writable_iff_entryOf.mpr fun name => (h name).isWritable

theorem HasRoom.mono {less : Nat} (h : ledger.HasRoom room) (hless : less ≤ room) :
    ledger.HasRoom less :=
  fun name => (h name).mono hless

theorem HasRoom.set {entry : Entry} (h : ledger.HasRoom room) (hentry : entry.HasRoom room)
    (name : WideText) : HasRoom (OrderedMap.set ledger name entry) room := by
  intro other
  rw [entryOf_set]
  split
  · exact hentry
  · exact h other

theorem HasRoom.encounterAll {types : List IssueType} (h : ledger.HasRoom (types.length + room)) :
    (ledger.encounterAll types).HasRoom room := by
  intro name
  rw [entryOf_encounterAll]
  refine (h name).count ?_
  have hle : tally types name ≤ types.length := List.countP_le_length
  omega

theorem HasRoom.resolve (h : ledger.HasRoom room) {type : WideText} {entry : Entry} (count : Int)
    (hget : ledger.get? type = some entry) :
    HasRoom (OrderedMap.set ledger type (entry.resolve count)) room := by
  have hentry := h type
  rw [entryOf, hget, Option.getD_some] at hentry
  exact h.set (hentry.resolve count) type

end Ledger
end SnippetCoach
