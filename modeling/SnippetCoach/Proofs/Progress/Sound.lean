import SnippetCoach.Proofs.OrderedMap
import SnippetCoach.Proofs.Progress.Record
/-! Sound counters: no type has more resolved than encountered issues, and no operation on a ledger
changes that. -/
namespace SnippetCoach

/-- At least one encounter, and no more resolved than encountered. -/
structure Entry.Sound (entry : Entry) : Prop where
  encountered : 1 ≤ entry.encountered
  resolved : 0 ≤ entry.resolved
  capped : entry.resolved ≤ entry.encountered

/-- Every key is the tag of an issue type, and every entry is sound. The keys of a ledger are
distinct. -/
def Ledger.Sound (ledger : Ledger) : Prop :=
  ∀ entry ∈ ledger.entries, (∃ type : IssueType, entry.1 = type.tag) ∧ entry.2.Sound

namespace Ledger

variable {ledger : Ledger}

theorem sound_empty : Sound ∅ :=
  fun _ hentry => absurd hentry List.not_mem_nil

theorem Sound.joined (h : ledger.Sound) : ledger.Joined := by
  intro entry hentry
  obtain ⟨type, htype⟩ := (h entry hentry).1
  rw [htype]
  exact WideText.joined_ofString type.tag

theorem Sound.set (h : ledger.Sound) (type : IssueType) {entry : Entry} (hentry : entry.Sound) :
    Sound (OrderedMap.set ledger type.tag entry) := by
  intro other hother
  rcases OrderedMap.mem_entries_set hother with rfl | hold
  · exact ⟨⟨type, rfl⟩, hentry⟩
  · exact h other hold

theorem Sound.encounter (h : ledger.Sound) (type : IssueType) : (ledger.encounter type).Sound := by
  refine h.set type ?_
  cases hget : ledger.get? type.tag with
  | none => exact ⟨by decide, by decide, by decide⟩
  | some entry =>
      obtain ⟨hencountered, hresolved, hcapped⟩ := (h _ (OrderedMap.mem_entries_of_get? hget)).2
      dsimp only at hencountered hresolved hcapped
      refine ⟨?_, hresolved, ?_⟩
      · simp only [Option.getD_some, Entry.encounter]
        omega
      · simp only [Option.getD_some, Entry.encounter]
        omega

theorem Sound.encounterAll (h : ledger.Sound) (types : List IssueType) :
    (ledger.encounterAll types).Sound := by
  induction types generalizing ledger with
  | nil => exact h
  | cons type types ih => exact ih (h.encounter type)

/-- The count can be any number, the type any text. -/
theorem Sound.resolve (h : ledger.Sound) {type : WideText} {entry : Entry} (count : Int)
    (hget : ledger.get? type = some entry) :
    Sound (OrderedMap.set ledger type (entry.resolve count)) := by
  obtain ⟨⟨tag, htag⟩, hencountered, hresolved, hcapped⟩ :=
    h _ (OrderedMap.mem_entries_of_get? hget)
  dsimp only at htag hencountered hresolved hcapped
  rw [htag]
  refine h.set tag ⟨hencountered, ?_, ?_⟩
  · simp only [Entry.resolve]
    omega
  · simp only [Entry.resolve]
    omega

end Ledger
end SnippetCoach
