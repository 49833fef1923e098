import SnippetCoach.Proofs.Json.Layout
import SnippetCoach.Tag.Given
/-! The label of a tag stands for the tag: as text it names the same language, and the same learners
are beginners by it. -/
namespace SnippetCoach
open Number Json

theorem Language.head_of_ofTag? {label : String} {language : Language}
    (h : ofTag? label = some language) : ∃ c ∈ ['p', 'j', 'c'], label.toList.head? = some c := by
  rw [← tag_of_ofTag? h]
  cases language with
  | python => exact ⟨'p', by decide, rfl⟩
  | javascript | java => exact ⟨'j', by decide, rfl⟩
  | c | cpp | csharp => exact ⟨'c', by decide, rfl⟩

theorem message_write_finite (negative : Bool) (significand : Nat) (exponent : Int) :
    NumberFormat.message.write (.finite negative significand exponent) =
      NumberFormat.document.write (.finite negative significand exponent) := rfl

/-- What a value that is no text begins with in a message. -/
theorem head_literal {value : Json} (h : ∀ label, value ≠ .str label) :
    ∃ c more, value.literal = c :: more ∧ c ∉ ['p', 'j', 'c'] := by
  have hscalar {c : Char} (hc : StartsScalar c) : c ∉ ['p', 'j', 'c'] := by
    intro hmem
    simp only [List.mem_cons, List.not_mem_nil, or_false] at hmem
    rcases hmem with rfl | rfl | rfl
    · exact hc.ne (by decide) rfl
    · exact hc.ne (by decide) rfl
    · exact hc.ne (by decide) rfl
  cases value with
  | null => exact ⟨'N', _, rfl, by decide⟩
  | bool b =>
      cases b with
      | true => exact ⟨'T', _, rfl, by decide⟩
      | false => exact ⟨'F', _, rfl, by decide⟩
  | int n =>
      obtain ⟨c, more, heq, hc⟩ := intText_cons n
      exact ⟨c, more, heq, hscalar hc⟩
  | float x =>
      cases x with
      | nan => exact ⟨'n', _, rfl, by decide⟩
      | infinite negative =>
          cases negative with
          | true => exact ⟨'-', _, rfl, by decide⟩
          | false => exact ⟨'i', _, rfl, by decide⟩
      | finite negative significand exponent =>
          obtain ⟨c, more, heq, hc⟩ := float_cons (.finite negative significand exponent)
          exact ⟨c, more, (message_write_finite ..).trans heq, hscalar hc⟩
  | str label => exact absurd rfl (h label)
  | arr items => cases items <;> exact ⟨'[', _, rfl, by decide⟩
  | obj fields => cases fields <;> exact ⟨'\x7b', _, rfl, by decide⟩

theorem display_of_ne_str {value : Json} (h : ∀ label, value ≠ .str label) :
    value.display = String.ofList value.literal := by
  cases value with
  | str label => exact absurd rfl (h label)
  | null | bool | int | float | arr | obj => rfl

/-- The text of a value that is no text is the tag of no language. -/
theorem ofTag?_display {value : Json} (h : ∀ label, value ≠ .str label) :
    Language.ofTag? value.display = none := by
  obtain ⟨c, more, hliteral, hc⟩ := head_literal h
  cases hlanguage : Language.ofTag? value.display with
  | none => rfl
  | some language =>
      obtain ⟨d, hd, hhead⟩ := Language.head_of_ofTag? hlanguage
      rw [display_of_ne_str h, String.toList_ofList, hliteral] at hhead
      exact absurd (Option.some.inj hhead ▸ hd) hc

namespace GivenTag

theorem whenWritable_of_writable {given : GivenTag} (h : given.isWritable = true) {α : Type}
    (result : α) : given.whenWritable result = .ok result :=
  if_pos h

theorem whenWritable_of_not_writable {given : GivenTag} (h : given.isWritable = false) {α : Type}
    (result : α) : given.whenWritable result = .error .integerTooLong :=
  if_neg (h ▸ Bool.false_ne_true)

theorem language?_value {document : Json} (h : ∀ label, document ≠ .str label) :
    (value document).language? = none := by
  cases document with
  | str label => exact absurd rfl (h label)
  | null | bool | int | float | arr | obj => rfl

/-- The tag that a document has for a given one. -/
def written (given : GivenTag) : GivenTag :=
  .value (.str given.label)

theorem language?_written (given : GivenTag) : given.written.language? = given.language? := by
  cases given with
  | language member => exact Language.ofTag?_tag member
  | skillLevel member => cases member <;> rfl
  | issueType member => cases member <;> rfl
  | severity member => cases member <;> rfl
  | value document =>
      by_cases htext : ∃ label, document = .str label
      · obtain ⟨label, rfl⟩ := htext
        rfl
      · have hother : ∀ label, document ≠ .str label := fun label heq => htext ⟨label, heq⟩
        have hwritten : (value document).written.language? = none := ofTag?_display hother
        rw [hwritten, language?_value hother]

theorem isBeginner_written (given : GivenTag) : given.written.isBeginner = given.isBeginner := by
  cases given with
  | language member => cases member <;> rfl
  | skillLevel member => cases member <;> rfl
  | issueType | severity | value => rfl

end GivenTag
end SnippetCoach
