import SnippetCoach.Issue.Basic
import SnippetCoach.Proofs.Outcome
/-! Vocabularies: which values name a member, and which fields of an object name none. -/
namespace SnippetCoach

/-- A vocabulary with the tags of its members. -/
structure Tags (α : Type) where
  vocabulary : Vocabulary
  tag : α → String
  ofTag? : String → Option α
  ofTag?_eq_some_iff : ∀ {label member}, ofTag? label = some member ↔ tag member = label

namespace Tags

def types : Tags IssueType where
  vocabulary := .issueType
  tag := IssueType.tag
  ofTag? := IssueType.ofTag?
  ofTag?_eq_some_iff := ⟨IssueType.tag_of_ofTag?, fun h => h ▸ IssueType.ofTag?_tag _⟩

def severities : Tags Severity where
  vocabulary := .severity
  tag := Severity.tag
  ofTag? := Severity.ofTag?
  ofTag?_eq_some_iff := ⟨Severity.tag_of_ofTag?, fun h => h ▸ Severity.ofTag?_tag _⟩

def kinds : Tags RuleKind where
  vocabulary := .ruleKind
  tag := RuleKind.tag
  ofTag? := RuleKind.ofTag?
  ofTag?_eq_some_iff := ⟨RuleKind.tag_of_ofTag?, fun h => h ▸ RuleKind.ofTag?_tag _⟩

variable {α : Type} {tags : Tags α} {value : Json} {member : α} {fields : List (String × Json)}
  {name : String} {e : IssueError}

def read (tags : Tags α) (value : Json) : Except IssueError α :=
  (UnknownTag.read tags.vocabulary tags.ofTag? value).mapError .unknownTag

theorem read_eq_ok_iff : tags.read value = .ok member ↔ value = .str (tags.tag member) := by
  rw [read, mapError_eq_ok_iff]
  constructor
  · intro h
    cases value with
    | str label =>
        rw [UnknownTag.read] at h
        cases hlabel : tags.ofTag? label with
        | none =>
            rw [hlabel] at h
            cases h
        | some found =>
            rw [hlabel] at h
            obtain rfl := Except.ok.inj h
            exact congrArg Json.str (tags.ofTag?_eq_some_iff.mp hlabel).symm
    | null | bool | int | float | arr | obj => cases h
  · rintro rfl
    rw [UnknownTag.read, tags.ofTag?_eq_some_iff.mpr rfl]

theorem error_of_read {refusal : UnknownTag}
    (h : UnknownTag.read tags.vocabulary tags.ofTag? value = .error refusal) :
    refusal = { vocabulary := tags.vocabulary, value } := by
  cases value with
  | str label =>
      rw [UnknownTag.read] at h
      cases hlabel : tags.ofTag? label with
      | none =>
          rw [hlabel] at h
          exact (Except.error.inj h).symm
      | some found =>
          rw [hlabel] at h
          cases h
  | null | bool | int | float | arr | obj => exact (Except.error.inj h).symm

/-- A value that is the tag of no member is refused. -/
theorem read_eq_error_iff : tags.read value = .error e ↔
    e = .unknownTag { vocabulary := tags.vocabulary, value } ∧
      ∀ member, value ≠ .str (tags.tag member) := by
  constructor
  · intro h
    obtain ⟨refusal, hrefusal, rfl⟩ := mapError_eq_error_iff.mp h
    refine ⟨congrArg _ (error_of_read hrefusal), fun member hmember => ?_⟩
    rw [read_eq_ok_iff.mpr hmember] at h
    exact nomatch h
  · rintro ⟨rfl, hforeign⟩
    cases hread : tags.read value with
    | ok member => exact absurd (read_eq_ok_iff.mp hread) (hforeign member)
    | error e =>
        obtain ⟨refusal, hrefusal, rfl⟩ := mapError_eq_error_iff.mp hread
        rw [error_of_read hrefusal]

/-- The object has the field, with a value that is the tag of no member. -/
def Foreign (tags : Tags α) (name : String) (fields : List (String × Json)) (value : Json) : Prop :=
  fields.lookup name = some value ∧ ∀ member, value ≠ .str (tags.tag member)

/-- A field that is absent has the tag of a member, so only one that is there can be refused. -/
theorem read_getD_eq_error_iff (default : α) :
    tags.read ((fields.lookup name).getD (.str (tags.tag default))) = .error e ↔
      ∃ value, tags.Foreign name fields value ∧
        e = .unknownTag { vocabulary := tags.vocabulary, value } := by
  rw [read_eq_error_iff]
  constructor
  · rintro ⟨rfl, hforeign⟩
    cases hlookup : fields.lookup name with
    | none =>
        rw [hlookup] at hforeign
        exact absurd rfl (hforeign default)
    | some value =>
        rw [hlookup] at hforeign
        exact ⟨value, ⟨hlookup, hforeign⟩, rfl⟩
  · rintro ⟨value, ⟨hlookup, hforeign⟩, rfl⟩
    rw [hlookup]
    exact ⟨rfl, hforeign⟩

theorem exists_read_getD_iff (default : α) :
    (∃ member, tags.read ((fields.lookup name).getD (.str (tags.tag default))) = .ok member) ↔
      ∀ value, ¬tags.Foreign name fields value := by
  constructor
  · rintro ⟨member, hmember⟩ value hforeign
    rw [(read_getD_eq_error_iff default).mpr ⟨value, hforeign, rfl⟩] at hmember
    exact nomatch hmember
  · intro hnone
    cases hread : tags.read ((fields.lookup name).getD (.str (tags.tag default))) with
    | ok member => exact ⟨member, rfl⟩
    | error e =>
        obtain ⟨value, hforeign, -⟩ := (read_getD_eq_error_iff default).mp hread
        exact absurd hforeign (hnone value)

end Tags

end SnippetCoach
