import SnippetCoach.Proofs.Issue.Document
/-! Which objects are the same issue. Among them is the document of the issue, the normal form. -/
namespace SnippetCoach.Issue

variable {fields other : List (String × Json)} {issue : Issue}

/-- Two objects have the same value for a field, or none that says more than its absence. -/
def SameEntry (idle : Json → Prop) (entry other : Option Json) : Prop :=
  entry = other ∨ (∀ value ∈ entry, idle value) ∧ ∀ value ∈ other, idle value

theorem getD_eq_getD_iff {entry other : Option Json} {default : Json} :
    other.getD default = entry.getD default ↔ SameEntry (· = default) entry other := by
  constructor
  · intro h
    cases entry with
    | none =>
        refine .inr ⟨nofun, ?_⟩
        rintro value rfl
        exact h
    | some value =>
        cases other with
        | none =>
            refine .inr ⟨fun found hfound => ?_, nofun⟩
            obtain rfl := Option.some.inj hfound
            exact h.symm
        | some found => exact .inl (congrArg some h.symm)
  · rintro (rfl | ⟨hentry, hother⟩)
    · rfl
    · have hidle {given : Option Json} (hgiven : ∀ value ∈ given, value = default) :
          given.getD default = default := by
        cases given with
        | none => rfl
        | some value => exact hgiven value rfl
      rw [hidle hentry, hidle hother]

theorem namesKind_iff {entry other : Option Json} {kind : Option RuleKind}
    (h : NamesKind (entry.getD .null) kind) :
    NamesKind (other.getD .null) kind ↔ SameEntry (·.isEmptyValue = true) entry other := by
  cases kind with
  | none =>
      have hidle {given : Option Json} : (given.getD .null).isEmptyValue = true ↔
          ∀ value ∈ given, value.isEmptyValue = true := by
        cases given with
        | none => exact iff_of_true rfl nofun
        | some value => simp
      constructor
      · exact fun hother => .inr ⟨hidle.mp h, hidle.mp hother⟩
      · rintro (rfl | ⟨-, hother⟩)
        · exact h
        · exact hidle.mpr hother
  | some kind =>
      have hnamed {given : Option Json} :
          given.getD .null = .str kind.tag ↔ given = some (.str kind.tag) := by
        cases given with
        | none => exact iff_of_false nofun nofun
        | some value => rw [Option.getD_some, Option.some.injEq]
      have hentry := hnamed.mp h
      refine hnamed.trans ⟨fun hother => .inl (hentry.trans hother.symm), ?_⟩
      rintro (rfl | ⟨hidle, -⟩)
      · exact hentry
      · exact nomatch (hidle _ hentry).symm.trans (isEmptyValue_tag kind)

/-- Objects that differ only in fields of no meaning, in defaults that are written out, in a null
line, and in kinds that are empty values. -/
structure Alike (fields other : List (String × Json)) : Prop where
  type : SameEntry (· = .str IssueType.success.tag) (fields.lookup "type") (other.lookup "type")
  severity : SameEntry (· = .str Severity.clear.tag) (fields.lookup "severity")
    (other.lookup "severity")
  message : SameEntry (· = .str "") (fields.lookup "message") (other.lookup "message")
  explanation : SameEntry (· = .str "") (fields.lookup "explanation") (other.lookup "explanation")
  line : SameEntry (· = .null) (fields.lookup "line") (other.lookup "line")
  kind : SameEntry (·.isEmptyValue = true) (fields.lookup "kind") (other.lookup "kind")

/-- The other objects that say the same about an issue are those that are alike. -/
theorem Reads.reads_iff (h : Reads fields issue) : Reads other issue ↔ Alike fields other := by
  obtain ⟨htype, hseverity, hmessage, hexplanation, hline, hkind⟩ := h
  constructor
  · rintro ⟨htype', hseverity', hmessage', hexplanation', hline', hkind'⟩
    exact ⟨getD_eq_getD_iff.mp (htype'.trans htype.symm),
      getD_eq_getD_iff.mp (hseverity'.trans hseverity.symm),
      getD_eq_getD_iff.mp (hmessage'.trans hmessage.symm),
      getD_eq_getD_iff.mp (hexplanation'.trans hexplanation.symm),
      getD_eq_getD_iff.mp (hline'.trans hline.symm), (namesKind_iff hkind).mp hkind'⟩
  · rintro ⟨htype', hseverity', hmessage', hexplanation', hline', hkind'⟩
    exact ⟨(getD_eq_getD_iff.mpr htype').trans htype,
      (getD_eq_getD_iff.mpr hseverity').trans hseverity,
      (getD_eq_getD_iff.mpr hmessage').trans hmessage,
      (getD_eq_getD_iff.mpr hexplanation').trans hexplanation,
      (getD_eq_getD_iff.mpr hline').trans hline, (namesKind_iff hkind).mpr hkind'⟩

/-- An object is refused exactly for a foreign tag, and for the first that it has. Every other one
is an issue, which its document gives back, the document being the same again; and the objects that
are alike, and no others, are the same issue. -/
theorem refused_or_normal (fields : List (String × Json)) :
    ((∃ e, ofJson? (.obj fields) = .error e) ↔ HasForeign fields) ∧
    (∀ e, ofJson? (.obj fields) = .error e ↔
      ∃ refusal, e = .unknownTag refusal ∧ Refused fields refusal) ∧
    (¬HasForeign fields → ∃ issue, ofJson? (.obj fields) = .ok issue ∧
      ofJson? issue.toJson = .ok issue ∧ (ofJson? issue.toJson).map toJson = .ok issue.toJson ∧
        ∀ other, ofJson? (.obj other) = .ok issue ↔ Alike fields other) := by
  have hrefused : (∃ e, ofJson? (.obj fields) = .error e) ↔ HasForeign fields := by
    rw [← exists_refused_iff]
    simp only [ofJson?_eq_error_iff]
    constructor
    · rintro ⟨_, refusal, -, h⟩
      exact ⟨refusal, h⟩
    · rintro ⟨refusal, h⟩
      exact ⟨_, refusal, rfl, h⟩
  refine ⟨hrefused, fun e => ofJson?_eq_error_iff, fun hnone => ?_⟩
  cases hread : ofJson? (.obj fields) with
  | error e => exact absurd (hrefused.mp ⟨e, hread⟩) hnone
  | ok issue =>
      refine ⟨issue, rfl, ofJson?_toJson issue, ?_, fun other => ?_⟩
      · rw [ofJson?_toJson]
        rfl
      · rw [ofJson?_eq_ok_iff]
        exact (ofJson?_eq_ok_iff.mp hread).reads_iff

end SnippetCoach.Issue
