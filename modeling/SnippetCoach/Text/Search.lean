/-! Search in a text: a test on the suffixes, and the occurrence of one text in another. -/
namespace SnippetCoach.Text

/-- Some suffix, the empty one included, passes the test. -/
def anySuffix (test : List Char → Bool) : List Char → Bool
  | [] => test []
  | c :: rest => test (c :: rest) || anySuffix test rest

/-- The first text occurs in the second; the empty text occurs everywhere. -/
def occursIn (needle text : List Char) : Bool :=
  anySuffix (fun suffix => needle.isPrefixOf suffix) text

def mentions (text : List Char) (needle : String) : Bool :=
  occursIn needle.toList text

theorem anySuffix_iff {test : List Char → Bool} {text : List Char} :
    anySuffix test text = true ↔ ∃ before suffix, text = before ++ suffix ∧ test suffix = true := by
  induction text with
  | nil =>
    refine ⟨fun h => ⟨[], [], rfl, h⟩, ?_⟩
    rintro ⟨before, suffix, heq, h⟩
    rw [(List.append_eq_nil_iff.1 heq.symm).2] at h
    exact h
  | cons c rest ih =>
    rw [anySuffix, Bool.or_eq_true, ih]
    constructor
    · rintro (h | ⟨before, suffix, rfl, h⟩)
      · exact ⟨[], c :: rest, rfl, h⟩
      · exact ⟨c :: before, suffix, rfl, h⟩
    · rintro ⟨before, suffix, heq, h⟩
      cases before with
      | nil => exact .inl (heq ▸ h)
      | cons d before =>
        obtain ⟨rfl, rfl⟩ := List.cons.inj heq
        exact .inr ⟨before, suffix, rfl, h⟩

theorem occursIn_iff {needle text : List Char} :
    occursIn needle text = true ↔ needle <:+: text := by
  simp only [occursIn, anySuffix_iff, List.isPrefixOf_iff_prefix]
  constructor
  · rintro ⟨before, suffix, rfl, after, rfl⟩
    exact ⟨before, after, by simp⟩
  · rintro ⟨before, after, rfl⟩
    exact ⟨before, needle ++ after, by simp, after, rfl⟩

end SnippetCoach.Text
