import SnippetCoach.Proofs.Rule.Matches
import SnippetCoach.Proofs.Text.Pattern
/-! The pattern of assignments. The scan gives its matches without going back in the text. -/
namespace SnippetCoach.Assignment
open Text

/-- White space and the rest of a line. -/
def valuePattern : Pattern :=
  [.any isAsciiSpace, .many (· != '\n')]

/-- An equals sign and a value. -/
def signPattern : Pattern :=
  .one (· == '=') :: valuePattern

/-- A word and an equals sign with white space around it, and the rest of the line. -/
def pattern : Pattern :=
  [.many isWordChar, .any isAsciiSpace, .one (· == '='), .any isAsciiSpace, .many (· != '\n')]

/-- The assignment that is matched, by what each part of the pattern takes. -/
def ofParts (taken : List (List Char)) : Assignment :=
  { name := taken.headD [], text := taken.flatten }

section Values

variable {c : Char} {rest : List Char}

theorem head?_line (hc : c ≠ '\n') (rest : List Char) :
    (manyRuns (· != '\n') (c :: rest)).head? =
      some (c :: rest.takeWhile (· != '\n'), rest.dropWhile (· != '\n')) :=
  head?_manyRuns (· != '\n') (bne_iff_ne.mpr hc) rest

/-- White space at the beginning goes to the value if there is one after it. -/
theorem splitValue?_cons_of_space (hc : isAsciiSpace c = true) (rest : List Char) :
    splitValue? (c :: rest) =
      ((splitValue? rest).map (Prod.map (c :: ·) id)).or
        (manyRuns (· != '\n') (c :: rest)).head? := by
  by_cases hrest : rest.dropWhile isAsciiSpace = []
  · have hblank : ∀ d ∈ rest, isAsciiSpace d = true := List.dropWhile_eq_nil_iff.mp hrest
    have hblank' : ∀ d ∈ c :: rest, isAsciiSpace d = true := List.forall_mem_cons.mpr ⟨hc, hblank⟩
    rw [splitValue?_of_blank hblank, splitValue?_of_blank hblank', List.reverse_cons,
      List.dropWhile_append]
    cases hkept : rest.reverse.dropWhile (· == '\n') with
    | cons d kept => simp
    | nil =>
        have hfeeds : ∀ d ∈ rest.head?, (d != '\n') = false := by
          intro d hd
          have hmem := List.mem_reverse.mpr (List.mem_of_mem_head? hd)
          have hfeed := List.dropWhile_eq_nil_iff.mp hkept d hmem
          exact (Bool.not_eq_eq_eq_not ..).mpr hfeed
        obtain ⟨htake, hdrop⟩ := cut_of_all (l := []) nofun hfeeds
        by_cases hfeed : c = '\n'
        · subst hfeed
          rfl
        · rw [List.nil_append] at htake hdrop
          rw [head?_line hfeed, htake, hdrop]
          simp [hfeed]
  · have hwhole : (c :: rest).dropWhile isAsciiSpace ≠ [] := by
      rw [List.dropWhile_cons, if_pos hc]
      exact hrest
    rw [splitValue?_of_value hrest, splitValue?_of_value hwhole, List.takeWhile_cons, if_pos hc,
      List.dropWhile_cons, if_pos hc]
    rfl

theorem splitValue?_cons_of_other (hc : isAsciiSpace c = false) (rest : List Char) :
    splitValue? (c :: rest) = (manyRuns (· != '\n') (c :: rest)).head? := by
  have hnot : ¬isAsciiSpace c = true := Bool.not_eq_true _ ▸ hc
  have hfeed : c ≠ '\n' := by
    rintro rfl
    exact hnot rfl
  have hkept : (c != '\n') = true := bne_iff_ne.mpr hfeed
  have hvalue : (c :: rest).dropWhile isAsciiSpace ≠ [] := by
    rw [List.dropWhile_cons, if_neg hnot]
    exact List.cons_ne_nil _ _
  rw [splitValue?_of_value hvalue, head?_line hfeed, List.takeWhile_cons, if_neg hnot,
    List.dropWhile_cons, if_neg hnot, List.takeWhile_cons, if_pos hkept, List.dropWhile_cons,
    if_pos hkept, List.nil_append]

end Values

section Matches

variable {before : Option Char} {c : Char} {rest : List Char}

theorem spans_value (before : Option Char) (afterSign : List Char) :
    Pattern.spans before afterSign valuePattern =
      (runs isAsciiSpace afterSign).flatMap fun gap =>
        (manyRuns (· != '\n') gap.2).map (Prod.map (gap.1 ++ ·) id) := by
  have hline (before : Option Char) (text : List Char) :
      Pattern.spans before text [.many (· != '\n')] = manyRuns (· != '\n') text := by
    simp only [Pattern.spans_cons, Pattern.spans_nil, Part.splits, List.map_singleton, Prod.map,
      List.append_nil, id, List.flatMap_singleton']
  rw [valuePattern, Pattern.spans_cons, Part.splits]
  simp only [hline]

/-- The longest white space that leaves something of the line is tried first. -/
theorem head?_spans_value (before : Option Char) (afterSign : List Char) :
    (Pattern.spans before afterSign valuePattern).head? = splitValue? afterSign := by
  rw [spans_value]
  induction afterSign with
  | nil => rfl
  | cons c rest ih =>
      have hwhole : (manyRuns (· != '\n') (c :: rest)).map (Prod.map ([] ++ ·) id) =
          manyRuns (· != '\n') (c :: rest) := List.map_id _
      rw [runs]
      cases hc : isAsciiSpace c with
      | false =>
          rw [splitValue?_cons_of_other hc, if_neg Bool.false_ne_true, List.flatMap_singleton,
            hwhole]
      | true =>
          rw [splitValue?_cons_of_space hc, ← ih, if_pos rfl, List.flatMap_append,
            List.head?_append, List.flatMap_singleton, hwhole, List.flatMap_map, ← List.head?_map,
            List.map_flatMap]
          simp only [List.map_map]
          rfl

theorem spans_sign (before : Option Char) (afterSign : List Char) :
    Pattern.spans before ('=' :: afterSign) signPattern =
      (Pattern.spans (some '=') afterSign valuePattern).map (Prod.map ('=' :: ·) id) :=
  Pattern.spans_one_of_test (· == '=') rfl

theorem spans_sign_of_other (hc : c ≠ '=') (rest : List Char) :
    Pattern.spans before (c :: rest) signPattern = [] :=
  Pattern.spans_one_of_not (· == '=') (beq_eq_false_iff_ne.mpr hc)

theorem exists_spans_gap (before : Option Char) (afterName : List Char) :
    ∃ last, Pattern.spans before afterName (.any isAsciiSpace :: signPattern) =
      (Pattern.spans last (afterName.dropWhile isAsciiSpace) signPattern).map
        (Prod.map (afterName.takeWhile isAsciiSpace ++ ·) id) := by
  refine Pattern.spans_any (fun before c rest hc => spans_sign_of_other ?_ rest) afterName
  rintro rfl
  cases hc

/-- White space before the sign is never given back. -/
theorem head?_spans_gap (before : Option Char) (afterName : List Char) :
    (Pattern.spans before afterName (.any isAsciiSpace :: signPattern)).head? =
      splitAfterName? afterName := by
  obtain ⟨last, hspans⟩ := exists_spans_gap before afterName
  rw [hspans, List.head?_map, splitAfterName?]
  cases afterName.dropWhile isAsciiSpace with
  | nil => rfl
  | cons c afterSign =>
      by_cases hc : c = '='
      · subst hc
        rw [spans_sign, List.head?_map, head?_spans_value]
        exact Option.map_map _ _ _
      · rw [spans_sign_of_other hc]
        simp [hc]

theorem spans_gap_of_word (hc : isWordChar c = true) (rest : List Char) :
    Pattern.spans before (c :: rest) (.any isAsciiSpace :: signPattern) = [] := by
  obtain ⟨last, hspans⟩ := exists_spans_gap before (c :: rest)
  have hspace : ¬isAsciiSpace c = true := not_isAsciiSpace_of_isWordChar hc
  have hsign : c ≠ '=' := by
    rintro rfl
    cases hc
  rw [hspans, List.dropWhile_cons, if_neg hspace, spans_sign_of_other hsign, List.map_nil]

/-- A match takes the whole word. -/
theorem head?_splits (before : Option Char) (hc : isWordChar c = true) (rest : List Char) :
    (pattern.splits before (c :: rest)).head?.map (Prod.map ofParts id) =
      (splitAfterName? (rest.dropWhile isWordChar)).map fun parts =>
        ({ name := c :: rest.takeWhile isWordChar
           text := c :: rest.takeWhile isWordChar ++ parts.1 }, parts.2) := by
  have hword : ∀ before c rest, isWordChar c = true →
      Pattern.spans before (c :: rest) (.any isAsciiSpace :: signPattern) = [] :=
    fun before c rest hc => spans_gap_of_word hc rest
  obtain ⟨last, hsplits⟩ := Pattern.splits_many_of_test hword before hc rest
  have hpattern : pattern.splits before (c :: rest) = _ := hsplits
  rw [hpattern, ← head?_spans_gap last, Pattern.spans, ← List.head?_map, ← List.head?_map,
    List.map_map, List.map_map]
  rfl

theorem splits_of_other (before : Option Char) (hc : isWordChar c = false) (rest : List Char) :
    pattern.splits before (c :: rest) = [] :=
  Pattern.splits_many_of_not hc

/-- A word that is not assigned is passed over, none of its ends is matched. -/
theorem findAll_pattern_skip (text : List Char)
    (h : splitAfterName? (text.dropWhile isWordChar) = none) (before : Option Char) :
    ∃ last, pattern.findAll before text = pattern.findAll last (text.dropWhile isWordChar) := by
  induction text generalizing before with
  | nil => exact ⟨before, rfl⟩
  | cons c rest ih =>
      rw [List.dropWhile_cons] at h ⊢
      cases hc : isWordChar c with
      | false => exact ⟨before, rfl⟩
      | true =>
          rw [hc, if_pos rfl] at h
          have hnone := head?_splits before hc rest
          rw [h, Option.map_none, Option.map_eq_none_iff] at hnone
          rw [Pattern.findAll_of_none hnone]
          exact ih h (some c)

/-- The scan finds what the pattern matches. -/
theorem findAll_pattern (before : Option Char) (text : List Char) :
    (pattern.findAll before text).map ofParts = scan text := by
  fun_induction scan text generalizing before with
  | case1 =>
      rw [Pattern.findAll]
      rfl
  | case2 c rest hc name matched remaining hsplit ih =>
      have hfound := head?_splits before hc rest
      rw [hsplit, Option.map_some, Option.map_eq_some_iff] at hfound
      obtain ⟨⟨taken, after⟩, hsplits, hpair⟩ := hfound
      obtain ⟨hparts, hafter⟩ := Prod.mk.inj hpair
      obtain rfl : after = remaining := hafter
      have hlength : after.length ≤ rest.length :=
        (length_of_splitAfterName? hsplit).trans (List.dropWhile_suffix _).length_le
      rw [Pattern.findAll_of_some hsplits hlength, List.map_cons, hparts, ih]
  | case3 c rest hc hsplit ih =>
      have hword : (c :: rest).dropWhile isWordChar = rest.dropWhile isWordChar := by
        rw [List.dropWhile_cons, if_pos hc]
      obtain ⟨last, hskip⟩ := findAll_pattern_skip (c :: rest) (hword ▸ hsplit) before
      rw [hskip, hword, ih]
  | case4 c rest hc ih =>
      have hother := splits_of_other before ((Bool.not_eq_true _).mp hc) rest
      have hnone := congrArg List.head? hother
      rw [Pattern.findAll_of_none hnone, ih]

-- The white space after the sign leads over the end of the line, to the next assignment.
example : (pattern.findAll none "a =\nb = 1".toList).map ofParts =
    [{ name := ['a'], text := "a =\nb = 1".toList }] := by
  decide +kernel

end Matches

end SnippetCoach.Assignment
