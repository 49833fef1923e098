import Mathlib.Data.Nat.Find
import SnippetCoach.Proofs.Text.Lines
/-! Lines and offsets. The lines joined by line feeds are the text, and the line that a search gives
is the one of the leftmost occurrence in the undivided text. -/
namespace SnippetCoach.Text

variable {text : List Char} {needles : List (List Char)} {offset : Nat}

theorem intercalate_lines (text : List Char) : ['\n'].intercalate (lines text) = text := by
  induction text with
  | nil => rfl
  | cons c rest ih =>
      by_cases hc : c = '\n'
      · subst hc
        rw [lines_feed, List.intercalate_cons_of_ne_nil (lines_ne_nil rest), ih]
        rfl
      · obtain ⟨line, others, hlines⟩ := List.exists_cons_of_ne_nil (lines_ne_nil rest)
        rw [hlines] at ih
        rw [lines_cons hc hlines]
        cases others with
        | nil =>
            rw [List.intercalate_singleton] at ih ⊢
            rw [ih]
        | cons next others =>
            rw [List.intercalate_cons_cons] at ih ⊢
            rw [List.cons_append, List.cons_append, ih]

/-- A needle without a line feed stands at the offset. -/
def StandsAt (needles : List (List Char)) (text : List Char) (offset : Nat) : Prop :=
  ∃ needle ∈ needles, '\n' ∉ needle ∧
    ∃ before after, text = before ++ (needle ++ after) ∧ before.length = offset

/-- The least offset at which a needle without a line feed stands. -/
def IsLeftmost (needles : List (List Char)) (text : List Char) (offset : Nat) : Prop :=
  StandsAt needles text offset ∧ ∀ earlier < offset, ¬StandsAt needles text earlier

theorem exists_standsAt_iff :
    (∃ offset, StandsAt needles text offset) ↔
      ∃ needle ∈ needles, '\n' ∉ needle ∧ needle <:+: text := by
  constructor
  · rintro ⟨_, needle, hneedle, hfeed, before, after, rfl, -⟩
    exact ⟨needle, hneedle, hfeed, before, after, List.append_assoc before needle after⟩
  · rintro ⟨needle, hneedle, hfeed, before, after, rfl⟩
    exact ⟨before.length, needle, hneedle, hfeed, before, after,
      List.append_assoc before needle after, rfl⟩

theorem exists_isLeftmost (h : ∃ offset, StandsAt needles text offset) :
    ∃ offset, IsLeftmost needles text offset := by
  classical
  exact ⟨Nat.find h, Nat.find_spec h, fun _ => Nat.find_min h⟩

/-- What a search by lines asks of a line. -/
def HasNeedle (needles : List (List Char)) (line : List Char) : Prop :=
  ∃ needle ∈ needles, needle <:+: line

theorem isFirstLine_of_standsAt (h : StandsAt needles text offset) :
    IsFirstLine (HasNeedle needles) text (findLine text needles) :=
  isFirstLine_findLine (fun _ => Iff.rfl) (exists_standsAt_iff.mp ⟨offset, h⟩)

/-- The line of an offset has the needle that stands there. -/
theorem StandsAt.hasLine (h : StandsAt needles text offset) :
    HasLine (HasNeedle needles) text ((text.take offset).count '\n' + 1) := by
  obtain ⟨needle, hneedle, hfeed, before, after, rfl, rfl⟩ := h
  obtain ⟨earlier, first, last, later, hlength, hlines⟩ := exists_line_of_cut before after hfeed
  refine ⟨earlier, first ++ (needle ++ last), later, hlines, ?_, needle, hneedle, first, last, ?_⟩
  · rw [List.take_left, hlength]
  · exact List.append_assoc first needle last

/-- A needle in a line stands at an offset with as many line feeds before it as there are lines
before that line. -/
theorem exists_standsAt_of_lines {earlier later : List (List Char)} {line : List Char}
    (hlines : lines text = earlier ++ line :: later) (hhas : HasNeedle needles line) :
    ∃ offset, StandsAt needles text offset ∧ (text.take offset).count '\n' = earlier.length := by
  obtain ⟨needle, hneedle, first, last, rfl⟩ := hhas
  obtain ⟨before, after, rfl, hcount, -, -⟩ := exists_cut_of_lines hlines
  have hline : '\n' ∉ first ++ needle ++ last :=
    feed_notMem_of_mem_lines (hlines ▸ List.mem_append_right earlier List.mem_cons_self)
  simp only [List.mem_append, not_or] at hline
  obtain ⟨⟨hfirst, hfeed⟩, -⟩ := hline
  have hsplit : before ++ (first ++ needle ++ last ++ after) =
      (before ++ first) ++ (needle ++ (last ++ after)) := by
    simp only [List.append_assoc]
  refine ⟨(before ++ first).length, ⟨needle, hneedle, hfeed, before ++ first, last ++ after,
    hsplit, rfl⟩, ?_⟩
  rw [hsplit, List.take_left, List.count_append, List.count_eq_zero.mpr hfirst, hcount,
    Nat.add_zero]

/-- No offset of the line found is left of the leftmost one, and none is in an earlier line. -/
theorem IsLeftmost.findLine_eq (h : IsLeftmost needles text offset) :
    findLine text needles = (text.take offset).count '\n' + 1 := by
  have hfirst := isFirstLine_of_standsAt h.1
  have hle : findLine text needles ≤ (text.take offset).count '\n' + 1 :=
    hfirst.le_of_hasLine h.1.hasLine
  obtain ⟨earlier, line, later, hlines, hnumber, hhas, -⟩ := hfirst
  obtain ⟨other, hother, hcount⟩ := exists_standsAt_of_lines hlines hhas
  have hleft : offset ≤ other := Nat.not_lt.mp fun hlt => h.2 other hlt hother
  have hfeeds : (text.take offset).count '\n' ≤ (text.take other).count '\n' :=
    (List.take_prefix_take_left hleft).sublist.count_le '\n'
  omega

theorem findLine_eq_zero_iff :
    findLine text needles = 0 ↔ ∀ needle ∈ needles, '\n' ∉ needle → ¬needle <:+: text := by
  constructor
  · intro hzero needle hneedle hfeed hoccurs
    obtain ⟨offset, hstands⟩ := exists_standsAt_iff.mpr ⟨needle, hneedle, hfeed, hoccurs⟩
    have hpos := (isFirstLine_of_standsAt hstands).pos
    omega
  · intro hnone
    apply firstLineWhere_eq_zero
    intro line hline
    rw [List.any_eq_false]
    intro needle hneedle hoccurs
    obtain ⟨earlier, later, hlines⟩ := List.append_of_mem hline
    obtain ⟨offset, hstands, -⟩ :=
      exists_standsAt_of_lines hlines ⟨needle, hneedle, occursIn_iff.mp hoccurs⟩
    obtain ⟨other, hother, hfeed, hin⟩ := exists_standsAt_iff.mp ⟨offset, hstands⟩
    exact hnone other hother hfeed hin

theorem findLine_eq_succ_iff {number : Nat} :
    findLine text needles = number + 1 ↔
      ∃ offset, IsLeftmost needles text offset ∧ (text.take offset).count '\n' = number := by
  constructor
  · intro hfound
    have hsome : ∃ offset, StandsAt needles text offset := by
      by_contra hnone
      have hzero : findLine text needles = 0 := by
        rw [findLine_eq_zero_iff]
        intro needle hneedle hfeed hoccurs
        exact hnone (exists_standsAt_iff.mpr ⟨needle, hneedle, hfeed, hoccurs⟩)
      omega
    obtain ⟨offset, hleftmost⟩ := exists_isLeftmost hsome
    have hline := hleftmost.findLine_eq
    exact ⟨offset, hleftmost, by omega⟩
  · rintro ⟨offset, hleftmost, rfl⟩
    exact hleftmost.findLine_eq

/-- The needles that a search by lines can find. -/
def unbroken (needles : List (List Char)) : List (List Char) :=
  needles.filter fun needle => !needle.contains '\n'

theorem mem_unbroken {needle : List Char} :
    needle ∈ unbroken needles ↔ needle ∈ needles ∧ '\n' ∉ needle := by
  simp [unbroken]

theorem standsAt_unbroken :
    StandsAt (unbroken needles) text offset ↔ StandsAt needles text offset := by
  constructor
  · rintro ⟨needle, hneedle, hrest⟩
    exact ⟨needle, (mem_unbroken.mp hneedle).1, hrest⟩
  · rintro ⟨needle, hneedle, hfeed, hcut⟩
    exact ⟨needle, mem_unbroken.mpr ⟨hneedle, hfeed⟩, hfeed, hcut⟩

theorem findLine_unbroken (text : List Char) (needles : List (List Char)) :
    findLine text (unbroken needles) = findLine text needles := by
  cases hfound : findLine text needles with
  | zero =>
      rw [findLine_eq_zero_iff] at hfound ⊢
      exact fun needle hneedle => hfound needle (mem_unbroken.mp hneedle).1
  | succ number =>
      rw [findLine_eq_succ_iff] at hfound ⊢
      simpa only [IsLeftmost, standsAt_unbroken] using hfound

/-- The lines are the text cut at its line feeds. A search gives no line if no needle without a line
feed is in the text; else it gives the line of the leftmost one, after as many line feeds as there
are before it. Needles with a line feed do not count. -/
theorem findLine_leftmost (text : List Char) (needles : List (List Char)) :
    ['\n'].intercalate (lines text) = text ∧
    (∀ line ∈ lines text, '\n' ∉ line) ∧
    (findLine text needles = 0 ↔ ∀ needle ∈ needles, '\n' ∉ needle → ¬needle <:+: text) ∧
    (∀ number, findLine text needles = number + 1 ↔
      ∃ offset, IsLeftmost needles text offset ∧ (text.take offset).count '\n' = number) ∧
    findLine text (unbroken needles) = findLine text needles :=
  ⟨intercalate_lines text, fun _ => feed_notMem_of_mem_lines, findLine_eq_zero_iff,
    fun _ => findLine_eq_succ_iff, findLine_unbroken text needles⟩

/-- The empty needle is leftmost at the start, before a longer one on the second line; a needle over
the end of a line is not found. -/
example : findLine "a\nb".toList ["b".toList, []] = 1 ∧ findLine "a\nb".toList ["b".toList] = 2 ∧
    findLine "a\nb".toList ["a\nb".toList] = 0 := by
  decide

end SnippetCoach.Text
