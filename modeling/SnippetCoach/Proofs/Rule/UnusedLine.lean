import SnippetCoach.Proofs.Rule.Unused
import SnippetCoach.Proofs.Text.Lines
/-! The line of an unused variable. A finding is placed by the text of its assignment and not by the
name, so a longer name that is assigned the same value on an earlier line draws it there. -/
namespace SnippetCoach
open Text

namespace Text.Run

variable {text word : List Char}

/-- The number of the line in which the word begins, from one. -/
def line (run : Run text) : Nat :=
  run.before.count '\n' + 1

/-- A word of a line is a word of the text, on that line. -/
theorem exists_of_hasLine {number : Nat}
    (h : HasLine (fun line => ∃ run : Run line, run.word = word) text number) :
    ∃ run : Run text, run.word = word ∧ run.line = number := by
  obtain ⟨earlier, line, later, hlines, rfl, run, rfl⟩ := h
  have hmem : line ∈ lines text := hlines ▸ List.mem_append_right _ List.mem_cons_self
  obtain ⟨before, after, rfl, hcount, hlast, hhead⟩ := exists_cut_of_lines hlines
  have hplain : '\n' ∉ run.before := by
    intro hfeed
    refine feed_notMem_of_mem_lines hmem ?_
    rw [← run.whole]
    exact List.mem_append_left _ hfeed
  have hopens : ∀ c ∈ (before ++ run.before).getLast?, isWordChar c = false :=
    forall_getLast?_append (fun c hc => hlast c hc ▸ rfl) run.opens
  have hcloses : ∀ c ∈ (run.after ++ after).head?, isWordChar c = false :=
    forall_head?_append run.closes fun c hc => hhead c hc ▸ rfl
  refine ⟨⟨before ++ run.before, run.word, run.after ++ after, ?_, run.ne_nil, run.isWord, hopens,
    hcloses⟩, rfl, ?_⟩
  · calc before ++ run.before ++ (run.word ++ (run.after ++ after))
        = before ++ (run.before ++ (run.word ++ run.after) ++ after) := by
          simp only [List.append_assoc]
      _ = before ++ (line ++ after) := by rw [run.whole]
  · rw [Run.line, List.count_append, hcount, List.count_eq_zero.mpr hplain, Nat.add_zero]

end Text.Run

/-- The line has the text of an assignment as the end of an assignment to a longer name. -/
def Continues (text line : List Char) : Prop :=
  ∃ c, isWordChar c = true ∧ c :: text <:+: line

theorem Continues.infix {text line : List Char} (h : Continues text line) : text <:+: line := by
  obtain ⟨c, -, hoccurs⟩ := h
  exact (List.suffix_cons c text).isInfix.trans hoccurs

namespace Assignment.Match

variable {code line : List Char}

theorem whole (found : Match code) :
    found.run.before ++ (found.assignment.text ++ found.rest) = code := by
  have hwhole := found.through_append
  rwa [through, List.append_assoc] at hwhole

/-- Where the text of a match occurs, the name is a word or the end of one. -/
theorem word_or_continues (found : Match code) (h : found.assignment.text <:+: line) :
    (∃ run : Run line, run.word = found.run.word) ∨ Continues found.assignment.text line := by
  obtain ⟨before, after, rfl⟩ := h
  by_cases hopens : ∀ c ∈ before.getLast?, isWordChar c = false
  · have hcloses : ∀ c ∈ (found.space ++ '=' :: (found.value ++ after)).head?,
        isWordChar c = false := by
      intro c hc
      refine found.run.closes c ?_
      rw [found.after_eq, List.head?_append]
      rwa [List.head?_append] at hc
    refine .inl ⟨⟨before, found.run.word, _, ?_, found.run.ne_nil, found.run.isWord, hopens,
      hcloses⟩, rfl⟩
    simp only [assignment, List.append_assoc, List.cons_append]
  · push Not at hopens
    obtain ⟨c, hc, hword⟩ := hopens
    obtain ⟨shorter, rfl⟩ := List.getLast?_eq_some_iff.mp hc
    refine .inr ⟨c, eq_true_of_ne_false hword, shorter, after, ?_⟩
    simp only [List.append_assoc, List.cons_append, List.nil_append]

theorem hasLine_text (found : Match code) (hfeed : '\n' ∉ found.assignment.text) :
    HasLine (found.assignment.text <:+: ·) code found.run.line := by
  obtain ⟨earlier, first, last, later, hlength, hlines⟩ :=
    exists_line_of_cut found.run.before found.rest hfeed
  rw [found.whole] at hlines
  exact ⟨earlier, _, later, hlines, by rw [Run.line, hlength], first, last, List.append_assoc _ _ _⟩

/-- The first line with the text of a match is that of the name, or an earlier one on which the text
continues a word. -/
theorem findLine_text (found : Match code) (hfeed : '\n' ∉ found.assignment.text)
    (honce : ∀ run : Run code, run.word = found.run.word → run = found.run) :
    (findLine code [found.assignment.text] = found.run.line ∧
        ∀ number < found.run.line, ¬HasLine (Continues found.assignment.text) code number) ∨
      findLine code [found.assignment.text] < found.run.line ∧
        IsFirstLine (Continues found.assignment.text) code
          (findLine code [found.assignment.text]) := by
  have hoccurs : found.assignment.text <:+: code :=
    ⟨found.run.before, found.rest, by rw [List.append_assoc, found.whole]⟩
  have hfirst := isFirstLine_findLine_one hfeed hoccurs
  rcases Nat.lt_or_eq_of_le (hfirst.le_of_hasLine (found.hasLine_text hfeed)) with hlt | heq
  · obtain ⟨earlier, line, later, hlines, hnumber, htext, hnone⟩ := hfirst
    rcases found.word_or_continues htext with hword | hcontinues
    · obtain ⟨run, hrun, hline⟩ :=
        Run.exists_of_hasLine ⟨earlier, line, later, hlines, hnumber, hword⟩
      rw [← hline, honce run hrun] at hlt
      exact absurd hlt (Nat.lt_irrefl _)
    · exact .inr ⟨hlt, earlier, line, later, hlines, hnumber, hcontinues,
        fun other hother h => hnone other hother h.infix⟩
  · refine .inl ⟨heq, ?_⟩
    rintro number hlt ⟨earlier, line, later, hlines, hnumber, hcontinues⟩
    have hle := hfirst.le_of_hasLine ⟨earlier, line, later, hlines, hnumber, hcontinues.infix⟩
    omega

end Assignment.Match

namespace Rule
open Assignment

/-- A finding with a line is on that of the name, which is the only place of the name as a word,
unless an earlier line has the text of the assignment as the end of a longer one; then it is on the
first such line. -/
theorem line_of_unusedVariable {code : List Char} {finding : Finding}
    (h : finding ∈ unusedVariable code) (hline : finding.line ≠ 0) :
    ∃ found : Match code, finding = findingOf found ∧
      (∀ run : Run code, run.word = found.run.word → run = found.run) ∧
      ((finding.line = found.run.line ∧
          ∀ number < found.run.line, ¬HasLine (Continues found.assignment.text) code number) ∨
        finding.line < found.run.line ∧
          IsFirstLine (Continues found.assignment.text) code finding.line) := by
  obtain ⟨hits, -, hmap⟩ := exists_scanned (List.nil_append code) nofun
  rw [unusedVariable_of_map_eq hmap] at h
  obtain ⟨found, hfound, rfl⟩ := List.mem_map.mp h
  obtain ⟨-, run, -, hunique⟩ := of_decide_eq_true (List.mem_filter.mp hfound).2
  have honce (other : Run code) (hother : other.word = found.run.word) : other = found.run :=
    (hunique other hother).trans (hunique found.run rfl).symm
  have hfeed : '\n' ∉ found.assignment.text := fun hmem => hline (findLine_of_feed hmem)
  exact ⟨found, rfl, honce, found.findLine_text hfeed honce⟩

def unusedOnLine (line : Nat) : Finding :=
  { kind := .unusedVariable, line, message := "Variable 'x' is assigned but never used" }

/-- A longer name with another value does not matter. -/
theorem line_of_unusedVariable_second :
    let code := "ax = 2\nx = 1".toList
    unusedOnLine 2 ∈ unusedVariable code ∧ (unusedOnLine 2).line ≠ 0 ∧
      ∃ found : Match code, unusedOnLine 2 = findingOf found ∧ found.run.line = 2 := by
  intro code
  have hmem : unusedOnLine 2 ∈ unusedVariable code := by decide +kernel
  have hline : (unusedOnLine 2).line ≠ 0 := by decide
  obtain ⟨found, hfinding, -, hplace⟩ := line_of_unusedVariable hmem hline
  refine ⟨hmem, hline, found, hfinding, ?_⟩
  have hfeeds : code.count '\n' = 1 := by decide
  rw [← found.run.whole, List.count_append] at hfeeds
  rcases hplace with ⟨heq, -⟩ | ⟨hlt, -⟩
  · exact heq.symm
  · change 2 < found.run.before.count '\n' + 1 at hlt
    omega

/-- A longer name with the same value on an earlier line takes the finding away. -/
theorem not_line_of_unusedVariable :
    ¬∀ (code : List Char) (finding : Finding) (run : Run code), finding ∈ unusedVariable code →
      finding.line ≠ 0 →
      finding.message = RuleKind.message .unusedVariable (String.ofList run.word) →
      finding.line = run.line := by
  intro hclaim
  let run : Run "ax = 1\nx = 1".toList :=
    { before := "ax = 1\n".toList, word := ['x'], after := " = 1".toList
      whole := rfl, ne_nil := by decide, isWord := List.forall_mem_singleton.mpr rfl
      opens := fun _ h => Option.some.inj h ▸ rfl
      closes := fun _ h => Option.some.inj h ▸ rfl }
  have hmem : unusedOnLine 1 ∈ unusedVariable "ax = 1\nx = 1".toList := by decide +kernel
  have hplace := hclaim _ (unusedOnLine 1) run hmem (by decide) (by decide)
  exact absurd hplace (by decide)

end Rule
end SnippetCoach
