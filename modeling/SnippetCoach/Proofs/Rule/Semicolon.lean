import SnippetCoach.Proofs.Text.Lines
import SnippetCoach.Proofs.Text.Trim
import SnippetCoach.Rule.Statement
/-! The rule on semicolons judges each line alone, so that the findings of a text are those of its
parts, one after the other. -/
namespace SnippetCoach
open Text

/-- The finding when this many lines come before the text that it is about. -/
def Finding.below (count : Nat) (finding : Finding) : Finding :=
  { finding with line := finding.line + count }

namespace Rule

section LineNumbers

variable {test : List Char → Bool} {number found : Nat} {rest : List (List Char)}

theorem lineNumbersWhere_append (before after : List (List Char)) :
    lineNumbersWhere test number (before ++ after) =
      lineNumbersWhere test number before ++
        lineNumbersWhere test (number + before.length) after := by
  induction before generalizing number with
  | nil => rfl
  | cons line before ih =>
      have hshift : number + 1 + before.length = number + (line :: before).length := by
        rw [List.length_cons]
        omega
      rw [List.cons_append, lineNumbersWhere, lineNumbersWhere, ih, hshift]
      split <;> rfl

theorem lineNumbersWhere_add (count : Nat) :
    lineNumbersWhere test (number + count) rest =
      (lineNumbersWhere test number rest).map (· + count) := by
  induction rest generalizing number with
  | nil => rfl
  | cons line rest ih =>
      rw [lineNumbersWhere, lineNumbersWhere, Nat.add_right_comm, ih]
      split <;> rfl

theorem mem_lineNumbersWhere_iff :
    found ∈ lineNumbersWhere test number rest ↔ ∃ before line after,
      rest = before ++ line :: after ∧ found = number + before.length ∧ test line = true := by
  constructor
  · intro h
    induction rest generalizing number with
    | nil => exact absurd h List.not_mem_nil
    | cons line rest ih =>
        rw [lineNumbersWhere] at h
        -- A later line has its number from the next one on.
        have hlater (hmem : found ∈ lineNumbersWhere test (number + 1) rest) :
            ∃ before other after, line :: rest = before ++ other :: after ∧
              found = number + before.length ∧ test other = true := by
          obtain ⟨before, other, after, rfl, rfl, hother⟩ := ih hmem
          exact ⟨line :: before, other, after, rfl, Nat.add_right_comm number 1 _, hother⟩
        split at h
        · rename_i hline
          rcases List.mem_cons.mp h with rfl | hmem
          · exact ⟨[], line, rest, rfl, rfl, hline⟩
          · exact hlater hmem
        · exact hlater h
  · rintro ⟨before, line, after, rfl, rfl, hline⟩
    rw [lineNumbersWhere_append, lineNumbersWhere, if_pos hline]
    exact List.mem_append_right _ List.mem_cons_self

theorem lineNumbersWhere_bounds (h : found ∈ lineNumbersWhere test number rest) :
    number ≤ found ∧ found < number + rest.length := by
  obtain ⟨before, line, after, rfl, rfl, -⟩ := mem_lineNumbersWhere_iff.mp h
  rw [List.length_append, List.length_cons]
  omega

theorem pairwise_lineNumbersWhere (rest : List (List Char)) :
    (lineNumbersWhere test number rest).Pairwise (· < ·) := by
  induction rest generalizing number with
  | nil => exact .nil
  | cons line rest ih =>
      rw [lineNumbersWhere]
      split
      · exact .cons (fun _ hlater => (lineNumbersWhere_bounds hlater).1) ih
      · exact ih

end LineNumbers

variable {code line : List Char}

/-- A statement stands on the line, with white space around it at most, and nothing ends it. What
begins as a directive or a comment, or names a control keyword, need not be ended. -/
def Unterminated (line : List Char) : Prop :=
  ∃ statement, Trimmed line statement ∧ statement ≠ [] ∧
    (∀ c ∈ [';', '\x7b', '\x7d'], statement.getLast? ≠ some c) ∧
    (∀ start ∈ ["#", "//"], ¬start.toList <+: statement) ∧
    ∀ keyword ∈ ["if", "for", "while"], ¬keyword.toList <:+: statement

theorem lacksSemicolon_iff : lacksSemicolon line = true ↔ Unterminated line := by
  simp only [Unterminated, trimmed_iff, exists_eq_left, lacksSemicolon, Bool.and_eq_true,
    Bool.not_eq_true', List.isEmpty_eq_false_iff, List.any_eq_false, beq_iff_eq,
    List.isPrefixOf_iff_prefix, mentions, occursIn_iff, and_assoc, ne_eq]

theorem map_line_missingSemicolon (code : List Char) :
    (missingSemicolon code).map Finding.line = lineNumbersWhere lacksSemicolon 1 (lines code) := by
  rw [missingSemicolon, List.map_map]
  exact List.map_id _

/-- The findings of a text and those of one below it. -/
theorem missingSemicolon_append_feed (code rest : List Char) :
    missingSemicolon (code ++ '\n' :: rest) =
      missingSemicolon code ++ (missingSemicolon rest).map (Finding.below (lines code).length) := by
  rw [missingSemicolon, missingSemicolon, missingSemicolon, lines_append_feed,
    lineNumbersWhere_append, lineNumbersWhere_add, List.map_append, List.map_map, List.map_map]
  rfl

/-- A line on its own is the first line, and reported if it is unterminated. -/
theorem missingSemicolon_line (h : '\n' ∉ line) :
    missingSemicolon line = [.plain .missingSemicolon 1] ↔ Unterminated line := by
  rw [missingSemicolon, lines_eq_singleton h, lineNumbersWhere, ← lacksSemicolon_iff]
  cases lacksSemicolon line with
  | true => exact iff_of_true rfl rfl
  | false => exact iff_of_false (List.cons_ne_nil _ _).symm Bool.false_ne_true

theorem mem_map_line_missingSemicolon {number : Nat} :
    number ∈ (missingSemicolon code).map Finding.line ↔ HasLine Unterminated code number := by
  rw [map_line_missingSemicolon, mem_lineNumbersWhere_iff, HasLine]
  simp only [lacksSemicolon_iff, Nat.add_comm 1]

/-- The rule is local to lines: the findings of two texts, one below the other, are those of the
first and those of the second with their lines further down. So the lines that are reported
increase, and the lines that are reported are those that are reported on their own, which are the
unterminated ones. -/
theorem missingSemicolon_local (code : List Char) :
    (∀ rest, missingSemicolon (code ++ '\n' :: rest) =
      missingSemicolon code ++ (missingSemicolon rest).map (Finding.below (lines code).length)) ∧
    ((missingSemicolon code).map Finding.line).Pairwise (· < ·) ∧
    ∀ number,
      (number ∈ (missingSemicolon code).map Finding.line ↔
        HasLine (missingSemicolon · = [.plain .missingSemicolon 1]) code number) ∧
      (number ∈ (missingSemicolon code).map Finding.line ↔ HasLine Unterminated code number) := by
  refine ⟨missingSemicolon_append_feed code, ?_, fun number => ⟨?_, mem_map_line_missingSemicolon⟩⟩
  · rw [map_line_missingSemicolon]
    exact pairwise_lineNumbersWhere _
  · rw [mem_map_line_missingSemicolon]
    exact hasLine_congr fun line hline =>
      (missingSemicolon_line (feed_notMem_of_mem_lines hline)).symm

end Rule
end SnippetCoach
