import Mathlib.Data.List.Infix
import SnippetCoach.Issue.Basic
import SnippetCoach.Number.Word
import SnippetCoach.Proofs.Number.Decimal
import SnippetCoach.Proofs.Rule.Assignment
import SnippetCoach.Proofs.Rule.Indentation
import SnippetCoach.Proofs.Rule.Semicolon
import SnippetCoach.Tag.Given
/-! Where issues are. A rule judges the whole text and looks for a line afterwards; both agree, but
for assignments that span lines. -/
namespace SnippetCoach
open Number Text

namespace Text

theorem startsCall_iff {name text : List Char} :
    startsCall name text = true ↔ ∃ word rest, word ≠ [] ∧ (∀ c ∈ word, isWordChar c = true) ∧
      text = name ++ '(' :: (word ++ ')' :: rest) := by
  unfold startsCall
  constructor
  · intro h
    split at h
    · rename_i rest hnamed
      rw [Bool.and_eq_true, Bool.not_eq_true', List.isEmpty_eq_false_iff, beq_iff_eq] at h
      obtain ⟨hne, hclose⟩ := h
      obtain ⟨after, hafter⟩ := List.head?_eq_some_iff.mp hclose
      refine ⟨rest.takeWhile isWordChar, after, hne, List.all_eq_true.mp List.all_takeWhile, ?_⟩
      rw [← hafter, List.takeWhile_append_dropWhile]
      exact (List.isPrefixOf?_eq_some_iff_append_eq.mp hnamed).symm
    · exact nomatch h
  · rintro ⟨word, rest, hne, hword, rfl⟩
    have hnamed : name.isPrefixOf? (name ++ '(' :: (word ++ ')' :: rest)) =
        some ('(' :: (word ++ ')' :: rest)) := List.isPrefixOf?_eq_some_iff_append_eq.mpr rfl
    have hclose : isWordChar ')' = false := rfl
    simp [hnamed, List.takeWhile_append_of_pos hword, List.dropWhile_append_of_pos hword, hclose,
      hne]

end Text

/-- The text has a call of range with one word. -/
def CallsRange (text : List Char) : Prop :=
  ∃ word, word ≠ [] ∧ (∀ c ∈ word, isWordChar c = true) ∧
    "range(".toList ++ word ++ [')'] <:+: text

theorem callsRange_iff {text : List Char} : Rule.callsRange text = true ↔ CallsRange text := by
  rw [Rule.callsRange, anySuffix_iff]
  constructor
  · rintro ⟨before, suffix, rfl, h⟩
    obtain ⟨word, rest, hne, hword, rfl⟩ := startsCall_iff.mp h
    exact ⟨word, hne, hword, before, rest, by simp⟩
  · rintro ⟨word, hne, hword, before, rest, rfl⟩
    exact ⟨before, _, List.append_assoc before _ rest,
      startsCall_iff.mpr ⟨word, rest, hne, hword, by simp⟩⟩

theorem exists_mem_lines_of_callsRange {text : List Char} (h : CallsRange text) :
    ∃ line ∈ lines text, CallsRange line := by
  obtain ⟨word, hne, hword, hoccurs⟩ := h
  have hfeed : '\n' ∉ "range(".toList ++ word ++ [')'] := by
    rw [List.mem_append, List.mem_append]
    rintro ((hname | hmem) | hclose)
    · exact absurd hname (by decide)
    · exact absurd (hword _ hmem) (by decide)
    · exact absurd hclose (by decide)
  obtain ⟨line, hline, hin⟩ := exists_mem_lines_of_infix hfeed hoccurs
  exact ⟨line, hline, word, hne, hword, hin⟩

/-- The finding is on the line that its kind says. -/
def Finding.Located (code : List Char) (finding : Finding) : Prop :=
  finding.line ≤ (lines code).length ∧
    match finding.kind with
    | .incompleteBaseCase => IsFirstLine ("n == 1".toList <:+: ·) code finding.line
    | .infiniteLoop => IsFirstLine ("while True".toList <:+: ·) code finding.line
    | .offByOne => IsFirstLine CallsRange code finding.line
    | .missingReturn => IsFirstLine ("def ".toList <:+: ·) code finding.line
    | .memoryLeak =>
      IsFirstLine (fun line => "malloc".toList <:+: line ∨ "new".toList <:+: line) code finding.line
    | .undisposedResource =>
      IsFirstLine (fun line => "StreamReader".toList <:+: line ∨ "FileStream".toList <:+: line)
        code finding.line
    | .genericCatch => IsFirstLine ("catch (Exception".toList <:+: ·) code finding.line
    | .unusedVariable =>
      ∃ assignment ∈ Assignment.scan code,
        (∀ other ∈ Assignment.scan code, other.name = assignment.name → other = assignment) ∧
        finding.message = RuleKind.message .unusedVariable (String.ofList assignment.name) ∧
        (finding.line = 0 ↔ '\n' ∈ assignment.text) ∧
        ('\n' ∉ assignment.text → IsFirstLine (assignment.text <:+: ·) code finding.line)
    | .arrayBounds | .uninitializedVariable | .nullReference => finding.line = 1
    | .indentation | .missingSemicolon => 1 ≤ finding.line
    | .noIssues => False

namespace Rule

theorem mem_onlyIf {condition : Bool} {kind : RuleKind} {line : Nat} {finding : Finding}
    (h : finding ∈ Finding.onlyIf condition kind line) :
    condition = true ∧ finding = .plain kind line := by
  rw [Finding.onlyIf] at h
  split at h
  · exact ⟨‹_›, List.mem_singleton.mp h⟩
  · exact absurd h List.not_mem_nil

/-- A rule whose condition asks for the text that it then looks for finds it. -/
theorem mem_onlyIf_findLine {condition : Bool} {kind : RuleKind} {needle code : List Char}
    {finding : Finding} (h : finding ∈ Finding.onlyIf condition kind (findLine code [needle]))
    (hasks : condition = true → occursIn needle code = true) (hfeed : '\n' ∉ needle) :
    finding = .plain kind (findLine code [needle]) ∧
      findLine code [needle] ≤ (lines code).length ∧
        IsFirstLine (needle <:+: ·) code (findLine code [needle]) := by
  obtain ⟨hcondition, rfl⟩ := mem_onlyIf h
  have hfirst := isFirstLine_findLine_one hfeed (occursIn_iff.mp (hasks hcondition))
  exact ⟨rfl, hfirst.le, hfirst⟩

variable {code : List Char} {finding : Finding}

theorem located_indentation (h : finding ∈ indentation code) : finding.Located code := by
  rcases indentation_cases code with ⟨hnone, -⟩ | ⟨-, place, hone, ⟨_, _, -, hline, -⟩, -⟩
  · exact absurd (hnone ▸ h) List.not_mem_nil
  · obtain rfl := List.mem_singleton.mp (hone ▸ h)
    obtain ⟨hplace, -⟩ := List.getElem?_eq_some_iff.mp hline
    exact ⟨hplace, Nat.le_add_left 1 _⟩

theorem located_missingSemicolon (h : finding ∈ missingSemicolon code) : finding.Located code := by
  obtain ⟨line, hline, rfl⟩ := List.mem_map.mp h
  have hbounds := lineNumbersWhere_bounds hline
  refine ⟨?_, hbounds.1⟩
  dsimp only [Finding.plain]
  omega

theorem located_unusedVariable (h : finding ∈ unusedVariable code) : finding.Located code := by
  obtain ⟨assignment, hassignment, rfl⟩ := List.mem_map.mp h
  obtain ⟨hscan, hunused⟩ := List.mem_filter.mp hassignment
  rw [isUnused, Bool.and_eq_true, beq_iff_eq] at hunused
  refine ⟨firstLineWhere_le _ code, assignment, hscan, ?_, rfl, ?_, ?_⟩
  · intro other hother hsame
    exact Assignment.eq_of_name_eq hunused.2 hscan hother hsame
  · constructor
    · intro hzero
      by_contra hfeed
      have hfirst := isFirstLine_findLine_one hfeed (Assignment.infix_of_mem_scan hscan)
      have hpos := hfirst.pos
      dsimp only at hzero
      omega
    · exact findLine_of_feed
  · intro hfeed
    exact isFirstLine_findLine_one hfeed (Assignment.infix_of_mem_scan hscan)

end Rule

theorem located_of_mem_findings {kind : RuleKind} {code : List Char} {finding : Finding}
    (h : finding ∈ kind.findings code) : finding.Located code := by
  cases kind with
  | incompleteBaseCase =>
      obtain ⟨rfl, hlocated⟩ := Rule.mem_onlyIf_findLine h
        (fun hall => (Bool.and_eq_true_iff.mp (Bool.and_eq_true_iff.mp hall).1).2) (by decide)
      exact hlocated
  | indentation => exact Rule.located_indentation h
  | infiniteLoop =>
      obtain ⟨rfl, hlocated⟩ :=
        Rule.mem_onlyIf_findLine h (fun hall => (Bool.and_eq_true_iff.mp hall).1) (by decide)
      exact hlocated
  | offByOne =>
      obtain ⟨hcondition, rfl⟩ := Rule.mem_onlyIf h
      have hfirst := isFirstLine_firstLineWhere (fun _ => callsRange_iff)
        (exists_mem_lines_of_callsRange (callsRange_iff.mp hcondition))
      exact ⟨hfirst.le, hfirst⟩
  | unusedVariable => exact Rule.located_unusedVariable h
  | missingReturn =>
      obtain ⟨rfl, hlocated⟩ := Rule.mem_onlyIf_findLine h
        (fun hall => (Bool.and_eq_true_iff.mp (Bool.and_eq_true_iff.mp hall).1).1) (by decide)
      exact hlocated
  | missingSemicolon => exact Rule.located_missingSemicolon h
  | arrayBounds =>
      obtain ⟨-, rfl⟩ := Rule.mem_onlyIf h
      exact ⟨lines_length_pos code, rfl⟩
  | memoryLeak =>
      obtain ⟨hcondition, rfl⟩ := Rule.mem_onlyIf h
      rw [Bool.and_eq_true, Bool.or_eq_true] at hcondition
      have hfirst := isFirstLine_findLine_two (by decide) (by decide)
        (hcondition.1.imp occursIn_iff.mp occursIn_iff.mp)
      exact ⟨hfirst.le, hfirst⟩
  | uninitializedVariable =>
      obtain ⟨-, rfl⟩ := Rule.mem_onlyIf h
      exact ⟨lines_length_pos code, rfl⟩
  | nullReference =>
      obtain ⟨-, rfl⟩ := Rule.mem_onlyIf h
      exact ⟨lines_length_pos code, rfl⟩
  | undisposedResource =>
      obtain ⟨hcondition, rfl⟩ := Rule.mem_onlyIf h
      rw [Bool.and_eq_true, Bool.or_eq_true] at hcondition
      have hreader : "StreamReader".toList <:+: "new StreamReader".toList :=
        ⟨"new ".toList, [], rfl⟩
      have hstream : "FileStream".toList <:+: "new FileStream".toList := ⟨"new ".toList, [], rfl⟩
      have hfirst := isFirstLine_findLine_two (by decide) (by decide)
        (hcondition.1.imp (hreader.trans <| occursIn_iff.mp ·) (hstream.trans <| occursIn_iff.mp ·))
      exact ⟨hfirst.le, hfirst⟩
  | genericCatch =>
      obtain ⟨rfl, hlocated⟩ := Rule.mem_onlyIf_findLine h id (by decide)
      exact hlocated
  | noIssues => exact absurd h List.not_mem_nil

/-- The lines of a text whose characters a word can count are far within the limit of digits. -/
theorem fitsDigitLimit_line {code : String} (h : fitsWord code.length = true) {line : Nat}
    (hline : line ≤ (lines code.toList).length) : fitsDigitLimit line = true := by
  have hlines := length_lines_le code.toList
  rw [String.length_toList] at hlines
  rw [fitsWord, Bool.and_eq_true, decide_eq_true_iff, decide_eq_true_iff] at h
  rw [fitsDigitLimit_iff]
  have hsmall : line < 10 ^ 20 := by omega
  calc (line : Int).natAbs = line := Int.natAbs_natCast line
    _ < 10 ^ 20 := hsmall
    _ ≤ 10 ^ digitLimit := Nat.pow_le_pow_right (by decide) (by decide)

/-- The issues of such a text are the one that reports none, or on lines whose numbers have few
digits. -/
theorem fits_of_mem_detect {code : String} {language : GivenTag} {issue : Issue}
    (hlength : fitsWord code.length = true) (h : issue ∈ detect code language.language?) :
    issue = Issue.noIssues ∨
      ∃ finding : Finding, issue = Issue.ofFinding finding ∧
        fitsDigitLimit finding.line = true := by
  rw [detect] at h
  split at h
  · exact .inl (List.mem_singleton.mp h)
  · obtain ⟨finding, hfinding, rfl⟩ := List.mem_map.mp h
    obtain ⟨kind, -, hkind⟩ := List.mem_flatMap.mp hfinding
    exact .inr ⟨finding, rfl, fitsDigitLimit_line hlength (located_of_mem_findings hkind).1⟩

/-- Every issue but the one that reports none is on the line that its rule says. -/
theorem located_of_mem_detect {code : String} {language : GivenTag} {issue : Issue}
    (h : issue ∈ detect code language.language?) :
    issue = Issue.noIssues ∨
      ∃ finding : Finding, issue = Issue.ofFinding finding ∧ finding.Located code.toList := by
  rw [detect] at h
  split at h
  · exact .inl (List.mem_singleton.mp h)
  · obtain ⟨finding, hfinding, rfl⟩ := List.mem_map.mp h
    obtain ⟨kind, -, hkind⟩ := List.mem_flatMap.mp hfinding
    exact .inr ⟨finding, rfl, located_of_mem_findings hkind⟩

/-- An assignment over two lines has no line, and the loop below it has the third. -/
theorem located_across_lines :
    let code := "x =\n1\nwhile True:"
    let issues := detect code (GivenTag.language .python).language?
    ∃ loop assigned : Issue, loop ∈ issues ∧ assigned ∈ issues ∧
      loop.line = .int 3 ∧ assigned.line = .int 0 ∧
      (∃ finding, loop = .ofFinding finding ∧ finding.Located code.toList) ∧
      ∃ finding, assigned = .ofFinding finding ∧ finding.Located code.toList := by
  intro code issues
  have hfindings : findings code.toList (GivenTag.language .python).language? =
      [.plain .infiniteLoop 3,
        { kind := .unusedVariable, line := 0
          message := "Variable 'x' is assigned but never used" }] := by decide +kernel
  have hissues : issues = [.ofFinding (.plain .infiniteLoop 3), .ofFinding
        { kind := .unusedVariable, line := 0
          message := "Variable 'x' is assigned but never used" }] := by
    dsimp only [issues]
    rw [detect, hfindings]
    rfl
  have hloop : Issue.ofFinding (.plain .infiniteLoop 3) ∈ issues :=
    hissues ▸ List.mem_cons_self
  have hassigned : Issue.ofFinding
      { kind := .unusedVariable, line := 0
        message := "Variable 'x' is assigned but never used" } ∈ issues :=
    hissues ▸ List.mem_cons_of_mem _ List.mem_cons_self
  refine ⟨_, _, hloop, hassigned, rfl, rfl, ?_, ?_⟩
  · exact (located_of_mem_detect hloop).resolve_left fun h => nomatch congrArg Issue.kind h
  · exact (located_of_mem_detect hassigned).resolve_left fun h => nomatch congrArg Issue.kind h

end SnippetCoach
