import SnippetCoach.Proofs.Rule.AssignmentPattern
import SnippetCoach.Rule.Variable
/-! The rule on unused variables. It is what the patterns say, and what a scan says that knows only
of words, white space and lines. -/
namespace SnippetCoach.Rule
open Text Assignment

/-- The rule with patterns: a match of an assignment counts if its name is matched once in the whole
text. -/
def unusedVariableByPattern (code : List Char) : List Finding :=
  (((pattern.findAll none code).map ofParts).filter fun found =>
      found.name != ['_'] && ((Pattern.ofWord found.name).findAll none code).length == 1).map
    fun found =>
      { kind := .unusedVariable
        line := findLine code [found.text]
        message := RuleKind.message .unusedVariable (String.ofList found.name) }

theorem unusedVariableByPattern_eq (code : List Char) :
    unusedVariableByPattern code = unusedVariable code := by
  rw [unusedVariableByPattern, unusedVariable, unusedAssignments, findAll_pattern]
  congr 1
  refine List.filter_congr fun found hfound => ?_
  have hmem : found.name ∈ words code :=
    (names_sublist_words code).subset (List.mem_map_of_mem hfound)
  obtain ⟨hne, hword⟩ := isWord_of_mem_words hmem
  rw [isUnused, Pattern.length_findAll_ofWord hne hword (.inl rfl)]

/-- An assignment is reported if it is the one place of its name. -/
def Reported {code : List Char} (found : Match code) : Prop :=
  found.run.word ≠ ['_'] ∧ OccursOnce found.run.word code

instance {code : List Char} (found : Match code) : Decidable (Reported found) :=
  inferInstanceAs (Decidable (_ ∧ _))

/-- The finding for a match. Its line is the first that holds the text of the match. -/
def findingOf {code : List Char} (found : Match code) : Finding :=
  { kind := .unusedVariable
    line := findLine code [found.assignment.text]
    message := RuleKind.message .unusedVariable (String.ofList found.run.word) }

theorem isUnused_iff {code : List Char} {found : Match code} :
    isUnused code found.run.word = true ↔ Reported found := by
  rw [isUnused, Reported, occursOnce_iff, Bool.and_eq_true, bne_iff_ne, beq_iff_eq]

theorem unusedVariable_of_map_eq {code : List Char} {hits : List (Match code)}
    (h : hits.map Match.assignment = scan code) :
    unusedVariable code = (hits.filter fun found => Reported found).map findingOf := by
  have hreported : ((fun found : Assignment => isUnused code found.name) ∘ Match.assignment) =
      fun found : Match code => decide (Reported found) := by
    funext found
    exact Bool.eq_iff_iff.mpr (isUnused_iff.trans decide_eq_true_iff.symm)
  rw [unusedVariable, unusedAssignments, ← h, List.filter_map, hreported, List.map_map]
  rfl

/-- Two matches of one name would be two places of it. -/
theorem nodup_reported {code text : List Char} {hits : List (Match code)}
    (h : Scanned code text hits) :
    ((hits.filter fun found => Reported found).map fun found => found.run.word).Nodup := by
  refine List.pairwise_map.mpr ?_
  refine (h.pairwise_endLine.filter _).imp_of_mem ?_
  intro found other hfound hother hline hword
  obtain ⟨-, run, -, hunique⟩ := of_decide_eq_true (List.mem_filter.mp hother).2
  have hsame : found = other :=
    Match.eq_of_run_eq ((hunique found.run hword).trans (hunique other.run rfl).symm)
  exact Nat.lt_irrefl _ (hsame ▸ hline)

/-- The rule is the one with patterns, and reports what a scan without patterns comes upon: the
words that are assigned, if they occur once. No name is reported twice, and no two matches end on
one line. -/
theorem unusedVariable_exact (code : List Char) :
    unusedVariable code = unusedVariableByPattern code ∧
    ∃ hits : List (Match code), Scanned code code hits ∧
      (∀ others, Scanned code code others → others = hits) ∧
      unusedVariable code = (hits.filter fun found => Reported found).map findingOf ∧
      ((hits.filter fun found => Reported found).map fun found => found.run.word).Nodup ∧
      hits.Pairwise fun found other => found.endLine < other.endLine := by
  obtain ⟨hits, hscanned, hmap⟩ := exists_scanned (List.nil_append code) nofun
  refine ⟨(unusedVariableByPattern_eq code).symm, hits, hscanned,
    fun others hothers => hothers.unique hscanned, unusedVariable_of_map_eq hmap,
    nodup_reported hscanned, hscanned.pairwise_endLine⟩

end SnippetCoach.Rule
