import SnippetCoach.Proofs.Rule.Battery
import SnippetCoach.Proofs.Text.Lines
import SnippetCoach.Proofs.Text.Trim
/-! The rule on indentation: what it takes for a line to be reported, and that the first such line
is. -/
namespace SnippetCoach.Rule
open Text

variable {code above line : List Char} {rest : List (List Char)} {place number : Nat}

/-- The line stands below one that ends in a colon and is not indented. Blank lines, definitions and
comments need not be. -/
structure Unindented (above line : List Char) : Prop where
  filled : ∃ c ∈ line, isBlank c = false
  flush : ∀ start ∈ [" ", "def", "#"], ¬start.toList <+: line
  below : ∃ inner, Trimmed above inner ∧ inner.getLast? = some ':'

theorem startsStatement_iff :
    startsStatement line = true ↔
      (∃ c ∈ line, isBlank c = false) ∧ ∀ start ∈ [" ", "def", "#"], ¬start.toList <+: line := by
  rw [startsStatement, Bool.and_eq_true, Bool.not_eq_true', Bool.not_eq_true', allBlank,
    List.all_eq_false, List.any_eq_false]
  simp only [Bool.not_eq_true, List.isPrefixOf_iff_prefix]

theorem endsInColon_iff :
    endsInColon above = true ↔ ∃ inner, Trimmed above inner ∧ inner.getLast? = some ':' := by
  simp only [endsInColon, beq_iff_eq, trimmed_iff, exists_eq_left]

theorem unindented_iff :
    (startsStatement line && endsInColon above) = true ↔ Unindented above line := by
  rw [Bool.and_eq_true, startsStatement_iff, endsInColon_iff]
  constructor
  · rintro ⟨⟨hfilled, hflush⟩, hbelow⟩
    exact ⟨hfilled, hflush, hbelow⟩
  · rintro ⟨hfilled, hflush, hbelow⟩
    exact ⟨⟨hfilled, hflush⟩, hbelow⟩

/-- The line after this place, counted from 0, is unindented below the line there. -/
def UnindentedAfter (lines : List (List Char)) (place : Nat) : Prop :=
  ∃ above line, lines[place]? = some above ∧ lines[place + 1]? = some line ∧ Unindented above line

theorem unindentedAfter_zero :
    UnindentedAfter (above :: line :: rest) 0 ↔ Unindented above line := by
  simp [UnindentedAfter]

theorem not_unindentedAfter_singleton : ¬UnindentedAfter [above] place := by
  rintro ⟨_, line, -, hline, -⟩
  exact nomatch hline

/-- The scan stops at the first line that is unindented. -/
theorem unindentedLine?_eq_some {found : Nat} (h : unindentedLine? number above rest = some found) :
    ∃ place, found = number + place ∧ UnindentedAfter (above :: rest) place ∧
      ∀ earlier < place, ¬UnindentedAfter (above :: rest) earlier := by
  induction rest generalizing number above with
  | nil => exact nomatch h
  | cons line rest ih =>
      rw [unindentedLine?] at h
      split at h
      · rename_i hreported
        obtain rfl := Option.some.inj h
        exact ⟨0, rfl, unindentedAfter_zero.mpr (unindented_iff.mp hreported), nofun⟩
      · rename_i hpassed
        obtain ⟨place, rfl, hat, hfirst⟩ := ih h
        refine ⟨place + 1, Nat.add_right_comm number 1 place, hat, ?_⟩
        intro earlier hearlier
        cases earlier with
        | zero => exact fun hzero => hpassed (unindented_iff.mpr (unindentedAfter_zero.mp hzero))
        | succ earlier => exact hfirst earlier (Nat.lt_of_succ_lt_succ hearlier)

/-- The scan passes no line that is unindented. -/
theorem unindentedLine?_eq_none (h : unindentedLine? number above rest = none) (place : Nat) :
    ¬UnindentedAfter (above :: rest) place := by
  induction rest generalizing number above place with
  | nil => exact not_unindentedAfter_singleton
  | cons line rest ih =>
      rw [unindentedLine?] at h
      split at h
      · exact nomatch h
      · rename_i hpassed
        cases place with
        | zero => exact fun hzero => hpassed (unindented_iff.mpr (unindentedAfter_zero.mp hzero))
        | succ place => exact ih h place

/-- A definition has a blank, so that white space follows a first token whatever it is. -/
theorem opensWithToken_iff (h : "def ".toList <:+: code) :
    opensWithToken code = true ↔ ∃ c, code.head? = some c ∧ isBlank c = false := by
  have hspace : ' ' ∈ code := h.subset (by decide)
  have hafter : code.dropWhile (fun c => !isBlank c) ≠ [] := by
    rw [ne_eq, List.dropWhile_eq_nil_iff]
    exact fun hall => absurd (hall ' ' hspace) (by decide)
  rw [opensWithToken, List.isEmpty_eq_false_iff.mpr hafter, Bool.not_false, Bool.and_true]
  cases code with
  | nil => exact absurd hspace List.not_mem_nil
  | cons c code =>
      rw [List.takeWhile_cons]
      cases hblank : isBlank c <;> simp [hblank]

/-- What the rule asks of code: a definition, no white space in front, and an unindented line. -/
def AsksIndentation (code : List Char) : Prop :=
  "def ".toList <:+: code ∧ (∃ c, code.head? = some c ∧ isBlank c = false) ∧
    ∃ place, UnindentedAfter (lines code) place

/-- Either the rule has nothing to report, or it reports the first unindented line. -/
theorem indentation_cases (code : List Char) :
    (indentation code = [] ∧ ¬AsksIndentation code) ∨
      AsksIndentation code ∧ ∃ place, indentation code = [.plain .indentation (place + 2)] ∧
        UnindentedAfter (lines code) place ∧
          ∀ earlier < place, ¬UnindentedAfter (lines code) earlier := by
  by_cases hasks : opensWithToken code = true ∧ mentions code "def " = true
  · obtain ⟨hopens, hmentions⟩ := hasks
    have hdef : "def ".toList <:+: code := occursIn_iff.mp hmentions
    obtain ⟨rest, hlines⟩ := lines_eq_cons code
    have hfindings : indentation code =
        ((unindentedLine? 2 (code.takeWhile (· != '\n')) rest).map
          (Finding.plain .indentation)).toList := by
      rw [indentation, hopens, hmentions, hlines]
      rfl
    cases hfound : unindentedLine? 2 (code.takeWhile (· != '\n')) rest with
    | none =>
        have hnone := unindentedLine?_eq_none hfound
        rw [← hlines] at hnone
        refine .inl ⟨by rw [hfindings, hfound]; rfl, ?_⟩
        rintro ⟨-, -, place, hat⟩
        exact hnone place hat
    | some found =>
        obtain ⟨place, rfl, hfirst⟩ := unindentedLine?_eq_some hfound
        rw [← hlines] at hfirst
        have hasked : AsksIndentation code :=
          ⟨hdef, (opensWithToken_iff hdef).mp hopens, place, hfirst.1⟩
        refine .inr ⟨hasked, place, ?_, hfirst⟩
        rw [hfindings, hfound, Nat.add_comm]
        rfl
  · refine .inl ⟨if_neg fun h => hasks (Bool.and_eq_true_iff.mp h), ?_⟩
    rintro ⟨hdef, hhead, -⟩
    exact hasks ⟨(opensWithToken_iff hdef).mpr hhead, occursIn_iff.mpr hdef⟩

/-- The rule has one finding or none. It has one if the code has a definition, begins with no white
space, and has a line that is unindented; the first of these lines is reported, counted from 1. -/
theorem indentation_exact (code : List Char) :
    (indentation code).length ≤ 1 ∧ (indentation code ≠ [] ↔ AsksIndentation code) ∧
      ∀ finding ∈ indentation code, ∃ place, finding = .plain .indentation (place + 2) ∧
        UnindentedAfter (lines code) place ∧
          ∀ earlier < place, ¬UnindentedAfter (lines code) earlier := by
  refine ⟨RuleKind.length_indentation_le_one code, ?_⟩
  rcases indentation_cases code with ⟨hnone, hnot⟩ | ⟨hasks, place, hone, hfirst⟩
  · rw [hnone]
    exact ⟨iff_of_false (fun h => h rfl) hnot, List.forall_mem_nil _⟩
  · rw [hone]
    exact ⟨iff_of_true (List.cons_ne_nil _ _) hasks,
      List.forall_mem_singleton.mpr ⟨place, rfl, hfirst⟩⟩

-- A comment is no statement, and what is below it is not below the colon.
example : indentation "def f():\n# later\nx = 1\nif x:\nprint(x)".toList =
    [.plain .indentation 5] := by
  decide +kernel

end SnippetCoach.Rule
