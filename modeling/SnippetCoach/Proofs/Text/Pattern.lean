import SnippetCoach.Proofs.Text.Run
/-! Patterns with backtracking. A pattern is tried at every place from left to right; each part
takes as much as it can and gives back what the parts after it need. -/
namespace SnippetCoach.Text

/-- A part of a pattern: a character of a class, any number of them, at least one of them, and an
edge of a word, which takes nothing. -/
inductive Part where
  | one (test : Char → Bool)
  | any (test : Char → Bool)
  | many (test : Char → Bool)
  | edge

abbrev Pattern := List Part

/-- The ways to split a run of a class off a text, the longest first. -/
def runs (test : Char → Bool) : List Char → List (List Char × List Char)
  | [] => [([], [])]
  | c :: rest =>
    if test c then (runs test rest).map (Prod.map (c :: ·) id) ++ [([], c :: rest)]
    else [([], c :: rest)]

/-- The ways to split a run off that is not empty, the longest first. -/
def manyRuns (test : Char → Bool) : List Char → List (List Char × List Char)
  | [] => []
  | c :: rest => if test c then (runs test rest).map (Prod.map (c :: ·) id) else []

/-- What a part can take at the beginning of a text, with what it leaves, in the order of the
trials. An edge depends on the character before. -/
def Part.splits (before : Option Char) (text : List Char) : Part → List (List Char × List Char)
  | one test =>
    match text with
    | [] => []
    | c :: rest => if test c then [([c], rest)] else []
  | any test => runs test text
  | many test => manyRuns test text
  | edge => if before.any isWordChar != text.head?.any isWordChar then [([], text)] else []

namespace Pattern

/-- What the parts can take at the beginning of a text, with what they leave, in the order of the
trials. -/
def splits (before : Option Char) (text : List Char) :
    Pattern → List (List (List Char) × List Char)
  | [] => [([], text)]
  | part :: pattern =>
    (part.splits before text).flatMap fun first =>
      (splits (first.1.getLast?.or before) first.2 pattern).map (Prod.map (first.1 :: ·) id)

/-- What a pattern can take as a whole. -/
def spans (before : Option Char) (text : List Char) (pattern : Pattern) :
    List (List Char × List Char) :=
  (splits before text pattern).map (Prod.map List.flatten id)

/-- The matches in a text, as what each part takes. They do not overlap, and each takes at least one
character. -/
def findAll (pattern : Pattern) (before : Option Char) : List Char → List (List (List Char))
  | [] => []
  | c :: rest =>
    match (pattern.splits before (c :: rest)).head? with
    | none => findAll pattern (some c) rest
    | some taken =>
      if taken.2.length ≤ rest.length then
        taken.1 :: findAll pattern taken.1.flatten.getLast? taken.2
      else findAll pattern (some c) rest
termination_by text => text.length
decreasing_by
  · simp
  · rw [List.length_cons]
    omega
  · simp

end Pattern

section Runs

variable {β : Type} {test : Char → Bool}

/-- Where nothing goes on from within a run, only the whole run counts. -/
theorem flatMap_runs {f : List Char × List Char → List β}
    (h : ∀ taken c rest, test c = true → f (taken, c :: rest) = []) (text : List Char) :
    (runs test text).flatMap f = f (text.takeWhile test, text.dropWhile test) := by
  induction text generalizing f with
  | nil => simp [runs]
  | cons c rest ih =>
      rw [runs, List.takeWhile_cons, List.dropWhile_cons]
      cases hc : test c with
      | false => simp
      | true =>
          have hrest := ih (f := f ∘ Prod.map (c :: ·) id) fun taken d rest hd => h _ d rest hd
          simp only [if_true, List.flatMap_append, List.flatMap_map, List.flatMap_cons,
            List.flatMap_nil, h [] c rest hc, List.append_nil]
          exact hrest

theorem flatMap_manyRuns {f : List Char × List Char → List β}
    (h : ∀ taken c rest, test c = true → f (taken, c :: rest) = []) {c : Char}
    (hc : test c = true) (rest : List Char) :
    (manyRuns test (c :: rest)).flatMap f =
      f (c :: rest.takeWhile test, rest.dropWhile test) := by
  have hrest := flatMap_runs (f := f ∘ Prod.map (c :: ·) id)
    (fun taken d rest hd => h _ d rest hd) rest
  rw [manyRuns, if_pos hc, List.flatMap_map]
  exact hrest

theorem head?_runs (test : Char → Bool) (text : List Char) :
    (runs test text).head? = some (text.takeWhile test, text.dropWhile test) := by
  induction text with
  | nil => rfl
  | cons c rest ih =>
      rw [runs, List.takeWhile_cons, List.dropWhile_cons]
      cases test c with
      | false => rfl
      | true => simp [ih]

theorem head?_manyRuns (test : Char → Bool) {c : Char} (hc : test c = true) (rest : List Char) :
    (manyRuns test (c :: rest)).head? =
      some (c :: rest.takeWhile test, rest.dropWhile test) := by
  rw [manyRuns, if_pos hc, List.head?_map, head?_runs]
  rfl

end Runs

namespace Pattern

theorem spans_nil (before : Option Char) (text : List Char) :
    spans before text [] = [([], text)] := rfl

theorem spans_cons (before : Option Char) (text : List Char) (part : Part) (pattern : Pattern) :
    spans before text (part :: pattern) =
      (part.splits before text).flatMap fun first =>
        (spans (first.1.getLast?.or before) first.2 pattern).map (Prod.map (first.1 ++ ·) id) := by
  simp only [spans, splits, List.map_flatMap, List.map_map]
  rfl

variable {pattern : Pattern} {before : Option Char} {c : Char} {rest : List Char}

theorem splits_eq_nil_iff {text : List Char} :
    splits before text pattern = [] ↔ spans before text pattern = [] :=
  List.map_eq_nil_iff.symm

theorem spans_one_of_test (test : Char → Bool) (hc : test c = true) :
    spans before (c :: rest) (.one test :: pattern) =
      (spans (some c) rest pattern).map (Prod.map (c :: ·) id) := by
  rw [spans_cons, Part.splits, if_pos hc, List.flatMap_singleton]
  rfl

theorem spans_one_of_not (test : Char → Bool) (hc : test c = false) :
    spans before (c :: rest) (.one test :: pattern) = [] := by
  rw [spans_cons, Part.splits, if_neg (Bool.not_eq_true _ ▸ hc), List.flatMap_nil]

theorem spans_any {test : Char → Bool}
    (h : ∀ before c rest, test c = true → spans before (c :: rest) pattern = [])
    (text : List Char) :
    ∃ last, spans before text (.any test :: pattern) =
      (spans last (text.dropWhile test) pattern).map (Prod.map (text.takeWhile test ++ ·) id) := by
  rw [spans_cons, Part.splits, flatMap_runs]
  · exact ⟨_, rfl⟩
  · intro taken c rest hc
    rw [h _ c rest hc, List.map_nil]

theorem splits_many_of_test {test : Char → Bool}
    (h : ∀ before c rest, test c = true → spans before (c :: rest) pattern = [])
    (before : Option Char) (hc : test c = true) (rest : List Char) :
    ∃ last, splits before (c :: rest) (.many test :: pattern) =
      (splits last (rest.dropWhile test) pattern).map
        (Prod.map ((c :: rest.takeWhile test) :: ·) id) := by
  rw [splits, Part.splits, flatMap_manyRuns _ hc]
  · exact ⟨_, rfl⟩
  · intro taken d rest hd
    rw [splits_eq_nil_iff.mpr (h _ d rest hd), List.map_nil]

theorem splits_many_of_not {test : Char → Bool} (hc : test c = false) :
    splits before (c :: rest) (.many test :: pattern) = [] := by
  rw [splits, Part.splits, manyRuns, if_neg (Bool.not_eq_true _ ▸ hc), List.flatMap_nil]

theorem findAll_of_none (h : (pattern.splits before (c :: rest)).head? = none) :
    pattern.findAll before (c :: rest) = pattern.findAll (some c) rest := by
  rw [findAll, h]

theorem findAll_of_some {taken : List (List Char)} {remaining : List Char}
    (h : (pattern.splits before (c :: rest)).head? = some (taken, remaining))
    (hlength : remaining.length ≤ rest.length) :
    pattern.findAll before (c :: rest) =
      taken :: pattern.findAll taken.flatten.getLast? remaining := by
  rw [findAll, h]
  exact if_pos hlength

/-- The word itself, between edges. -/
def ofWord (word : List Char) : Pattern :=
  .edge :: (word.map (fun c => .one (c == ·)) ++ [.edge])

theorem any_isWordChar_eq_false {c : Option Char} :
    c.any isWordChar = false ↔ ∀ d ∈ c, isWordChar d = false := by
  cases c with
  | none => exact iff_of_true rfl nofun
  | some c => exact ⟨fun h d hd => Option.some.inj hd ▸ h, fun h => h c rfl⟩

section Words

variable {word text : List Char}

/-- The characters of a word are taken one by one, up to an edge. -/
theorem splits_letters (before : Option Char) (word text : List Char) :
    splits before text (word.map (fun c => .one (c == ·)) ++ [.edge]) =
      match word.isPrefixOf? text with
      | none => []
      | some rest =>
        if (word.getLast?.or before).any isWordChar != rest.head?.any isWordChar then
          [(word.map (fun c => [c]) ++ [[]], rest)]
        else [] := by
  induction word generalizing before text with
  | nil =>
      simp only [List.map_nil, List.nil_append, splits, Part.splits, List.isPrefixOf?,
        List.getLast?_nil, Option.none_or]
      split <;> rfl
  | cons c word ih =>
      cases text with
      | nil => rfl
      | cons d rest =>
          simp only [List.map_cons, List.cons_append, splits, Part.splits, List.isPrefixOf?]
          by_cases hcd : c = d
          · subst hcd
            have hlast : (c :: word).getLast?.or before =
                word.getLast?.or ([c].getLast?.or before) := by
              rw [List.getLast?_cons, List.getLast?_singleton, Option.some_or]
              cases word.getLast? <;> rfl
            simp only [BEq.rfl, if_true, List.flatMap_cons, List.flatMap_nil, List.append_nil, ih,
              hlast]
            cases word.isPrefixOf? rest with
            | none => rfl
            | some after =>
                dsimp only
                split <;> rfl
          · have hbeq : (c == d) = false := beq_eq_false_iff_ne.mpr hcd
            simp only [hbeq, Bool.false_eq_true, if_false, List.flatMap_nil]

theorem splits_ofWord (before : Option Char) (word text : List Char) :
    splits before text (ofWord word) =
      if before.any isWordChar != text.head?.any isWordChar then
        (splits before text (word.map (fun c => .one (c == ·)) ++ [.edge])).map
          (Prod.map ([] :: ·) id)
      else [] := by
  rw [ofWord, splits, Part.splits]
  split
  · simp only [List.flatMap_cons, List.flatMap_nil, List.append_nil, List.getLast?_nil,
      Option.none_or]
  · rfl

/-- A word begins at an edge only. -/
theorem splits_ofWord_of_same (h : before.any isWordChar = text.head?.any isWordChar)
    (word : List Char) : splits before text (ofWord word) = [] := by
  rw [splits_ofWord, h, bne_self_eq_false, if_neg Bool.false_ne_true]

/-- Within a run there is no edge. -/
theorem findAll_ofWord_skip (before : Option Char) (hbefore : before.any isWordChar = true)
    (word text : List Char) :
    ∃ last, findAll (ofWord word) before text =
      findAll (ofWord word) last (text.dropWhile isWordChar) := by
  induction text generalizing before with
  | nil => exact ⟨before, rfl⟩
  | cons c rest ih =>
      rw [List.dropWhile_cons]
      cases hc : isWordChar c with
      | false => exact ⟨before, rfl⟩
      | true =>
          have hnone : (splits before (c :: rest) (ofWord word)).head? = none := by
            have hsame : before.any isWordChar = (c :: rest).head?.any isWordChar :=
              hbefore.trans hc.symm
            rw [splits_ofWord_of_same hsame]
            rfl
          rw [findAll_of_none hnone]
          exact ih (some c) hc

variable (hne : word ≠ []) (hword : ∀ c ∈ word, isWordChar c = true)
include hne hword

theorem splits_ofWord_of_other (before : Option Char) (h : text.head?.any isWordChar = false) :
    splits before text (ofWord word) = [] := by
  have hnone : word.isPrefixOf? text = none := by
    cases word with
    | nil => exact absurd rfl hne
    | cons c word =>
        cases text with
        | nil => rfl
        | cons d rest =>
            have hc := hword c List.mem_cons_self
            have hcd : (c == d) = false := by
              refine beq_eq_false_iff_ne.mpr ?_
              rintro rfl
              cases hc.symm.trans h
            rw [List.isPrefixOf?, hcd]
            rfl
  rw [splits_ofWord, splits_letters, hnone, List.map_nil, ite_self]

/-- At an edge a word is found if the run that begins there is the word. -/
theorem splits_ofWord_of_run {run after : List Char} (hrunne : run ≠ [])
    (hrun : ∀ c ∈ run, isWordChar c = true) (hafter : ∀ c ∈ after.head?, isWordChar c = false)
    (hbefore : before.any isWordChar = false) :
    splits before (run ++ after) (ofWord word) =
      if run = word then [([] :: (word.map (fun c => [c]) ++ [[]]), after)] else [] := by
  have hlast : (word.getLast?.or before).any isWordChar = true := by
    rw [List.getLast?_eq_some_getLast hne, Option.some_or, Option.any_some]
    exact hword _ (List.getLast_mem hne)
  have hhead : (run ++ after).head?.any isWordChar = true := by
    cases run with
    | nil => exact absurd rfl hrunne
    | cons c run => exact hrun c List.mem_cons_self
  rw [splits_ofWord, splits_letters, hbefore, hhead, hlast]
  by_cases hsame : run = word
  · subst hsame
    have hbegins : run.isPrefixOf? (run ++ after) = some after :=
      List.isPrefixOf?_eq_some_iff_append_eq.mpr rfl
    have hclosed : after.head?.any isWordChar = false := any_isWordChar_eq_false.mpr hafter
    simp only [hbegins, hclosed, if_true]
    rfl
  · cases hbegins : word.isPrefixOf? (run ++ after) with
    | none =>
        rw [if_neg hsame]
        rfl
    | some rest =>
        have hsplit := List.isPrefixOf?_eq_some_iff_append_eq.mp hbegins
        have hinside : rest.head?.any isWordChar = true := by
          by_contra hclosed
          have hrest := any_isWordChar_eq_false.mp (Bool.not_eq_true _ ▸ hclosed)
          have hcut := (cut_of_all hword hrest).1
          rw [hsplit, (cut_of_all hrun hafter).1] at hcut
          exact hsame hcut
        simp only [hinside, if_neg hsame]
        rfl

/-- The pattern of a word has as many matches as the word has places. -/
theorem length_findAll_ofWord {before : Option Char} {text : List Char}
    (h : before.any isWordChar = false ∨ text.head?.any isWordChar = false) :
    (findAll (ofWord word) before text).length = countWord word text := by
  have hclosed (rest : List Char) : (rest.dropWhile isWordChar).head?.any isWordChar = false :=
    any_isWordChar_eq_false.mpr fun c hc => not_of_mem_head?_dropWhile hc
  unfold countWord
  fun_induction words text generalizing before with
  | case1 =>
      rw [findAll]
      rfl
  | case2 c rest hc ih =>
      have hbefore : before.any isWordChar = false := by
        rcases h with hbefore | hhead
        · exact hbefore
        · cases hc.symm.trans hhead
      have hrun : ∀ d ∈ c :: rest.takeWhile isWordChar, isWordChar d = true :=
        List.forall_mem_cons.mpr ⟨hc, List.all_eq_true.mp List.all_takeWhile⟩
      have hsplits := splits_ofWord_of_run hne hword (List.cons_ne_nil _ _) hrun
        (any_isWordChar_eq_false.mp (hclosed rest)) hbefore
      rw [List.cons_append, List.takeWhile_append_dropWhile] at hsplits
      rw [List.count_cons]
      by_cases hsame : c :: rest.takeWhile isWordChar = word
      · rw [if_pos hsame] at hsplits
        have hlength := (List.dropWhile_suffix (l := rest) isWordChar).length_le
        rw [findAll_of_some (congrArg List.head? hsplits) hlength, List.length_cons,
          ih (.inr (hclosed rest)), if_pos (beq_iff_eq.mpr hsame)]
      · rw [if_neg hsame] at hsplits
        rw [findAll_of_none (congrArg List.head? hsplits), if_neg (mt beq_iff_eq.mp hsame)]
        obtain ⟨last, hskip⟩ := findAll_ofWord_skip (some c) hc word rest
        rw [hskip, ih (.inr (hclosed rest)), Nat.add_zero]
  | case3 c rest hc ih =>
      have hother : (c :: rest).head?.any isWordChar = false := (Bool.not_eq_true _).mp hc
      have hnone := congrArg List.head? (splits_ofWord_of_other hne hword before hother)
      rw [findAll_of_none hnone]
      exact ih (.inl hother)

end Words

end Pattern
end SnippetCoach.Text
