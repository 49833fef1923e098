import SnippetCoach.Proofs.Text.LineFeed
import SnippetCoach.Rule.Assignment
/-! The scan for assignments: what it finds stands in the text, and a line feed at the end changes
nothing. -/
namespace SnippetCoach.Assignment
open Text

variable {c : Char} {rest matched remaining : List Char}

theorem scan_of_assignment (hc : isWordChar c = true)
    (h : splitAfterName? (rest.dropWhile isWordChar) = some (matched, remaining)) :
    scan (c :: rest) =
      { name := c :: rest.takeWhile isWordChar
        text := c :: rest.takeWhile isWordChar ++ matched } :: scan remaining := by
  rw [scan, if_pos hc]
  dsimp only
  split
  · rename_i heq
    obtain ⟨rfl, rfl⟩ := Prod.mk.inj (Option.some.inj (h.symm.trans heq))
    rfl
  · rename_i heq
    cases h.symm.trans heq

theorem scan_of_name (hc : isWordChar c = true)
    (h : splitAfterName? (rest.dropWhile isWordChar) = none) :
    scan (c :: rest) = scan (rest.dropWhile isWordChar) := by
  rw [scan, if_pos hc]
  dsimp only
  split
  · rename_i heq
    cases h.symm.trans heq
  · rfl

theorem scan_of_other (hc : ¬isWordChar c = true) : scan (c :: rest) = scan rest := by
  rw [scan, if_neg hc]

theorem splitValue?_concat (afterSign : List Char) :
    splitValue? (afterSign ++ ['\n']) =
      (splitValue? afterSign).map fun parts => (parts.1, parts.2 ++ ['\n']) := by
  unfold splitValue?
  by_cases hvalue : afterSign.dropWhile isAsciiSpace = []
  · have hgap : afterSign.takeWhile isAsciiSpace = afterSign := by
      have hcut := List.takeWhile_append_dropWhile (p := isAsciiSpace) (l := afterSign)
      rwa [hvalue, List.append_nil] at hcut
    have hvalueFeed : (afterSign ++ ['\n']).dropWhile isAsciiSpace = [] := by
      rw [List.dropWhile_append, hvalue]
      rfl
    have hgapFeed : (afterSign ++ ['\n']).takeWhile isAsciiSpace = afterSign ++ ['\n'] := by
      have hcut := List.takeWhile_append_dropWhile (p := isAsciiSpace) (l := afterSign ++ ['\n'])
      rwa [hvalueFeed, List.append_nil] at hcut
    have hkept : (afterSign ++ ['\n']).reverse.dropWhile (· == '\n') =
        afterSign.reverse.dropWhile (· == '\n') := by
      rw [List.reverse_append]
      rfl
    simp only [hvalue, hgap, hvalueFeed, hgapFeed, hkept, List.isEmpty_nil, if_true]
    split
    · rfl
    · have hlength := (List.dropWhile_suffix (l := afterSign.reverse) (· == '\n')).length_le
      rw [List.length_reverse, ← List.length_reverse] at hlength
      rw [List.drop_append_of_le_length hlength]
      rfl
  · obtain ⟨hgap, hrest⟩ := cut_concat hvalue '\n'
    have hsome : (afterSign.dropWhile isAsciiSpace).isEmpty = false :=
      List.isEmpty_eq_false_iff.mpr hvalue
    have hsomeFeed : (afterSign.dropWhile isAsciiSpace ++ ['\n']).isEmpty = false :=
      List.isEmpty_eq_false_iff.mpr (List.append_ne_nil_of_right_ne_nil _ (List.cons_ne_nil _ _))
    have hfeed : ('\n' != '\n') = false := rfl
    simp only [hgap, hrest, hsome, hsomeFeed, Bool.false_eq_true, if_false, Option.map_some,
      takeWhile_concat (p := (· != '\n')) hfeed, dropWhile_concat (p := (· != '\n')) hfeed]

theorem splitAfterName?_concat (afterName : List Char) :
    splitAfterName? (afterName ++ ['\n']) =
      (splitAfterName? afterName).map fun parts => (parts.1, parts.2 ++ ['\n']) := by
  unfold splitAfterName?
  by_cases hsign : afterName.dropWhile isAsciiSpace = []
  · have hsignFeed : (afterName ++ ['\n']).dropWhile isAsciiSpace = [] := by
      rw [List.dropWhile_append, hsign]
      rfl
    rw [hsign, hsignFeed]
    rfl
  · obtain ⟨hgap, hrest⟩ := cut_concat hsign '\n'
    rw [hgap, hrest]
    cases afterName.dropWhile isAsciiSpace with
    | nil => rfl
    | cons c afterSign =>
        by_cases hc : c = '='
        · subst hc
          simp only [List.cons_append, splitValue?_concat, Option.map_map]
          rfl
        · simp [hc]

theorem scan_concat (text : List Char) : scan (text ++ ['\n']) = scan text := by
  fun_induction scan text with
  | case1 =>
      have hfeed : ¬isWordChar '\n' = true := by decide
      rw [List.nil_append, scan_of_other hfeed, scan]
  | case2 c rest hc name matched remaining hsplit ih =>
      have hfeed := splitAfterName?_concat (rest.dropWhile isWordChar)
      rw [hsplit, Option.map_some, ← dropWhile_concat not_isWordChar_feed] at hfeed
      rw [List.cons_append, scan_of_assignment hc hfeed, takeWhile_concat not_isWordChar_feed, ih]
  | case3 c rest hc hsplit ih =>
      have hfeed := splitAfterName?_concat (rest.dropWhile isWordChar)
      rw [hsplit, Option.map_none, ← dropWhile_concat not_isWordChar_feed] at hfeed
      rw [List.cons_append, scan_of_name hc hfeed, dropWhile_concat not_isWordChar_feed, ih]
  | case4 c rest hc ih => rw [List.cons_append, scan_of_other hc, ih]

theorem text_ne_nil {assignment : Assignment} {text : List Char} (h : assignment ∈ scan text) :
    assignment.text ≠ [] := by
  fun_induction scan text with
  | case1 => exact absurd h List.not_mem_nil
  | case2 c rest hc name matched remaining hsplit ih =>
      rcases List.mem_cons.mp h with rfl | hmem
      · exact List.cons_ne_nil _ _
      · exact ih hmem
  | case3 c rest hc hsplit ih => exact ih h
  | case4 c rest hc ih => exact ih h

theorem infix_of_mem_scan {assignment : Assignment} {text : List Char}
    (h : assignment ∈ scan text) : assignment.text <:+: text := by
  fun_induction scan text with
  | case1 => exact absurd h List.not_mem_nil
  | case2 c rest hc name matched remaining hsplit ih =>
      have hwhole : name ++ matched ++ remaining = c :: rest := by
        rw [List.append_assoc, splitAfterName?_append hsplit, List.cons_append,
          List.takeWhile_append_dropWhile]
      rw [← hwhole]
      rcases List.mem_cons.mp h with rfl | hmem
      · exact (List.prefix_append _ _).isInfix
      · exact (ih hmem).trans (List.suffix_append _ _).isInfix
  | case3 c rest hc hsplit ih =>
      exact List.infix_cons ((ih h).trans (List.dropWhile_suffix _).isInfix)
  | case4 c rest hc ih => exact List.infix_cons (ih h)

theorem drop_kept {α : Type} (p : α → Bool) (l : List α) :
    l.drop (l.reverse.dropWhile p).reverse.length = (l.reverse.takeWhile p).reverse := by
  have hcut := congrArg List.reverse (List.takeWhile_append_dropWhile (p := p) (l := l.reverse))
  rw [List.reverse_append, List.reverse_reverse] at hcut
  calc l.drop (l.reverse.dropWhile p).reverse.length
      = ((l.reverse.dropWhile p).reverse ++ (l.reverse.takeWhile p).reverse).drop
          (l.reverse.dropWhile p).reverse.length := by rw [hcut]
    _ = (l.reverse.takeWhile p).reverse := List.drop_left

/-- A value ends with its line. -/
theorem head?_of_splitValue? {afterSign value remaining : List Char}
    (h : splitValue? afterSign = some (value, remaining)) :
    ∀ c ∈ remaining.head?, c = '\n' := by
  intro c hc
  simp only [splitValue?] at h
  split at h
  · split at h
    · cases h
    · obtain ⟨-, rfl⟩ := Prod.mk.inj (Option.some.inj h)
      rw [drop_kept] at hc
      have hmem := List.mem_reverse.mp (List.mem_of_mem_head? hc)
      exact eq_of_beq (List.all_eq_true.mp List.all_takeWhile c hmem)
  · obtain ⟨-, rfl⟩ := Prod.mk.inj (Option.some.inj h)
    have hstop := List.head?_dropWhile_not (· != '\n') (afterSign.dropWhile isAsciiSpace)
    rw [hc] at hstop
    simpa using hstop

theorem head?_of_splitAfterName? {afterName : List Char}
    (h : splitAfterName? afterName = some (matched, remaining)) :
    ∀ c ∈ remaining.head?, c = '\n' := by
  simp only [splitAfterName?] at h
  split at h
  · obtain ⟨parts, hparts, hpair⟩ := Option.map_eq_some_iff.mp h
    obtain ⟨-, rfl⟩ := Prod.mk.inj hpair
    exact head?_of_splitValue? hparts
  · cases h

/-- The scan passes over the words inside values only. -/
theorem names_sublist_words (text : List Char) :
    ((scan text).map name).Sublist (words text) := by
  fun_induction scan text with
  | case1 => exact List.nil_sublist _
  | case2 c rest hc word matched remaining hsplit ih =>
      have hstop : ∀ c ∈ remaining.head?, isWordChar c = false := by
        intro c hc
        rw [head?_of_splitAfterName? hsplit c hc]
        exact not_isWordChar_feed
      rw [words, if_pos hc, ← splitAfterName?_append hsplit, words_append hstop, List.map_cons]
      exact (ih.trans (List.sublist_append_right _ _)).cons_cons _
  | case3 c rest hc hsplit ih =>
      rw [words, if_pos hc]
      exact ih.cons _
  | case4 c rest hc ih =>
      rw [words, if_neg hc]
      exact ih

theorem eq_of_count_map_le_one {α β : Type} [BEq β] [LawfulBEq β] {f : α → β} {l : List α} {a b : α}
    (h : (l.map f).count (f a) ≤ 1) (ha : a ∈ l) (hb : b ∈ l) (hsame : f b = f a) : b = a := by
  induction l with
  | nil => exact absurd ha List.not_mem_nil
  | cons x l ih =>
      rw [List.map_cons, List.count_cons] at h
      have hpos {y : α} (hy : y ∈ l) (hfy : f y = f a) : 0 < (l.map f).count (f a) :=
        List.count_pos_iff.mpr (hfy ▸ List.mem_map_of_mem hy)
      rcases List.mem_cons.mp ha with rfl | hal <;> rcases List.mem_cons.mp hb with rfl | hbl
      · rfl
      · have := hpos hbl hsame
        rw [if_pos BEq.rfl] at h
        omega
      · have := hpos hal rfl
        rw [if_pos (beq_iff_eq.mpr hsame)] at h
        omega
      · exact ih (by omega) hal hbl

/-- A name that occurs once is assigned at one place. -/
theorem eq_of_name_eq {assignment other : Assignment} {text : List Char}
    (honce : countWord assignment.name text = 1) (h : assignment ∈ scan text)
    (hother : other ∈ scan text) (hsame : other.name = assignment.name) : other = assignment := by
  have hcount := (names_sublist_words text).count_le assignment.name
  rw [← countWord, honce] at hcount
  exact eq_of_count_map_le_one hcount h hother hsame

end SnippetCoach.Assignment
