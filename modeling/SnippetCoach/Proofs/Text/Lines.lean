import SnippetCoach.Text.Lines
/-! Lines of a text: a needle without a line feed that occurs in the text occurs in one of its
lines, and the search for a line gives the first one. -/
namespace SnippetCoach.Text

variable {text needle line : List Char} {number : Nat} {has : List Char → Prop}

theorem lines_feed (rest : List Char) : lines ('\n' :: rest) = [] :: lines rest := by
  rw [lines, if_pos rfl]

theorem lines_cons {c : Char} (hc : c ≠ '\n') {rest line : List Char} {others : List (List Char)}
    (h : lines rest = line :: others) : lines (c :: rest) = (c :: line) :: others := by
  rw [lines, if_neg hc, h]

theorem lines_eq_cons (text : List Char) :
    ∃ others, lines text = text.takeWhile (· != '\n') :: others := by
  induction text with
  | nil => exact ⟨[], rfl⟩
  | cons c rest ih =>
      obtain ⟨others, hothers⟩ := ih
      by_cases hc : c = '\n'
      · subst hc
        exact ⟨lines rest, lines_feed rest⟩
      · exact ⟨others, by simp [lines_cons hc hothers, hc]⟩

theorem length_lines_le (text : List Char) : (lines text).length ≤ text.length + 1 := by
  induction text with
  | nil => exact Nat.le_refl 1
  | cons c rest ih =>
      by_cases hc : c = '\n'
      · subst hc
        rw [lines_feed, List.length_cons, List.length_cons]
        omega
      · obtain ⟨others, hothers⟩ := lines_eq_cons rest
        rw [hothers] at ih
        rw [lines_cons hc hothers]
        simp only [List.length_cons] at ih ⊢
        omega

theorem feed_notMem_of_mem_lines (h : line ∈ lines text) : '\n' ∉ line := by
  induction text generalizing line with
  | nil =>
      rw [List.mem_singleton.mp h]
      exact List.not_mem_nil
  | cons c rest ih =>
      by_cases hc : c = '\n'
      · subst hc
        rw [lines_feed] at h
        rcases List.mem_cons.mp h with rfl | hrest
        · exact List.not_mem_nil
        · exact ih hrest
      · obtain ⟨others, hothers⟩ := lines_eq_cons rest
        rw [lines_cons hc hothers] at h
        rcases List.mem_cons.mp h with rfl | hother
        · intro hfeed
          rcases List.mem_cons.mp hfeed with heq | hmem
          · exact hc heq.symm
          · exact ih (hothers ▸ List.mem_cons_self) hmem
        · exact ih (hothers ▸ List.mem_cons_of_mem _ hother)

theorem lines_eq_singleton (h : '\n' ∉ text) : lines text = [text] := by
  induction text with
  | nil => rfl
  | cons c rest ih =>
      rw [List.mem_cons, not_or] at h
      exact lines_cons (Ne.symm h.1) (ih h.2)

/-- A line feed ends the lines of what is before it. -/
theorem lines_append_feed (text rest : List Char) :
    lines (text ++ '\n' :: rest) = lines text ++ lines rest := by
  induction text with
  | nil => exact lines_feed rest
  | cons c text ih =>
      rw [List.cons_append]
      by_cases hc : c = '\n'
      · subst hc
        rw [lines_feed, lines_feed, ih, List.cons_append]
      · obtain ⟨others, hothers⟩ := lines_eq_cons text
        rw [hothers, List.cons_append] at ih
        rw [lines_cons hc ih, lines_cons hc hothers, List.cons_append]

/-- Without a line feed a needle lies within one line. -/
theorem exists_mem_lines_of_infix (hneedle : '\n' ∉ needle) (h : needle <:+: text) :
    ∃ line ∈ lines text, needle <:+: line := by
  induction text with
  | nil => exact ⟨[], List.mem_singleton.mpr rfl, h⟩
  | cons c rest ih =>
      rcases List.infix_cons_iff.mp h with ⟨after, hafter⟩ | hrest
      · obtain ⟨others, hothers⟩ := lines_eq_cons (c :: rest)
        refine ⟨_, hothers ▸ List.mem_cons_self, ?_⟩
        have hkept : ∀ d ∈ needle, (d != '\n') = true := by
          intro d hd
          exact bne_iff_ne.mpr fun hfeed => hneedle (hfeed ▸ hd)
        rw [← hafter, List.takeWhile_append_of_pos hkept]
        exact (List.prefix_append _ _).isInfix
      · obtain ⟨line, hline, hoccurs⟩ := ih hrest
        by_cases hc : c = '\n'
        · subst hc
          exact ⟨line, lines_feed rest ▸ List.mem_cons_of_mem _ hline, hoccurs⟩
        · obtain ⟨others, hothers⟩ := lines_eq_cons rest
          rw [lines_cons hc hothers]
          rw [hothers] at hline
          rcases List.mem_cons.mp hline with rfl | hother
          · exact ⟨_, List.mem_cons_self, List.infix_cons hoccurs⟩
          · exact ⟨line, List.mem_cons_of_mem _ hother, hoccurs⟩

theorem feed_of_mem_head?_dropWhile {c : Char} (h : c ∈ (text.dropWhile (· != '\n')).head?) :
    c = '\n' := by
  have hstop := List.head?_dropWhile_not (· != '\n') text
  rw [h] at hstop
  exact bne_eq_false_iff_eq.mp hstop

/-- What begins after some text and holds no line feed lies within the line whose number is that of
the line feeds before it. -/
theorem exists_line_of_cut (before rest : List Char) (hneedle : '\n' ∉ needle) :
    ∃ earlier first last later, earlier.length = before.count '\n' ∧
      lines (before ++ (needle ++ rest)) = earlier ++ (first ++ (needle ++ last)) :: later := by
  induction before with
  | nil =>
      obtain ⟨others, hothers⟩ := lines_eq_cons (needle ++ rest)
      have hkept : ∀ d ∈ needle, (d != '\n') = true :=
        fun d hd => bne_iff_ne.mpr fun hfeed => hneedle (hfeed ▸ hd)
      refine ⟨[], [], rest.takeWhile (· != '\n'), others, rfl, ?_⟩
      rw [List.nil_append, hothers, List.takeWhile_append_of_pos hkept]
      rfl
  | cons c before ih =>
      obtain ⟨earlier, first, last, later, hlength, hlines⟩ := ih
      rw [List.cons_append]
      by_cases hc : c = '\n'
      · subst hc
        refine ⟨[] :: earlier, first, last, later, ?_, ?_⟩
        · rw [List.length_cons, List.count_cons_self, hlength]
        · rw [lines_feed, hlines, List.cons_append]
      · rw [List.count_cons_of_ne hc]
        cases earlier with
        | nil => exact ⟨[], c :: first, last, later, hlength, lines_cons hc hlines⟩
        | cons head earlier => exact ⟨(c :: head) :: earlier, first, last, later, hlength,
            lines_cons hc hlines⟩

/-- A line that is not the last one ends at a line feed. -/
theorem exists_feed_of_lines {first : List Char} {others : List (List Char)}
    (h : lines text = first :: others) (hothers : others ≠ []) :
    ∃ rest, text = first ++ '\n' :: rest ∧ lines rest = others := by
  have hcut := List.takeWhile_append_dropWhile (p := (· != '\n')) (l := text)
  have hplain : '\n' ∉ text.takeWhile (· != '\n') :=
    fun hmem => nomatch List.all_eq_true.mp List.all_takeWhile _ hmem
  cases hrest : text.dropWhile (· != '\n') with
  | nil =>
      rw [hrest, List.append_nil] at hcut
      rw [← hcut, lines_eq_singleton hplain] at h
      exact absurd (List.cons.inj h).2.symm hothers
  | cons c rest =>
      have hhead : c ∈ (text.dropWhile (· != '\n')).head? := hrest ▸ rfl
      obtain rfl := feed_of_mem_head?_dropWhile hhead
      rw [hrest] at hcut
      rw [← hcut, lines_append_feed, lines_eq_singleton hplain] at h
      obtain ⟨rfl, hlines⟩ := List.cons.inj h
      exact ⟨rest, hcut.symm, hlines⟩

/-- A line begins after as many line feeds as there are lines before it, and a line feed ends it. -/
theorem exists_cut_of_lines {earlier later : List (List Char)}
    (h : lines text = earlier ++ line :: later) :
    ∃ before after, text = before ++ (line ++ after) ∧ before.count '\n' = earlier.length ∧
      (∀ c ∈ before.getLast?, c = '\n') ∧ ∀ c ∈ after.head?, c = '\n' := by
  induction earlier generalizing text with
  | nil =>
      obtain ⟨others, hothers⟩ := lines_eq_cons text
      obtain ⟨rfl, -⟩ := List.cons.inj (hothers.symm.trans h)
      refine ⟨[], text.dropWhile (· != '\n'), ?_, rfl, ?_, fun c => feed_of_mem_head?_dropWhile⟩
      · exact List.takeWhile_append_dropWhile.symm
      · exact fun c hc => absurd hc (Option.not_mem_none c)
  | cons first earlier ih =>
      obtain ⟨rest, rfl, hrest⟩ :=
        exists_feed_of_lines h (List.append_ne_nil_of_right_ne_nil _ (List.cons_ne_nil _ _))
      obtain ⟨before, after, rfl, hcount, hlast, hhead⟩ := ih hrest
      have hmem : first ∈ first :: earlier ++ line :: later := List.mem_cons_self
      have hfirst : '\n' ∉ first := feed_notMem_of_mem_lines (h.symm ▸ hmem)
      refine ⟨first ++ '\n' :: before, after, ?_, ?_, ?_, hhead⟩
      · rw [List.append_assoc, List.cons_append]
      · rw [List.count_append, List.count_eq_zero.mpr hfirst, List.count_cons_self, hcount,
          Nat.zero_add, List.length_cons]
      · intro c hc
        rw [List.getLast?_append, List.getLast?_cons] at hc
        obtain rfl := Option.some.inj hc
        cases hbefore : before.getLast? with
        | none => rfl
        | some d => exact hlast d hbefore

/-- The line with this number, counted from 1, has the property. -/
def HasLine (has : List Char → Prop) (text : List Char) (number : Nat) : Prop :=
  ∃ before line after, lines text = before ++ line :: after ∧ number = before.length + 1 ∧ has line

theorem hasLine_congr {other : List Char → Prop} (h : ∀ line ∈ lines text, has line ↔ other line) :
    HasLine has text number ↔ HasLine other text number := by
  refine exists₃_congr fun before line after => and_congr_right fun hlines => ?_
  have hmem : line ∈ lines text := hlines ▸ List.mem_append_right before List.mem_cons_self
  rw [h line hmem]

/-- The number, counted from 1, of the first line with a property. -/
def IsFirstLine (has : List Char → Prop) (text : List Char) (number : Nat) : Prop :=
  ∃ before line after, lines text = before ++ line :: after ∧ number = before.length + 1 ∧
    has line ∧ ∀ earlier ∈ before, ¬has earlier

theorem IsFirstLine.le (h : IsFirstLine has text number) : number ≤ (lines text).length := by
  obtain ⟨before, line, after, hlines, rfl, -⟩ := h
  rw [hlines, List.length_append, List.length_cons]
  omega

/-- No line with the property comes before the first one. -/
theorem IsFirstLine.le_of_hasLine (h : IsFirstLine has text number) {other : Nat}
    (hother : HasLine has text other) : number ≤ other := by
  obtain ⟨before, first, after, hfirst, rfl, -, hnone⟩ := h
  obtain ⟨earlier, line, later, hlines, rfl, hhas⟩ := hother
  rcases Nat.lt_or_ge earlier.length before.length with hlt | hle
  · have hat : before[earlier.length]? = some line := by
      calc before[earlier.length]?
          = (before ++ first :: after)[earlier.length]? := (List.getElem?_append_left hlt).symm
        _ = (earlier ++ line :: later)[earlier.length]? := by rw [← hfirst, hlines]
        _ = some line := by simp
    exact absurd hhas (hnone line (List.mem_of_getElem? hat))
  · exact Nat.succ_le_succ hle

theorem IsFirstLine.pos (h : IsFirstLine has text number) : 1 ≤ number := by
  obtain ⟨before, line, after, -, rfl, -⟩ := h
  exact Nat.le_add_left 1 _

theorem isFirstLine_firstLineWhere {test : List Char → Bool}
    (htest : ∀ line, test line = true ↔ has line) (h : ∃ line ∈ lines text, has line) :
    IsFirstLine has text (firstLineWhere test text) := by
  obtain ⟨line, hline, hhas⟩ := h
  unfold firstLineWhere
  cases hfound : (lines text).findIdx? test with
  | none =>
      have hnot := List.findIdx?_eq_none_iff.mp hfound line hline
      rw [(htest line).mpr hhas] at hnot
      exact nomatch hnot
  | some i =>
      obtain ⟨hi, hat, hearlier⟩ := List.findIdx?_eq_some_iff_getElem.mp hfound
      refine ⟨(lines text).take i, (lines text)[i], (lines text).drop (i + 1), ?_, ?_, ?_, ?_⟩
      · rw [List.getElem_cons_drop, List.take_append_drop]
      · rw [List.length_take, Nat.min_eq_left (Nat.le_of_lt hi)]
      · exact (htest _).mp hat
      · intro earlier hmem hhasEarlier
        obtain ⟨j, hj, rfl⟩ := List.mem_take_iff_getElem.mp hmem
        exact hearlier j (by omega) ((htest _).mpr hhasEarlier)

theorem firstLineWhere_le (test : List Char → Bool) (text : List Char) :
    firstLineWhere test text ≤ (lines text).length := by
  unfold firstLineWhere
  cases hfound : (lines text).findIdx? test with
  | none => exact Nat.zero_le _
  | some i =>
      obtain ⟨hi, -⟩ := List.findIdx?_eq_some_iff_getElem.mp hfound
      exact hi

theorem firstLineWhere_eq_zero {test : List Char → Bool}
    (h : ∀ line ∈ lines text, test line = false) : firstLineWhere test text = 0 := by
  rw [firstLineWhere, List.findIdx?_eq_none_iff.mpr h]

/-- No line holds what goes over the end of one. -/
theorem findLine_of_feed (h : '\n' ∈ needle) : findLine text [needle] = 0 := by
  apply firstLineWhere_eq_zero
  intro line hline
  rw [List.any_eq_false]
  intro other hother hoccurs
  obtain rfl := List.mem_singleton.mp hother
  exact feed_notMem_of_mem_lines hline ((occursIn_iff.mp hoccurs).subset h)

theorem lines_length_pos (text : List Char) : 1 ≤ (lines text).length :=
  List.length_pos_iff.mpr (lines_ne_nil text)

/-- A needle in the text is in a line, so that a search by lines succeeds. -/
theorem isFirstLine_findLine {needles : List (List Char)}
    (hhas : ∀ line, has line ↔ ∃ needle ∈ needles, needle <:+: line)
    (h : ∃ needle ∈ needles, '\n' ∉ needle ∧ needle <:+: text) :
    IsFirstLine has text (findLine text needles) := by
  apply isFirstLine_firstLineWhere
  · intro line
    rw [hhas, List.any_eq_true]
    constructor
    · rintro ⟨needle, hneedle, hoccurs⟩
      exact ⟨needle, hneedle, occursIn_iff.mp hoccurs⟩
    · rintro ⟨needle, hneedle, hoccurs⟩
      exact ⟨needle, hneedle, occursIn_iff.mpr hoccurs⟩
  · obtain ⟨needle, hneedle, hfeed, hoccurs⟩ := h
    obtain ⟨line, hline, hin⟩ := exists_mem_lines_of_infix hfeed hoccurs
    exact ⟨line, hline, (hhas line).mpr ⟨needle, hneedle, hin⟩⟩

theorem isFirstLine_findLine_one {needle : List Char} (hfeed : '\n' ∉ needle)
    (h : needle <:+: text) : IsFirstLine (needle <:+: ·) text (findLine text [needle]) := by
  apply isFirstLine_findLine
  · intro line
    simp
  · exact ⟨needle, List.mem_singleton.mpr rfl, hfeed, h⟩

theorem isFirstLine_findLine_two {needle other : List Char} (hneedle : '\n' ∉ needle)
    (hother : '\n' ∉ other) (h : needle <:+: text ∨ other <:+: text) :
    IsFirstLine (fun line => needle <:+: line ∨ other <:+: line) text
      (findLine text [needle, other]) := by
  apply isFirstLine_findLine
  · intro line
    simp
  · rcases h with hfirst | hsecond
    · exact ⟨needle, List.mem_cons_self, hneedle, hfirst⟩
    · exact ⟨other, List.mem_cons_of_mem _ List.mem_cons_self, hother, hsecond⟩

end SnippetCoach.Text
