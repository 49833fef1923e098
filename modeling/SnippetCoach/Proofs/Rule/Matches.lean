import SnippetCoach.Proofs.Rule.Assignment
import SnippetCoach.Proofs.Text.Run
/-! Assignments by their places, without a pattern: which words are assigned, how far their values
go, and which of them a scan from left to right comes upon. -/
namespace SnippetCoach.Assignment
open Text

/-- A value with what follows it. It goes on to the end of the line that its white space leads to
or, where only white space is left, to the last character that is no line feed. -/
inductive ValueEnds : List Char → List Char → Prop where
  | line {white line rest : List Char} (isWhite : ∀ c ∈ white, isAsciiSpace c = true)
      (ne_nil : line ≠ []) (starts : ∀ c ∈ line.head?, isAsciiSpace c = false)
      (isLine : '\n' ∉ line) (stops : ∀ c ∈ rest.head?, c = '\n') : ValueEnds (white ++ line) rest
  | blank {white rest : List Char} {last : Char} (isWhite : ∀ c ∈ white, isAsciiSpace c = true)
      (lastWhite : isAsciiSpace last = true) (lastKept : last ≠ '\n')
      (feeds : ∀ c ∈ rest, c = '\n') : ValueEnds (white ++ [last]) rest

/-- White space, an equals sign and, somewhere later, a character that is no line feed. -/
def Assigns (afterName : List Char) : Prop :=
  ∃ space afterSign, afterName = space ++ '=' :: afterSign ∧
    (∀ c ∈ space, isAsciiSpace c = true) ∧ ∃ c ∈ afterSign, c ≠ '\n'

/-- A word that is assigned, with what is between it and the end of the value. -/
@[ext]
structure Match (code : List Char) where
  run : Run code
  space : List Char
  value : List Char
  rest : List Char
  after_eq : run.after = space ++ '=' :: (value ++ rest)
  isSpace : ∀ c ∈ space, isAsciiSpace c = true
  ends : ValueEnds value rest

/-- The scan of the end of a text: the next word that is assigned, and then the scan from the end of
its value on. -/
inductive Scanned (code : List Char) : List Char → List (Match code) → Prop where
  | done {text : List Char} (none : ∀ run : Run code, run.onward <:+ text → ¬Assigns run.after) :
      Scanned code text []
  | next {text : List Char} {others : List (Match code)} (found : Match code)
      (within : found.run.onward <:+ text)
      (first : ∀ run : Run code, run.onward <:+ text → Assigns run.after →
        run.onward <:+ found.run.onward)
      (later : Scanned code found.rest others) : Scanned code text (found :: others)

section Values

variable {afterSign value rest : List Char}

theorem splitValue?_of_blank (h : ∀ c ∈ afterSign, isAsciiSpace c = true) :
    splitValue? afterSign =
      if (afterSign.reverse.dropWhile (· == '\n')).reverse.isEmpty then none
      else some ((afterSign.reverse.dropWhile (· == '\n')).reverse,
        afterSign.drop (afterSign.reverse.dropWhile (· == '\n')).reverse.length) := by
  have htake := List.takeWhile_eq_self_iff.mpr h
  have hdrop := List.dropWhile_eq_nil_iff.mpr h
  simp only [splitValue?, htake, hdrop, List.isEmpty_nil, if_true]

theorem splitValue?_of_value (h : afterSign.dropWhile isAsciiSpace ≠ []) :
    splitValue? afterSign = some (afterSign.takeWhile isAsciiSpace ++
        (afterSign.dropWhile isAsciiSpace).takeWhile (· != '\n'),
      (afterSign.dropWhile isAsciiSpace).dropWhile (· != '\n')) := by
  have hvalue : (afterSign.dropWhile isAsciiSpace).isEmpty = false :=
    List.isEmpty_eq_false_iff.mpr h
  simp only [splitValue?, hvalue, Bool.false_eq_true, if_false]

theorem splitValue?_of_ends (h : ValueEnds value rest) :
    splitValue? (value ++ rest) = some (value, rest) := by
  cases h with
  | @line white line rest hwhite hne hstarts hline hstops =>
      have hhead : ∀ c ∈ (line ++ rest).head?, isAsciiSpace c = false := by
        rw [List.head?_append_of_ne_nil _ hne]
        exact hstarts
      obtain ⟨hgap, hvalue⟩ := cut_of_all hwhite hhead
      have hkept : ∀ c ∈ line, (c != '\n') = true :=
        fun c hc => bne_iff_ne.mpr fun hfeed => hline (hfeed ▸ hc)
      have hfeed : ∀ c ∈ rest.head?, (c != '\n') = false :=
        fun c hc => bne_eq_false_iff_eq.mpr (hstops c hc)
      obtain ⟨htake, hdrop⟩ := cut_of_all hkept hfeed
      have hsome : (line ++ rest).isEmpty = false :=
        List.isEmpty_eq_false_iff.mpr (List.append_ne_nil_of_left_ne_nil hne _)
      rw [List.append_assoc, splitValue?]
      simp only [hgap, hvalue, hsome, Bool.false_eq_true, if_false, htake, hdrop]
  | @blank white rest last hwhite hlastWhite hkept hfeeds =>
      have hspace : ∀ c ∈ white ++ [last] ++ rest, isAsciiSpace c = true := by
        intro c hc
        rcases List.mem_append.mp hc with hvalue | hrest
        · rcases List.mem_append.mp hvalue with hc | hc
          · exact hwhite c hc
          · rw [List.mem_singleton.mp hc]
            exact hlastWhite
        · rw [hfeeds c hrest]
          rfl
      have hall : ∀ c ∈ rest.reverse, (c == '\n') = true :=
        fun c hc => beq_iff_eq.mpr (hfeeds c (List.mem_reverse.mp hc))
      have hstop : ∀ c ∈ (last :: white.reverse).head?, (c == '\n') = false := by
        intro c hc
        obtain rfl := Option.some.inj hc
        exact beq_eq_false_iff_ne.mpr hkept
      have hdrop : (white ++ [last] ++ rest).reverse.dropWhile (· == '\n') =
          last :: white.reverse := by
        rw [List.reverse_append, List.reverse_append]
        exact (cut_of_all hall hstop).2
      rw [splitValue?_of_blank hspace, hdrop]
      simp

theorem ends_of_splitValue? (h : splitValue? afterSign = some (value, rest)) :
    ValueEnds value rest := by
  by_cases hvalue : afterSign.dropWhile isAsciiSpace = []
  · have hblank := List.dropWhile_eq_nil_iff.mp hvalue
    rw [splitValue?_of_blank hblank] at h
    cases hkept : afterSign.reverse.dropWhile (· == '\n') with
    | nil =>
        rw [hkept] at h
        cases h
    | cons last kept =>
        have hnone : (last :: kept).reverse.isEmpty = false := by simp
        rw [hkept, hnone, if_neg Bool.false_ne_true, ← hkept, drop_kept, hkept] at h
        obtain ⟨rfl, rfl⟩ := Prod.mk.inj (Option.some.inj h)
        have hmem : ∀ c ∈ last :: kept, isAsciiSpace c = true := fun c hc =>
          hblank c (List.mem_reverse.mp ((List.dropWhile_suffix _).subset (hkept ▸ hc)))
        have hlast : (last == '\n') = false :=
          not_of_mem_head?_dropWhile (p := (· == '\n')) (l := afterSign.reverse) (hkept ▸ rfl)
        rw [List.reverse_cons]
        refine .blank (fun c hc => hmem c ?_) (hmem last List.mem_cons_self)
          (beq_eq_false_iff_ne.mp hlast) fun c hc => ?_
        · exact List.mem_cons_of_mem last (List.mem_reverse.mp hc)
        · exact eq_of_beq (List.all_eq_true.mp List.all_takeWhile c (List.mem_reverse.mp hc))
  · rw [splitValue?_of_value hvalue] at h
    obtain ⟨rfl, rfl⟩ := Prod.mk.inj (Option.some.inj h)
    obtain ⟨c, value, hc⟩ := List.exists_cons_of_ne_nil hvalue
    have hspace : isAsciiSpace c = false :=
      not_of_mem_head?_dropWhile (l := afterSign) (hc ▸ rfl)
    have hfeed : (c != '\n') = true := by
      refine bne_iff_ne.mpr ?_
      rintro rfl
      cases hspace
    rw [hc, List.takeWhile_cons, if_pos hfeed]
    refine .line (List.all_eq_true.mp List.all_takeWhile) (List.cons_ne_nil _ _) ?_ ?_ ?_
    · exact fun d hd => Option.some.inj hd ▸ hspace
    · intro hmem
      rcases List.mem_cons.mp hmem with rfl | htake
      · cases hspace
      · cases List.all_eq_true.mp List.all_takeWhile _ htake
    · exact fun d hd => bne_eq_false_iff_eq.mp (not_of_mem_head?_dropWhile (p := (· != '\n')) hd)

theorem splitValue?_eq_none_iff : splitValue? afterSign = none ↔ ∀ c ∈ afterSign, c = '\n' := by
  constructor
  · intro h
    by_cases hvalue : afterSign.dropWhile isAsciiSpace = []
    · rw [splitValue?_of_blank (List.dropWhile_eq_nil_iff.mp hvalue)] at h
      split at h
      · rename_i hnone
        have hkept := List.reverse_eq_nil_iff.mp (List.isEmpty_iff.mp hnone)
        exact fun c hc => eq_of_beq (List.dropWhile_eq_nil_iff.mp hkept c (List.mem_reverse.mpr hc))
      · cases h
    · rw [splitValue?_of_value hvalue] at h
      cases h
  · intro h
    have hspace : ∀ c ∈ afterSign, isAsciiSpace c = true := fun c hc => h c hc ▸ rfl
    have hkept : afterSign.reverse.dropWhile (· == '\n') = [] :=
      List.dropWhile_eq_nil_iff.mpr fun c hc => beq_iff_eq.mpr (h c (List.mem_reverse.mp hc))
    rw [splitValue?_of_blank hspace, hkept]
    rfl

end Values

theorem assigns_iff {afterName : List Char} :
    Assigns afterName ↔ splitAfterName? afterName ≠ none := by
  rw [splitAfterName?]
  constructor
  · rintro ⟨space, afterSign, rfl, hspace, c, hc, hfeed⟩
    have hsign : ∀ d ∈ ('=' :: afterSign).head?, isAsciiSpace d = false :=
      fun d hd => Option.some.inj hd ▸ rfl
    rw [(cut_of_all hspace hsign).2]
    intro hnone
    exact hfeed (splitValue?_eq_none_iff.mp (Option.map_eq_none_iff.mp hnone) c hc)
  · intro h
    split at h
    · rename_i afterSign hsign
      refine ⟨afterName.takeWhile isAsciiSpace, afterSign, ?_,
        List.all_eq_true.mp List.all_takeWhile, ?_⟩
      · rw [← hsign, List.takeWhile_append_dropWhile]
      · by_contra hfeeds
        refine h (Option.map_eq_none_iff.mpr (splitValue?_eq_none_iff.mpr fun c hc => ?_))
        by_contra hc'
        exact hfeeds ⟨c, hc, hc'⟩
    · exact absurd rfl h

namespace Match

variable {code : List Char}

/-- The text up to the end of the match. -/
def through (found : Match code) : List Char :=
  found.run.before ++ (found.run.word ++ (found.space ++ '=' :: found.value))

/-- The number of the line in which the match ends, from one. -/
def endLine (found : Match code) : Nat :=
  found.through.count '\n' + 1

def assignment (found : Match code) : Assignment :=
  { name := found.run.word
    text := found.run.word ++ (found.space ++ '=' :: found.value) }

theorem through_append (found : Match code) : found.through ++ found.rest = code := by
  have hwhole := found.run.whole
  rw [found.after_eq] at hwhole
  simpa only [through, List.append_assoc, List.cons_append] using hwhole

theorem cut_after (found : Match code) :
    found.run.after.takeWhile isAsciiSpace = found.space ∧
      found.run.after.dropWhile isAsciiSpace = '=' :: (found.value ++ found.rest) := by
  have hsign : ∀ c ∈ ('=' :: (found.value ++ found.rest)).head?, isAsciiSpace c = false :=
    fun c hc => Option.some.inj hc ▸ rfl
  rw [found.after_eq]
  exact cut_of_all found.isSpace hsign

theorem splitAfterName?_after (found : Match code) :
    splitAfterName? found.run.after =
      some (found.space ++ '=' :: found.value, found.rest) := by
  obtain ⟨hspace, hafter⟩ := found.cut_after
  have hvalue := splitValue?_of_ends found.ends
  simp only [splitAfterName?, hspace, hafter, hvalue, Option.map_some]

theorem assigns (found : Match code) : Assigns found.run.after := by
  rw [assigns_iff, found.splitAfterName?_after]
  exact Option.some_ne_none _

theorem head?_rest (found : Match code) : ∀ c ∈ found.rest.head?, c = '\n' :=
  head?_of_splitAfterName? found.splitAfterName?_after

/-- The word tells how far the match goes. -/
theorem eq_of_run_eq {left right : Match code} (h : left.run = right.run) : left = right := by
  have hspace := left.cut_after.1
  have hvalue := left.splitAfterName?_after
  rw [h, right.cut_after.1] at hspace
  rw [h, right.splitAfterName?_after, hspace] at hvalue
  obtain ⟨htext, hrest⟩ := Prod.mk.inj (Option.some.inj hvalue)
  have hsame := List.tail_eq_of_cons_eq (List.append_cancel_left htext)
  exact Match.ext h hspace.symm hsame.symm hrest.symm

theorem exists_of_run {run : Run code} {matched rest : List Char}
    (h : splitAfterName? run.after = some (matched, rest)) :
    ∃ found : Match code, found.run = run ∧ found.rest = rest ∧
      found.assignment = { name := run.word, text := run.word ++ matched } := by
  rw [splitAfterName?] at h
  split at h
  · rename_i afterSign hsign
    obtain ⟨⟨value, after⟩, hvalue, hpair⟩ := Option.map_eq_some_iff.mp h
    obtain ⟨rfl, rfl⟩ := Prod.mk.inj hpair
    refine ⟨⟨run, run.after.takeWhile isAsciiSpace, value, _, ?_,
      List.all_eq_true.mp List.all_takeWhile, ends_of_splitValue? hvalue⟩, rfl, rfl, rfl⟩
    rw [splitValue?_append hvalue, ← hsign, List.takeWhile_append_dropWhile]
  · cases h

end Match

namespace Scanned

variable {code text : List Char} {found : Match code} {hits : List (Match code)}

theorem rest_suffix_onward (found : Match code) : found.rest <:+ found.run.onward := by
  rw [Run.onward, found.after_eq]
  exact ⟨found.run.word ++ (found.space ++ '=' :: found.value), by simp⟩

theorem onward_suffix_of_mem (h : Scanned code text hits) (hfound : found ∈ hits) :
    found.run.onward <:+ text := by
  induction h with
  | done => exact absurd hfound List.not_mem_nil
  | next first within _ _ ih =>
      rcases List.mem_cons.mp hfound with rfl | hlater
      · exact within
      · exact ((ih hlater).trans (rest_suffix_onward first)).trans within

/-- There is one scan only. -/
theorem unique {others : List (Match code)} (h : Scanned code text hits)
    (hothers : Scanned code text others) : hits = others := by
  induction h generalizing others with
  | done none =>
      cases hothers with
      | done => rfl
      | next found within => exact absurd found.assigns (none found.run within)
  | next found within first _ ih =>
      cases hothers with
      | done none => exact absurd found.assigns (none found.run within)
      | next other within' first' later' =>
          have honward : found.run.onward = other.run.onward :=
            List.IsSuffix.eq_of_length_le (first' found.run within found.assigns)
              (first other.run within' other.assigns).length_le
          obtain rfl := Match.eq_of_run_eq (Run.eq_of_onward_eq honward)
          rw [ih later']

/-- A scan may begin earlier if no word that is assigned is passed over. -/
theorem earlier {shorter : List Char} (h : Scanned code shorter hits)
    (hsuffix : shorter <:+ text)
    (hnone : ∀ run : Run code, run.onward <:+ text → Assigns run.after → run.onward <:+ shorter) :
    Scanned code text hits := by
  cases h with
  | done none => exact .done fun run hrun hassigns => none run (hnone run hrun hassigns) hassigns
  | next found within first later =>
      exact .next found (within.trans hsuffix)
        (fun run hrun hassigns => first run (hnone run hrun hassigns) hassigns) later

end Scanned

section Lines

variable {code text : List Char} {found other : Match code} {hits : List (Match code)}

/-- Between the end of a match and a later word there is a line feed. -/
theorem Match.endLine_lt (h : other.run.onward <:+ found.rest) : found.endLine < other.endLine := by
  obtain ⟨gap, hgap⟩ := h
  have hbefore : other.run.before = found.through ++ gap := by
    have hwhole := found.through_append
    rw [← hgap, ← List.append_assoc] at hwhole
    exact List.append_cancel_right (other.run.whole.trans hwhole.symm)
  cases gap with
  | nil =>
      obtain ⟨c, onward, honward⟩ := List.exists_cons_of_ne_nil other.run.onward_ne_nil
      have hc : c ∈ other.run.onward.head? := honward ▸ rfl
      have hfeed := found.head?_rest c (hgap ▸ hc)
      rw [hfeed] at hc
      cases Run.head?_onward hc
  | cons c gap =>
      have hfeed := found.head?_rest c (hgap ▸ rfl)
      subst hfeed
      have hthrough : other.through = found.through ++ '\n' :: gap ++
          (other.run.word ++ (other.space ++ '=' :: other.value)) := by
        rw [← hbefore, through]
      rw [endLine, endLine, hthrough, List.count_append, List.count_append, List.count_cons_self]
      omega

theorem Scanned.pairwise_endLine (h : Scanned code text hits) :
    hits.Pairwise fun found other => found.endLine < other.endLine := by
  induction h with
  | done => exact .nil
  | next found _ _ later ih =>
      exact .cons (fun other hother => Match.endLine_lt (later.onward_suffix_of_mem hother)) ih

end Lines

section Existence

variable {code : List Char}

theorem exists_scanned {before text : List Char} (hwhole : before ++ text = code)
    (hopens : ∀ c ∈ before.getLast?, ∀ d ∈ text.head?, isWordChar d = true →
      isWordChar c = false) :
    ∃ hits, Scanned code text hits ∧ hits.map Match.assignment = scan text := by
  fun_induction scan text generalizing before with
  | case1 =>
      refine ⟨[], .done fun run hrun => ?_, rfl⟩
      exact absurd (List.suffix_nil.mp hrun) run.onward_ne_nil
  | case2 c rest hc name matched remaining hsplit =>
      rename_i ih
      obtain ⟨run, -, hword, hafter, honward⟩ :=
        Run.exists_of_wordChar hwhole hc fun d hd => hopens d hd c rfl hc
      rw [← hafter] at hsplit
      obtain ⟨found, rfl, rfl, hassignment⟩ := Match.exists_of_run hsplit
      obtain ⟨hits, hscanned, hmap⟩ := ih found.through_append fun d _ e he hword => by
        rw [found.head?_rest e he] at hword
        cases hword
      refine ⟨found :: hits, ?_, ?_⟩
      · exact .next found (honward ▸ List.suffix_rfl) (fun _ hother _ => honward ▸ hother) hscanned
      · rw [List.map_cons, hassignment, hmap, hword]
  | case3 c rest hc hsplit ih =>
      obtain ⟨run, -, hword, hafter, honward⟩ :=
        Run.exists_of_wordChar hwhole hc fun d hd => hopens d hd c rfl hc
      have hpassed :
          before ++ c :: rest.takeWhile isWordChar ++ rest.dropWhile isWordChar = code := by
        rw [List.append_assoc, List.cons_append, List.takeWhile_append_dropWhile]
        exact hwhole
      obtain ⟨hits, hscanned, hmap⟩ := ih hpassed fun d _ e he hword => by
        cases hword.symm.trans (not_of_mem_head?_dropWhile he)
      refine ⟨hits, hscanned.earlier ?_ ?_, hmap⟩
      · exact (List.dropWhile_suffix _).trans (List.suffix_cons c rest)
      · intro other hother hassigns
        rw [← hafter]
        refine Run.onward_suffix_after ?_ (honward ▸ hother)
        rintro rfl
        exact assigns_iff.mp hassigns (hafter ▸ hsplit)
  | case4 c rest hc ih =>
      have hpassed : before ++ [c] ++ rest = code := by
        rw [List.append_assoc]
        exact hwhole
      obtain ⟨hits, hscanned, hmap⟩ := ih hpassed fun d hd _ _ _ => by
        rw [List.getLast?_concat] at hd
        exact Option.some.inj hd ▸ (Bool.not_eq_true _).mp hc
      refine ⟨hits, hscanned.earlier (List.suffix_cons c rest) ?_, hmap⟩
      intro other hother _
      rcases List.suffix_cons_iff.mp hother with heq | hrest
      · have hhead : c ∈ other.onward.head? := heq ▸ rfl
        exact absurd (Run.head?_onward hhead) hc
      · exact hrest

end Existence

end SnippetCoach.Assignment
