import Mathlib.Data.List.TakeWhile
import SnippetCoach.Proofs.Text.LineFeed
/-! The places of words. A text has its words in the order of these places, and a word occurs once
if it has one place. -/
namespace SnippetCoach.Text

/-- A run that ends where the class does. -/
theorem cut_of_all {α : Type} {p : α → Bool} {l suffix : List α} (hl : ∀ a ∈ l, p a = true)
    (hsuffix : ∀ a ∈ suffix.head?, p a = false) :
    (l ++ suffix).takeWhile p = l ∧ (l ++ suffix).dropWhile p = suffix := by
  obtain ⟨htake, hdrop⟩ := cut_append (p := p) hsuffix l
  rw [htake, hdrop, List.takeWhile_eq_self_iff.mpr hl, List.dropWhile_eq_nil_iff.mpr hl]
  exact ⟨rfl, rfl⟩

theorem not_of_mem_head?_dropWhile {α : Type} {p : α → Bool} {l : List α} {a : α}
    (h : a ∈ (l.dropWhile p).head?) : p a = false := by
  have hnot := List.head?_dropWhile_not p l
  rw [h] at hnot
  exact hnot

theorem forall_head?_append {α : Type} {p : α → Prop} {l l' : List α} (hl : ∀ a ∈ l.head?, p a)
    (hl' : ∀ a ∈ l'.head?, p a) : ∀ a ∈ (l ++ l').head?, p a := by
  intro a ha
  rw [List.head?_append] at ha
  cases hhead : l.head? with
  | none =>
      rw [hhead] at ha
      exact hl' a ha
  | some b =>
      rw [hhead] at ha
      exact hl a (hhead.trans ha)

theorem forall_getLast?_append {α : Type} {p : α → Prop} {l l' : List α}
    (hl : ∀ a ∈ l.getLast?, p a) (hl' : ∀ a ∈ l'.getLast?, p a) :
    ∀ a ∈ (l ++ l').getLast?, p a := by
  intro a ha
  rw [List.getLast?_append] at ha
  cases hlast : l'.getLast? with
  | none =>
      rw [hlast] at ha
      exact hl a ha
  | some b =>
      rw [hlast] at ha
      exact hl' a (hlast.trans ha)

theorem not_isAsciiSpace_of_isWordChar {c : Char} (h : isWordChar c = true) :
    ¬isAsciiSpace c = true := by
  intro hspace
  have hcode : c.toNat < 33 := by
    rw [isAsciiSpace, Bool.or_eq_true, beq_iff_eq, Bool.and_eq_true, decide_eq_true_iff,
      decide_eq_true_iff] at hspace
    rcases hspace with rfl | ⟨-, hle⟩
    · decide
    · omega
  have hall : ∀ n < 33, isWordChar (Char.ofNat n) = false := by decide
  have hnot := hall c.toNat hcode
  rw [Char.ofNat_toNat] at hnot
  cases h.symm.trans hnot

/-- A maximal run of word characters with what is before and after it. -/
@[ext]
structure Run (text : List Char) where
  before : List Char
  word : List Char
  after : List Char
  whole : before ++ (word ++ after) = text
  ne_nil : word ≠ []
  isWord : ∀ c ∈ word, isWordChar c = true
  opens : ∀ c ∈ before.getLast?, isWordChar c = false
  closes : ∀ c ∈ after.head?, isWordChar c = false

/-- The word is a maximal run at one place exactly. -/
def OccursOnce (word text : List Char) : Prop :=
  ∃! run : Run text, run.word = word

section Words

variable {text suffix word after : List Char}

theorem words_word (hne : word ≠ []) (hword : ∀ c ∈ word, isWordChar c = true)
    (hafter : ∀ c ∈ after.head?, isWordChar c = false) :
    words (word ++ after) = word :: words after := by
  obtain ⟨htake, hdrop⟩ := cut_of_all hword hafter
  cases word with
  | nil => exact absurd rfl hne
  | cons c rest =>
      have hc := hword c List.mem_cons_self
      rw [List.cons_append, List.takeWhile_cons, if_pos hc] at htake
      rw [List.cons_append, List.dropWhile_cons, if_pos hc] at hdrop
      rw [List.cons_append, words, if_pos hc, htake, hdrop]

/-- A word does not reach over a character that belongs to none. -/
theorem words_append_of_opens (h : ∀ c ∈ text.getLast?, isWordChar c = false) :
    words (text ++ suffix) = words text ++ words suffix := by
  cases hlast : text.getLast? with
  | none =>
      rw [List.getLast?_eq_none_iff.mp hlast, words]
      rfl
  | some c =>
      obtain ⟨init, rfl⟩ := List.getLast?_eq_some_iff.mp hlast
      have hc : isWordChar c = false := h c hlast
      have hstop (rest : List Char) : ∀ d ∈ (c :: rest).head?, isWordChar d = false :=
        fun d hd => Option.some.inj hd ▸ hc
      have hnot : ¬isWordChar c = true := Bool.not_eq_true _ ▸ hc
      rw [List.append_assoc, List.singleton_append, words_append (hstop suffix),
        words_append (hstop []), words.eq_2, if_neg hnot, words.eq_2 c [], if_neg hnot, words,
        List.append_nil]

end Words

namespace Run

variable {text : List Char}

/-- The text from the word on. -/
def onward (run : Run text) : List Char :=
  run.word ++ run.after

theorem head?_onward {run : Run text} {c : Char} (h : c ∈ run.onward.head?) :
    isWordChar c = true := by
  obtain ⟨before, word, after, hwhole, hne, hword, hopens, hcloses⟩ := run
  cases word with
  | nil => exact absurd rfl hne
  | cons d word =>
      obtain rfl := Option.some.inj h
      exact hword d List.mem_cons_self

theorem before_append_onward (run : Run text) : run.before ++ run.onward = text :=
  run.whole

theorem onward_ne_nil (run : Run text) : run.onward ≠ [] :=
  List.append_ne_nil_of_left_ne_nil run.ne_nil _

theorem eq_of_onward_eq {left right : Run text} (h : left.onward = right.onward) :
    left = right := by
  have hbefore : left.before = right.before := by
    have hwhole := left.before_append_onward.trans right.before_append_onward.symm
    rw [h] at hwhole
    exact List.append_cancel_right hwhole
  obtain ⟨hword, hafter⟩ := cut_of_all left.isWord left.closes
  obtain ⟨hword', hafter'⟩ := cut_of_all right.isWord right.closes
  rw [onward, onward] at h
  rw [h, hword'] at hword
  rw [h, hafter'] at hafter
  exact Run.ext hbefore hword.symm hafter.symm

/-- Between a place and a later one there is a gap. -/
theorem exists_gap {left right : Run text} (h : left.before.length < right.before.length) :
    ∃ gap, gap ≠ [] ∧ right.before = left.before ++ (left.word ++ gap) ∧
      left.after = gap ++ right.onward := by
  have hwhole := left.before_append_onward.trans right.before_append_onward.symm
  rcases List.append_eq_append_iff.mp hwhole with ⟨middle, hbefore, honward⟩ | ⟨middle, hbefore, -⟩
  · have hmiddle : middle ≠ [] := by
      rintro rfl
      rw [hbefore, List.append_nil] at h
      exact Nat.lt_irrefl _ h
    have hlast : right.before.getLast? = middle.getLast? := by
      rw [hbefore, List.getLast?_append_of_ne_nil _ hmiddle]
    rcases List.append_eq_append_iff.mp (show left.word ++ left.after = _ from honward) with
      ⟨gap, rfl, hafter⟩ | ⟨rest, hword, -⟩
    · refine ⟨gap, ?_, hbefore, hafter⟩
      rintro rfl
      rw [List.append_nil] at hlast
      have hmem := List.getLast_mem left.ne_nil
      have hopens := right.opens _ (hlast.trans (List.getLast?_eq_some_getLast left.ne_nil))
      cases (left.isWord _ hmem).symm.trans hopens
    · have hmem : middle.getLast hmiddle ∈ left.word := by
        rw [hword]
        exact List.mem_append_left rest (List.getLast_mem hmiddle)
      have hopens := right.opens _ (hlast.trans (List.getLast?_eq_some_getLast hmiddle))
      cases (left.isWord _ hmem).symm.trans hopens
  · rw [hbefore, List.length_append] at h
    omega

/-- After a word only later words begin. -/
theorem onward_suffix_after {run other : Run text} (hne : other ≠ run)
    (h : other.onward <:+ run.onward) : other.onward <:+ run.after := by
  have hshorter : other.onward.length ≠ run.onward.length :=
    fun hlength => hne (eq_of_onward_eq (h.eq_of_length hlength))
  have hle := h.length_le
  have hwhole := congrArg List.length
    (run.before_append_onward.trans other.before_append_onward.symm)
  rw [List.length_append, List.length_append] at hwhole
  have hlt : run.before.length < other.before.length := by omega
  obtain ⟨gap, -, -, hafter⟩ := exists_gap hlt
  rw [hafter]
  exact List.suffix_append _ _

/-- A word character that follows none begins a run. -/
theorem exists_of_wordChar {before rest : List Char} {c : Char}
    (hwhole : before ++ c :: rest = text) (hc : isWordChar c = true)
    (hopens : ∀ d ∈ before.getLast?, isWordChar d = false) :
    ∃ run : Run text, run.before = before ∧ run.word = c :: rest.takeWhile isWordChar ∧
      run.after = rest.dropWhile isWordChar ∧ run.onward = c :: rest := by
  have honward : c :: rest.takeWhile isWordChar ++ rest.dropWhile isWordChar = c :: rest := by
    rw [List.cons_append, List.takeWhile_append_dropWhile]
  exact ⟨⟨before, _, _, honward ▸ hwhole, List.cons_ne_nil _ _,
    List.forall_mem_cons.mpr ⟨hc, List.all_eq_true.mp List.all_takeWhile⟩, hopens,
    fun d hd => not_of_mem_head?_dropWhile hd⟩, rfl, rfl, rfl, honward⟩

theorem words_eq (run : Run text) :
    words text = words run.before ++ run.word :: words run.after := by
  rw [← words_word run.ne_nil run.isWord run.closes, ← words_append_of_opens run.opens, run.whole]

/-- Places are told apart by the number of words before them. -/
theorem eq_of_length_eq {left right : Run text}
    (h : (words left.before).length = (words right.before).length) : left = right := by
  have hlater {left right : Run text} (hlt : left.before.length < right.before.length) :
      (words left.before).length < (words right.before).length := by
    obtain ⟨gap, hgap, hbefore, hafter⟩ := exists_gap hlt
    have hcloses : ∀ c ∈ gap.head?, isWordChar c = false := by
      intro c hc
      refine left.closes c ?_
      rw [hafter, List.head?_append_of_ne_nil _ hgap]
      exact hc
    rw [hbefore, words_append_of_opens left.opens, words_word left.ne_nil left.isWord hcloses,
      List.length_append, List.length_cons]
    omega
  rcases Nat.lt_trichotomy left.before.length right.before.length with hlt | heq | hgt
  · exact absurd h (Nat.ne_of_lt (hlater hlt))
  · have hwhole := left.before_append_onward.trans right.before_append_onward.symm
    exact eq_of_onward_eq (List.append_inj_right hwhole heq)
  · exact absurd h (Nat.ne_of_gt (hlater hgt))

/-- Where a text does not begin with a word, something is before each word. -/
theorem before_ne_nil (run : Run text) (h : ∀ c ∈ text.head?, isWordChar c = false) :
    run.before ≠ [] := by
  intro hnil
  have honward : run.onward = text := by
    have hwhole := run.before_append_onward
    rwa [hnil, List.nil_append] at hwhole
  obtain ⟨c, onward, hc⟩ := List.exists_cons_of_ne_nil run.onward_ne_nil
  have hhead : c ∈ run.onward.head? := hc ▸ rfl
  cases (head?_onward hhead).symm.trans (h c (honward ▸ hhead))

/-- The same place in a text that begins earlier. -/
def later (run : Run text) (first : List Char)
    (h : ∀ c ∈ (first ++ run.before).getLast?, isWordChar c = false) : Run (first ++ text) :=
  { run with
    before := first ++ run.before
    whole := by rw [List.append_assoc, run.whole]
    opens := h }

/-- A place after the first word of a text. -/
theorem exists_later {first rest : List Char} (hne : first ≠ [])
    (hfirst : ∀ c ∈ first, isWordChar c = true) (hrest : ∀ c ∈ rest.head?, isWordChar c = false)
    (run : Run rest) :
    ∃ other : Run (first ++ rest), other.word = run.word ∧
      words other.before = first :: words run.before := by
  have hbefore := run.before_ne_nil hrest
  have hopens : ∀ c ∈ (first ++ run.before).getLast?, isWordChar c = false := by
    rw [List.getLast?_append_of_ne_nil _ hbefore]
    exact run.opens
  have hcloses : ∀ c ∈ run.before.head?, isWordChar c = false := by
    intro c hc
    refine hrest c ?_
    rw [← run.before_append_onward, List.head?_append_of_ne_nil _ hbefore]
    exact hc
  exact ⟨run.later first hopens, rfl, words_word hne hfirst hcloses⟩

/-- A place after a character that belongs to no word. -/
theorem exists_later_of_other {rest : List Char} {c : Char} (hc : ¬isWordChar c = true)
    (run : Run rest) :
    ∃ other : Run (c :: rest), other.word = run.word ∧ words other.before = words run.before := by
  have hopens : ∀ d ∈ ([c] ++ run.before).getLast?, isWordChar d = false :=
    forall_getLast?_append (fun d hd => Option.some.inj hd ▸ (Bool.not_eq_true _).mp hc) run.opens
  have hwords : words (c :: run.before) = words run.before := by
    rw [words, if_neg hc]
  exact ⟨run.later [c] hopens, rfl, hwords⟩

/-- Every word of a text has its place. -/
theorem exists_of_words {text word : List Char} {earlier others : List (List Char)}
    (h : words text = earlier ++ word :: others) :
    ∃ run : Run text, run.word = word ∧ words run.before = earlier := by
  fun_induction words text generalizing earlier with
  | case1 => exact absurd h.symm (List.append_ne_nil_of_right_ne_nil _ (List.cons_ne_nil _ _))
  | case2 c rest hc ih =>
      cases earlier with
      | nil =>
          obtain ⟨rfl, -⟩ := List.cons.inj h
          have hopens : ∀ d ∈ ([] : List Char).getLast?, isWordChar d = false :=
            fun d hd => absurd hd (Option.not_mem_none d)
          obtain ⟨run, hbefore, hword, -⟩ :=
            exists_of_wordChar (List.nil_append (c :: rest)) hc hopens
          exact ⟨run, hword, hbefore ▸ words.eq_1⟩
      | cons first earlier =>
          obtain ⟨rfl, hothers⟩ := List.cons.inj h
          obtain ⟨run, rfl, rfl⟩ := ih hothers
          have hfirst : ∀ d ∈ c :: rest.takeWhile isWordChar, isWordChar d = true :=
            List.forall_mem_cons.mpr ⟨hc, List.all_eq_true.mp List.all_takeWhile⟩
          have hlater := exists_later (List.cons_ne_nil _ _) hfirst
            (fun d hd => not_of_mem_head?_dropWhile hd) run
          rwa [List.cons_append, List.takeWhile_append_dropWhile] at hlater
  | case3 c rest hc ih =>
      obtain ⟨run, rfl, rfl⟩ := ih h
      exact exists_later_of_other hc run

end Run

theorem isWord_of_mem_words {word text : List Char} (h : word ∈ words text) :
    word ≠ [] ∧ ∀ c ∈ word, isWordChar c = true := by
  obtain ⟨earlier, later, hsplit⟩ := List.append_of_mem h
  obtain ⟨run, rfl, -⟩ := Run.exists_of_words hsplit
  exact ⟨run.ne_nil, run.isWord⟩

section Once

variable {α : Type} [BEq α] [LawfulBEq α] {a : α} {l : List α}

/-- What is in a list once has one place there. -/
theorem length_eq_idxOf {earlier later : List α} (h : (earlier ++ a :: later).count a = 1) :
    earlier.length = (earlier ++ a :: later).idxOf a := by
  have hnot : a ∉ earlier := by
    intro hmem
    have hpos := List.count_pos_iff.mpr hmem
    rw [List.count_append, List.count_cons_self] at h
    omega
  rw [List.idxOf_append_of_notMem hnot, List.idxOf_cons_self, Nat.add_zero]

/-- What has one place in a list is there once. -/
theorem count_eq_one_of_length_eq {n : Nat} (hmem : a ∈ l)
    (h : ∀ earlier later, l = earlier ++ a :: later → earlier.length = n) : l.count a = 1 := by
  obtain ⟨earlier, later, rfl⟩ := List.append_of_mem hmem
  have hlength := h earlier later rfl
  have hearlier : a ∉ earlier := by
    intro hbefore
    obtain ⟨first, between, rfl⟩ := List.append_of_mem hbefore
    have hfirst := h first (between ++ a :: later) (by rw [List.append_assoc, List.cons_append])
    rw [List.length_append, List.length_cons] at hlength
    omega
  have hlater : a ∉ later := by
    intro hafter
    obtain ⟨between, last, rfl⟩ := List.append_of_mem hafter
    have hlast := h (earlier ++ a :: between) last (by rw [List.append_assoc, List.cons_append])
    rw [List.length_append, List.length_cons] at hlast
    omega
  rw [List.count_append, List.count_cons_self, List.count_eq_zero.mpr hearlier,
    List.count_eq_zero.mpr hlater]

end Once

theorem occursOnce_iff {word text : List Char} :
    OccursOnce word text ↔ countWord word text = 1 := by
  constructor
  · rintro ⟨run, rfl, hunique⟩
    have hmem : run.word ∈ words text := by
      rw [run.words_eq]
      exact List.mem_append_right _ List.mem_cons_self
    have hplace : ∀ earlier later, words text = earlier ++ run.word :: later →
        earlier.length = (words run.before).length := by
      intro earlier later hsplit
      obtain ⟨other, hword, rfl⟩ := Run.exists_of_words hsplit
      rw [hunique other hword]
    exact count_eq_one_of_length_eq hmem hplace
  · intro honce
    rw [countWord] at honce
    have hmem : word ∈ words text := List.count_pos_iff.mp (honce ▸ Nat.one_pos)
    obtain ⟨earlier, later, hsplit⟩ := List.append_of_mem hmem
    obtain ⟨run, hword, rfl⟩ := Run.exists_of_words hsplit
    refine ⟨run, hword, fun other hother => Run.eq_of_length_eq ?_⟩
    have hwords := other.words_eq
    rw [hother] at hwords
    rw [length_eq_idxOf (hwords ▸ honce), length_eq_idxOf (hsplit ▸ honce), ← hwords, ← hsplit]

instance (word text : List Char) : Decidable (OccursOnce word text) :=
  decidable_of_iff _ occursOnce_iff.symm

end SnippetCoach.Text
