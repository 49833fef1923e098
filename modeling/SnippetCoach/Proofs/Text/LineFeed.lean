import Mathlib.Data.List.Basic
import SnippetCoach.Proofs.Text.Lines
import SnippetCoach.Text.Word
/-! A line feed at the end of a text. It belongs to no word and to no needle, so that a search finds
the same, and it opens one empty line. -/
namespace SnippetCoach.Text

section Concat

variable {α : Type} {p : α → Bool} {a : α}

/-- Nothing that follows the end of a run is taken into it. -/
theorem cut_append {suffix : List α} (h : ∀ a ∈ suffix.head?, p a = false) (l : List α) :
    (l ++ suffix).takeWhile p = l.takeWhile p ∧
      (l ++ suffix).dropWhile p = l.dropWhile p ++ suffix := by
  induction l with
  | nil =>
      cases suffix with
      | nil => exact ⟨rfl, rfl⟩
      | cons a suffix => simp [h a rfl]
  | cons b l ih =>
      obtain ⟨htake, hdrop⟩ := ih
      rw [List.cons_append, List.takeWhile_cons, List.takeWhile_cons, List.dropWhile_cons,
        List.dropWhile_cons, htake, hdrop]
      constructor
      · rfl
      · split <;> rfl

theorem takeWhile_concat (h : p a = false) (l : List α) :
    (l ++ [a]).takeWhile p = l.takeWhile p :=
  (cut_append (fun _ hmem => Option.some.inj hmem ▸ h) l).1

theorem dropWhile_concat (h : p a = false) (l : List α) :
    (l ++ [a]).dropWhile p = l.dropWhile p ++ [a] :=
  (cut_append (fun _ hmem => Option.some.inj hmem ▸ h) l).2

/-- A run that ends before the list does is not changed by one element more. -/
theorem cut_concat {l : List α} (h : l.dropWhile p ≠ []) (a : α) :
    (l ++ [a]).takeWhile p = l.takeWhile p ∧ (l ++ [a]).dropWhile p = l.dropWhile p ++ [a] := by
  induction l with
  | nil => exact absurd rfl h
  | cons b l ih =>
      simp only [List.cons_append, List.takeWhile_cons, List.dropWhile_cons] at h ⊢
      cases hb : p b with
      | true =>
          simp only [hb, if_true] at h ⊢
          obtain ⟨htake, hdrop⟩ := ih h
          exact ⟨congrArg (b :: ·) htake, hdrop⟩
      | false => exact ⟨rfl, rfl⟩

theorem head?_concat_beq [BEq α] {b : α} (h : (a == b) = false) (l : List α) :
    ((l ++ [a]).head? == some b) = (l.head? == some b) := by
  cases l with
  | nil => simpa using h
  | cons c l => rfl

theorem isPrefixOf?_concat [BEq α] [LawfulBEq α] {needle : List α} (h : a ∉ needle) (l : List α) :
    needle.isPrefixOf? (l ++ [a]) = (needle.isPrefixOf? l).map (· ++ [a]) := by
  induction needle generalizing l with
  | nil => rfl
  | cons b needle ih =>
      rw [List.mem_cons, not_or] at h
      obtain ⟨hne, hrest⟩ := h
      cases l with
      | nil =>
          have hbeq : (b == a) = false := beq_eq_false_iff_ne.mpr (Ne.symm hne)
          simp [List.isPrefixOf?, hbeq]
      | cons c l =>
          simp only [List.cons_append, List.isPrefixOf?, ih hrest]
          split <;> rfl

end Concat

/-- The test says the same of a text with one more line feed. -/
def IgnoresFeed (test : List Char → Bool) : Prop :=
  ∀ text, test (text ++ ['\n']) = test text

theorem IgnoresFeed.anySuffix {test : List Char → Bool} (h : IgnoresFeed test) :
    IgnoresFeed (anySuffix test) := by
  intro text
  induction text with
  | nil =>
      have hempty := h []
      rw [List.nil_append] at hempty
      simp only [List.nil_append, Text.anySuffix, hempty, Bool.or_self]
  | cons c rest ih =>
      have hwhole := h (c :: rest)
      rw [List.cons_append] at hwhole
      simp only [List.cons_append, Text.anySuffix, hwhole, ih]

theorem ignoresFeed_occursIn {needle : List Char} (h : '\n' ∉ needle) :
    IgnoresFeed (occursIn needle) := by
  apply IgnoresFeed.anySuffix
  intro text
  rw [Bool.eq_iff_iff, List.isPrefixOf_iff_prefix, List.isPrefixOf_iff_prefix,
    List.prefix_concat_iff, or_iff_right]
  rintro rfl
  exact h (List.mem_append_right text List.mem_cons_self)

theorem mentions_concat {needle : String} (h : '\n' ∉ needle.toList) (text : List Char) :
    mentions (text ++ ['\n']) needle = mentions text needle :=
  ignoresFeed_occursIn h text

theorem not_isWordChar_feed : isWordChar '\n' = false := rfl

theorem words_append {suffix : List Char} (h : ∀ c ∈ suffix.head?, isWordChar c = false)
    (text : List Char) : words (text ++ suffix) = words text ++ words suffix := by
  fun_induction words text with
  | case1 => rfl
  | case2 c rest hc ih =>
      obtain ⟨htake, hdrop⟩ := cut_append h rest
      rw [List.cons_append, words, if_pos hc, htake, hdrop, ih, List.cons_append]
  | case3 c rest hc ih => rw [List.cons_append, words, if_neg hc, ih]

theorem words_feed : words ['\n'] = [] := by
  simp [words, not_isWordChar_feed]

theorem words_concat (text : List Char) : words (text ++ ['\n']) = words text := by
  have hfeed : ∀ c ∈ ['\n'].head?, isWordChar c = false := by
    intro c hc
    obtain rfl := Option.some.inj hc
    exact not_isWordChar_feed
  rw [words_append hfeed, words_feed, List.append_nil]

theorem countWord_concat (word text : List Char) :
    countWord word (text ++ ['\n']) = countWord word text := by
  rw [countWord, countWord, words_concat]

theorem closedWord_concat {close : Char} (h : ('\n' == close) = false) (rest : List Char) :
    (!((rest ++ ['\n']).takeWhile isWordChar).isEmpty &&
        ((rest ++ ['\n']).dropWhile isWordChar).head? == some close) =
      (!(rest.takeWhile isWordChar).isEmpty &&
        (rest.dropWhile isWordChar).head? == some close) := by
  rw [takeWhile_concat not_isWordChar_feed, dropWhile_concat not_isWordChar_feed,
    head?_concat_beq h]

theorem ignoresFeed_startsCall {name : List Char} (h : '\n' ∉ name) :
    IgnoresFeed (startsCall name) := by
  intro text
  unfold startsCall
  rw [isPrefixOf?_concat h]
  cases name.isPrefixOf? text with
  | none => rfl
  | some rest =>
      cases rest with
      | nil => rfl
      | cons c rest =>
          by_cases hc : c = '('
          · subst hc
            exact closedWord_concat rfl rest
          · simp [hc]

theorem ignoresFeed_startsIndexing : IgnoresFeed startsIndexing := by
  intro text
  unfold startsIndexing
  rw [takeWhile_concat not_isWordChar_feed, dropWhile_concat not_isWordChar_feed]
  congr 1
  cases text.dropWhile isWordChar with
  | nil => rfl
  | cons c rest =>
      by_cases hc : c = '['
      · subst hc
        exact closedWord_concat rfl rest
      · simp [hc]

/-- The white space after the type name takes the line feed in if nothing else follows. -/
theorem ignoresFeed_startsBareDeclaration {type : List Char} (h : '\n' ∉ type) :
    IgnoresFeed (startsBareDeclaration type) := by
  intro text
  unfold startsBareDeclaration
  rw [isPrefixOf?_concat h]
  cases type.isPrefixOf? text with
  | none => rfl
  | some rest =>
      simp only [Option.map_some]
      by_cases hname : rest.dropWhile isAsciiSpace = []
      · have hempty : (rest ++ ['\n']).dropWhile isAsciiSpace = [] := by
          rw [List.dropWhile_append, hname]
          rfl
        simp [hname, hempty]
      · obtain ⟨hgap, hrest⟩ := cut_concat hname '\n'
        rw [hgap, hrest, Bool.and_assoc, closedWord_concat rfl, Bool.and_assoc]

theorem lines_concat (text : List Char) : lines (text ++ ['\n']) = lines text ++ [[]] :=
  lines_append_feed text []

theorem firstLineWhere_concat {test : List Char → Bool} (h : test [] = false) (text : List Char) :
    firstLineWhere test (text ++ ['\n']) = firstLineWhere test text := by
  have hlast : [[]].findIdx? test = none := by simp [h]
  rw [firstLineWhere, firstLineWhere, lines_concat, List.findIdx?_append, hlast, Option.map_none,
    Option.or_none]

theorem findLine_concat {needles : List (List Char)} (h : [] ∉ needles) (text : List Char) :
    findLine (text ++ ['\n']) needles = findLine text needles := by
  apply firstLineWhere_concat
  rw [List.any_eq_false]
  intro needle hneedle hoccurs
  rw [occursIn_iff, List.infix_nil] at hoccurs
  exact h (hoccurs ▸ hneedle)

end SnippetCoach.Text
