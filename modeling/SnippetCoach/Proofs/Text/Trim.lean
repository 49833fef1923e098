import Mathlib.Data.List.TakeWhile
import SnippetCoach.Text.Blank
/-! Trimming: what is left of a text without the white space at both of its ends. -/
namespace SnippetCoach.Text

/-- The inner text neither begins nor ends in white space, and nothing else is around it. -/
structure Trimmed (text inner : List Char) : Prop where
  cut : ∃ before after, text = before ++ (inner ++ after) ∧ (∀ c ∈ before, isBlank c = true) ∧
    ∀ c ∈ after, isBlank c = true
  head : ∀ c ∈ inner.head?, isBlank c = false
  last : ∀ c ∈ inner.getLast?, isBlank c = false

variable {text inner : List Char}

theorem not_isBlank_of_mem_head?_dropWhile {c : Char} (h : c ∈ (text.dropWhile isBlank).head?) :
    isBlank c = false := by
  have hstop := List.head?_dropWhile_not isBlank text
  rwa [h] at hstop

theorem dropWhile_isBlank_eq_self (h : ∀ c ∈ text.head?, isBlank c = false) :
    text.dropWhile isBlank = text := by
  cases text with
  | nil => rfl
  | cons c rest => exact List.dropWhile_cons_of_neg (Bool.eq_false_iff.mp (h c rfl))

theorem trimmed_trim (text : List Char) : Trimmed text (trim text) := by
  have hfront := List.takeWhile_append_dropWhile (p := isBlank) (l := text)
  have hback :=
    List.takeWhile_append_dropWhile (p := isBlank) (l := (text.dropWhile isBlank).reverse)
  have hrest : trim text ++ ((text.dropWhile isBlank).reverse.takeWhile isBlank).reverse =
      text.dropWhile isBlank := by
    rw [trim, trimWith, ← List.reverse_append, hback, List.reverse_reverse]
  refine ⟨⟨_, _, hfront.symm.trans (congrArg _ hrest.symm), ?_, ?_⟩, ?_, ?_⟩
  · exact List.all_eq_true.mp List.all_takeWhile
  · intro c hc
    exact List.all_eq_true.mp List.all_takeWhile c (List.mem_reverse.mp hc)
  · intro c hc
    have hmem : c ∈ (text.dropWhile isBlank).head? := by
      rw [← hrest, List.head?_append, hc]
      rfl
    exact not_isBlank_of_mem_head?_dropWhile hmem
  · intro c hc
    rw [trim, trimWith, List.getLast?_reverse] at hc
    exact not_isBlank_of_mem_head?_dropWhile hc

theorem Trimmed.eq_trim (h : Trimmed text inner) : inner = trim text := by
  obtain ⟨⟨before, after, rfl, hbefore, hafter⟩, hhead, hlast⟩ := h
  have hreverse : ∀ c ∈ after.reverse, isBlank c = true :=
    fun c hc => hafter c (List.mem_reverse.mp hc)
  rw [trim, trimWith, List.dropWhile_append_of_pos hbefore]
  cases inner with
  | nil =>
      have hempty : after.dropWhile isBlank = [] := List.dropWhile_eq_nil_iff.mpr hafter
      rw [List.nil_append, hempty]
      rfl
  | cons c inner =>
      have hkept : ((c :: inner) ++ after).dropWhile isBlank = (c :: inner) ++ after :=
        dropWhile_isBlank_eq_self hhead
      rw [hkept, List.reverse_append, List.dropWhile_append_of_pos hreverse,
        dropWhile_isBlank_eq_self, List.reverse_reverse]
      rwa [List.head?_reverse]

theorem trimmed_iff : Trimmed text inner ↔ inner = trim text :=
  ⟨Trimmed.eq_trim, fun h => h ▸ trimmed_trim text⟩

end SnippetCoach.Text
