import Mathlib.Data.List.Chain
import SnippetCoach.WideText
/-! Strings among the texts of code points, and texts in which no two halves make a pair. -/
namespace SnippetCoach

section CodePoints

variable (text rest : List Char)

@[simp] theorem codePoints_nil : codePoints [] = [] := rfl

@[simp] theorem codePoints_cons (c : Char) :
    codePoints (c :: rest) = .char c :: codePoints rest := rfl

@[simp] theorem codePoints_append :
    codePoints (text ++ rest) = codePoints text ++ codePoints rest :=
  List.map_append

@[simp] theorem length_codePoints : (codePoints text).length = text.length :=
  List.length_map _

theorem codePoints_injective : Function.Injective codePoints :=
  List.map_injective_iff.mpr fun _ _ => CodePoint.char.inj

/-- Only characters. -/
def IsPlain (points : List CodePoint) : Prop :=
  ∃ text, points = codePoints text

theorem isPlain_codePoints : IsPlain (codePoints text) :=
  ⟨text, rfl⟩

theorem IsPlain.tail {point : CodePoint} {points : List CodePoint} (h : IsPlain (point :: points)) :
    IsPlain points := by
  obtain ⟨text, heq⟩ := h
  cases text with
  | nil => cases heq
  | cons c rest => exact ⟨rest, (List.cons.inj heq).2⟩

end CodePoints

namespace WideText

theorem ofString_injective : Function.Injective ofString := fun _ _ h =>
  String.toList_inj.mp (codePoints_injective (congrArg points h))

@[simp] theorem ofString_inj {a b : String} : ofString a = ofString b ↔ a = b :=
  ofString_injective.eq_iff

theorem points_joinLines_cons (part : WideText) {parts : List WideText} (h : parts ≠ []) :
    (joinLines (part :: parts)).points =
      part.points ++ .char '\n' :: (joinLines parts).points := by
  cases parts with
  | nil => exact absurd rfl h
  | cons next parts =>
      simp only [joinLines, List.map_cons, List.intercalate_cons_cons]
      rw [List.append_assoc]
      rfl

theorem joinLines_singleton (part : WideText) : joinLines [part] = part :=
  congrArg WideText.mk List.intercalate_singleton

theorem joinLines_cons_inj {part : WideText} {parts others : List WideText} (h : parts ≠ [])
    (h' : others ≠ []) (heq : joinLines (part :: parts) = joinLines (part :: others)) :
    joinLines parts = joinLines others := by
  have hpoints := congrArg points heq
  rw [points_joinLines_cons part h, points_joinLines_cons part h'] at hpoints
  exact congrArg WideText.mk (List.cons.inj (List.append_cancel_left hpoints)).2

theorem splitChars_codePoints (text : List Char) : splitChars (codePoints text) = (text, []) := by
  induction text with
  | nil => rfl
  | cons c rest ih => rw [codePoints_cons, splitChars, ih]

/-- No high half stands right before a low one. -/
def Joined (text : WideText) : Prop :=
  text.points.IsChain fun point next => ¬(point.isHigh = true ∧ next.isLow = true)

theorem joined_of_isPlain {text : WideText} (h : IsPlain text.points) : text.Joined := by
  obtain ⟨chars, heq⟩ := h
  rw [Joined, heq, codePoints, List.isChain_map]
  exact List.Pairwise.isChain (List.pairwise_of_forall fun _ _ h => Bool.false_ne_true h.1)

theorem joined_ofString (text : String) : Joined text :=
  joined_of_isPlain (isPlain_codePoints _)

end WideText
end SnippetCoach
