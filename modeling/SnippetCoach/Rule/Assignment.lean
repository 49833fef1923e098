import SnippetCoach.Text.Word
/-! Assignments in a snippet: a word, an equals sign and a value. ASCII white space, line feeds
included, may stand around the sign; the value runs to the end of its line. -/
namespace SnippetCoach
open Text

/-- An assigned name and the text of the assignment from the name to the end of the value. -/
structure Assignment where
  name : List Char
  text : List Char
  deriving DecidableEq, Repr

namespace Assignment

/-- Splits what follows an equals sign into the value, with the white space before it, and the
rest. If white space alone is left, the value ends after the last character that is no line feed,
and there must be one. -/
def splitValue? (afterSign : List Char) : Option (List Char × List Char) :=
  let gap := afterSign.takeWhile isAsciiSpace
  let value := afterSign.dropWhile isAsciiSpace
  if value.isEmpty then
    let kept := (gap.reverse.dropWhile (· == '\n')).reverse
    if kept.isEmpty then none else some (kept, gap.drop kept.length)
  else some (gap ++ value.takeWhile (· != '\n'), value.dropWhile (· != '\n'))

/-- Splits what follows a name into the rest of its assignment and the text after that. -/
def splitAfterName? (afterName : List Char) : Option (List Char × List Char) :=
  match afterName.dropWhile isAsciiSpace with
  | '=' :: afterSign =>
    (splitValue? afterSign).map fun parts =>
      (afterName.takeWhile isAsciiSpace ++ '=' :: parts.1, parts.2)
  | _ => none

theorem splitValue?_append {afterSign value rest : List Char}
    (h : splitValue? afterSign = some (value, rest)) : value ++ rest = afterSign := by
  have hcut := List.takeWhile_append_dropWhile (p := isAsciiSpace) (l := afterSign)
  simp only [splitValue?] at h
  split at h
  · rename_i hempty
    rw [List.isEmpty_iff.1 hempty, List.append_nil] at hcut
    split at h
    · simp at h
    · rw [hcut] at h
      obtain ⟨rfl, rfl⟩ := Prod.mk.inj (Option.some.inj h)
      refine List.prefix_iff_eq_append.1 ?_
      rw [← List.reverse_suffix, List.reverse_reverse]
      exact List.dropWhile_suffix _
  · obtain ⟨rfl, rfl⟩ := Prod.mk.inj (Option.some.inj h)
    rw [List.append_assoc, List.takeWhile_append_dropWhile, hcut]

theorem splitAfterName?_append {afterName matched rest : List Char}
    (h : splitAfterName? afterName = some (matched, rest)) : matched ++ rest = afterName := by
  have hcut := List.takeWhile_append_dropWhile (p := isAsciiSpace) (l := afterName)
  simp only [splitAfterName?] at h
  split at h
  · rename_i afterSign heq
    obtain ⟨parts, hparts, hpair⟩ := Option.map_eq_some_iff.1 h
    obtain ⟨rfl, rfl⟩ := Prod.mk.inj hpair
    rw [List.append_assoc, List.cons_append, splitValue?_append hparts, ← heq, hcut]
  · simp at h

theorem length_of_splitAfterName? {afterName matched rest : List Char}
    (h : splitAfterName? afterName = some (matched, rest)) : rest.length ≤ afterName.length := by
  rw [← splitAfterName?_append h, List.length_append]
  omega

/-- The assignments of a text from left to right. A value may hold no further one. -/
def scan : List Char → List Assignment
  | [] => []
  | c :: rest =>
    if isWordChar c then
      let name := c :: rest.takeWhile isWordChar
      match _h : splitAfterName? (rest.dropWhile isWordChar) with
      | some (matched, remaining) => { name, text := name ++ matched } :: scan remaining
      | none => scan (rest.dropWhile isWordChar)
    else scan rest
termination_by text => text.length
decreasing_by
  · have hrest := (List.dropWhile_suffix (l := rest) isWordChar).length_le
    have hsplit := length_of_splitAfterName? ‹_›
    simp only [List.length_cons]
    omega
  · have hrest := (List.dropWhile_suffix (l := rest) isWordChar).length_le
    simp only [List.length_cons]
    omega
  · simp

end Assignment
end SnippetCoach
