import SnippetCoach.Proofs.Json.Numeral
import SnippetCoach.Proofs.Json.Quote
/-! The surface of written documents: the blanks between the parts, what a value begins with, and
lengths. -/
namespace SnippetCoach.Json
open Number

section Layout

theorem skipSpace_cons {p : CodePoint} (h : isSpace p = false) (rest : List CodePoint) :
    skipSpace (p :: rest) = p :: rest := by
  rw [skipSpace, List.dropWhile_cons_of_neg (by rw [h]; exact Bool.false_ne_true)]

theorem skipSpace_append {blank : List Char} (hblank : ∀ c ∈ blank, isSpace (.char c) = true)
    (rest : List CodePoint) : skipSpace (codePoints blank ++ rest) = skipSpace rest := by
  refine List.dropWhile_append_of_pos fun point hpoint => ?_
  obtain ⟨c, hc, rfl⟩ := List.mem_map.mp hpoint
  exact hblank c hc

theorem skipSpace_blank (rest : List CodePoint) :
    skipSpace (.char ' ' :: rest) = skipSpace rest := rfl

theorem isSpace_of_mem_gap {layout : Layout} {depth : Nat} {c : Char}
    (h : c ∈ layout.gap depth) : isSpace (.char c) = true := by
  cases layout with
  | compact => exact absurd h List.not_mem_nil
  | indented =>
      rcases List.mem_cons.mp h with rfl | hblank
      · rfl
      · rw [List.eq_of_mem_replicate hblank]
        rfl

theorem skipSpace_gap (layout : Layout) (depth : Nat) (rest : List CodePoint) :
    skipSpace (codePoints (layout.gap depth) ++ rest) = skipSpace rest :=
  skipSpace_append (fun _ => isSpace_of_mem_gap) rest

theorem separator_eq (layout : Layout) (depth : Nat) :
    ∃ blank, layout.separator depth = ',' :: blank ∧ ∀ c ∈ blank, isSpace (.char c) = true := by
  cases layout with
  | compact => exact ⟨[' '], rfl, List.forall_mem_singleton.mpr rfl⟩
  | indented => exact ⟨Layout.gap .indented depth, rfl, fun _ => isSpace_of_mem_gap⟩

theorem endsNumber_of_isSpace {c : Char} (h : isSpace (.char c) = true) (rest : List Char) :
    EndsNumber (c :: rest) := by
  refine endsNumber_cons ?_
  simp only [isSpace, Bool.or_eq_true, beq_iff_eq] at h
  rcases h with ((rfl | rfl) | rfl) | rfl <;> decide

theorem endsNumber_gap (layout : Layout) (depth : Nat) {c : Char} {rest : List Char}
    (h : EndsNumber (c :: rest)) : EndsNumber (layout.gap depth ++ c :: rest) := by
  cases layout with
  | compact => exact h
  | indented => exact endsNumber_of_isSpace rfl _

end Layout

section Starts

/-- What a value that is no string and no container begins with. -/
def StartsScalar (c : Char) : Prop :=
  c ∈ ['-', 'n', 't', 'f', 'N', 'I'] ∨ c.isDigit = true

def StartsValue (c : Char) : Prop :=
  c ∈ ['"', '[', '\x7b'] ∨ StartsScalar c

theorem StartsScalar.ne {c d : Char} (h : StartsScalar c)
    (hd : d ∉ ['-', 'n', 't', 'f', 'N', 'I'] ∧ d.isDigit = false) : c ≠ d := by
  rintro rfl
  rcases h with h | h
  · exact hd.1 h
  · exact Bool.false_ne_true (hd.2.symm.trans h)

theorem StartsValue.ne {c d : Char} (h : StartsValue c) (hopen : d ∉ ['"', '[', '\x7b'])
    (hd : d ∉ ['-', 'n', 't', 'f', 'N', 'I'] ∧ d.isDigit = false) : c ≠ d := by
  rcases h with h | h
  · rintro rfl
    exact hopen h
  · exact h.ne hd

theorem StartsValue.isSpace {c : Char} (h : StartsValue c) : Json.isSpace (.char c) = false := by
  simp [Json.isSpace, h.ne (d := ' ') (by decide) (by decide),
    h.ne (d := '\t') (by decide) (by decide), h.ne (d := '\n') (by decide) (by decide),
    h.ne (d := '\r') (by decide) (by decide)]

theorem intText_cons (n : Int) : ∃ c more, intText n = c :: more ∧ StartsScalar c := by
  obtain ⟨c, more, heq, hc⟩ := natDigits_head n.natAbs
  rw [intText, heq]
  split
  · exact ⟨'-', _, rfl, .inl (by decide)⟩
  · exact ⟨c, more, rfl, .inr hc⟩

theorem float_cons (x : Binary64) :
    ∃ c more, NumberFormat.document.write x = c :: more ∧ StartsScalar c := by
  cases x with
  | nan => exact ⟨'N', _, rfl, .inl (by decide)⟩
  | infinite negative =>
      cases negative with
      | true => exact ⟨'-', _, rfl, .inl (by decide)⟩
      | false => exact ⟨'I', _, rfl, .inl (by decide)⟩
  | finite negative significand exponent =>
      have hlayOut : ∃ c more, (if significand = 0 then NumberFormat.document.layOut ['0'] 0
          else
            let decimal := Decimal.shortest significand exponent
            NumberFormat.document.layOut (natDigits decimal.digits)
              (decimal.scale + (natDigits decimal.digits).length - 1)) = c :: more ∧
          c.isDigit = true := by
        split
        · exact layOut_cons .document rfl [] 0
        · obtain ⟨c, more, heq, hc⟩ := natDigits_head (Decimal.shortest significand exponent).digits
          simp only [heq]
          exact layOut_cons .document hc more _
      obtain ⟨c, more, heq, hc⟩ := hlayOut
      cases negative with
      | true => exact ⟨'-', _, rfl, .inl (by decide)⟩
      | false => exact ⟨c, more, heq, .inr hc⟩

theorem write_cons (layout : Layout) (depth : Nat) (value : WideJson) (rest : List Char) :
    ∃ c more, write layout depth value rest = c :: more ∧ StartsValue c := by
  cases value with
  | null => exact ⟨'n', _, rfl, .inr (.inl (by decide))⟩
  | bool b => cases b <;> exact ⟨_, _, rfl, .inr (.inl (by decide))⟩
  | int n =>
      obtain ⟨c, more, heq, hc⟩ := intText_cons n
      exact ⟨c, more ++ rest, by rw [write, heq, List.cons_append], .inr hc⟩
  | float x =>
      obtain ⟨c, more, heq, hc⟩ := float_cons x
      exact ⟨c, more ++ rest, by rw [write, heq, List.cons_append], .inr hc⟩
  | str s => exact ⟨'"', _, rfl, .inl (by decide)⟩
  | arr items => cases items <;> exact ⟨'[', _, rfl, .inl (by decide)⟩
  | obj fields => cases fields <;> exact ⟨'\x7b', _, rfl, .inl (by decide)⟩

theorem skipSpace_write (layout : Layout) (depth : Nat) (value : WideJson) (rest : List Char) :
    skipSpace (codePoints (write layout depth value rest)) =
      codePoints (write layout depth value rest) := by
  obtain ⟨c, more, heq, hc⟩ := write_cons layout depth value rest
  rw [heq, codePoints_cons, skipSpace_cons hc.isSpace]

theorem readValue_scalar {c : Char} (h : StartsScalar c) (fuel levels : Nat)
    (more : List CodePoint) :
    readValue (fuel + 1) levels (.char c :: more) = readScalar (.char c :: more) := by
  have hne {d : Char} {rest : List CodePoint}
      (hd : d ∉ ['-', 'n', 't', 'f', 'N', 'I'] ∧ d.isDigit = false)
      (heq : CodePoint.char c :: more = .char d :: rest) : False :=
    h.ne hd (CodePoint.char.inj (List.cons.inj heq).1)
  rw [readValue]
  · intro rest heq
    exact hne (by decide) heq
  · intro rest _ heq
    exact hne (by decide) heq
  · intro rest _ heq
    exact hne (by decide) heq
  · intro inner rest _ heq
    exact hne (by decide) heq
  · intro inner rest _ heq
    exact hne (by decide) heq

end Starts

theorem skipSpace_quote (name : WideText) (rest : List Char) :
    skipSpace (codePoints (quote name rest)) = codePoints (quote name rest) :=
  skipSpace_cons rfl _

section Lengths

variable (layout : Layout)

mutual
theorem length_lt_write (depth : Nat) (rest : List Char) :
    ∀ value, rest.length < (write layout depth value rest).length
  | .null => by
      simp [write]
      omega
  | .bool true => by
      simp [write]
      omega
  | .bool false => by
      simp [write]
      omega
  | .int n => by
      obtain ⟨c, more, heq, -⟩ := intText_cons n
      simp only [write, heq, List.length_append, List.length_cons]
      omega
  | .float x => by
      obtain ⟨c, more, heq, -⟩ := float_cons x
      simp only [write, heq, List.length_append, List.length_cons]
      omega
  | .str s => by
      simp only [write, quote, List.length_append, List.length_cons]
      omega
  | .arr [] => by
      simp only [write, List.length_cons]
      omega
  | .arr (item :: items) => by
      have hitem := length_lt_write (depth + 1)
        (writeItems layout (depth + 1) items (layout.gap depth ++ ']' :: rest)) item
      have hitems := length_le_writeItems (depth + 1) (layout.gap depth ++ ']' :: rest) items
      simp only [write, List.length_cons, List.length_append] at hitems ⊢
      omega
  | .obj [] => by
      simp only [write, List.length_cons]
      omega
  | .obj ((name, value) :: fields) => by
      have hvalue := length_lt_write (depth + 1)
        (writeFields layout (depth + 1) fields (layout.gap depth ++ '\x7d' :: rest)) value
      have hfields := length_le_writeFields (depth + 1) (layout.gap depth ++ '\x7d' :: rest) fields
      simp only [write, quote, List.length_cons, List.length_append] at hfields ⊢
      omega

theorem length_le_writeItems (depth : Nat) (rest : List Char) :
    ∀ items, rest.length ≤ (writeItems layout depth items rest).length
  | [] => Nat.le_refl _
  | item :: items => by
      have hitem := length_lt_write depth (writeItems layout depth items rest) item
      have hitems := length_le_writeItems depth rest items
      simp only [writeItems, List.length_append]
      omega

theorem length_le_writeFields (depth : Nat) (rest : List Char) :
    ∀ fields, rest.length ≤ (writeFields layout depth fields rest).length
  | [] => Nat.le_refl _
  | (name, value) :: fields => by
      have hvalue := length_lt_write depth (writeFields layout depth fields rest) value
      have hfields := length_le_writeFields depth rest fields
      simp only [writeFields, quote, List.length_append, List.length_cons]
      omega
end

end Lengths

end SnippetCoach.Json
