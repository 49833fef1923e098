import SnippetCoach.Json.Printer
import SnippetCoach.Json.Reader
import SnippetCoach.Proofs.Text.Utf8
import SnippetCoach.Proofs.WideText
import Mathlib.Tactic.SplitIfs
/-! Strings in documents: a quoted text is read with its pairs of halves as their characters, so
that a text without pairs is read as itself, and nothing else is read from characters. -/
namespace SnippetCoach.Json
open Text

section Units

theorem hexValue?_hexDigit (n : Nat) : hexValue? (hexDigit n) = some (n % 16) := by
  have hdigit : ∀ d : Fin 16, hexValue? (Nat.digitChar d) = some d.val := by decide
  exact hdigit ⟨n % 16, Nat.mod_lt n (by decide)⟩

theorem unitValue?_hexDigit {unit : Nat} (h : unit < 0x10000) :
    unitValue? (hexDigit (unit / 4096)) (hexDigit (unit / 256)) (hexDigit (unit / 16))
      (hexDigit unit) = some unit := by
  simp only [unitValue?, hexValue?_hexDigit, bind, Option.bind, pure, Option.some.injEq]
  omega

/-- The escape of a unit is its letters and digits. -/
theorem escapeUnit_eq (unit : Nat) : ∃ a b c d, escapeUnit unit = ['\\', 'u', a, b, c, d] ∧
    (unit < 0x10000 → ∀ rest, readUnit? (.char a :: .char b :: .char c :: .char d :: rest) =
      some (unit, rest)) := by
  refine ⟨_, _, _, _, rfl, fun h rest => ?_⟩
  rw [readUnit?, unitValue?_hexDigit h]
  rfl

theorem ofUnit_char (c : Char) : ofUnit c.toNat = .char c := by
  rw [ofUnit, if_neg (not_surrogate c), Char.ofNat_toNat]

theorem halfUnit_bounds (offset : Fin 0x800) :
    0xD800 ≤ CodePoint.halfUnit offset ∧ CodePoint.halfUnit offset < 0xE000 := by
  have hoffset := offset.isLt
  simp only [CodePoint.halfUnit]
  omega

theorem halfUnit_lt (offset : Fin 0x800) : CodePoint.halfUnit offset < 0x10000 :=
  Nat.lt_trans (halfUnit_bounds offset).2 (by decide)

theorem ofUnit_halfUnit (offset : Fin 0x800) :
    ofUnit (CodePoint.halfUnit offset) = .half offset := by
  rw [ofUnit, if_pos (halfUnit_bounds offset), CodePoint.halfUnit, Nat.add_sub_cancel_left]
  exact congrArg CodePoint.half (Fin.ext (Nat.mod_eq_of_lt offset.isLt))

theorem isHigh_ofUnit {unit : Nat} :
    (ofUnit unit).isHigh = true ↔ 0xD800 ≤ unit ∧ unit < 0xDC00 := by
  rw [ofUnit]
  split
  · simp only [CodePoint.isHigh, Fin.ofNat, decide_eq_true_eq]
    omega
  · exact iff_of_false Bool.false_ne_true (by omega)

theorem isLow_ofUnit {unit : Nat} :
    (ofUnit unit).isLow = true ↔ 0xDC00 ≤ unit ∧ unit < 0xE000 := by
  rw [ofUnit]
  split
  · simp only [CodePoint.isLow, Fin.ofNat, decide_eq_true_eq]
    omega
  · exact iff_of_false Bool.false_ne_true (by omega)

/-- The characters of pairs are beyond the first plane. -/
theorem le_toNat_of_pairedUnits? {high low : Nat} {c : Char} (h : pairedUnits? high low = some c) :
    0x10000 ≤ c.toNat := by
  rw [pairedUnits?] at h
  split at h
  · obtain rfl := Option.some.inj h
    have hvalid : Nat.isValidChar (0x10000 + (high - 0xD800) * 0x400 + (low - 0xDC00)) := by
      right
      omega
    rw [Char.ofNat, dif_pos hvalid]
    exact Nat.le_trans (Nat.le_add_right _ _) (Nat.le_add_right _ _)
  · cases h

/-- Two units make a pair exactly if the first is high and the second is low. -/
theorem pairedUnits?_eq_none_iff {high low : Nat} :
    pairedUnits? high low = none ↔
      ¬((ofUnit high).isHigh = true ∧ (ofUnit low).isLow = true) := by
  rw [isHigh_ofUnit, isLow_ofUnit, pairedUnits?]
  split
  · exact iff_of_false nofun fun h => h (by omega)
  · exact iff_of_true rfl (by omega)

end Units

section Pairs

/-- The character that two neighbours make, if the first is a high half and the second a low one. -/
def pair? : CodePoint → CodePoint → Option Char
  | .half high, .half low => pairedUnits? (CodePoint.halfUnit high) (CodePoint.halfUnit low)
  | _, _ => none

/-- The code points with each pair of halves as its character. -/
def pairPoints : List CodePoint → List CodePoint
  | first :: second :: rest =>
    match pair? first second with
    | some c => .char c :: pairPoints rest
    | none => first :: pairPoints (second :: rest)
  | points => points

theorem pair?_eq_none_iff {first second : CodePoint} :
    pair? first second = none ↔ ¬(first.isHigh = true ∧ second.isLow = true) := by
  cases first with
  | char c => exact iff_of_true rfl fun h => Bool.false_ne_true h.1
  | half high =>
      cases second with
      | char c => exact iff_of_true rfl fun h => Bool.false_ne_true h.2
      | half low =>
          rw [pair?, pairedUnits?_eq_none_iff, ofUnit_halfUnit, ofUnit_halfUnit]

theorem pairPoints_of_joined {points : List CodePoint} (h : WideText.Joined { points }) :
    pairPoints points = points := by
  induction points using pairPoints.induct with
  | case1 first second points c hpair _ =>
      have hnone := pair?_eq_none_iff.mpr (List.isChain_cons_cons.mp h).1
      cases hpair.symm.trans hnone
  | case2 first second points hpair ih =>
      rw [pairPoints, hpair]
      exact congrArg _ (ih (List.isChain_cons_cons.mp h).2)
  | case3 points hshort => exact pairPoints.eq_2 points hshort

theorem le_toNat_of_pair? {first second : CodePoint} {c : Char} (h : pair? first second = some c) :
    0x10000 ≤ c.toNat := by
  rw [pair?.eq_def] at h
  split at h
  · exact le_toNat_of_pairedUnits? h
  · cases h

/-- A text of the first plane is read from itself only. -/
theorem eq_of_pairPoints_eq {points : List CodePoint} {text : List Char}
    (hplane : ∀ c ∈ text, c.toNat < 0x10000) (h : pairPoints points = codePoints text) :
    points = codePoints text := by
  induction points using pairPoints.induct generalizing text with
  | case1 first second points c hpair _ =>
      rw [pairPoints, hpair] at h
      cases text with
      | nil => cases h
      | cons head rest =>
          have hbeyond := le_toNat_of_pair? hpair
          rw [CodePoint.char.inj (List.cons.inj h).1] at hbeyond
          exact absurd (hplane head List.mem_cons_self) (Nat.not_lt.mpr hbeyond)
  | case2 first second points hpair ih =>
      rw [pairPoints, hpair] at h
      cases text with
      | nil => cases h
      | cons c rest =>
          obtain ⟨hfirst, hrest⟩ := List.cons.inj h
          rw [codePoints_cons, ← hfirst,
            ih (fun c hc => hplane c (List.mem_cons_of_mem _ hc)) hrest]
  | case3 points hshort => exact (pairPoints.eq_2 points hshort).symm.trans h

/-- What is read of a text that was written. -/
def pairText (text : WideText) : WideText :=
  { points := pairPoints text.points }

theorem pairText_of_joined {text : WideText} (h : text.Joined) : pairText text = text :=
  congrArg WideText.mk (pairPoints_of_joined h)

theorem eq_of_pairText_eq {text : WideText} {name : String}
    (hplane : ∀ c ∈ name.toList, c.toNat < 0x10000) (h : pairText text = name) : text = name :=
  congrArg WideText.mk (eq_of_pairPoints_eq hplane (congrArg WideText.points h))

end Pairs

section Points

/-- The escape of a unit in front of what makes no pair with it. -/
theorem readPoint?_escapeUnit {unit : Nat} (h : unit < 0x10000) {rest : List CodePoint}
    (halone : readPaired? unit rest = none) :
    readPoint? (codePoints (escapeUnit unit) ++ rest) = some (ofUnit unit, rest) := by
  obtain ⟨a, b, c, d, heq, hunit⟩ := escapeUnit_eq unit
  rw [heq]
  simp only [codePoints_cons, codePoints_nil, List.cons_append, List.nil_append, readPoint?,
    readEscapedUnit?, hunit h, bind, Option.bind, halone, Option.map_none, Option.getD_none, pure]

theorem readPaired?_escapeUnit (unit : Nat) {low : Nat} (h : low < 0x10000)
    (rest : List CodePoint) :
    readPaired? unit (codePoints (escapeUnit low) ++ rest) =
      (pairedUnits? unit low).map (·, rest) := by
  obtain ⟨a, b, c, d, heq, hunit⟩ := escapeUnit_eq low
  rw [heq]
  simp only [codePoints_cons, codePoints_nil, List.cons_append, List.nil_append, readPaired?,
    hunit h, bind, Option.bind]
  cases pairedUnits? unit low <;> rfl

theorem readPaired?_of_ne {unit : Nat} {c : Char} (h : c ≠ '\\') (rest : List CodePoint) :
    readPaired? unit (.char c :: rest) = none := by
  rw [readPaired?]
  intro more heq
  exact h (CodePoint.char.inj (List.cons.inj heq).1)

theorem readPaired?_of_letter {unit : Nat} {c : Char} (h : c ≠ 'u') (rest : List CodePoint) :
    readPaired? unit (.char '\\' :: .char c :: rest) = none := by
  rw [readPaired?]
  intro more heq
  exact h (CodePoint.char.inj (List.cons.inj (List.cons.inj heq).2).1)

/-- A unit that is no high half stands alone. -/
theorem readPaired?_of_not_high {unit : Nat} (h : (ofUnit unit).isHigh = false)
    (rest : List CodePoint) : readPaired? unit rest = none := by
  have hnone (low : Nat) : pairedUnits? unit low = none :=
    pairedUnits?_eq_none_iff.mpr fun hpair => Bool.false_ne_true (h.symm.trans hpair.1)
  rw [readPaired?.eq_def]
  split
  · rename_i more
    cases hunit : readUnit? more with
    | none => simp only [bind, Option.bind]
    | some found => simp only [bind, Option.bind, hnone]
  · rfl

/-- The escapes of two units that make a pair. -/
theorem readPoint?_escapeUnits {high low : Nat} {c : Char} (hhigh : high < 0x10000)
    (hlow : low < 0x10000) (hpair : pairedUnits? high low = some c) (rest : List CodePoint) :
    readPoint? (codePoints (escapeUnit high) ++ (codePoints (escapeUnit low) ++ rest)) =
      some (.char c, rest) := by
  obtain ⟨a, b, d, e, heq, hunit⟩ := escapeUnit_eq high
  have hnext := readPaired?_escapeUnit high hlow rest
  rw [hpair] at hnext
  rw [heq]
  simp only [codePoints_cons, codePoints_nil, List.cons_append, List.nil_append, readPoint?,
    readEscapedUnit?, hunit hhigh, bind, Option.bind, hnext, Option.map_some, Option.getD_some,
    pure]

/-- A character beyond the first plane, as the offset of its code. -/
theorem readPoint?_beyond {c : Char} {offset : Nat} (hoffset : offset < 0x100000)
    (hcode : c.toNat = 0x10000 + offset) (rest : List CodePoint) :
    readPoint? (codePoints (escapeUnit (0xD800 + offset / 0x400) ++
      escapeUnit (0xDC00 + offset % 0x400)) ++ rest) = some (.char c, rest) := by
  have hhigh : offset / 0x400 < 0x400 := Nat.div_lt_of_lt_mul hoffset
  have hlow : offset % 0x400 < 0x400 := Nat.mod_lt offset (by decide)
  have hpair : pairedUnits? (0xD800 + offset / 0x400) (0xDC00 + offset % 0x400) = some c := by
    rw [pairedUnits?, if_pos (by omega), Nat.add_sub_cancel_left, Nat.add_sub_cancel_left,
      Nat.add_assoc, Nat.mul_comm, Nat.div_add_mod, ← hcode, Char.ofNat_toNat]
  rw [codePoints_append, List.append_assoc]
  exact readPoint?_escapeUnits (by omega) (by omega) hpair rest

theorem readPoint?_escapeChar (c : Char) (rest : List CodePoint) :
    readPoint? (codePoints (escapeChar c) ++ rest) = some (.char c, rest) := by
  rw [escapeChar]
  split_ifs with hquote hslash hline hreturn htab hback hfeed hplain hunit
  · rw [hquote]; rfl
  · rw [hslash]; rfl
  · rw [hline]; rfl
  · rw [hreturn]; rfl
  · rw [htab]; rfl
  · rw [← Char.ofNat_toNat c, hback]; rfl
  · rw [← Char.ofNat_toNat c, hfeed]; rfl
  · have hallowed : isPlain c = true := by
      simp only [isPlain, decide_eq_false hslash, decide_eq_false hquote,
        decide_eq_false (Nat.not_lt.mpr hplain.1), Bool.or_self, Bool.not_false]
    rw [codePoints_cons, codePoints_nil, List.singleton_append, readPoint?, if_pos hallowed]
    · exact fun _ _ hc => hslash hc
    · exact fun _ _ _ hc => hslash hc
  · have halone : (ofUnit c.toNat).isHigh = false := by rw [ofUnit_char]; rfl
    rw [readPoint?_escapeUnit hunit (readPaired?_of_not_high halone rest), ofUnit_char]
  · have hmax := toNat_lt c
    exact readPoint?_beyond (by omega) (by omega) rest

/-- What is written for a code point leaves the unit before it alone, unless the two are a pair. -/
theorem readPaired?_escapePoint {unit : Nat} {point : CodePoint}
    (h : ¬((ofUnit unit).isHigh = true ∧ point.isLow = true)) (rest : List CodePoint) :
    readPaired? unit (codePoints (escapePoint point) ++ rest) = none := by
  have hunit {low : Nat} (hlow : low < 0x10000)
      (hlone : ¬((ofUnit unit).isHigh = true ∧ (ofUnit low).isLow = true))
      (more : List CodePoint) :
      readPaired? unit (codePoints (escapeUnit low) ++ more) = none := by
    rw [readPaired?_escapeUnit unit hlow, pairedUnits?_eq_none_iff.mpr hlone]
    rfl
  cases point with
  | half offset =>
      rw [← ofUnit_halfUnit offset] at h
      exact hunit (halfUnit_lt offset) h rest
  | char c =>
      rw [escapePoint, escapeChar]
      split_ifs with hquote hslash hline hreturn htab hback hfeed hplain hfirst
      · exact readPaired?_of_letter (by decide) _
      · exact readPaired?_of_letter (by decide) _
      · exact readPaired?_of_letter (by decide) _
      · exact readPaired?_of_letter (by decide) _
      · exact readPaired?_of_letter (by decide) _
      · exact readPaired?_of_letter (by decide) _
      · exact readPaired?_of_letter (by decide) _
      · exact readPaired?_of_ne hslash _
      · exact hunit hfirst (by rw [ofUnit_char]; exact fun hpair => Bool.false_ne_true hpair.2) rest
      · have hmax := toNat_lt c
        rw [codePoints_append, List.append_assoc]
        refine hunit (by omega) (fun hpair => ?_) _
        have hlow := isLow_ofUnit.mp hpair.2
        omega

theorem readPoint?_escapePoint {point : CodePoint} {rest : List CodePoint}
    (h : ∀ offset, point = .half offset → readPaired? (CodePoint.halfUnit offset) rest = none) :
    readPoint? (codePoints (escapePoint point) ++ rest) = some (point, rest) := by
  cases point with
  | char c => exact readPoint?_escapeChar c rest
  | half offset =>
      rw [escapePoint, readPoint?_escapeUnit (halfUnit_lt offset) (h offset rfl), ofUnit_halfUnit]

/-- The escapes of two halves that are a pair give their character. -/
theorem readPoint?_pair {first second : CodePoint} {c : Char} (h : pair? first second = some c)
    (rest : List CodePoint) :
    readPoint? (codePoints (escapePoint first) ++ (codePoints (escapePoint second) ++ rest)) =
      some (.char c, rest) := by
  cases first with
  | char => cases h
  | half high =>
      cases second with
      | char => cases h
      | half low => exact readPoint?_escapeUnits (halfUnit_lt high) (halfUnit_lt low) h rest

end Points

section Written

/-- An escaped code point does not end the string. -/
theorem escapePoint_cons (point : CodePoint) :
    ∃ c more, escapePoint point = c :: more ∧ c ≠ '"' := by
  cases point with
  | half offset => exact ⟨_, _, rfl, by decide⟩
  | char c =>
      rw [escapePoint, escapeChar]
      split_ifs with hquote
      all_goals first
        | exact ⟨_, _, rfl, by decide⟩
        | exact ⟨c, [], rfl, hquote⟩

theorem length_le_escaped (points : List CodePoint) :
    points.length ≤ (points.flatMap escapePoint).length := by
  induction points with
  | nil => exact Nat.le_refl 0
  | cons point points ih =>
      obtain ⟨c, more, heq, -⟩ := escapePoint_cons point
      rw [List.flatMap_cons, heq, List.length_append, List.length_cons, List.length_cons]
      omega

/-- What is read first of an escaped code point and more goes in front of what the rest gives. -/
theorem readString?_escapePoint {point next : CodePoint} {more rest : List CodePoint}
    (h : readPoint? (codePoints (escapePoint point) ++ more) = some (next, rest)) (fuel : Nat) :
    readString? (fuel + 1) (codePoints (escapePoint point) ++ more) =
      (readString? fuel rest).map fun (points, last) => (next :: points, last) := by
  obtain ⟨c, others, heq, hne⟩ := escapePoint_cons point
  rw [heq, codePoints_cons, List.cons_append] at h ⊢
  rw [readString?, h]
  · simp only [bind, Option.bind]
    cases readString? fuel rest <;> rfl
  · rintro more htext
    exact hne (CodePoint.char.inj (List.cons.inj htext).1)

/-- A quoted text is read with its pairs joined. -/
theorem readString?_escaped (points : List CodePoint) (rest : List Char) {fuel : Nat}
    (hfuel : points.length ≤ fuel) :
    readString? fuel (codePoints (points.flatMap escapePoint ++ '"' :: rest)) =
      some (pairPoints points, codePoints rest) := by
  induction points using pairPoints.induct generalizing fuel with
  | case1 first second points c hpair ih =>
      obtain ⟨fuel, rfl⟩ := Nat.exists_eq_add_of_le' (Nat.le_trans (Nat.le_add_left 1 _) hfuel)
      have hread := readPoint?_pair hpair (codePoints (points.flatMap escapePoint ++ '"' :: rest))
      have hshort : points.length ≤ fuel := by
        simp only [List.length_cons] at hfuel
        omega
      simp only [List.flatMap_cons, List.append_assoc, codePoints_append] at hread ih ⊢
      rw [readString?_escapePoint hread, ih hshort, pairPoints, hpair]
      rfl
  | case2 first second points hpair ih =>
      obtain ⟨fuel, rfl⟩ := Nat.exists_eq_add_of_le' (Nat.le_trans (Nat.le_add_left 1 _) hfuel)
      have hread : readPoint? (codePoints (escapePoint first) ++ (codePoints (escapePoint second) ++
          codePoints (points.flatMap escapePoint ++ '"' :: rest))) =
          some (first, codePoints (escapePoint second) ++
            codePoints (points.flatMap escapePoint ++ '"' :: rest)) := by
        refine readPoint?_escapePoint fun offset hhalf => readPaired?_escapePoint ?_ _
        rw [ofUnit_halfUnit, ← hhalf]
        exact pair?_eq_none_iff.mp hpair
      simp only [List.flatMap_cons, List.append_assoc, codePoints_append] at hread ih ⊢
      rw [readString?_escapePoint hread, ih (Nat.le_of_succ_le_succ hfuel), pairPoints, hpair]
      rfl
  | case3 points hshort =>
      cases points with
      | nil =>
          rw [List.flatMap_nil, List.nil_append, codePoints_cons, readString?, pairPoints]
          exact nofun
      | cons point others =>
          cases others with
          | cons second others => exact absurd rfl (hshort point second others)
          | nil =>
              obtain ⟨fuel, rfl⟩ := Nat.exists_eq_add_of_le' (show 1 ≤ fuel from hfuel)
              have hread : readPoint? (codePoints (escapePoint point) ++
                  codePoints ('"' :: rest)) = some (point, codePoints ('"' :: rest)) :=
                readPoint?_escapePoint fun offset _ => readPaired?_of_ne (by decide) _
              rw [List.flatMap_singleton, codePoints_append, readString?_escapePoint hread,
                codePoints_cons, readString?, pairPoints]
              · rfl
              · exact hshort

end Written

section Plain

variable {text rest : List CodePoint} {point : CodePoint} {unit : Nat}

theorem isPlain_of_readUnit? (hplain : IsPlain text) (h : readUnit? text = some (unit, rest)) :
    IsPlain rest := by
  rw [readUnit?.eq_def] at h
  split at h
  · obtain ⟨_, -, heq⟩ := Option.map_eq_some_iff.mp h
    obtain ⟨-, rfl⟩ := Prod.mk.inj heq
    exact hplain.tail.tail.tail.tail
  · cases h

theorem isPlain_of_readPaired? {c : Char} (hplain : IsPlain text)
    (h : readPaired? unit text = some (c, rest)) : IsPlain rest := by
  rw [readPaired?.eq_def] at h
  split at h
  · obtain ⟨⟨low, after⟩, hunit, hpair⟩ := Option.bind_eq_some_iff.mp h
    obtain ⟨_, -, hreturn⟩ := Option.bind_eq_some_iff.mp hpair
    obtain ⟨-, rfl⟩ := Prod.mk.inj (Option.some.inj hreturn)
    exact isPlain_of_readUnit? hplain.tail.tail hunit
  · cases h

/-- An escape of units gives a character, or the first unit if it stands alone. -/
theorem readEscapedUnit?_cases (h : readEscapedUnit? text = some (point, rest)) :
    ∃ unit after, readUnit? text = some (unit, after) ∧
      ((∃ c, readPaired? unit after = some (c, rest) ∧ point = .char c) ∨
        readPaired? unit after = none ∧ point = ofUnit unit ∧ rest = after) := by
  obtain ⟨⟨unit, after⟩, hunit, hreturn⟩ := Option.bind_eq_some_iff.mp h
  refine ⟨unit, after, hunit, ?_⟩
  have hchoice := Option.some.inj hreturn
  cases hpaired : readPaired? unit after with
  | none =>
      rw [hpaired] at hchoice
      obtain ⟨rfl, rfl⟩ := Prod.mk.inj hchoice
      exact .inr ⟨rfl, rfl, rfl⟩
  | some found =>
      rw [hpaired] at hchoice
      obtain ⟨rfl, rfl⟩ := Prod.mk.inj hchoice
      exact .inl ⟨found.1, rfl, rfl⟩

/-- In plain text only an escape of a unit can give a half. -/
theorem readPoint?_cases (hplain : IsPlain text) (h : readPoint? text = some (point, rest)) :
    (∃ more, text = .char '\\' :: .char 'u' :: more ∧
      readEscapedUnit? more = some (point, rest)) ∨
    (∃ c, point = .char c) ∧ IsPlain rest := by
  rw [readPoint?.eq_def] at h
  split at h
  · exact .inl ⟨_, rfl, h⟩
  · obtain ⟨c, -, heq⟩ := Option.map_eq_some_iff.mp h
    obtain ⟨rfl, rfl⟩ := Prod.mk.inj heq
    exact .inr ⟨⟨c, rfl⟩, hplain.tail.tail⟩
  · split at h
    · obtain ⟨rfl, rfl⟩ := Prod.mk.inj (Option.some.inj h)
      exact .inr ⟨⟨_, rfl⟩, hplain.tail⟩
    · cases h
  · obtain ⟨chars, heq⟩ := hplain
    cases chars <;> cases heq
  · cases h

theorem isPlain_of_readPoint? (hplain : IsPlain text) (h : readPoint? text = some (point, rest)) :
    IsPlain rest := by
  rcases readPoint?_cases hplain h with ⟨more, rfl, hunit⟩ | ⟨-, hrest⟩
  · obtain ⟨unit, after, hread, ⟨c, hpaired, -⟩ | ⟨-, -, rfl⟩⟩ := readEscapedUnit?_cases hunit
    · exact isPlain_of_readPaired? (isPlain_of_readUnit? hplain.tail.tail hread) hpaired
    · exact isPlain_of_readUnit? hplain.tail.tail hread
  · exact hrest

/-- After a high half that was read alone no low half is read. -/
theorem not_pair_of_readPoint? {next : CodePoint} {after : List CodePoint} (hplain : IsPlain text)
    (h : readPoint? text = some (point, rest)) (hnext : readPoint? rest = some (next, after)) :
    ¬(point.isHigh = true ∧ next.isLow = true) := by
  rintro ⟨hhigh, hlow⟩
  rcases readPoint?_cases hplain h with ⟨more, -, hunit⟩ | ⟨⟨c, rfl⟩, -⟩
  · obtain ⟨unit, following, -, ⟨c, -, rfl⟩ | ⟨halone, rfl, rfl⟩⟩ := readEscapedUnit?_cases hunit
    · exact Bool.false_ne_true hhigh
    · rcases readPoint?_cases (isPlain_of_readPoint? hplain h) hnext with
        ⟨more, rfl, hescape⟩ | ⟨⟨c, rfl⟩, -⟩
      · obtain ⟨low, last, hread, ⟨c, -, rfl⟩ | ⟨-, rfl, -⟩⟩ := readEscapedUnit?_cases hescape
        · exact Bool.false_ne_true hlow
        · simp only [readPaired?, hread, bind, Option.bind] at halone
          cases hpair : pairedUnits? unit low with
          | none => exact pairedUnits?_eq_none_iff.mp hpair ⟨hhigh, hlow⟩
          | some c =>
              rw [hpair] at halone
              cases halone
      · exact Bool.false_ne_true hlow
  · exact Bool.false_ne_true hhigh

/-- A string is over at a quotation mark, or it goes on with a code point. -/
theorem readString?_cases {fuel : Nat} {points : List CodePoint}
    (h : readString? fuel text = some (points, rest)) :
    (text = .char '"' :: rest ∧ points = []) ∨
    ∃ fewer first after others, fuel = fewer + 1 ∧ readPoint? text = some (first, after) ∧
      readString? fewer after = some (others, rest) ∧ points = first :: others := by
  rw [readString?.eq_def] at h
  split at h
  · obtain ⟨rfl, rfl⟩ := Prod.mk.inj (Option.some.inj h)
    exact .inl ⟨rfl, rfl⟩
  · cases h
  · obtain ⟨⟨first, after⟩, hfirst, hmore⟩ := Option.bind_eq_some_iff.mp h
    obtain ⟨⟨others, last⟩, hothers, hreturn⟩ := Option.bind_eq_some_iff.mp hmore
    obtain ⟨rfl, rfl⟩ := Prod.mk.inj (Option.some.inj hreturn)
    exact .inr ⟨_, first, after, others, rfl, hfirst, hothers, rfl⟩

/-- What is read from characters up to a quotation mark has no halves that make a pair. -/
theorem joined_of_readString? {fuel : Nat} {points : List CodePoint} (hplain : IsPlain text)
    (h : readString? fuel text = some (points, rest)) :
    WideText.Joined { points } ∧ IsPlain rest := by
  rw [WideText.Joined]
  induction points generalizing fuel text with
  | nil =>
      rcases readString?_cases h with ⟨rfl, -⟩ | ⟨_, _, _, _, -, -, -, hpoints⟩
      · exact ⟨List.isChain_nil, hplain.tail⟩
      · cases hpoints
  | cons point points ih =>
      rcases readString?_cases h with
        ⟨-, hpoints⟩ | ⟨_, first, after, _, -, hfirst, hothers, hpoints⟩
      · cases hpoints
      · obtain ⟨rfl, rfl⟩ := List.cons.inj hpoints
        obtain ⟨hjoined, hrest⟩ := ih (isPlain_of_readPoint? hplain hfirst) hothers
        refine ⟨List.isChain_cons.mpr ⟨fun next hnext => ?_, hjoined⟩, hrest⟩
        rcases readString?_cases hothers with ⟨-, hnone⟩ | ⟨_, second, _, _, -, hsecond, -, hmore⟩
        · rw [hnone] at hnext
          cases hnext
        · rw [hmore] at hnext
          obtain rfl := Option.some.inj hnext
          exact not_pair_of_readPoint? hplain hfirst hsecond

end Plain

end SnippetCoach.Json
