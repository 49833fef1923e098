import SnippetCoach.Json.Reader
import SnippetCoach.Number.Layout
import SnippetCoach.Proofs.Number.Decimal
/-! Numbers in documents: a written number is read as the same number, up to what follows it. -/
namespace SnippetCoach.Json
open Number

def Digits (text : List Char) : Prop :=
  ∀ c ∈ text, c.isDigit = true

/-- What follows begins with nothing that a number could go on with. -/
def EndsNumber (rest : List Char) : Prop :=
  ∀ c ∈ rest.head?, c.isDigit = false ∧ c ≠ '.' ∧ c ≠ 'e' ∧ c ≠ 'E'

theorem endsNumber_cons {c : Char} {rest : List Char}
    (h : c.isDigit = false ∧ c ≠ '.' ∧ c ≠ 'e' ∧ c ≠ 'E') : EndsNumber (c :: rest) := by
  intro d hd
  rwa [← Option.mem_some.mp hd]

/-- The digits at the start of a text end where what follows begins with no digit. -/
theorem split_digits {digits rest : List Char} (hdigits : Digits digits)
    (hrest : ∀ c ∈ rest.head?, c.isDigit = false) :
    (digits ++ rest).takeWhile Char.isDigit = digits ∧
      (digits ++ rest).dropWhile Char.isDigit = rest := by
  rw [List.takeWhile_append_of_pos hdigits, List.dropWhile_append_of_pos hdigits]
  cases rest with
  | nil => simp
  | cons c rest =>
      have hc : c.isDigit = false := hrest c rfl
      simp [hc]

def IsWhole (whole : List Char) : Prop :=
  whole = ['0'] ∨ ∃ c rest, whole = c :: rest ∧ c ≠ '0' ∧ Digits whole

theorem isWhole_natDigits (n : Nat) : IsWhole (natDigits n) := by
  by_cases h : n = 0
  · exact .inl (by rw [h]; exact Nat.toDigits_zero 10)
  · obtain ⟨c, rest, heq, -, hne⟩ := natDigits_cons h
    exact .inr ⟨c, rest, heq, hne, fun d hd => isDigit_of_mem_natDigits hd⟩

theorem splitWhole?_append {whole rest : List Char} (hwhole : IsWhole whole)
    (hrest : ∀ c ∈ rest.head?, c.isDigit = false) :
    splitWhole? (whole ++ rest) = some (whole, rest) := by
  rcases hwhole with rfl | ⟨c, more, rfl, hne, hdigits⟩
  · rfl
  · obtain ⟨htake, hdrop⟩ := split_digits hdigits hrest
    rw [splitWhole?, htake, hdrop]
    · rfl
    · rintro rest heq
      exact hne (List.cons.inj heq).1

theorem splitFraction_point {fraction rest : List Char} (hdigits : Digits fraction)
    (hne : fraction ≠ []) (hrest : ∀ c ∈ rest.head?, c.isDigit = false) :
    splitFraction ('.' :: (fraction ++ rest)) = (fraction, rest) := by
  obtain ⟨htake, hdrop⟩ := split_digits hdigits hrest
  rw [splitFraction, htake, hdrop, if_neg (by simpa using hne)]

theorem splitFraction_none {rest : List Char} (h : ∀ c ∈ rest.head?, c ≠ '.') :
    splitFraction rest = ([], rest) := by
  rw [splitFraction]
  rintro more rfl
  exact h '.' rfl rfl

theorem splitExponent_none {rest : List Char} (h : EndsNumber rest) :
    splitExponent rest = (none, rest) := by
  cases rest with
  | nil => rfl
  | cons c rest =>
      obtain ⟨-, -, hlower, hupper⟩ := h c rfl
      simp [splitExponent, hlower, hupper]

/-- The digits of an exponent, at least two. -/
def exponentDigits (n : Nat) : List Char :=
  if (natDigits n).length < 2 then '0' :: natDigits n else natDigits n

theorem digits_exponentDigits (n : Nat) :
    Digits (exponentDigits n) ∧ exponentDigits n ≠ [] ∧ digitsValue (exponentDigits n) = n := by
  have hdigits : Digits (natDigits n) := fun c hc => isDigit_of_mem_natDigits hc
  rw [exponentDigits]
  split
  · refine ⟨List.forall_mem_cons.mpr ⟨rfl, hdigits⟩, List.cons_ne_nil _ _, ?_⟩
    exact (digitsValue_append ['0'] (natDigits n)).trans
      ((Nat.zero_add _).trans (digitsValue_natDigits n))
  · exact ⟨hdigits, Nat.toDigits_ne_nil, digitsValue_natDigits n⟩

theorem signed_natAbs (n : Int) : signed (decide (n < 0)) n.natAbs = n := by
  by_cases h : n < 0
  · simp only [signed, h, decide_true, if_true]
    omega
  · simp only [signed, h, decide_false, Bool.false_eq_true, if_false]
    omega

theorem splitExponent_exponentText (exponent : Int) {rest : List Char} (h : EndsNumber rest) :
    splitExponent (NumberFormat.exponentText exponent ++ rest) = (some exponent, rest) := by
  obtain ⟨hdigits, hne, hvalue⟩ := digits_exponentDigits exponent.natAbs
  obtain ⟨htake, hdrop⟩ := split_digits hdigits fun c hc => (h c hc).1
  have hread (sign : Char) (hsign : splitSign (sign :: (exponentDigits exponent.natAbs ++ rest)) =
      (decide (exponent < 0), exponentDigits exponent.natAbs ++ rest)) :
      splitExponent ('e' :: sign :: (exponentDigits exponent.natAbs ++ rest)) =
        (some exponent, rest) := by
    rw [splitExponent, hsign]
    simp only [htake, hdrop, hvalue, signed_natAbs, List.isEmpty_eq_false_iff.mpr hne]
    rfl
  by_cases hneg : exponent < 0
  · have htext : NumberFormat.exponentText exponent ++ rest =
        'e' :: '-' :: (exponentDigits exponent.natAbs ++ rest) := by
      simp [NumberFormat.exponentText, exponentDigits, hneg]
    rw [htext]
    exact hread '-' (by simp [splitSign, hneg])
  · have htext : NumberFormat.exponentText exponent ++ rest =
        'e' :: '+' :: (exponentDigits exponent.natAbs ++ rest) := by
      simp [NumberFormat.exponentText, exponentDigits, hneg]
    rw [htext]
    exact hread '+' (by simp [splitSign, hneg])

/-- A number is exact unless it has a fraction or an exponent. -/
theorem readNumber_of_splits (negative : Bool)
    {text whole afterWhole fraction afterFraction rest : List Char} {exponent : Option Int}
    (hwhole : splitWhole? text = some (whole, afterWhole))
    (hfraction : splitFraction afterWhole = (fraction, afterFraction))
    (hexponent : splitExponent afterFraction = (exponent, rest)) :
    readNumber negative text =
      if !fraction.isEmpty || exponent.isSome then
        .ok (float (Binary64.ofDecimal negative (digitsValue (whole ++ fraction))
          (exponent.getD 0 - fraction.length)), rest)
      else if digitLimit < whole.length then .error (.tooLong whole.length)
      else .ok (int (signed negative (digitsValue whole)), rest) := by
  simp only [readNumber, hwhole, orMalformed, Option.elim, bind, Except.bind, hfraction, hexponent]
  rfl

theorem readNumber_whole (negative : Bool) {whole rest : List Char} (hwhole : IsWhole whole)
    (hlimit : whole.length ≤ digitLimit) (hrest : EndsNumber rest) :
    readNumber negative (whole ++ rest) =
      .ok (int (signed negative (digitsValue whole)), rest) := by
  rw [readNumber_of_splits negative (splitWhole?_append hwhole fun c hc => (hrest c hc).1)
    (splitFraction_none fun c hc => (hrest c hc).2.1) (splitExponent_none hrest)]
  simp [Nat.not_lt.mpr hlimit]

theorem readNumber_point (negative : Bool) {whole fraction rest : List Char}
    (hwhole : IsWhole whole) (hdigits : Digits fraction) (hne : fraction ≠ [])
    (hrest : EndsNumber rest) :
    readNumber negative (whole ++ '.' :: (fraction ++ rest)) =
      .ok (float (Binary64.ofDecimal negative (digitsValue (whole ++ fraction))
        (-fraction.length)), rest) := by
  rw [readNumber_of_splits negative (splitWhole?_append hwhole (by simp))
    (splitFraction_point hdigits hne fun c hc => (hrest c hc).1) (splitExponent_none hrest)]
  simp [hne]

theorem digitsValue_append_zeros (digits : List Char) (count : Nat) :
    digitsValue (digits ++ List.replicate count '0') = 10 ^ count * digitsValue digits := by
  rw [digitsValue_append, digitsValue_zeros, List.length_replicate, Nat.add_zero]

theorem digits_zeros (count : Nat) : Digits (List.replicate count '0') := by
  intro c hc
  rw [List.eq_of_mem_replicate hc]
  rfl

theorem Digits.append {text more : List Char} (h : Digits text) (hmore : Digits more) :
    Digits (text ++ more) :=
  List.forall_mem_append.mpr ⟨h, hmore⟩

theorem readNumber_fraction (negative : Bool) {digits rest : List Char} (zeros : Nat)
    (hdigits : Digits digits) (hne : digits ≠ []) (hrest : EndsNumber rest) :
    readNumber negative ('0' :: '.' :: (List.replicate zeros '0' ++ digits ++ rest)) =
      .ok (float (Binary64.ofDecimal negative (digitsValue digits)
        (-(zeros + digits.length : Nat))), rest) := by
  have hread := readNumber_point negative (.inl rfl) ((digits_zeros zeros).append hdigits)
    (List.append_ne_nil_of_right_ne_nil _ hne) hrest
  have hvalue :
      digitsValue (['0'] ++ (List.replicate zeros '0' ++ digits)) = digitsValue digits := by
    rw [← List.append_assoc, ← List.replicate_one, List.replicate_append_replicate,
      digitsValue_append, digitsValue_zeros, Nat.mul_zero, Nat.zero_add]
  rw [hvalue, List.length_append, List.length_replicate] at hread
  exact hread

/-- The digits end before the point. -/
theorem readNumber_padded (negative : Bool) {digits rest : List Char} (zeros : Nat)
    (hwhole : IsWhole (digits ++ List.replicate zeros '0')) (hrest : EndsNumber rest) :
    readNumber negative (digits ++ List.replicate zeros '0' ++ '.' :: '0' :: rest) =
      .ok (float (Binary64.ofDecimal negative (digitsValue digits) zeros), rest) := by
  have hread := readNumber_point negative hwhole (digits_zeros 1) (List.cons_ne_nil _ _) hrest
  rw [digitsValue_append_zeros, digitsValue_append_zeros, ← Nat.mul_assoc, ← Nat.pow_add,
    Binary64.ofDecimal_pow_mul, List.length_replicate] at hread
  refine hread.trans ?_
  congr 4
  omega

/-- The point stands between the digits. -/
theorem readNumber_cut (negative : Bool) {digits rest : List Char} {whole : Nat}
    (hwhole : IsWhole (digits.take whole)) (hdigits : Digits digits)
    (hcut : whole < digits.length) (hrest : EndsNumber rest) :
    readNumber negative (digits.take whole ++ '.' :: (digits.drop whole ++ rest)) =
      .ok (float (Binary64.ofDecimal negative (digitsValue digits) (whole - digits.length)),
        rest) := by
  have hdrop : Digits (digits.drop whole) := fun c hc => hdigits c (List.mem_of_mem_drop hc)
  rw [readNumber_point negative hwhole hdrop (by simpa using hcut) hrest, List.take_append_drop,
    List.length_drop]
  congr 4
  omega

/-- With an exponent, the first digit before the point and the others, if any, after it. -/
theorem readNumber_exponent (negative : Bool) {c : Char} {fraction rest : List Char}
    (exponent : Int) (hwhole : IsWhole [c]) (hdigits : Digits fraction) (hrest : EndsNumber rest) :
    readNumber negative (c :: ((if fraction.isEmpty then [] else '.' :: fraction) ++
        (NumberFormat.exponentText exponent ++ rest))) =
      .ok (float (Binary64.ofDecimal negative (digitsValue (c :: fraction))
        (exponent - fraction.length)), rest) := by
  have hend : ∀ d ∈ (NumberFormat.exponentText exponent ++ rest).head?,
      d.isDigit = false ∧ d ≠ '.' := by
    rintro d ⟨⟩
    decide
  have hexponent := splitExponent_exponentText exponent hrest
  by_cases hfraction : fraction = []
  · subst hfraction
    have hread := readNumber_of_splits negative
      (splitWhole?_append hwhole fun d hd => (hend d hd).1)
      (splitFraction_none fun d hd => (hend d hd).2) hexponent
    simpa using hread
  · have hread := readNumber_of_splits negative (splitWhole?_append hwhole (by simp))
      (splitFraction_point hdigits hfraction fun d hd => (hend d hd).1) hexponent
    simpa [hfraction] using hread

theorem isWhole_cons {c : Char} {more : List Char} (hdigits : Digits (c :: more))
    (hzero : c = '0' → more = []) : IsWhole (c :: more) := by
  by_cases hc : c = '0'
  · exact .inl (by rw [hc, hzero hc])
  · exact .inr ⟨c, more, rfl, hc, hdigits⟩

/-- Laid out digits are read back whatever the format. -/
theorem readNumber_layOut (negative : Bool) (format : NumberFormat) {c : Char}
    {more rest : List Char} {power : Int} (hdigits : Digits (c :: more))
    (hzero : c = '0' → more = [] ∧ power = 0) (hrest : EndsNumber rest) :
    readNumber negative (format.layOut (c :: more) power ++ rest) =
      .ok (float (Binary64.ofDecimal negative (digitsValue (c :: more)) (power - more.length)),
        rest) := by
  rw [NumberFormat.layOut]
  split
  · split
    · have hread := readNumber_fraction negative (-power - 1).toNat hdigits
        (List.cons_ne_nil _ _) hrest
      refine Eq.trans ?_ (hread.trans ?_)
      · simp
      · congr 4
        simp only [List.length_cons]
        omega
    · by_cases hlength : more.length ≤ power.toNat
      · have hwhole : IsWhole (c :: more ++ List.replicate (power.toNat - more.length) '0') := by
          refine isWhole_cons (hdigits.append (digits_zeros _)) fun hc => ?_
          obtain ⟨hmore, hpower⟩ := hzero hc
          simp [hmore, hpower]
        have hread := readNumber_padded negative (power.toNat - more.length) hwhole hrest
        have htake : (more ++ List.replicate (power.toNat - more.length) '0').take power.toNat =
            more ++ List.replicate (power.toNat - more.length) '0' := by
          refine List.take_of_length_le ?_
          simp only [List.length_append, List.length_replicate]
          omega
        refine Eq.trans ?_ (hread.trans ?_)
        · simp [hlength, htake]
        · congr 4
          omega
      · have hwhole : IsWhole ((c :: more).take (power.toNat + 1)) := by
          refine isWhole_cons (fun d hd => hdigits d (List.take_subset (power.toNat + 1) _ hd)) ?_
          intro hc
          rw [(hzero hc).1, List.take_nil]
        have hread := readNumber_cut negative hwhole hdigits (by simpa using hlength) hrest
        have hpad : power.toNat - more.length = 0 := by omega
        refine Eq.trans ?_ (hread.trans ?_)
        · simp [hlength, hpad]
        · congr 4
          simp only [List.length_cons]
          omega
  · have hwhole : IsWhole [c] := isWhole_cons (fun d hd => hdigits d (by simp_all)) fun _ => rfl
    have hread := readNumber_exponent negative power hwhole
      (fun d hd => hdigits d (List.mem_cons_of_mem c hd)) hrest
    simpa using hread

theorem readWord?_digit {c : Char} (hc : c.isDigit = true) (rest : List Char) :
    readWord? (c :: rest) = none ∧ readWord? ('-' :: c :: rest) = none := by
  have hne (d : Char) (hd : d.isDigit = false) : (d == c) = false := by
    refine beq_eq_false_iff_ne.mpr ?_
    rintro rfl
    exact Bool.false_ne_true (hd.symm.trans hc)
  simp [readWord?, words, List.findSome?, List.isPrefixOf?, hne 'n' rfl, hne 't' rfl, hne 'f' rfl,
    hne 'N' rfl, hne 'I' rfl, hne '-' rfl]

def signText (negative : Bool) : List Char :=
  if negative then ['-'] else []

theorem readPlain_signed (negative : Bool) {c : Char} (hc : c.isDigit = true) (rest : List Char) :
    readPlain (signText negative ++ c :: rest) = readNumber negative (c :: rest) := by
  obtain ⟨hplain, hminus⟩ := readWord?_digit hc rest
  cases negative with
  | true => simp [signText, readPlain, hminus]
  | false =>
      have hne : c ≠ '-' := by
        rintro rfl
        exact Bool.false_ne_true hc
      simp [signText, readPlain, hplain, hne]

theorem readPlain_intText {n : Int} (hlimit : fitsDigitLimit n = true) {rest : List Char}
    (hrest : EndsNumber rest) : readPlain (intText n ++ rest) = .ok (int n, rest) := by
  have htext : intText n ++ rest = signText (decide (n < 0)) ++ (natDigits n.natAbs ++ rest) := by
    by_cases h : n < 0 <;> simp [intText, signText, h]
  have hlength : (natDigits n.natAbs).length ≤ digitLimit :=
    length_natDigits_le_iff.mpr (fitsDigitLimit_iff.mp hlimit)
  have hread := readNumber_whole (decide (n < 0)) (isWhole_natDigits n.natAbs) hlength hrest
  rw [digitsValue_natDigits, signed_natAbs] at hread
  rw [htext, ← hread]
  obtain ⟨c, more, heq, hc⟩ := natDigits_head n.natAbs
  rw [heq]
  exact readPlain_signed _ hc _

theorem layOut_cons (format : NumberFormat) {c : Char} (hc : c.isDigit = true) (more : List Char)
    (power : Int) : ∃ d rest, format.layOut (c :: more) power = d :: rest ∧ d.isDigit = true := by
  rw [NumberFormat.layOut]
  split
  · split
    · exact ⟨'0', _, rfl, rfl⟩
    · exact ⟨c, _, rfl, hc⟩
  · exact ⟨c, _, rfl, hc⟩

theorem readPlain_layOut (negative : Bool) {c : Char} {more rest : List Char} {power : Int}
    (hdigits : Digits (c :: more)) (hzero : c = '0' → more = [] ∧ power = 0)
    (hrest : EndsNumber rest) :
    readPlain (signText negative ++ (NumberFormat.document.layOut (c :: more) power ++ rest)) =
      .ok (float (Binary64.ofDecimal negative (digitsValue (c :: more)) (power - more.length)),
        rest) := by
  rw [← readNumber_layOut negative .document hdigits hzero hrest]
  obtain ⟨d, tail, heq, hd⟩ :=
    layOut_cons .document (hdigits c List.mem_cons_self) more power
  rw [heq]
  exact readPlain_signed negative hd _

theorem readPlain_write {x : Binary64} (hx : x.IsCanonical) {rest : List Char}
    (hrest : EndsNumber rest) :
    readPlain (NumberFormat.document.write x ++ rest) = .ok (float x, rest) := by
  cases x with
  | nan => rfl
  | infinite negative => cases negative <;> rfl
  | finite negative significand exponent =>
      by_cases hzero : significand = 0
      · subst hzero
        have hleast : exponent = Binary64.leastExponent := hx.2.2.2.resolve_right (by decide)
        have hread := readPlain_layOut negative (digits_zeros 1) (fun _ => ⟨rfl, rfl⟩) hrest
        rw [hleast, NumberFormat.write, List.append_assoc]
        exact hread
      · have hback := Decimal.ofDecimal_shortest hx hzero
        generalize hdecimal : Decimal.shortest significand exponent = decimal at hback
        have hne : decimal.digits ≠ 0 := by
          intro h
          rw [h, Binary64.ofDecimal_zero, Binary64.zero] at hback
          exact hzero (Binary64.finite.inj hback).2.1.symm
        obtain ⟨c, more, heq, -, hc⟩ := natDigits_cons hne
        have hdigits : Digits (c :: more) := heq ▸ fun d hd => isDigit_of_mem_natDigits hd
        have hpower :
            decimal.scale + ((c :: more).length : Int) - 1 = decimal.scale + more.length := by
          rw [List.length_cons]
          omega
        have hwrite : NumberFormat.document.write (.finite negative significand exponent) =
            signText negative ++
              NumberFormat.document.layOut (c :: more) (decimal.scale + more.length) := by
          simp only [NumberFormat.write, if_neg hzero, hdecimal, heq, hpower, signText]
        have hread : readPlain (signText negative ++
            (NumberFormat.document.layOut (c :: more) (decimal.scale + more.length) ++ rest)) = _ :=
          readPlain_layOut negative hdigits (fun h => absurd h hc) hrest
        rw [← heq, digitsValue_natDigits, Int.add_sub_cancel, hback, heq] at hread
        rw [hwrite, List.append_assoc, hread]

end SnippetCoach.Json
