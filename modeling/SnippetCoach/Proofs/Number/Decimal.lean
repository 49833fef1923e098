import SnippetCoach.Number.Layout
import SnippetCoach.Number.Numeral
import SnippetCoach.Proofs.Number.Nearest
/-! Decimals: digits and their value, and the decimal that a number is written with. It reads back
as the number. -/
namespace SnippetCoach.Number

theorem digitsValue_natDigits (n : Nat) : digitsValue (natDigits n) = n :=
  Nat.ofDigitChars_ten_toDigits

theorem digitsValue_append (digits more : List Char) :
    digitsValue (digits ++ more) = 10 ^ more.length * digitsValue digits + digitsValue more := by
  calc digitsValue (digits ++ more)
      = Nat.ofDigitChars 10 more (digitsValue digits) := Nat.ofDigitChars_append 0
    _ = _ := Nat.ofDigitChars_eq_ofDigitChars_zero

theorem digitsValue_zeros (count : Nat) : digitsValue (List.replicate count '0') = 0 := by
  exact Nat.ofDigitChars_replicate_zero.trans (Nat.mul_zero _)

theorem digitsValue_lt {digits : List Char} (h : ∀ c ∈ digits, c.isDigit = true) :
    digitsValue digits < 10 ^ digits.length := by
  induction digits with
  | nil => decide
  | cons c rest ih =>
      have hrest := ih fun d hd => h d (List.mem_cons_of_mem c hd)
      have hc : c.toNat - '0'.toNat < 10 := by
        have hdigit := h c List.mem_cons_self
        simp only [Char.isDigit, Bool.and_eq_true, decide_eq_true_eq] at hdigit
        have hle : c.toNat ≤ 57 := hdigit.2
        exact Nat.lt_of_le_of_lt (Nat.sub_le_sub_right hle 48) (by decide)
      have hone : digitsValue [c] = c.toNat - '0'.toNat := by simp [digitsValue]
      rw [← List.singleton_append, digitsValue_append, hone, List.length_append,
        List.length_singleton, Nat.pow_add, Nat.pow_one]
      have hstep := Nat.mul_le_mul_left (10 ^ rest.length) (Nat.le_sub_one_of_lt hc)
      omega

theorem isDigit_of_mem_natDigits {n : Nat} {c : Char} (h : c ∈ natDigits n) : c.isDigit = true :=
  Nat.isDigit_of_mem_toDigits (by decide) (by decide) h

theorem natDigits_of_ten_le {n : Nat} (h : 10 ≤ n) :
    natDigits n = natDigits (n / 10) ++ [(n % 10).digitChar] :=
  Nat.toDigits_of_base_le (by decide) h

/-- Digits begin with a zero only if they are the one digit of zero. -/
theorem natDigits_cons {n : Nat} (h : n ≠ 0) :
    ∃ c rest, natDigits n = c :: rest ∧ c.isDigit = true ∧ c ≠ '0' := by
  induction n using Nat.strongRecOn with
  | ind n ih =>
      by_cases hlt : n < 10
      · refine ⟨n.digitChar, [], Nat.toDigits_of_lt_base hlt, ?_, ?_⟩
        · exact isDigit_of_mem_natDigits (n := n) (by simp [natDigits, Nat.toDigits_of_lt_base hlt])
        · simpa using h
      · obtain ⟨c, rest, heq, hdigit, hne⟩ := ih (n / 10) (by omega) (by omega)
        exact ⟨c, rest ++ [(n % 10).digitChar], by
          rw [natDigits_of_ten_le (by omega), heq, List.cons_append], hdigit, hne⟩

theorem natDigits_head (n : Nat) : ∃ c more, natDigits n = c :: more ∧ c.isDigit = true := by
  cases hdigits : natDigits n with
  | nil => exact absurd hdigits Nat.toDigits_ne_nil
  | cons c more => exact ⟨c, more, rfl, isDigit_of_mem_natDigits (hdigits ▸ List.mem_cons_self)⟩

theorem length_natDigits_le_iff {n : Nat} :
    (natDigits n).length ≤ digitLimit ↔ n < 10 ^ digitLimit :=
  Nat.length_toDigits_le_iff (by decide) (by decide)

theorem fitsDigitLimit_iff {n : Int} : fitsDigitLimit n = true ↔ n.natAbs < 10 ^ digitLimit := by
  rw [fitsDigitLimit, decide_eq_true_iff, Nat.pow_eq]

theorem fitsDigitLimit_of_lt {n : Int} (h : n.natAbs < 10) : fitsDigitLimit n = true :=
  fitsDigitLimit_iff.mpr (Nat.lt_of_lt_of_le h (Nat.le_self_pow (by decide) 10))

namespace Binary64

theorem ofDecimal_zero (negative : Bool) (scale : Int) :
    ofDecimal negative 0 scale = zero negative := by
  simp [ofDecimal]

theorem isCanonical_ofDecimal (negative : Bool) (digits : Nat) (scale : Int) :
    (ofDecimal negative digits scale).IsCanonical := by
  simp only [ofDecimal]
  split
  · exact isCanonical_zero negative
  · split
    · trivial
    · exact isCanonical_nearest negative _ (Nat.pow_pos (by decide))

theorem ofDecimal_eq_nearest (negative : Bool) {digits : Nat} {scale : Int} (hpos : digits ≠ 0)
    (hlow : -400 ≤ ((natDigits digits).length : Int) + scale)
    (hhigh : ((natDigits digits).length : Int) + scale ≤ 400) :
    ofDecimal negative digits scale =
      nearest negative (digits * Nat.pow 10 scale.toNat) (Nat.pow 10 (-scale).toNat) := by
  have hlow' : ¬((Nat.toDigits 10 digits).length : Int) + scale < -400 := not_lt.mpr hlow
  have hhigh' : ¬400 < ((Nat.toDigits 10 digits).length : Int) + scale := not_lt.mpr hhigh
  simp only [ofDecimal, hpos, decide_false, hlow', Bool.or_self, Bool.false_eq_true, if_false,
    hhigh']

/-- A zero at the end of the digits counts as a place of the scale. -/
theorem ofDecimal_ten_mul (negative : Bool) (digits : Nat) (scale : Int) :
    ofDecimal negative (10 * digits) scale = ofDecimal negative digits (scale + 1) := by
  by_cases hzero : digits = 0
  · simp [ofDecimal, hzero]
  have hlength : (Nat.toDigits 10 (10 * digits)).length = (Nat.toDigits 10 digits).length + 1 := by
    have hsplit := natDigits_of_ten_le (n := 10 * digits) (by omega)
    rw [Nat.mul_div_cancel_left digits (by decide)] at hsplit
    have hcount := congrArg List.length hsplit
    rwa [List.length_append, List.length_singleton] at hcount
  have hsize : (((Nat.toDigits 10 digits).length + 1 : Nat) : Int) + scale =
      ((Nat.toDigits 10 digits).length : Int) + (scale + 1) := by omega
  have hnearest : nearest negative (10 * digits * Nat.pow 10 scale.toNat)
        (Nat.pow 10 (-scale).toNat) =
      nearest negative (digits * Nat.pow 10 (scale + 1).toNat)
        (Nat.pow 10 (-(scale + 1)).toNat) := by
    refine nearest_congr negative (Nat.pow_pos (by decide)) (Nat.pow_pos (by decide)) ?_
    simp only [Nat.pow_eq]
    by_cases hscale : 0 ≤ scale
    · rw [show (scale + 1).toNat = scale.toNat + 1 by omega,
        show (-(scale + 1)).toNat = 0 by omega, show (-scale).toNat = 0 by omega, Nat.pow_succ]
      ring
    · rw [show (-scale).toNat = (-(scale + 1)).toNat + 1 by omega,
        show (scale + 1).toNat = 0 by omega, show scale.toNat = 0 by omega, Nat.pow_succ]
      ring
  have hten : 10 * digits ≠ 0 := by omega
  simp only [ofDecimal, hlength, hsize, hnearest, hzero, hten]

theorem ofDecimal_pow_mul (negative : Bool) (digits count : Nat) (scale : Int) :
    ofDecimal negative (10 ^ count * digits) scale = ofDecimal negative digits (scale + count) := by
  induction count generalizing scale with
  | zero => simp
  | succ count ih =>
      rw [Nat.pow_succ', Nat.mul_assoc, ofDecimal_ten_mul, ih]
      congr 1
      omega

def withSign (negative : Bool) : Binary64 → Binary64
  | nan => nan
  | infinite _ => infinite negative
  | finite _ significand exponent => finite negative significand exponent

theorem nearest_withSign (negative : Bool) (num den : Nat) :
    nearest negative num den = (nearest false num den).withSign negative := by
  by_cases hnum : num = 0
  · simp only [nearest, hnum, if_true]
    rfl
  · simp only [nearest, hnum, if_false, apply_ite (withSign negative)]
    rfl

/-- The sign does not change how the magnitude is read. -/
theorem ofDecimal_withSign (negative : Bool) (digits : Nat) (scale : Int) :
    ofDecimal negative digits scale = (ofDecimal false digits scale).withSign negative := by
  simp only [ofDecimal]
  split
  · rfl
  · split
    · rfl
    · exact nearest_withSign negative _ _

end Binary64

namespace Decimal
open Binary64

theorem readsBackAs_iff {x : Binary64} {decimal : Decimal} :
    readsBackAs x decimal = true ↔ ofDecimal false decimal.digits decimal.scale = x :=
  beq_iff_eq

theorem readsBackAs_stripZeros {x : Binary64} {decimal : Decimal}
    (h : readsBackAs x decimal = true) (limit : Nat) :
    readsBackAs x (stripZeros limit decimal) = true := by
  induction limit generalizing decimal with
  | zero => exact h
  | succ limit ih =>
      rw [stripZeros]
      split
      · refine ih ?_
        rw [readsBackAs_iff] at h ⊢
        have hten : 10 * (decimal.digits / 10) = decimal.digits := by omega
        rw [← h, ← ofDecimal_ten_mul, hten]
      · exact h

theorem readsBackAs_search {x : Binary64} {num den limit : Nat} {scale : Int} {decimal : Decimal}
    (h : search x num den scale limit = some decimal) : readsBackAs x decimal = true := by
  induction limit generalizing scale with
  | zero => simp [search] at h
  | succ limit ih =>
      rw [search] at h
      split at h
      · exact Option.some.inj h ▸ List.find?_some ‹_›
      · exact ih h

theorem two_pow_le (k : Nat) : 2 ^ (3 * k) ≤ 10 ^ k := by
  rw [Nat.pow_mul]
  exact Nat.pow_le_pow_left (by decide) k

/-- The exact decimal of a number of the format lies below the range limit. -/
theorem length_exact_le {significand : Nat} {exponent : Int} (hbound : significand < 2 ^ 53)
    (hup : exponent.toNat ≤ 971) :
    (natDigits (exact significand exponent).digits).length ≤ 400 + (-exponent).toNat := by
  refine (Nat.length_toDigits_le_iff (by decide) (by omega)).mpr ?_
  calc significand * 2 ^ exponent.toNat * 5 ^ (-exponent).toNat
      < 2 ^ 53 * 2 ^ exponent.toNat * 5 ^ (-exponent).toNat := by gcongr
    _ ≤ 2 ^ (53 + exponent.toNat) * 10 ^ (-exponent).toNat := by
        rw [Nat.pow_add]
        gcongr
        decide
    _ ≤ 2 ^ (3 * 342) * 10 ^ (-exponent).toNat := by gcongr <;> omega
    _ ≤ 10 ^ 342 * 10 ^ (-exponent).toNat := Nat.mul_le_mul_right _ (two_pow_le 342)
    _ ≤ 10 ^ (400 + (-exponent).toNat) := by
        rw [← Nat.pow_add]
        gcongr <;> omega

/-- The exact decimal of a number of the format has enough digits for its scale. -/
theorem le_length_exact {significand : Nat} {exponent : Int} (hpos : significand ≠ 0)
    (hdown : (-exponent).toNat ≤ 1074) :
    (-exponent).toNat - 400 ≤ (natDigits (exact significand exponent).digits).length := by
  by_contra hlt
  have hless := (Nat.length_toDigits_le_iff (by decide) (by omega)).mp (Nat.lt_of_not_le hlt).le
  have hfive : 5 ^ (-exponent).toNat ≤ (exact significand exponent).digits :=
    Nat.le_mul_of_pos_left _ (Nat.mul_pos (Nat.pos_of_ne_zero hpos) (Nat.pow_pos Nat.two_pos))
  have hcontra : 10 ^ (-exponent).toNat < 10 ^ (-exponent).toNat :=
    calc 10 ^ (-exponent).toNat = 2 ^ (-exponent).toNat * 5 ^ (-exponent).toNat := by
          rw [← Nat.mul_pow]
      _ ≤ 2 ^ (3 * 358) * 5 ^ (-exponent).toNat := by
          gcongr
          omega
      _ ≤ 10 ^ 358 * 5 ^ (-exponent).toNat := Nat.mul_le_mul_right _ (two_pow_le 358)
      _ ≤ 10 ^ 358 * (exact significand exponent).digits := Nat.mul_le_mul_left _ hfive
      _ < 10 ^ 358 * 10 ^ ((-exponent).toNat - 400) := by gcongr
      _ = 10 ^ (358 + ((-exponent).toNat - 400)) := by rw [Nat.pow_add]
      _ ≤ 10 ^ (-exponent).toNat := by gcongr <;> omega
  exact lt_irrefl _ hcontra

/-- The decimal of the exact value is within the range in which decimals are computed. -/
theorem readsBackAs_exact {significand : Nat} {exponent : Int}
    (h : (finite false significand exponent).IsCanonical) (hpos : significand ≠ 0) :
    readsBackAs (finite false significand exponent) (exact significand exponent) = true := by
  obtain ⟨hbound, hleast, hgreatest, -⟩ := id h
  have hup : exponent.toNat ≤ 971 := by
    simp only [greatestExponent] at hgreatest
    omega
  have hdown : (-exponent).toNat ≤ 1074 := by
    simp only [leastExponent] at hleast
    omega
  have hshort := length_exact_le hbound hup
  have hlong := le_length_exact hpos hdown
  have hdigits : (exact significand exponent).digits ≠ 0 := by
    simp only [exact, Nat.pow_eq]
    positivity
  rw [readsBackAs_iff, ← nearest_self h hpos, ofDecimal_eq_nearest false hdigits
    (by simp only [exact] at hlong ⊢; omega) (by simp only [exact] at hshort ⊢; omega)]
  refine nearest_congr false (Nat.pow_pos (by decide)) (powerDen_pos exponent) ?_
  have hten : 10 ^ (-exponent).toNat = 2 ^ (-exponent).toNat * 5 ^ (-exponent).toNat := by
    rw [← Nat.mul_pow]
  simp only [exact, powerNum, powerDen, Nat.pow_eq, Int.neg_neg, Int.toNat_natCast, hten,
    Int.toNat_neg_natCast]
  ring

/-- Reading the shortest decimal of a number gives the number. -/
theorem ofDecimal_shortest {negative : Bool} {significand : Nat} {exponent : Int}
    (h : (finite negative significand exponent).IsCanonical) (hpos : significand ≠ 0) :
    ofDecimal negative (shortest significand exponent).digits
        (shortest significand exponent).scale = finite negative significand exponent := by
  have hback : readsBackAs (finite false significand exponent) (shortest significand exponent) := by
    refine readsBackAs_stripZeros ?_ 17
    cases hfound : search (finite false significand exponent) (powerNum significand exponent)
        (powerDen exponent) (magnitude (powerNum significand exponent) (powerDen exponent) - 1)
        17 with
    | none => exact readsBackAs_exact h hpos
    | some decimal => exact readsBackAs_search hfound
  rw [ofDecimal_withSign, readsBackAs_iff.mp hback]
  rfl

end Decimal
end SnippetCoach.Number
