import Mathlib.Data.Int.Log
import Mathlib.Data.Rat.Floor
import Mathlib.Tactic.FieldSimp
import Mathlib.Tactic.Linarith
import Mathlib.Tactic.NormNum
import Mathlib.Tactic.Positivity
import Mathlib.Tactic.Ring
import SnippetCoach.Number.Binary64
/-! Rounding to binary64 depends on the value of a quotient only, gives canonical numbers, and
gives back a canonical number that it is asked to round. -/
namespace SnippetCoach.Number

theorem roundQuotient_mul_left {k : Nat} (hk : 0 < k) (num den : Nat) :
    roundQuotient (k * num) (k * den) = roundQuotient num den := by
  have hlt (a b : Nat) : 2 * (k * a) < k * b ↔ 2 * a < b := by
    rw [Nat.mul_left_comm]
    exact Nat.mul_lt_mul_left hk
  have hgt (a b : Nat) : k * b < 2 * (k * a) ↔ b < 2 * a := by
    rw [Nat.mul_left_comm]
    exact Nat.mul_lt_mul_left hk
  simp only [roundQuotient, Nat.mul_div_mul_left _ _ hk, Nat.mul_mod_mul_left, hlt, hgt]

theorem roundQuotient_congr {a b c d : Nat} (hb : 0 < b) (hd : 0 < d) (h : a * d = c * b) :
    roundQuotient a b = roundQuotient c d := by
  rw [← roundQuotient_mul_left hd a b, ← roundQuotient_mul_left hb c d, Nat.mul_comm d a, h,
    Nat.mul_comm c b, Nat.mul_comm d b]

theorem roundQuotient_le {num den bound : Nat} (hpos : 0 < den) (h : num ≤ bound * den) :
    roundQuotient num den ≤ bound := by
  obtain ⟨-, hupper⟩ := @roundQuotient_bounds num den hpos
  by_contra hlt
  have hstep : (bound + 1) * den ≤ roundQuotient num den * den :=
    Nat.mul_le_mul_right den (Nat.lt_of_not_le hlt)
  rw [Nat.add_mul, Nat.one_mul] at hstep
  omega

theorem le_roundQuotient {num den bound : Nat} (hpos : 0 < den) (h : bound * den ≤ num) :
    bound ≤ roundQuotient num den := by
  obtain ⟨hlower, -⟩ := @roundQuotient_bounds num den hpos
  by_contra hlt
  have hstep : (roundQuotient num den + 1) * den ≤ bound * den :=
    Nat.mul_le_mul_right den (Nat.lt_of_not_le hlt)
  rw [Nat.add_mul, Nat.one_mul] at hstep
  omega

namespace Binary64

/-- A power of two as a quotient of whole numbers. -/
theorem two_zpow (e : Int) : (2 : ℚ) ^ e = (2 ^ e.toNat : Nat) / (2 ^ (-e).toNat : Nat) := by
  obtain ⟨k, rfl | rfl⟩ := Int.eq_nat_or_neg e
  · simp
  · simp

theorem mul_two_zpow_le_div_iff {num den : Nat} (hden : 0 < den) (m : Nat) (e : Int) :
    (m : ℚ) * 2 ^ e ≤ num / den ↔ m * (den * 2 ^ e.toNat) ≤ num * 2 ^ (-e).toNat := by
  have hd : (0 : ℚ) < den := by exact_mod_cast hden
  have hp : (0 : ℚ) < (2 ^ (-e).toNat : Nat) := by positivity
  rw [two_zpow, mul_div_assoc', div_le_div_iff₀ hp hd]
  norm_cast
  rw [Nat.mul_assoc, Nat.mul_comm den]

theorem div_le_mul_two_zpow_iff {num den : Nat} (hden : 0 < den) (m : Nat) (e : Int) :
    (num : ℚ) / den ≤ m * 2 ^ e ↔ num * 2 ^ (-e).toNat ≤ m * (den * 2 ^ e.toNat) := by
  have hd : (0 : ℚ) < den := by exact_mod_cast hden
  have hp : (0 : ℚ) < (2 ^ (-e).toNat : Nat) := by positivity
  rw [two_zpow, mul_div_assoc', div_le_div_iff₀ hd hp]
  norm_cast
  rw [Nat.mul_assoc, Nat.mul_comm den]

theorem floorLog_eq {num den : Nat} (hnum : 0 < num) (hden : 0 < den) :
    floorLog num den = Int.log 2 ((num : ℚ) / den) := by
  have hn : (0 : ℚ) < num := by exact_mod_cast hnum
  have hd : (0 : ℚ) < den := by exact_mod_cast hden
  have hq : (0 : ℚ) < num / den := div_pos hn hd
  have nlow : ((2 ^ num.log2 : Nat) : ℚ) ≤ num := by exact_mod_cast Nat.log2_self_le hnum.ne'
  have nhigh : (num : ℚ) < (2 ^ (num.log2 + 1) : Nat) := by exact_mod_cast Nat.lt_log2_self
  have dlow : ((2 ^ den.log2 : Nat) : ℚ) ≤ den := by exact_mod_cast Nat.log2_self_le hden.ne'
  have dhigh : (den : ℚ) < (2 ^ (den.log2 + 1) : Nat) := by exact_mod_cast Nat.lt_log2_self
  have hlower : (num.log2 : Int) - den.log2 - 1 ≤ Int.log 2 ((num : ℚ) / den) := by
    rw [← Int.zpow_le_iff_le_log Nat.one_lt_two hq, le_div_iff₀ hd, Nat.cast_ofNat]
    calc (2 : ℚ) ^ ((num.log2 : Int) - den.log2 - 1) * den
        ≤ (2 : ℚ) ^ ((num.log2 : Int) - den.log2 - 1) * (2 : ℚ) ^ ((den.log2 : Int) + 1) := by
          refine mul_le_mul_of_nonneg_left ?_ (zpow_nonneg zero_le_two _)
          exact_mod_cast dhigh.le
      _ = (2 : ℚ) ^ (num.log2 : Int) := by
          rw [← zpow_add₀ two_ne_zero]
          congr 1
          omega
      _ ≤ num := by exact_mod_cast nlow
  have hupper : Int.log 2 ((num : ℚ) / den) < (num.log2 : Int) - den.log2 + 1 := by
    rw [← Int.lt_zpow_iff_log_lt Nat.one_lt_two hq, div_lt_iff₀ hd, Nat.cast_ofNat]
    calc (num : ℚ) < (2 : ℚ) ^ ((num.log2 : Int) + 1) := by exact_mod_cast nhigh
      _ = (2 : ℚ) ^ ((num.log2 : Int) - den.log2 + 1) * (2 : ℚ) ^ (den.log2 : Int) := by
          rw [← zpow_add₀ two_ne_zero]
          congr 1
          omega
      _ ≤ (2 : ℚ) ^ ((num.log2 : Int) - den.log2 + 1) * den := by
          refine mul_le_mul_of_nonneg_left ?_ (zpow_nonneg zero_le_two _)
          exact_mod_cast dlow
  have htest : den * 2 ^ ((num.log2 : Int) - den.log2).toNat ≤
      num * 2 ^ (-((num.log2 : Int) - den.log2)).toNat ↔
        (num.log2 : Int) - den.log2 ≤ Int.log 2 ((num : ℚ) / den) := by
    rw [← Int.zpow_le_iff_le_log Nat.one_lt_two hq, Nat.cast_ofNat, ← one_mul ((2 : ℚ) ^ _)]
    simpa using (@mul_two_zpow_le_div_iff num den hden 1 ((num.log2 : Int) - den.log2)).symm
  simp only [floorLog, Nat.pow_eq]
  split
  · have := htest.mp ‹_›
    omega
  · have := mt htest.mpr ‹_›
    omega

theorem log_mul_two_zpow {significand : Nat} (hpos : significand ≠ 0) (e : Int) :
    Int.log 2 ((significand : ℚ) * 2 ^ e) = significand.log2 + e := by
  have hs : (0 : ℚ) < significand := by exact_mod_cast Nat.pos_of_ne_zero hpos
  have htwo : (0 : ℚ) < 2 ^ e := zpow_pos two_pos e
  have hlower : (2 : ℚ) ^ ((significand.log2 : Int) + e) ≤ significand * 2 ^ e := by
    rw [zpow_add₀ two_ne_zero]
    refine mul_le_mul_of_nonneg_right ?_ htwo.le
    exact_mod_cast Nat.log2_self_le hpos
  have hupper : (significand : ℚ) * 2 ^ e < 2 ^ ((significand.log2 : Int) + e + 1) := by
    rw [add_right_comm, zpow_add₀ two_ne_zero]
    refine mul_lt_mul_of_pos_right ?_ htwo
    exact_mod_cast Nat.lt_log2_self
  have hle := (Int.zpow_le_iff_le_log Nat.one_lt_two (mul_pos hs htwo)).mp hlower
  have hlt := (Int.lt_zpow_iff_log_lt Nat.one_lt_two (mul_pos hs htwo)).mp hupper
  omega

theorem floorLog_congr {a b c d : Nat} (ha : 0 < a) (hb : 0 < b) (hd : 0 < d)
    (h : a * d = c * b) : floorLog a b = floorLog c d := by
  have hc : 0 < c := Nat.pos_of_mul_pos_right (h ▸ Nat.mul_pos ha hd)
  rw [floorLog_eq ha hb, floorLog_eq hc hd]
  congr 1
  have hb' : (b : ℚ) ≠ 0 := by exact_mod_cast hb.ne'
  have hd' : (d : ℚ) ≠ 0 := by exact_mod_cast hd.ne'
  rw [div_eq_div_iff hb' hd']
  exact_mod_cast h

theorem nearest_congr (negative : Bool) {a b c d : Nat} (hb : 0 < b) (hd : 0 < d)
    (h : a * d = c * b) : nearest negative a b = nearest negative c d := by
  by_cases ha : a = 0
  · have hc : c = 0 := by
      subst ha
      simpa [hb.ne'] using h.symm
    rw [ha, hc, nearest, nearest, if_pos rfl, if_pos rfl]
  · have hc : c ≠ 0 := by
      rintro rfl
      simp [ha, hd.ne'] at h
    have hlog := floorLog_congr (Nat.pos_of_ne_zero ha) hb hd h
    have hround (e : Int) :
        roundQuotient (a * Nat.pow 2 (-e).toNat) (b * Nat.pow 2 e.toNat) =
          roundQuotient (c * Nat.pow 2 (-e).toNat) (d * Nat.pow 2 e.toNat) := by
      refine roundQuotient_congr (Nat.mul_pos hb (Nat.pow_pos Nat.two_pos))
        (Nat.mul_pos hd (Nat.pow_pos Nat.two_pos)) ?_
      calc a * Nat.pow 2 (-e).toNat * (d * Nat.pow 2 e.toNat)
          = a * d * (Nat.pow 2 (-e).toNat * Nat.pow 2 e.toNat) := by ring
        _ = c * Nat.pow 2 (-e).toNat * (b * Nat.pow 2 e.toNat) := by rw [h]; ring
    simp only [nearest, if_neg ha, if_neg hc, hlog, hround]

/-- The significand has 53 bits unless the exponent is the least. -/
def IsCanonical : Binary64 → Prop
  | finite _ significand exponent =>
    significand < Nat.pow 2 53 ∧ leastExponent ≤ exponent ∧ exponent ≤ greatestExponent ∧
      (exponent = leastExponent ∨ Nat.pow 2 52 ≤ significand)
  | _ => True

theorem isCanonical_zero (negative : Bool) : (zero negative).IsCanonical := by
  refine ⟨by decide, by decide, by decide, .inl rfl⟩

theorem powerDen_pos (exponent : Int) : 0 < powerDen exponent :=
  Nat.pow_pos Nat.two_pos

/-- What is left of the quotient once its exponent is taken out. -/
theorem scaled_bounds {num den : Nat} (hnum : 0 < num) (hden : 0 < den) (e : Int) :
    (floorLog num den - 52 ≤ e →
      num * Nat.pow 2 (-e).toNat ≤ Nat.pow 2 53 * (den * Nat.pow 2 e.toNat)) ∧
    (e ≤ floorLog num den - 52 →
      Nat.pow 2 52 * (den * Nat.pow 2 e.toNat) ≤ num * Nat.pow 2 (-e).toNat) := by
  have hq : (0 : ℚ) < num / den := div_pos (by exact_mod_cast hnum) (by exact_mod_cast hden)
  rw [floorLog_eq hnum hden]
  constructor
  · intro h
    refine (div_le_mul_two_zpow_iff hden (2 ^ 53) e).mp ?_
    calc (num : ℚ) / den ≤ 2 ^ (Int.log 2 ((num : ℚ) / den) + 1) :=
          (Int.lt_zpow_succ_log_self Nat.one_lt_two _).le
      _ ≤ 2 ^ (53 + e) := zpow_le_zpow_right₀ one_le_two (by omega)
      _ = (2 ^ 53 : Nat) * 2 ^ e := by
          rw [zpow_add₀ two_ne_zero]
          norm_num
  · intro h
    refine (mul_two_zpow_le_div_iff hden (2 ^ 52) e).mp ?_
    calc ((2 ^ 52 : Nat) : ℚ) * 2 ^ e = 2 ^ (52 + e) := by
          rw [zpow_add₀ two_ne_zero]
          norm_num
      _ ≤ 2 ^ Int.log 2 ((num : ℚ) / den) := zpow_le_zpow_right₀ one_le_two (by omega)
      _ ≤ num / den := Int.zpow_log_le_self Nat.one_lt_two hq

theorem isCanonical_nearest (negative : Bool) (num : Nat) {den : Nat} (hden : 0 < den) :
    (nearest negative num den).IsCanonical := by
  by_cases hnum : num = 0
  · rw [nearest, if_pos hnum]
    exact isCanonical_zero negative
  obtain ⟨hupper, hlower⟩ := scaled_bounds (Nat.pos_of_ne_zero hnum) hden
    (max (floorLog num den - 52) leastExponent)
  have hpos : 0 < den * Nat.pow 2 (max (floorLog num den - 52) leastExponent).toNat :=
    Nat.mul_pos hden (Nat.pow_pos Nat.two_pos)
  have hround := roundQuotient_le hpos (hupper (le_max_left _ _))
  have hleast : leastExponent ≤ max (floorLog num den - 52) leastExponent := le_max_right _ _
  have hnormal (h : leastExponent ≠ max (floorLog num den - 52) leastExponent) :=
    le_roundQuotient hpos (hlower (by omega))
  simp only [nearest, if_neg hnum]
  generalize max (floorLog num den - 52) leastExponent = e at *
  generalize roundQuotient _ _ = r at *
  by_cases hcarry : r = Nat.pow 2 53
  · simp only [hcarry, if_true]
    split
    · trivial
    · exact ⟨by decide, by omega, by omega, .inr (by decide)⟩
  · simp only [hcarry, if_false]
    split
    · trivial
    · exact ⟨by omega, hleast, by omega, by tauto⟩

theorem powerNum_div_powerDen (significand : Nat) (exponent : Int) :
    ((powerNum significand exponent : Nat) : ℚ) / powerDen exponent =
      significand * 2 ^ exponent := by
  rw [two_zpow, powerNum, powerDen, Nat.cast_mul, mul_div_assoc]
  rfl

/-- A canonical number is nearest to its own value. -/
theorem nearest_self {negative : Bool} {significand : Nat} {exponent : Int}
    (h : (finite negative significand exponent).IsCanonical) (hpos : significand ≠ 0) :
    nearest negative (powerNum significand exponent) (powerDen exponent) =
      finite negative significand exponent := by
  obtain ⟨hbound, hleast, hgreatest, hnormal⟩ := h
  have hs : 0 < powerNum significand exponent :=
    Nat.mul_pos (Nat.pos_of_ne_zero hpos) (Nat.pow_pos Nat.two_pos)
  have hlog : floorLog (powerNum significand exponent) (powerDen exponent) =
      significand.log2 + exponent := by
    rw [floorLog_eq hs (powerDen_pos exponent), powerNum_div_powerDen, log_mul_two_zpow hpos]
  have hexponent : max ((significand.log2 : Int) + exponent - 52) leastExponent = exponent := by
    have hupper : significand.log2 < 53 := (Nat.log2_lt hpos).mpr hbound
    rcases hnormal with rfl | hnormal
    · exact max_eq_right (by omega)
    · have hlower : 52 ≤ significand.log2 := (Nat.le_log2 hpos).mpr hnormal
      rw [show significand.log2 = 52 by omega]
      exact (congrArg₂ max (by omega) rfl).trans (max_eq_left hleast)
  have hexact : roundQuotient (powerNum significand exponent * Nat.pow 2 (-exponent).toNat)
      (powerDen exponent * Nat.pow 2 exponent.toNat) = significand := by
    have hsplit : powerNum significand exponent * Nat.pow 2 (-exponent).toNat =
        significand * (powerDen exponent * Nat.pow 2 exponent.toNat) := by
      rw [powerNum, powerDen, Nat.mul_assoc, Nat.mul_comm (Nat.pow 2 exponent.toNat)]
    have hden : 0 < powerDen exponent * Nat.pow 2 exponent.toNat :=
      Nat.mul_pos (powerDen_pos exponent) (Nat.pow_pos Nat.two_pos)
    rw [hsplit, roundQuotient_of_dvd hden (Nat.dvd_mul_left _ _), Nat.mul_div_cancel _ hden]
  have hcarry : ¬significand = Nat.pow 2 53 := by omega
  simp only [nearest, hs.ne', if_false, hlog, hexponent, hexact, hcarry]
  rw [if_neg (by omega)]

end Binary64
end SnippetCoach.Number
