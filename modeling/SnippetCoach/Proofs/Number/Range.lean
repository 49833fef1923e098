import SnippetCoach.Proofs.Number.Nearest
/-! The range of rounding to binary64. What lies below a number of the format is not rounded beyond
it, small whole numbers are exact, and rounding leaves the format from half a unit above the
greatest number on. No operation loses the sign. -/
namespace SnippetCoach.Number

/-- A tie below an even number goes up. -/
theorem le_roundQuotient_iff {num den bound : Nat} (hpos : 0 < den) (heven : bound % 2 = 0) :
    bound ≤ roundQuotient num den ↔ 2 * (bound * den) ≤ 2 * num + den := by
  constructor
  · intro h
    obtain ⟨-, hupper⟩ := @roundQuotient_bounds num den hpos
    have hstep := Nat.mul_le_mul_right den h
    omega
  · intro h
    have hsplit := Nat.div_add_mod num den
    have hmod := Nat.mod_lt num hpos
    rw [Nat.mul_comm] at hsplit
    have hnext : bound ≤ num / den + 1 := by
      by_contra hlt
      have hstep := Nat.mul_le_mul_right den (Nat.lt_of_not_le hlt)
      rw [Nat.succ_mul, Nat.add_mul, Nat.one_mul] at hstep
      omega
    rcases Nat.lt_or_ge (num / den) bound with hlt | hle
    · -- the quotient has to be rounded up, by an excess or by a tie
      obtain rfl : bound = num / den + 1 := by omega
      rw [Nat.add_mul, Nat.one_mul] at h
      simp only [roundQuotient]
      split
      · omega
      · split
        · exact Nat.le_refl _
        · omega
    · simp only [roundQuotient]
      split
      · exact hle
      · split
        · omega
        · omega

namespace Binary64

variable {num den significand : Nat} {exponent : Int}

/-- The exponent at which a quotient is rounded. -/
def unitExponent (num den : Nat) : Int :=
  max (floorLog num den - 52) leastExponent

/-- The multiple of that power of two that is nearest to the quotient. -/
def roundedUnits (num den : Nat) : Nat :=
  roundQuotient (num * Nat.pow 2 (-unitExponent num den).toNat)
    (den * Nat.pow 2 (unitExponent num den).toNat)

/-- A significand of 54 bits is carried over, and the result is finite up to the greatest
exponent. -/
theorem nearest_cases (negative : Bool) (hnum : num ≠ 0) (hden : 0 < den) :
    (roundedUnits num den < Nat.pow 2 53 ∧ unitExponent num den ≤ greatestExponent ∧
      nearest negative num den = finite negative (roundedUnits num den) (unitExponent num den)) ∨
    (roundedUnits num den = Nat.pow 2 53 ∧ unitExponent num den < greatestExponent ∧
      nearest negative num den = finite negative (Nat.pow 2 52) (unitExponent num den + 1)) ∨
    (greatestExponent < unitExponent num den ∨
        unitExponent num den = greatestExponent ∧ roundedUnits num den = Nat.pow 2 53) ∧
      nearest negative num den = infinite negative := by
  have hpos : 0 < den * Nat.pow 2 (unitExponent num den).toNat :=
    Nat.mul_pos hden (Nat.pow_pos Nat.two_pos)
  have hle : roundedUnits num den ≤ Nat.pow 2 53 :=
    roundQuotient_le hpos
      ((scaled_bounds (Nat.pos_of_ne_zero hnum) hden _).1 (le_max_left _ _))
  have hnearest : nearest negative num den =
      if greatestExponent < (if roundedUnits num den = Nat.pow 2 53 then unitExponent num den + 1
        else unitExponent num den) then infinite negative
      else finite negative (if roundedUnits num den = Nat.pow 2 53 then Nat.pow 2 52
        else roundedUnits num den) (if roundedUnits num den = Nat.pow 2 53
          then unitExponent num den + 1 else unitExponent num den) := by
    simp only [nearest, if_neg hnum]
    rfl
  rw [hnearest]
  by_cases hcarry : roundedUnits num den = Nat.pow 2 53
  · simp only [hcarry, if_true]
    split
    · rename_i hbeyond
      have hleast : greatestExponent < unitExponent num den ∨
          unitExponent num den = greatestExponent := by omega
      exact .inr (.inr ⟨hleast.imp_right fun h => ⟨h, trivial⟩, rfl⟩)
    · exact .inr (.inl ⟨trivial, by omega, rfl⟩)
  · simp only [hcarry, if_false]
    split
    · exact .inr (.inr ⟨.inl ‹_›, rfl⟩)
    · exact .inl ⟨by omega, by omega, rfl⟩

theorem two_zpow_split {least greater : Int} (h : least ≤ greater) :
    (2 : ℚ) ^ greater = 2 ^ (greater - least).toNat * 2 ^ least := by
  rw [← zpow_natCast, ← zpow_add₀ two_ne_zero]
  congr 1
  omega

section Bounded

variable {negative : Bool} (hnum : num ≠ 0) (hden : 0 < den)
  (hcanonical : (finite negative significand exponent).IsCanonical)
  (hle : (num : ℚ) / den ≤ significand * 2 ^ exponent)
include hnum hden hcanonical hle

theorem unitExponent_le : unitExponent num den ≤ exponent := by
  obtain ⟨hbound, hleast, -, -⟩ := hcanonical
  have hq : (0 : ℚ) < num / den :=
    div_pos (by exact_mod_cast Nat.pos_of_ne_zero hnum) (by exact_mod_cast hden)
  have hsignificand : significand ≠ 0 := by
    rintro rfl
    rw [Nat.cast_zero, zero_mul] at hle
    exact absurd hle (not_le.mpr hq)
  have hlog : floorLog num den ≤ significand.log2 + exponent := by
    rw [floorLog_eq (Nat.pos_of_ne_zero hnum) hden, ← log_mul_two_zpow hsignificand]
    exact Int.log_mono_right hq hle
  have hbits : significand.log2 < 53 := (Nat.log2_lt hsignificand).mpr hbound
  rw [unitExponent]
  omega

theorem roundedUnits_le :
    roundedUnits num den ≤ significand * 2 ^ (exponent - unitExponent num den).toNat := by
  have hexponent := unitExponent_le hnum hden hcanonical hle
  refine roundQuotient_le (Nat.mul_pos hden (Nat.pow_pos Nat.two_pos)) ?_
  refine (div_le_mul_two_zpow_iff hden _ _).mp ?_
  rw [two_zpow_split hexponent, ← mul_assoc] at hle
  exact_mod_cast hle

end Bounded

/-- What lies below a number of the format is not rounded beyond it. -/
theorem nearest_le {negative : Bool} (hden : 0 < den)
    (hcanonical : (finite negative significand exponent).IsCanonical)
    (hle : (num : ℚ) / den ≤ significand * 2 ^ exponent) :
    ∃ s e, nearest negative num den = finite negative s e ∧
      (s : ℚ) * 2 ^ e ≤ significand * 2 ^ exponent := by
  by_cases hnum : num = 0
  · refine ⟨0, leastExponent, if_pos hnum, ?_⟩
    rw [Nat.cast_zero, zero_mul]
    exact mul_nonneg (Nat.cast_nonneg _) (zpow_nonneg zero_le_two _)
  have hexponent := unitExponent_le hnum hden hcanonical hle
  have hunits := roundedUnits_le hnum hden hcanonical hle
  obtain ⟨hbound, -, hgreatest, -⟩ := hcanonical
  have hvalue : (roundedUnits num den : ℚ) * 2 ^ unitExponent num den ≤
      significand * 2 ^ exponent := by
    rw [two_zpow_split hexponent, ← mul_assoc]
    refine mul_le_mul_of_nonneg_right ?_ (zpow_nonneg zero_le_two _)
    exact_mod_cast hunits
  rcases nearest_cases negative hnum hden with
      ⟨-, -, heq⟩ | ⟨hcarried, -, heq⟩ | ⟨hbeyond | ⟨hlast, hcarried⟩, -⟩
  · exact ⟨_, _, heq, hvalue⟩
  · refine ⟨_, _, heq, ?_⟩
    rw [hcarried] at hvalue
    calc ((Nat.pow 2 52 : Nat) : ℚ) * 2 ^ (unitExponent num den + 1)
        = (Nat.pow 2 53 : Nat) * 2 ^ unitExponent num den := by
          rw [zpow_add₀ two_ne_zero]
          norm_num
          ring
      _ ≤ significand * 2 ^ exponent := hvalue
  · omega
  · have hnone : (exponent - unitExponent num den).toNat = 0 := by omega
    rw [hcarried, hnone, Nat.pow_zero, Nat.mul_one] at hunits
    omega

/-- The least whole number that is rounded beyond the format, half a unit above its greatest
number. -/
def overflow : Nat :=
  (2 ^ 54 - 1) * 2 ^ 970

theorem overflow_pos : 0 < overflow := by
  decide +kernel

theorem two_pow_le_overflow : 2 ^ 1023 ≤ overflow := by
  decide +kernel

theorem overflow_le_two_pow : overflow ≤ 2 ^ 1024 := by
  decide +kernel

theorem le_floorLog_iff (hnum : num ≠ 0) (hden : 0 < den) (power : Nat) :
    (power : Int) ≤ floorLog num den ↔ 2 ^ power * den ≤ num := by
  have hq : (0 : ℚ) < num / den :=
    div_pos (by exact_mod_cast Nat.pos_of_ne_zero hnum) (by exact_mod_cast hden)
  have hd : (0 : ℚ) < den := by exact_mod_cast hden
  rw [floorLog_eq (Nat.pos_of_ne_zero hnum) hden, ← Int.zpow_le_iff_le_log Nat.one_lt_two hq,
    le_div_iff₀ hd]
  norm_cast

theorem greatestExponent_le_unitExponent (hnum : num ≠ 0) (hden : 0 < den)
    (h : overflow * den ≤ num) : greatestExponent ≤ unitExponent num den := by
  have hlog : ((1023 : Nat) : Int) ≤ floorLog num den :=
    (le_floorLog_iff hnum hden 1023).mpr
      (le_trans (Nat.mul_le_mul_right den two_pow_le_overflow) h)
  simp only [unitExponent, greatestExponent]
  omega

theorem le_roundedUnits_iff (hden : 0 < den) (h : unitExponent num den = greatestExponent) :
    Nat.pow 2 53 ≤ roundedUnits num den ↔ overflow * den ≤ num := by
  have hhalf : 0 < den * 2 ^ 970 := by positivity
  have hlimit : overflow * den = (2 ^ 54 - 1) * (den * 2 ^ 970) := by
    rw [overflow, Nat.mul_assoc, Nat.mul_comm den]
  have hunit : den * 2 ^ greatestExponent.toNat = 2 * (den * 2 ^ 970) := by
    have hpower : 2 ^ greatestExponent.toNat = 2 ^ 970 * 2 := by decide +kernel
    rw [hpower, ← Nat.mul_assoc, Nat.mul_comm]
  have hwhole : num * 2 ^ (-greatestExponent).toNat = num := Nat.mul_one num
  rw [roundedUnits, h]
  simp only [Nat.pow_eq]
  rw [hwhole, hunit, hlimit]
  generalize den * 2 ^ 970 = half at hhalf
  rw [le_roundQuotient_iff (Nat.mul_pos Nat.two_pos hhalf) (by decide)]
  omega

theorem finite_ne_infinite {negative sign : Bool} :
    finite negative significand exponent ≠ infinite sign := by
  intro h
  cases h

/-- Rounding leaves the format from half a unit above its greatest number on. -/
theorem nearest_eq_infinite_iff (negative : Bool) (num : Nat) (hden : 0 < den) :
    nearest negative num den = infinite negative ↔ overflow * den ≤ num := by
  have hlimit : 0 < overflow * den := Nat.mul_pos overflow_pos hden
  by_cases hnum : num = 0
  · subst hnum
    rw [nearest, if_pos rfl]
    exact iff_of_false finite_ne_infinite (by omega)
  · rcases nearest_cases negative hnum hden with
        ⟨hunits, hexponent, heq⟩ | ⟨-, hexponent, heq⟩ | ⟨hbeyond, heq⟩
    · rw [heq]
      refine iff_of_false finite_ne_infinite fun h => ?_
      have hleast := greatestExponent_le_unitExponent hnum hden h
      have hcarried := (le_roundedUnits_iff hden (le_antisymm hexponent hleast)).mpr h
      omega
    · rw [heq]
      refine iff_of_false finite_ne_infinite fun h => ?_
      have hleast := greatestExponent_le_unitExponent hnum hden h
      omega
    · rw [heq]
      refine iff_of_true rfl ?_
      rcases hbeyond with hgreater | ⟨hlast, hcarried⟩
      · have hlog : ((1024 : Nat) : Int) ≤ floorLog num den := by
          simp only [unitExponent, greatestExponent, leastExponent] at hgreater
          omega
        exact le_trans (Nat.mul_le_mul_right den overflow_le_two_pow)
          ((le_floorLog_iff hnum hden 1024).mp hlog)
      · exact (le_roundedUnits_iff hden hlast).mp hcarried.ge

/-- Whole numbers of 53 bits are numbers of the format. -/
theorem exists_nearest_eq (negative : Bool) {n : Nat} (h : n < 2 ^ 53) :
    ∃ s e, nearest negative n 1 = finite negative s e ∧ (s : ℚ) * 2 ^ e = n := by
  by_cases hzero : n = 0
  · subst hzero
    exact ⟨0, leastExponent, if_pos rfl, by rw [Nat.cast_zero, zero_mul]⟩
  · obtain ⟨shift, hshift⟩ :=
      Nat.exists_eq_add_of_le (Nat.le_of_lt_succ ((Nat.log2_lt hzero).mpr h))
    have hlower : 2 ^ 52 ≤ n * 2 ^ shift := by
      rw [hshift, Nat.pow_add]
      exact Nat.mul_le_mul_right _ (Nat.log2_self_le hzero)
    have hupper : n * 2 ^ shift < 2 ^ 53 := by
      calc n * 2 ^ shift < 2 ^ (n.log2 + 1) * 2 ^ shift :=
            Nat.mul_lt_mul_of_pos_right Nat.lt_log2_self (Nat.two_pow_pos shift)
        _ = 2 ^ 53 := by
            rw [← Nat.pow_add]
            congr 1
            omega
    have hdown : (-(-(shift : Int))).toNat = shift := by omega
    have hup : (-(shift : Int)).toNat = 0 := by omega
    have hcanonical : (finite negative (n * 2 ^ shift) (-shift)).IsCanonical :=
      ⟨hupper, by simp only [leastExponent]; omega, by simp only [greatestExponent]; omega,
        .inr hlower⟩
    have hself := nearest_self hcanonical (by omega)
    have hsame : nearest negative n 1 =
        nearest negative (powerNum (n * 2 ^ shift) (-shift)) (powerDen (-shift)) := by
      refine nearest_congr negative Nat.one_pos (powerDen_pos _) ?_
      rw [powerNum, powerDen, hdown, hup]
      simp only [Nat.pow_eq, Nat.pow_zero, Nat.mul_one]
    refine ⟨_, _, hsame.trans hself, ?_⟩
    rw [zpow_neg, zpow_natCast, Nat.cast_mul, Nat.cast_pow, Nat.cast_ofNat, mul_assoc,
      mul_inv_cancel₀ (pow_ne_zero _ two_ne_zero), mul_one]

/-- Rounding gives a finite number or an infinite one of its sign. -/
theorem nearest_finite_or_infinite (negative : Bool) (num : Nat) (hden : 0 < den) :
    (∃ s e, nearest negative num den = finite negative s e) ∨
      nearest negative num den = infinite negative := by
  by_cases hnum : num = 0
  · exact .inl ⟨0, leastExponent, if_pos hnum⟩
  · rcases nearest_cases negative hnum hden with ⟨-, -, heq⟩ | ⟨-, -, heq⟩ | ⟨-, heq⟩
    · exact .inl ⟨_, _, heq⟩
    · exact .inl ⟨_, _, heq⟩
    · exact .inr heq

/-- A quotient of whole numbers is refused from the limit of the format on. -/
theorem ofQuotient?_cases (num : Int) (hden : 0 < den) :
    (num.natAbs < overflow * den ∧ ∃ s e, ofQuotient? num den = .ok (finite (num < 0) s e)) ∨
      (overflow * den ≤ num.natAbs ∧ ofQuotient? num den = .error .quotientTooLarge) := by
  have hlimit := nearest_eq_infinite_iff (num < 0) num.natAbs hden
  rcases nearest_finite_or_infinite (num < 0) num.natAbs hden with ⟨s, e, heq⟩ | heq
  · rw [heq] at hlimit
    refine .inl ⟨Nat.lt_of_not_le fun h => absurd (hlimit.mpr h) finite_ne_infinite, s, e, ?_⟩
    rw [ofQuotient?, heq]
  · refine .inr ⟨hlimit.mp heq, ?_⟩
    rw [ofQuotient?, heq]

/-- A whole number is a number of the format, or too large for it. It is exact up to 53 bits. -/
theorem ofInt?_natCast (n : Nat) :
    (∃ s e, ofInt? n = .ok (finite false s e) ∧ (finite false s e).IsCanonical ∧
      (n < 2 ^ 53 → (s : ℚ) * 2 ^ e = n)) ∨
    (2 ^ 53 ≤ n ∧ ofInt? n = .error .integerTooLarge) := by
  have hsign : decide ((n : Int) < 0) = false := decide_eq_false (Int.not_lt.mpr n.cast_nonneg)
  have hcanonical := isCanonical_nearest false n Nat.one_pos
  rcases nearest_finite_or_infinite false n Nat.one_pos with ⟨s, e, heq⟩ | heq
  · rw [heq] at hcanonical
    refine .inl ⟨s, e, ?_, hcanonical, fun h => ?_⟩
    · rw [ofInt?, hsign, Int.natAbs_natCast, heq]
    · obtain ⟨s', e', heq', hvalue⟩ := exists_nearest_eq false h
      obtain ⟨-, rfl, rfl⟩ := finite.inj (heq.symm.trans heq')
      exact hvalue
  · refine .inr ⟨Nat.le_of_not_lt fun h => ?_, ?_⟩
    · obtain ⟨s, e, heq', -⟩ := exists_nearest_eq false h
      exact absurd (heq'.symm.trans heq) finite_ne_infinite
    · rw [ofInt?, hsign, Int.natAbs_natCast, heq]

/-- A number that is cut off at a bound of 53 bits is finite and within the bound. -/
theorem exists_atMost_nearest (num : Nat) (hden : 0 < den) {bound : Nat} (hbound : bound < 2 ^ 53) :
    ∃ s e, (nearest false num den).atMost bound = finite false s e ∧ (s : ℚ) * 2 ^ e ≤ bound := by
  obtain ⟨s, e, hexact, hvalue⟩ := exists_nearest_eq false hbound
  rcases nearest_finite_or_infinite false num hden with ⟨t, f, heq⟩ | heq
  · rw [heq, atMost]
    split
    · exact ⟨s, e, hexact, hvalue.le⟩
    · rename_i hle
      refine ⟨t, f, rfl, ?_⟩
      rw [← powerNum_div_powerDen, div_le_iff₀ (by exact_mod_cast powerDen_pos f)]
      exact_mod_cast Nat.not_lt.mp hle
  · rw [heq]
    exact ⟨s, e, hexact, hvalue.le⟩

/-- A number at most the divisor gives at most one. -/
theorem exists_divNat_eq (negative : Bool) {divisor : Nat} (hpos : 0 < divisor)
    (hle : (significand : ℚ) * 2 ^ exponent ≤ divisor) :
    ∃ s e, (finite negative significand exponent).divNat divisor = finite negative s e ∧
      (s : ℚ) * 2 ^ e ≤ 1 := by
  have hden : 0 < powerDen exponent * divisor := Nat.mul_pos (powerDen_pos exponent) hpos
  have hcanonical : (finite negative (2 ^ 52) (-52)).IsCanonical :=
    ⟨by decide, by decide, by decide, .inr (by decide)⟩
  have hone : ((2 ^ 52 : Nat) : ℚ) * 2 ^ (-52 : Int) = 1 := by norm_num
  have hvalue : ((powerNum significand exponent : Nat) : ℚ) / (powerDen exponent * divisor : Nat) ≤
      (2 ^ 52 : Nat) * 2 ^ (-52 : Int) := by
    rw [hone, Nat.cast_mul, ← div_div, powerNum_div_powerDen]
    exact div_le_one_of_le₀ hle (Nat.cast_nonneg divisor)
  obtain ⟨s, e, heq, h⟩ := nearest_le hden hcanonical hvalue
  exact ⟨s, e, heq, h.trans hone.le⟩

/-- A fraction of a number is at most the number. -/
theorem exists_mul_eq {negative sign : Bool} {s : Nat} {e : Int}
    (hcanonical : (finite (negative != sign) significand exponent).IsCanonical)
    (hle : (s : ℚ) * 2 ^ e ≤ 1) :
    ∃ t f, (finite negative s e).mul (finite sign significand exponent) =
        finite (negative != sign) t f ∧ (t : ℚ) * 2 ^ f ≤ significand * 2 ^ exponent := by
  refine nearest_le (Nat.mul_pos (powerDen_pos e) (powerDen_pos exponent)) hcanonical ?_
  rw [Nat.cast_mul, Nat.cast_mul, mul_div_mul_comm, powerNum_div_powerDen, powerNum_div_powerDen]
  exact mul_le_of_le_one_left (mul_nonneg (Nat.cast_nonneg _) (zpow_nonneg zero_le_two _)) hle

theorem roundQuotient_power_le {bound : Nat} (h : (significand : ℚ) * 2 ^ exponent ≤ bound) :
    roundQuotient (powerNum significand exponent) (powerDen exponent) ≤ bound := by
  refine roundQuotient_le (powerDen_pos exponent) ?_
  rw [← powerNum_div_powerDen, div_le_iff₀ (by exact_mod_cast powerDen_pos exponent)] at h
  exact_mod_cast h

/-- The sign of a number, which also zeros have. What is no number has either. -/
def HasSign (negative : Bool) : Binary64 → Prop
  | nan => True
  | infinite sign => sign = negative
  | finite sign _ _ => sign = negative

theorem hasSign_nearest (negative : Bool) (num : Nat) (hden : 0 < den) :
    (nearest negative num den).HasSign negative := by
  rcases nearest_finite_or_infinite negative num hden with ⟨s, e, heq⟩ | heq
  · rw [heq]
    exact rfl
  · rw [heq]
    exact rfl

theorem hasSign_ofQuotient? {num : Int} (hden : 0 < den) {x : Binary64}
    (h : ofQuotient? num den = .ok x) : x.HasSign (num < 0) := by
  rcases ofQuotient?_cases num hden with ⟨-, s, e, heq⟩ | ⟨-, heq⟩
  · obtain rfl := Except.ok.inj (heq.symm.trans h)
    exact rfl
  · cases heq.symm.trans h

theorem HasSign.mul {x y : Binary64} {negative sign : Bool} (hx : x.HasSign negative)
    (hy : y.HasSign sign) : (x.mul y).HasSign (negative != sign) := by
  cases x with
  | nan => exact trivial
  | infinite =>
      obtain rfl := hx
      cases y with
      | nan => exact trivial
      | infinite => exact congrArg _ hy
      | finite =>
          obtain rfl := hy
          rw [Binary64.mul]
          split
          · exact trivial
          · exact rfl
  | finite =>
      obtain rfl := hx
      cases y with
      | nan => exact trivial
      | infinite =>
          obtain rfl := hy
          rw [Binary64.mul]
          split
          · exact trivial
          · exact rfl
      | finite =>
          obtain rfl := hy
          exact hasSign_nearest _ _ (Nat.mul_pos (powerDen_pos _) (powerDen_pos _))

theorem HasSign.divNat {x : Binary64} {negative : Bool} (hx : x.HasSign negative) {divisor : Nat}
    (hpos : 0 < divisor) : (x.divNat divisor).HasSign negative := by
  cases x with
  | nan => exact trivial
  | infinite => exact hx
  | finite =>
      obtain rfl := hx
      exact hasSign_nearest _ _ (Nat.mul_pos (powerDen_pos _) hpos)

theorem HasSign.atMost {x : Binary64} (hx : x.HasSign true) {bound : Nat} :
    (x.atMost bound).HasSign true := by
  cases x with
  | nan => exact trivial
  | infinite =>
      obtain rfl := hx
      exact rfl
  | finite =>
      obtain rfl := hx
      exact rfl

theorem HasSign.round_nonpos {x : Binary64} (hx : x.HasSign true) {n : Int} (h : x.round = .ok n) :
    n ≤ 0 := by
  cases x with
  | nan => cases h
  | infinite => cases h
  | finite =>
      obtain rfl := hx
      obtain rfl := Except.ok.inj h
      exact Int.neg_nonpos_of_nonneg (Int.natCast_nonneg _)

end Binary64
end SnippetCoach.Number
