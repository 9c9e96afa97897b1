import MailTriage.Number.Decimal
import MailTriage.Proofs.Number.Shortest

/-! # The quicker way to read a decimal

Rounding moves a quotient by half a unit at most, which is one part in `2 ^ 53` of it unless it is
tiny, and it never more than doubles a quotient (`Double.exists_ofRatio?`).  The quicker way rounds
three times.  Upwards the three together stay below the next power of two as long as the decimal does
by a few units; downwards each division makes a number smaller, whatever its rounding adds.  So the
quicker way does not fail either (`Decimal.exists_quick?`).
-/
namespace MailTriage

/-! ### How far rounding moves -/

/-- A quotient is rounded down if what is left is half of the divisor at most, and else up. -/
theorem roundHalfEven_cases (num den : Nat) :
    (roundHalfEven num den = num / den ∧ 2 * (num % den) ≤ den)
      ∨ (roundHalfEven num den = num / den + 1 ∧ den ≤ 2 * (num % den)) := by
  unfold roundHalfEven
  dsimp only
  split
  · next h =>
    rw [Bool.or_eq_true, Bool.and_eq_true, decide_eq_true_eq, decide_eq_true_eq] at h
    exact .inl ⟨rfl, by omega⟩
  · next h =>
    rw [Bool.or_eq_true, Bool.and_eq_true, decide_eq_true_eq, decide_eq_true_eq] at h
    exact .inr ⟨rfl, by omega⟩

theorem abs_roundHalfEven_sub_le (num : Nat) {den : Nat} (hden : 0 < den) :
    |(roundHalfEven num den : ℚ) - num / den| ≤ 1 / 2 := by
  have hdenQ : (0 : ℚ) < den := Nat.cast_pos.mpr hden
  have hnum : (num : ℚ) / den = (num / den : ℕ) + (num % den : ℕ) / den := by
    rw [div_eq_iff hdenQ.ne', add_mul, div_mul_cancel₀ _ hdenQ.ne']
    exact_mod_cast (Nat.div_add_mod' num den).symm
  have hless : ((num % den : ℕ) : ℚ) / den < 1 :=
    (div_lt_one hdenQ).mpr (Nat.cast_lt.mpr (Nat.mod_lt num hden))
  have hnonneg : (0 : ℚ) ≤ ((num % den : ℕ) : ℚ) / den := by positivity
  rw [hnum, abs_le]
  rcases roundHalfEven_cases num den with ⟨hround, hle⟩ | ⟨hround, hge⟩
  · have hhalf : ((num % den : ℕ) : ℚ) / den ≤ 1 / 2 := by
      rw [div_le_div_iff₀ hdenQ two_pos]
      have hcast : ((2 * (num % den) : ℕ) : ℚ) ≤ den := Nat.cast_le.mpr hle
      push_cast at hcast
      linarith
    rw [hround]
    constructor <;> linarith
  · have hhalf : (1 : ℚ) / 2 ≤ ((num % den : ℕ) : ℚ) / den := by
      rw [div_le_div_iff₀ two_pos hdenQ]
      have hcast : (den : ℚ) ≤ ((2 * (num % den) : ℕ) : ℚ) := Nat.cast_le.mpr hge
      push_cast at hcast
      linarith
    rw [hround]
    push_cast
    constructor <;> linarith

theorem roundHalfEven_le_two_mul (num : Nat) {den : Nat} (hden : 0 < den) :
    (roundHalfEven num den : ℚ) ≤ 2 * (num / den) := by
  have hdenQ : (0 : ℚ) < den := Nat.cast_pos.mpr hden
  by_cases hsmall : 2 * num < den
  · rw [roundHalfEven_eq (r := 0) hden (by omega) (by omega) (by omega), Nat.cast_zero]
    positivity
  · have hhalf : (1 : ℚ) / 2 ≤ num / den := by
      rw [div_le_div_iff₀ two_pos hdenQ]
      have hcast : (den : ℚ) ≤ ((2 * num : ℕ) : ℚ) := Nat.cast_le.mpr (not_lt.mp hsmall)
      push_cast at hcast
      linarith
    have hround := (abs_le.mp (abs_roundHalfEven_sub_le num hden)).2
    linarith

namespace Double

/-- The size of a number. -/
def size (x : Double) : ℚ := x.significand * 2 ^ x.exponent

theorem ratio_div (x : Double) : 0 < x.ratio.2 ∧ (x.ratio.1 : ℚ) / x.ratio.2 = x.size := by
  unfold ratio size
  split
  · next he =>
    refine ⟨Nat.one_pos, ?_⟩
    rw [← Int.toNat_of_nonneg he, zpow_natCast]
    push_cast
    rw [div_one, Int.toNat_natCast]
  · next he =>
    refine ⟨Nat.pow_pos (by decide), ?_⟩
    rw [show x.exponent = -(x.exponent.natAbs : ℤ) by omega, zpow_neg, zpow_natCast,
      ← div_eq_mul_inv, Int.natAbs_neg, Int.natAbs_natCast]
    push_cast
    rfl

theorem ratio_pos {x : Double} (h : 0 < x.size) : 0 < x.ratio.1 := by
  obtain ⟨-, heq⟩ := x.ratio_div
  by_contra hzero
  rw [Nat.eq_zero_of_not_pos hzero, Nat.cast_zero, zero_div] at heq
  exact h.ne heq

/-- So many halves of the largest unit below the power of two that is too large. -/
def halvesBelow (n : Nat) : Nat := (2 ^ 54 - n) * 2 ^ 970

theorem cast_halvesBelow {n : Nat} (hn : n ≤ 2 ^ 54) :
    (halvesBelow n : ℚ) = (2 ^ 54 - n) * 2 ^ (970 : ℤ) := by
  rw [show (970 : ℤ) = (970 : ℕ) from rfl, zpow_natCast, halvesBelow, Nat.cast_mul, Nat.cast_sub hn]
  simp only [Nat.cast_pow, Nat.cast_ofNat]

theorem halvesBelow_lt : (halvesBelow 1 : ℚ) < 2 ^ (1024 : ℤ) := by
  rw [cast_halvesBelow (by decide), show (1024 : ℤ) = 54 + 970 by norm_num, two_zpow_add]
  exact mul_lt_mul_of_pos_right (by norm_num) (two_zpow_pos _)

theorem ten_pow_lt_halvesBelow : (10 : ℚ) ^ Decimal.maxPower < halvesBelow 1 := by
  have hnat : 10 ^ Decimal.maxPower < halvesBelow 1 := by decide +kernel
  exact_mod_cast hnat

/-- A quotient that is not too large has an exponent. -/
theorem exponent_le_of_lt_halvesBelow {q : ℚ} {e : ℤ} (hlow : (2 : ℚ) ^ (e + 52) ≤ q)
    (hlt : q < halvesBelow 1) : max minExponent e ≤ maxExponent := by
  have hexp := two_zpow_lt_iff.mp (hlow.trans_lt (hlt.trans halvesBelow_lt))
  unfold maxExponent minExponent
  omega

/-- A quotient that is not too large and is rounded up to one digit more has the next exponent. -/
theorem next_exponent_le {m : ℚ} {e : ℤ} (hmax : e ≤ maxExponent) (hcarry : 2 ^ 53 - 1 / 2 ≤ m)
    (hlt : m * 2 ^ e < halvesBelow 1) : e + 1 ≤ maxExponent := by
  by_contra hlast
  have he : e = 971 := by
    unfold maxExponent at hmax hlast
    omega
  rw [he, cast_halvesBelow (by decide), show (971 : ℤ) = 1 + 970 by norm_num, two_zpow_add,
    ← mul_assoc] at hlt
  have hm := lt_of_mul_lt_mul_right hlt (two_zpow_pos 970).le
  norm_num at hm hcarry
  linarith

/-- A quotient that is not too large is rounded, in units of the power of two that its exponent
is. -/
theorem exists_ofRatio?_size (negative : Bool) {num den : Nat} {e : ℤ} (hden : 0 < den)
    (he : exponentFor num den = e) (hmax : e ≤ maxExponent)
    (hhigh : (num : ℚ) / den < 2 ^ (e + 53)) (hlt : (num : ℚ) / den < halvesBelow 1) :
    ∃ y, ofRatio? negative num den = some y
      ∧ y.size = roundHalfEven (inUnits num den e).1 (inUnits num den e).2 * 2 ^ e := by
  have hunits := (inUnits_div num hden e).1
  have hmeasure := div_eq_inUnits_mul num hden e
  have hnear := (abs_le.mp (abs_roundHalfEven_sub_le (inUnits num den e).1 hunits)).2
  obtain ⟨r, hr⟩ : ∃ r, roundHalfEven (inUnits num den e).1 (inUnits num den e).2 = r := ⟨_, rfl⟩
  rw [hr] at hnear ⊢
  generalize ((inUnits num den e).1 : ℚ) / (inUnits num den e).2 = m at hmeasure hnear
  rw [hmeasure] at hhigh hlt
  by_cases hcarry : r < 2 ^ 53
  · exact ⟨_, ofRatio?_of_lt he hr hcarry hmax, rfl⟩
  · -- the quotient is half a unit below the next power of two at least, and is rounded up to it
    have hbelow : m < 2 ^ (53 : ℕ) := by
      rw [add_comm e, two_zpow_add] at hhigh
      exact_mod_cast lt_of_mul_lt_mul_right hhigh (two_zpow_pos e).le
    have hrlt : (r : ℚ) < 2 ^ 53 + 1 := by linarith
    have hrlt : r < 2 ^ 53 + 1 := by exact_mod_cast hrlt
    obtain rfl : r = 2 ^ 53 := by omega
    push_cast at hnear
    refine ⟨_, ofRatio?_of_carry he hr (next_exponent_le hmax (by linarith) hlt), ?_⟩
    rw [size, add_comm e, two_zpow_add]
    push_cast
    ring

/-- **Rounding moves a quotient little**: by one part in `2 ^ 53`, unless the quotient is tiny, and
to its double at the most. -/
theorem exists_ofRatio? (negative : Bool) {num den : Nat} (hnum : 0 < num) (hden : 0 < den)
    (hlt : (num : ℚ) / den < halvesBelow 1) :
    ∃ y, ofRatio? negative num den = some y ∧ y.size ≤ 2 * (num / den)
      ∧ (2 ^ (-1022 : ℤ) ≤ (num : ℚ) / den → |y.size - num / den| ≤ num / den / 2 ^ 53) := by
  obtain ⟨e, he, hlow, hhigh⟩ := exists_binary_exponent hnum hden
  have hmax := exponent_le_of_lt_halvesBelow hlow hlt
  have htop : (num : ℚ) / den < 2 ^ (max minExponent e + 53) :=
    hhigh.trans_le (zpow_le_zpow_right₀ one_le_two (by omega))
  obtain ⟨y, hy, hsize⟩ := exists_ofRatio?_size negative hden he hmax htop hlt
  have hunits := (inUnits_div num hden (max minExponent e)).1
  have hmeasure := div_eq_inUnits_mul num hden (max minExponent e)
  have hnear := abs_roundHalfEven_sub_le (inUnits num den (max minExponent e)).1 hunits
  have hdouble := roundHalfEven_le_two_mul (inUnits num den (max minExponent e)).1 hunits
  have hunit := two_zpow_pos (max minExponent e)
  generalize (roundHalfEven (inUnits num den (max minExponent e)).1
    (inUnits num den (max minExponent e)).2 : ℚ) = r at hsize hnear hdouble
  generalize ((inUnits num den (max minExponent e)).1 : ℚ)
    / (inUnits num den (max minExponent e)).2 = m at hmeasure hnear hdouble
  refine ⟨y, hy, ?_, fun hlarge => ?_⟩
  · rw [hsize, hmeasure, ← mul_assoc]
    exact mul_le_mul_of_nonneg_right hdouble hunit.le
  · have hown : max minExponent e = e := by
      have hexp := two_zpow_lt_iff.mp (hlarge.trans_lt hhigh)
      unfold minExponent
      omega
    calc |y.size - num / den| = |(r - m) * 2 ^ max minExponent e| := by
          rw [hsize, hmeasure, ← sub_mul]
      _ = |r - m| * 2 ^ max minExponent e := by rw [abs_mul, abs_of_pos hunit]
      _ ≤ 1 / 2 * 2 ^ max minExponent e := mul_le_mul_of_nonneg_right hnear hunit.le
      _ = 2 ^ (e + 52) / 2 ^ 53 := by
        rw [hown, two_zpow_add]
        norm_num
        ring
      _ ≤ num / den / 2 ^ 53 := div_le_div_of_nonneg_right hlow (by positivity)

/-! ### Powers of ten -/

section
variable {x : Double} {places : Nat}

/-- A power of ten is rounded little. -/
theorem exists_power (hplaces : places ≤ Decimal.maxPower) :
    ∃ p, ofNat? (10 ^ places) = some p ∧ |p.size - 10 ^ places| ≤ 10 ^ places / 2 ^ 53 := by
  have hone : (1 : ℚ) ≤ 10 ^ places := one_le_pow₀ (by norm_num)
  have hcast : ((10 ^ places : ℕ) : ℚ) / (1 : ℕ) = 10 ^ places := by
    push_cast
    exact div_one _
  have hlt : ((10 ^ places : ℕ) : ℚ) / (1 : ℕ) < halvesBelow 1 := by
    rw [hcast]
    exact (pow_le_pow_right₀ (by norm_num) hplaces).trans_lt ten_pow_lt_halvesBelow
  obtain ⟨p, hp, -, hnear⟩ := exists_ofRatio? false (Nat.pow_pos (by decide)) Nat.one_pos hlt
  rw [hcast] at hnear
  exact ⟨p, hp, hnear ((zpow_le_one_of_nonpos₀ one_le_two (by norm_num)).trans hone)⟩

/-- A product with a power of ten that is not too large. -/
theorem exists_timesTen? (hpos : 0 < x.size) (hplaces : places ≤ Decimal.maxPower)
    (hlt : x.size * (10 ^ places * (1 + 1 / 2 ^ 53)) < halvesBelow 1) :
    ∃ y, x.timesTen? places = some y := by
  obtain ⟨p, hp, hnear⟩ := exists_power hplaces
  obtain ⟨hxden, hx⟩ := x.ratio_div
  obtain ⟨hpden, hpsize⟩ := p.ratio_div
  have hten : (0 : ℚ) < 10 ^ places := by positivity
  obtain ⟨hbelow, habove⟩ := abs_le.mp hnear
  have hppos : 0 < p.size := by
    have : (10 : ℚ) ^ places / 2 ^ 53 < 10 ^ places := div_lt_self hten (by norm_num)
    linarith
  have hproduct : ((x.ratio.1 * p.ratio.1 : ℕ) : ℚ) / (x.ratio.2 * p.ratio.2 : ℕ)
      < halvesBelow 1 := by
    push_cast
    rw [mul_div_mul_comm, hx, hpsize]
    refine (mul_le_mul_of_nonneg_left ?_ hpos.le).trans_lt hlt
    linarith
  obtain ⟨y, hy, -⟩ := exists_ofRatio? x.negative
    (Nat.mul_pos (ratio_pos hpos) (ratio_pos hppos)) (Nat.mul_pos hxden hpden) hproduct
  refine ⟨y, ?_⟩
  unfold timesTen?
  rw [hp]
  exact hy

/-- Dividing by a power of ten makes no number larger. -/
theorem exists_overTen? (hpos : 0 < x.size) (hone : 1 ≤ places) (hplaces : places ≤ Decimal.maxPower)
    (hlt : x.size < halvesBelow 1) : ∃ y, x.overTen? places = some y ∧ y.size ≤ x.size := by
  obtain ⟨p, hp, hnear⟩ := exists_power hplaces
  obtain ⟨hxden, hx⟩ := x.ratio_div
  obtain ⟨hpden, hpsize⟩ := p.ratio_div
  have hten : (10 : ℚ) ≤ 10 ^ places := le_self_pow₀ (by norm_num) (by omega)
  have htwo : 2 ≤ p.size := by
    have hbelow := (abs_le.mp hnear).1
    have : (10 : ℚ) ^ places / 2 ^ 53 ≤ 10 ^ places / 2 :=
      div_le_div_of_nonneg_left (by positivity) two_pos (by norm_num)
    linarith
  have hppos : 0 < p.size := two_pos.trans_le htwo
  have hquotient : ((x.ratio.1 * p.ratio.2 : ℕ) : ℚ) / (x.ratio.2 * p.ratio.1 : ℕ)
      = x.size / p.size := by
    push_cast
    rw [mul_div_mul_comm, hx, ← hpsize, div_div_eq_mul_div, mul_div_assoc]
  have hhalf : x.size / p.size ≤ x.size / 2 :=
    div_le_div_of_nonneg_left hpos.le two_pos htwo
  obtain ⟨y, hy, hdouble, -⟩ := exists_ofRatio? x.negative
    (Nat.mul_pos (ratio_pos hpos) hpden) (Nat.mul_pos hxden (ratio_pos hppos))
    (hquotient.trans_lt (by linarith))
  rw [hquotient] at hdouble
  refine ⟨y, ?_, by linarith⟩
  unfold overTen?
  rw [hp]
  exact hy

theorem exists_shrink? (hlt : x.size < halvesBelow 1) (hone : 1 ≤ places) (fuel : Nat) :
    ∃ y, x.shrink? fuel places = some y := by
  induction fuel generalizing x places with
  | zero => exact ⟨x, rfl⟩
  | succ fuel ih =>
    unfold shrink?
    by_cases hzero : x.isZero = true
    · exact ⟨x, if_pos hzero⟩
    · have hpos : 0 < x.size := by
        refine mul_pos (Nat.cast_pos.mpr (Nat.pos_of_ne_zero fun h => hzero ?_)) (two_zpow_pos _)
        exact decide_eq_true h
      rw [if_neg hzero]
      by_cases hplaces : places ≤ Decimal.maxPower
      · obtain ⟨y, hy, -⟩ := exists_overTen? hpos hone hplaces hlt
        exact ⟨y, by rw [if_pos hplaces, hy]⟩
      · obtain ⟨y, hy, hle⟩ := exists_overTen? hpos (by decide) (Nat.le_refl Decimal.maxPower) hlt
        rw [if_neg hplaces, hy]
        exact ih (hle.trans_lt hlt) (by omega)

end
end Double

/-! ### Decimals -/

section
variable {d : Decimal} (negative : Bool)

/-- A decimal that is not too large has no larger power of ten than double precision. -/
theorem Decimal.exponent_le_maxPower (hpos : 0 < d.digits) (hvalue : d.value ≤ Double.halvesBelow 7)
    (hsign : 0 ≤ d.exponent) : d.exponent.toNat ≤ maxPower := by
  have hlast : Double.halvesBelow 7 < 10 ^ (maxPower + 1) := by decide +kernel
  rw [← value_of_nonneg hsign, Nat.cast_one, div_one] at hvalue
  have hle : d.digits * 10 ^ d.exponent.toNat ≤ Double.halvesBelow 7 := by exact_mod_cast hvalue
  by_contra hgt
  have hpow : 10 ^ (maxPower + 1) ≤ 10 ^ d.exponent.toNat :=
    pow_le_pow_right₀ (by decide) (Nat.lt_of_not_le hgt)
  exact absurd (hpow.trans ((Nat.le_mul_of_pos_left _ hpos).trans hle)) hlast.not_ge

theorem Decimal.exists_toDouble? (hvalue : d.value ≤ Double.halvesBelow 7) :
    ∃ y, d.toDouble? negative = some y := by
  have hlt : d.value < Double.halvesBelow 1 := by
    have hnat : Double.halvesBelow 7 < Double.halvesBelow 1 := by decide +kernel
    exact hvalue.trans_lt (by exact_mod_cast hnat)
  unfold toDouble?
  by_cases hzero : d.digits = 0
  · exact ⟨_, if_pos hzero⟩
  · have hpos : 0 < d.digits := Nat.pos_of_ne_zero hzero
    rw [if_neg hzero]
    by_cases hsign : 0 ≤ d.exponent
    · have hplaces : d.exponent.toNat ≤ maxExponent :=
        (exponent_le_maxPower hpos hvalue hsign).trans (by decide)
      have hnum : 0 < d.digits * 10 ^ d.exponent.toNat := by positivity
      obtain ⟨y, hy, -⟩ := Double.exists_ofRatio? negative hnum Nat.one_pos
        (by rwa [value_of_nonneg hsign])
      exact ⟨y, by rw [if_pos hsign, if_neg (Nat.not_lt.mpr hplaces), hy]⟩
    · rw [if_neg hsign]
      by_cases htiny : maxExponent + Nat.log2 d.digits < d.exponent.natAbs
      · exact ⟨_, if_pos htiny⟩
      · have hden : 0 < 10 ^ d.exponent.natAbs := by positivity
        obtain ⟨y, hy, -⟩ := Double.exists_ofRatio? negative hpos hden
          (by rwa [value_of_neg (not_le.mp hsign)])
        exact ⟨y, by rw [if_neg htiny, hy]⟩

/-- Digits of 64 bits are rounded little. -/
theorem Decimal.exists_rounded_digits (hpos : 0 < d.digits) (hdigits : d.digits < 2 ^ 64) :
    ∃ x, Double.ofRatio? negative d.digits 1 = some x ∧ 0 < x.size
      ∧ x.size ≤ d.digits * (1 + 1 / 2 ^ 53) ∧ x.size < Double.halvesBelow 1 := by
  have hone : (1 : ℚ) ≤ d.digits := by exact_mod_cast hpos
  have hdouble : (2 * d.digits : ℚ) < Double.halvesBelow 1 := by
    have hnat : 2 * 2 ^ 64 < Double.halvesBelow 1 := by decide +kernel
    exact_mod_cast (Nat.mul_lt_mul_of_pos_left hdigits two_pos).trans hnat
  have hcast : (d.digits : ℚ) / (1 : ℕ) = d.digits := by rw [Nat.cast_one, div_one]
  obtain ⟨x, hx, hle, hnear⟩ := Double.exists_ofRatio? negative hpos Nat.one_pos
    (hcast.trans_lt (by linarith))
  rw [hcast] at hnear hle
  obtain ⟨hbelow, habove⟩ :=
    abs_le.mp (hnear ((zpow_le_one_of_nonpos₀ one_le_two (by norm_num)).trans hone))
  have hpart : (d.digits : ℚ) / 2 ^ 53 < d.digits := div_lt_self (by linarith) (by norm_num)
  exact ⟨x, hx, by linarith, by linarith, by linarith⟩

/-- Both roundings upwards together do not make a decimal too large. -/
theorem Decimal.size_mul_lt {x : Double} (hx : x.size ≤ d.digits * (1 + 1 / 2 ^ 53))
    (hvalue : d.value ≤ Double.halvesBelow 7) (hsign : 0 ≤ d.exponent) :
    x.size * (10 ^ d.exponent.toNat * (1 + 1 / 2 ^ 53)) < Double.halvesBelow 1 := by
  calc x.size * (10 ^ d.exponent.toNat * (1 + 1 / 2 ^ 53))
      ≤ d.digits * (1 + 1 / 2 ^ 53) * (10 ^ d.exponent.toNat * (1 + 1 / 2 ^ 53)) :=
        mul_le_mul_of_nonneg_right hx (by positivity)
    _ = d.value * (1 + 1 / 2 ^ 53) ^ 2 := by
        rw [← value_of_nonneg hsign]
        push_cast
        ring
    _ ≤ Double.halvesBelow 7 * (1 + 1 / 2 ^ 53) ^ 2 :=
        mul_le_mul_of_nonneg_right hvalue (by positivity)
    _ < Double.halvesBelow 1 := by
        rw [Double.cast_halvesBelow (by decide), Double.cast_halvesBelow (by decide),
          mul_right_comm]
        exact mul_lt_mul_of_pos_right (by norm_num) (Double.two_zpow_pos _)

/-- **A decimal of 64 bits that is not too large is read the quicker way.** -/
theorem Decimal.exists_quick? (hdigits : d.digits < 2 ^ 64)
    (hvalue : d.value ≤ Double.halvesBelow 7) : ∃ y, d.quick? negative = some y := by
  unfold quick?
  by_cases hzero : d.digits = 0
  · exact ⟨_, if_pos hzero⟩
  · have hpos : 0 < d.digits := Nat.pos_of_ne_zero hzero
    obtain ⟨x, hx, hxpos, hle, hlt⟩ := exists_rounded_digits negative hpos hdigits
    rw [if_neg hzero, hx]
    show ∃ y, (if 0 ≤ d.exponent then _ else _) = some y
    by_cases hsign : 0 ≤ d.exponent
    · have hplaces := exponent_le_maxPower hpos hvalue hsign
      rw [if_pos hsign, if_neg (Nat.not_lt.mpr hplaces)]
      exact Double.exists_timesTen? hxpos hplaces (size_mul_lt hle hvalue hsign)
    · rw [if_neg hsign]
      exact Double.exists_shrink? hlt (by omega) _

/-- **Neither way fails** for a decimal of 64 bits that is not too large. -/
theorem Rounding.exists_toDouble? (rounding : Rounding) (hdigits : d.digits < 2 ^ 64)
    (hvalue : d.value ≤ Double.halvesBelow 7) : ∃ y, rounding.toDouble? negative d = some y := by
  cases rounding with
  | nearest => exact Decimal.exists_toDouble? negative hvalue
  | quick => exact Decimal.exists_quick? negative hdigits hvalue

end

/-- What is near to a number leaves room enough, but for the three largest numbers. -/
theorem Double.Attracts.le_halvesBelow {x : Double} {q : ℚ} (hx : x.IsCanonical)
    (h : x.Attracts q) (hsmall : x.exponent < maxExponent ∨ x.significand + 4 ≤ 2 ^ 53) :
    q ≤ halvesBelow 7 := by
  refine h.le_high.trans ?_
  rw [cast_halvesBelow (by decide), cast_highQuarters]
  have hmax := hx.le_maxExponent
  have hlt : (x.significand : ℚ) + 1 ≤ 2 ^ 53 := by exact_mod_cast x.significand_lt
  have hpow := two_zpow_pos (970 - 1)
  rw [two_zpow_sub_one 970]
  unfold maxExponent at hmax hsmall
  by_cases hlast : x.exponent = 971
  · have hfour : (x.significand : ℚ) + 4 ≤ 2 ^ 53 := by
      exact_mod_cast hsmall.resolve_left (by omega)
    rw [hlast, show (971 - 2 : ℤ) = 970 - 1 by norm_num, ← mul_assoc]
    exact mul_le_mul_of_nonneg_right (by norm_num at hfour ⊢; linarith) hpow.le
  · have hle : (2 : ℚ) ^ (x.exponent - 2) ≤ 2 ^ (970 - 1 - 1 : ℤ) :=
      zpow_le_zpow_right₀ one_le_two (by omega)
    rw [two_zpow_sub_one (970 - 1), ← mul_assoc, ← mul_assoc]
    exact mul_le_mul (by norm_num at hlt ⊢; linarith) hle (two_zpow_pos _).le (by norm_num)

end MailTriage
