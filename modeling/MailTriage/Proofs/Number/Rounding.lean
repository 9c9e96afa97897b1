import Mathlib.Algebra.Order.Field.Power
import Mathlib.Algebra.Order.Field.Rat
import Mathlib.Tactic.FieldSimp
import Mathlib.Tactic.Linarith
import Mathlib.Tactic.Positivity
import Mathlib.Tactic.Ring
import MailTriage.Number.Double

/-! # Which quotients round to a number

A number of double precision has one canonical form (`Double.IsCanonical`).  Around its size lie the
quotients that are nearer to it than to its neighbours: half a unit upwards, and as much downwards,
but for a power of two, below which the numbers lie twice as close (`Double.Attracts`).  All of these
round to the number (`Double.ofRatio?_of_attracts`).

The argument is about the one exponent for which a quotient has 53 binary digits
(`Double.exponentFor_eq`).  It is the number's own, except just below a power of two: there the
quotient has the exponent below, and rounding carries it over.
-/
namespace MailTriage

/-! ### Rounding to a whole number -/

/-- A quotient rounds to the whole number that it is not further than a half from; from a half away
only if that is even. -/
theorem roundHalfEven_eq {num den r : Nat} (hden : 0 < den) (hlow : 2 * (r * den) ≤ 2 * num + den)
    (hhigh : 2 * num ≤ 2 * (r * den) + den)
    (htie : 2 * num + den = 2 * (r * den) ∨ 2 * num = 2 * (r * den) + den → r % 2 = 0) :
    roundHalfEven num den = r := by
  have hsplit : den * (num / den) + num % den = num := Nat.div_add_mod num den
  have hrem : num % den < den := Nat.mod_lt num hden
  unfold roundHalfEven
  generalize num / den = below at hsplit ⊢
  generalize num % den = rem at hsplit hrem ⊢
  have hle : below ≤ r := by
    by_contra hgt
    have hmul : (r + 1) * den ≤ below * den := Nat.mul_le_mul_right den (by omega)
    rw [Nat.add_mul, Nat.one_mul, Nat.mul_comm below] at hmul
    omega
  have hge : r ≤ below + 1 := by
    by_contra hgt
    have hmul : (below + 2) * den ≤ r * den := Nat.mul_le_mul_right den (by omega)
    rw [Nat.add_mul, Nat.mul_comm below] at hmul
    omega
  dsimp only
  obtain rfl | rfl : r = below ∨ r = below + 1 := by omega
  · rw [Nat.mul_comm r] at hlow hhigh htie
    rw [if_pos]
    rw [Bool.or_eq_true, Bool.and_eq_true, decide_eq_true_eq, decide_eq_true_eq, decide_eq_true_eq]
    by_cases hlt : 2 * rem < den
    · exact .inl hlt
    · exact .inr ⟨by omega, htie (.inr (by omega))⟩
  · rw [Nat.add_mul, Nat.one_mul, Nat.mul_comm below] at hlow hhigh htie
    rw [if_neg]
    rw [Bool.or_eq_true, Bool.and_eq_true, decide_eq_true_eq, decide_eq_true_eq, decide_eq_true_eq]
    rintro (hlt | ⟨heq, heven⟩)
    · omega
    · have hodd := htie (.inl (by omega))
      omega

/-- The same for a quotient of rational numbers. -/
theorem roundHalfEven_of_le {num den r : Nat} (hden : 0 < den)
    (hlow : (r : ℚ) - 1 / 2 ≤ num / den) (hhigh : (num : ℚ) / den ≤ r + 1 / 2)
    (htie : (num : ℚ) / den = r - 1 / 2 ∨ (num : ℚ) / den = r + 1 / 2 → r % 2 = 0) :
    roundHalfEven num den = r := by
  have hpos : (0 : ℚ) < den := Nat.cast_pos.mpr hden
  rw [le_div_iff₀ hpos] at hlow
  rw [div_le_iff₀ hpos] at hhigh
  rw [div_eq_iff hpos.ne', div_eq_iff hpos.ne'] at htie
  refine roundHalfEven_eq hden ?_ ?_ fun hends => htie (hends.imp (fun h => ?_) fun h => ?_)
  · have hcast : ((2 * (r * den) : ℕ) : ℚ) ≤ ((2 * num + den : ℕ) : ℚ) := by
      push_cast
      linarith
    exact Nat.cast_le.mp hcast
  · have hcast : ((2 * num : ℕ) : ℚ) ≤ ((2 * (r * den) + den : ℕ) : ℚ) := by
      push_cast
      linarith
    exact Nat.cast_le.mp hcast
  · have hcast : ((2 * num + den : ℕ) : ℚ) = ((2 * (r * den) : ℕ) : ℚ) := congrArg _ h
    push_cast at hcast
    linarith
  · have hcast : ((2 * num : ℕ) : ℚ) = ((2 * (r * den) + den : ℕ) : ℚ) := congrArg _ h
    push_cast at hcast
    linarith

namespace Double

/-! ### Powers of two as units -/

theorem two_zpow_pos (e : ℤ) : (0 : ℚ) < 2 ^ e := zpow_pos two_pos e

theorem two_zpow_lt_iff {e f : ℤ} : (2 : ℚ) ^ e < 2 ^ f ↔ e < f :=
  zpow_lt_zpow_iff_right₀ one_lt_two

theorem two_zpow_add (e f : ℤ) : (2 : ℚ) ^ (e + f) = 2 ^ e * 2 ^ f := zpow_add₀ two_ne_zero e f

/-- Measured in units of a power of two a quotient is divided by it. -/
theorem inUnits_div (num : Nat) {den : Nat} (hden : 0 < den) (e : ℤ) :
    0 < (inUnits num den e).2
      ∧ ((inUnits num den e).1 : ℚ) / (inUnits num den e).2 = num / den / 2 ^ e := by
  unfold inUnits
  split
  · next he =>
    refine ⟨Nat.mul_pos hden (Nat.pow_pos (by decide)), ?_⟩
    have hpow : (2 : ℚ) ^ e = 2 ^ e.toNat := by
      rw [← zpow_natCast, Int.toNat_of_nonneg he]
    rw [hpow, div_div]
    push_cast
    rfl
  · next he =>
    refine ⟨hden, ?_⟩
    have hpow : (2 : ℚ) ^ e = (2 ^ e.natAbs)⁻¹ := by
      rw [← zpow_natCast, ← zpow_neg]
      congr 1
      omega
    rw [hpow, div_inv_eq_mul, div_mul_eq_mul_div]
    push_cast
    rfl

/-- The quotient is so many units as its measure says. -/
theorem div_eq_inUnits_mul (num : Nat) {den : Nat} (hden : 0 < den) (e : ℤ) :
    (num : ℚ) / den = (inUnits num den e).1 / (inUnits num den e).2 * 2 ^ e := by
  rw [(inUnits_div num hden e).2, div_mul_cancel₀ _ (two_zpow_pos e).ne']

/-- A quotient has few binary digits in units of a power of two if it is small. -/
theorem inUnits_quotient_lt_iff (num : Nat) {den : Nat} (hden : 0 < den) (e : ℤ) :
    (inUnits num den e).1 / (inUnits num den e).2 < 2 ^ 52
      ↔ (num : ℚ) / den < 2 ^ (e + 52) := by
  obtain ⟨hunits, hratio⟩ := inUnits_div num hden e
  rw [Nat.div_lt_iff_lt_mul hunits, two_zpow_add, ← div_lt_iff₀' (two_zpow_pos e), ← hratio,
    div_lt_iff₀' (Nat.cast_pos.mpr hunits), Nat.mul_comm]
  exact_mod_cast Iff.rfl

/-! ### The exponent of a quotient -/

/-- The binary digits of its two parts say between which powers of two a quotient lies. -/
theorem log2_bounds {num den : Nat} (hnum : 0 < num) (hden : 0 < den) :
    (2 : ℚ) ^ ((Nat.log2 num : ℤ) - Nat.log2 den - 1) ≤ num / den
      ∧ (num : ℚ) / den < 2 ^ ((Nat.log2 num : ℤ) - Nat.log2 den + 1) := by
  have hdenQ : (0 : ℚ) < den := Nat.cast_pos.mpr hden
  constructor
  · rw [le_div_iff₀ hdenQ]
    have hnumLog : (2 : ℚ) ^ (Nat.log2 num) ≤ num := by
      exact_mod_cast Nat.log2_self_le (Nat.ne_of_gt hnum)
    have hdenLog : (den : ℚ) ≤ 2 ^ (Nat.log2 den + 1) := by
      exact_mod_cast Nat.le_of_lt Nat.lt_log2_self
    calc (2 : ℚ) ^ ((Nat.log2 num : ℤ) - Nat.log2 den - 1) * den
        ≤ 2 ^ ((Nat.log2 num : ℤ) - Nat.log2 den - 1) * 2 ^ (Nat.log2 den + 1) :=
          mul_le_mul_of_nonneg_left hdenLog (two_zpow_pos _).le
      _ = 2 ^ (Nat.log2 num) := by
          rw [← zpow_natCast, ← zpow_natCast, ← two_zpow_add]
          congr 1
          push_cast
          omega
      _ ≤ num := hnumLog
  · rw [div_lt_iff₀ hdenQ]
    have hnumLog : (num : ℚ) < 2 ^ (Nat.log2 num + 1) := by
      exact_mod_cast Nat.lt_log2_self
    have hdenLog : (2 : ℚ) ^ (Nat.log2 den) ≤ den := by
      exact_mod_cast Nat.log2_self_le (Nat.ne_of_gt hden)
    calc (num : ℚ) < 2 ^ (Nat.log2 num + 1) := hnumLog
      _ = 2 ^ ((Nat.log2 num : ℤ) - Nat.log2 den + 1) * 2 ^ (Nat.log2 den) := by
          rw [← zpow_natCast, ← zpow_natCast, ← two_zpow_add]
          congr 1
          push_cast
          omega
      _ ≤ 2 ^ ((Nat.log2 num : ℤ) - Nat.log2 den + 1) * den :=
          mul_le_mul_of_nonneg_left hdenLog (two_zpow_pos _).le

/-- A quotient lies between powers of two, one after the other. -/
theorem exists_binary_exponent {num den : Nat} (hnum : 0 < num) (hden : 0 < den) :
    ∃ e : ℤ, exponentFor num den = max minExponent e
      ∧ (2 : ℚ) ^ (e + 52) ≤ num / den ∧ (num : ℚ) / den < 2 ^ (e + 53) := by
  obtain ⟨hlow, hhigh⟩ := log2_bounds hnum hden
  unfold exponentFor
  -- the guess is taken from the binary digits of the two parts, so it is right or one too large
  obtain ⟨g, hg⟩ : ∃ g : ℤ, g = (Nat.log2 num : ℤ) - Nat.log2 den - 52 := ⟨_, rfl⟩
  rw [← hg]
  by_cases h : (inUnits num den g).1 / (inUnits num den g).2 < 2 ^ 52
  · refine ⟨g - 1, by simp only [if_pos h], ?_, ?_⟩
    · rwa [show g - 1 + 52 = (Nat.log2 num : ℤ) - Nat.log2 den - 1 by omega]
    · rw [show g - 1 + 53 = g + 52 by omega]
      exact (inUnits_quotient_lt_iff num hden g).mp h
  · refine ⟨g, by simp only [if_neg h], ?_, ?_⟩
    · exact not_lt.mp fun hlt => h ((inUnits_quotient_lt_iff num hden g).mpr hlt)
    · rwa [show g + 53 = (Nat.log2 num : ℤ) - Nat.log2 den + 1 by omega]

/-- **The exponent of a quotient** is the one for which it has 53 binary digits, or the smallest one
if it has fewer then. -/
theorem exponentFor_eq {num den : Nat} (hnum : 0 < num) (hden : 0 < den) {e : ℤ}
    (hmin : minExponent ≤ e) (hlow : e = minExponent ∨ (2 : ℚ) ^ (e + 52) ≤ num / den)
    (hhigh : (num : ℚ) / den < 2 ^ (e + 53)) : exponentFor num den = e := by
  obtain ⟨f, hf, hflow, hfhigh⟩ := exists_binary_exponent hnum hden
  have hle : f + 52 < e + 53 := two_zpow_lt_iff.mp (lt_of_le_of_lt hflow hhigh)
  rw [hf]
  rcases hlow with rfl | hlow
  · omega
  · have hge : e + 52 < f + 53 := two_zpow_lt_iff.mp (lt_of_le_of_lt hlow hfhigh)
    omega

/-! ### What rounds to a number -/

/-- The one form that a number of double precision has: with 53 binary digits, or with fewer and the
smallest exponent. -/
structure IsCanonical (x : Double) : Prop where
  minExponent_le : minExponent ≤ x.exponent
  le_maxExponent : x.exponent ≤ maxExponent
  normal : x.exponent = minExponent ∨ 2 ^ 52 ≤ x.significand

instance (x : Double) : Decidable x.IsCanonical :=
  decidable_of_iff
    (minExponent ≤ x.exponent ∧ x.exponent ≤ maxExponent
      ∧ (x.exponent = minExponent ∨ 2 ^ 52 ≤ x.significand))
    ⟨fun h => ⟨h.1, h.2.1, h.2.2⟩, fun h => ⟨h.1, h.2, h.3⟩⟩

/-- The lower end of what rounds to a number, in quarters of its unit: half a unit below it, but half
as much below a power of two. -/
def lowQuarters (x : Double) : Nat :=
  if x.significand = 2 ^ 52 && minExponent < x.exponent then 4 * x.significand - 1
  else 4 * x.significand - 2

/-- The upper end, half a unit above the number. -/
def highQuarters (x : Double) : Nat := 4 * x.significand + 2

/-- A quotient is near enough to a number to round to it.  The two ends do if the significand is
even. -/
structure Attracts (x : Double) (q : ℚ) : Prop where
  low_le : x.lowQuarters * 2 ^ (x.exponent - 2) ≤ q
  le_high : q ≤ x.highQuarters * 2 ^ (x.exponent - 2)
  ends : q = x.lowQuarters * 2 ^ (x.exponent - 2) ∨ q = x.highQuarters * 2 ^ (x.exponent - 2) →
    x.significand % 2 = 0

theorem two_zpow_sub_two (e : ℤ) : (2 : ℚ) ^ e = 4 * 2 ^ (e - 2) := by
  rw [show e = e - 2 + 2 by omega, two_zpow_add, show e - 2 + 2 - 2 = e - 2 by omega]
  norm_num
  ring

theorem two_zpow_sub_one (e : ℤ) : (2 : ℚ) ^ e = 2 * 2 ^ (e - 1) := by
  rw [show e = e - 1 + 1 by omega, two_zpow_add, show e - 1 + 1 - 1 = e - 1 by omega]
  norm_num
  ring

theorem cast_lowQuarters {x : Double} (hpos : 0 < x.significand) :
    (x.lowQuarters : ℚ) = 4 * x.significand - 2
      ∨ x.significand = 2 ^ 52 ∧ minExponent < x.exponent
        ∧ (x.lowQuarters : ℚ) = 4 * x.significand - 1 := by
  unfold lowQuarters
  split
  · next h =>
    rw [Bool.and_eq_true, decide_eq_true_eq, decide_eq_true_eq] at h
    refine .inr ⟨h.1, h.2, ?_⟩
    rw [Nat.cast_sub (by omega)]
    push_cast
    ring
  · refine .inl ?_
    rw [Nat.cast_sub (by omega)]
    push_cast
    ring

theorem cast_highQuarters (x : Double) : (x.highQuarters : ℚ) = 4 * x.significand + 2 := by
  unfold highQuarters
  push_cast
  ring

section
variable {negative : Bool} {num den r : Nat} {e : ℤ}

theorem ofRatio?_of_lt (he : exponentFor num den = e)
    (hr : roundHalfEven (inUnits num den e).1 (inUnits num den e).2 = r) (hlt : r < 2 ^ 53)
    (hmax : e ≤ maxExponent) : ofRatio? negative num den = some ⟨negative, r, e, hlt⟩ := by
  subst he hr
  unfold ofRatio?
  exact (dif_pos hlt).trans (if_pos hmax)

/-- A significand that is rounded up to one digit more has the next exponent. -/
theorem ofRatio?_of_carry (he : exponentFor num den = e)
    (hr : roundHalfEven (inUnits num den e).1 (inUnits num den e).2 = 2 ^ 53)
    (hmax : e + 1 ≤ maxExponent) :
    ofRatio? negative num den = some ⟨negative, 2 ^ 52, e + 1, by decide⟩ := by
  subst he
  have hnot : ¬ roundHalfEven (inUnits num den (exponentFor num den)).1
      (inUnits num den (exponentFor num den)).2 < 2 ^ 53 := by
    rw [hr]
    decide
  unfold ofRatio?
  exact (dif_neg hnot).trans (if_pos hmax)

end

section
variable {x : Double} {num den : Nat}

/-- Above its power of two, if it is one, a number is found with its own exponent. -/
theorem ofRatio?_of_own_exponent (hx : x.IsCanonical) (hpos : 0 < x.significand) (hnum : 0 < num)
    (hden : 0 < den) (h : x.Attracts (num / den))
    (hlow : x.exponent = minExponent ∨ (2 : ℚ) ^ (x.exponent + 52) ≤ num / den) :
    ofRatio? x.negative num den = some x := by
  have hunit := two_zpow_pos (x.exponent - 2)
  have hcanon := two_zpow_sub_two x.exponent
  have hlt : (x.significand : ℚ) ≤ 2 ^ 53 - 1 := by
    have hle : x.significand + 1 ≤ 2 ^ 53 := x.significand_lt
    have hcast : ((x.significand + 1 : ℕ) : ℚ) ≤ ((2 ^ 53 : ℕ) : ℚ) := Nat.cast_le.mpr hle
    push_cast at hcast
    linarith
  have hhigh := h.le_high
  rw [cast_highQuarters] at hhigh
  have he : exponentFor num den = x.exponent := by
    refine exponentFor_eq hnum hden hx.minExponent_le hlow ?_
    rw [two_zpow_add, hcanon]
    norm_num
    nlinarith
  have hmeasure := div_eq_inUnits_mul num hden x.exponent
  rw [hcanon] at hmeasure
  have hlow' : (4 * (x.significand : ℚ) - 2) * 2 ^ (x.exponent - 2) ≤ num / den := by
    refine le_trans ?_ h.low_le
    rcases cast_lowQuarters hpos with heq | ⟨-, -, heq⟩
    · rw [heq]
    · rw [heq]
      exact mul_le_mul_of_nonneg_right (by linarith) hunit.le
  refine ofRatio?_of_lt he (roundHalfEven_of_le (inUnits_div num hden x.exponent).1 ?_ ?_ ?_)
    x.significand_lt hx.le_maxExponent
  · rw [hmeasure] at hlow'
    nlinarith
  · rw [hmeasure] at hhigh
    nlinarith
  · rintro (htie | htie)
    · have hq : (num : ℚ) / den = (4 * x.significand - 2) * 2 ^ (x.exponent - 2) := by
        rw [hmeasure, htie]
        ring
      rcases cast_lowQuarters hpos with heq | ⟨-, -, heq⟩
      · exact h.ends (.inl (by rw [hq, heq]))
      · -- below a power of two the lower end is nearer, so the quotient is not attracted
        have hle := h.low_le
        rw [hq, heq] at hle
        nlinarith
    · refine h.ends (.inr ?_)
      rw [hmeasure, htie, cast_highQuarters]
      ring

/-- Only a power of two attracts what is below the power of its exponent: a larger significand would
put the lower end above it. -/
theorem Attracts.power_of_lt {q : ℚ} (h : x.Attracts q) (hx : x.IsCanonical)
    (hpos : 0 < x.significand) (hmin : minExponent < x.exponent)
    (hlt : q < 2 ^ 54 * 2 ^ (x.exponent - 2)) :
    x.significand = 2 ^ 52 ∧ ((2 : ℚ) ^ 54 - 1) * 2 ^ (x.exponent - 2) ≤ q := by
  have hunit := two_zpow_pos (x.exponent - 2)
  have hlow := h.low_le
  have hle : 2 ^ 52 ≤ x.significand := hx.normal.resolve_left (by omega)
  rcases cast_lowQuarters hpos with heq | ⟨hpower, -, heq⟩
  · rw [heq] at hlow
    have hlt52 : (x.significand : ℚ) < 2 ^ 52 + 1 := by
      by_contra hge
      have hge : (2 : ℚ) ^ 52 + 1 ≤ x.significand := not_lt.mp hge
      norm_num at hge hlt
      nlinarith
    have hlt52 : x.significand < 2 ^ 52 + 1 := by exact_mod_cast hlt52
    have hpower : x.significand = 2 ^ 52 := by omega
    rw [lowQuarters, if_pos (by rw [hpower]; simpa using hmin), hpower] at heq
    norm_num at heq
  · refine ⟨hpower, ?_⟩
    rw [heq, hpower] at hlow
    refine le_trans (le_of_eq ?_) hlow
    norm_num

/-- Just below a power of two the number is reached by rounding up. -/
theorem ofRatio?_of_exponent_below (hx : x.IsCanonical) (hpos : 0 < x.significand)
    (hnum : 0 < num) (hden : 0 < den) (h : x.Attracts (num / den))
    (hmin : minExponent < x.exponent) (hlt : (num : ℚ) / den < 2 ^ (x.exponent + 52)) :
    ofRatio? x.negative num den = some x := by
  have hunit := two_zpow_pos (x.exponent - 2)
  have hhalf : (2 : ℚ) ^ (x.exponent - 1) = 2 * 2 ^ (x.exponent - 2) := by
    rw [two_zpow_sub_one, show x.exponent - 1 - 1 = x.exponent - 2 by omega]
  have hlt' : (num : ℚ) / den < 2 ^ 54 * 2 ^ (x.exponent - 2) := by
    rwa [show x.exponent + 52 = 54 + (x.exponent - 2) by omega, two_zpow_add] at hlt
  obtain ⟨hsignificand, hlow⟩ := h.power_of_lt hx hpos hmin hlt'
  have he : exponentFor num den = x.exponent - 1 := by
    refine exponentFor_eq hnum hden (by omega) (.inr ?_) ?_
    · rw [show x.exponent - 1 + 52 = x.exponent - 2 + 53 by omega, two_zpow_add]
      norm_num at hlow ⊢
      nlinarith
    · rwa [show x.exponent - 1 + 53 = x.exponent + 52 by omega]
  have hmeasure := div_eq_inUnits_mul num hden (x.exponent - 1)
  rw [hhalf] at hmeasure
  have hround : roundHalfEven (inUnits num den (x.exponent - 1)).1
      (inUnits num den (x.exponent - 1)).2 = 2 ^ 53 := by
    rw [hmeasure] at hlow hlt'
    refine roundHalfEven_of_le (inUnits_div num hden (x.exponent - 1)).1 ?_ ?_ fun _ => by decide
    · push_cast
      norm_num at hlow ⊢
      nlinarith
    · push_cast
      norm_num at hlt' ⊢
      nlinarith
  rw [ofRatio?_of_carry he hround (by have := hx.le_maxExponent; omega)]
  obtain ⟨negative, significand, exponent, hsig⟩ := x
  subst hsignificand
  simp

/-- **What is near enough to a number rounds to it.** -/
theorem ofRatio?_of_attracts (hx : x.IsCanonical) (hpos : 0 < x.significand) (hden : 0 < den)
    (h : x.Attracts (num / den)) : ofRatio? x.negative num den = some x := by
  have hnum : 0 < num := by
    have hlow : (0 : ℚ) < x.lowQuarters := by
      have hone : (1 : ℚ) ≤ x.significand := by exact_mod_cast hpos
      rcases cast_lowQuarters hpos with heq | ⟨-, -, heq⟩
      · rw [heq]
        linarith
      · rw [heq]
        linarith
    have hq := lt_of_lt_of_le (mul_pos hlow (two_zpow_pos _)) h.low_le
    by_contra hzero
    rw [Nat.eq_zero_of_not_pos hzero] at hq
    norm_num at hq
  by_cases hbelow : minExponent < x.exponent ∧ (num : ℚ) / den < 2 ^ (x.exponent + 52)
  · exact ofRatio?_of_exponent_below hx hpos hnum hden h hbelow.1 hbelow.2
  · refine ofRatio?_of_own_exponent hx hpos hnum hden h ?_
    by_cases hmin : x.exponent = minExponent
    · exact .inl hmin
    · refine .inr (not_lt.mp fun hlt => hbelow ⟨?_, hlt⟩)
      have := hx.minExponent_le
      omega

end

end Double
end MailTriage
