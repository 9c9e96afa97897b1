import Mathlib.Tactic.NormNum.Pow
import MailTriage.Number.Decimal
import MailTriage.Proofs.Number.Rounding

/-! # The shortest decimal reads back

The search for the shortest decimal of a number only takes decimals that round to it
(`Double.searchDown_attracts`), and it finds one: at the last decimal digit of the number itself the
decimal is exact.  So reading the shortest decimal gives the number back
(`Decimal.toDouble?_shortest`).
-/
namespace MailTriage

/-- The number that a decimal denotes. -/
def Decimal.value (d : Decimal) : ℚ := d.digits * 10 ^ d.exponent

namespace Double

/-! ### Decimals of one exponent as a grid -/

/-- A quarter of a number's unit, in the measure that it shares with the decimals of an exponent. -/
def unitAt (x : Double) (exponent : Int) : Nat :=
  2 ^ (x.exponent - 2).toNat * 10 ^ (-exponent).toNat

/-- The distance of the decimals of an exponent in that measure. -/
def gridAt (x : Double) (exponent : Int) : Nat :=
  10 ^ exponent.toNat * 2 ^ (-(x.exponent - 2)).toNat

theorem unitAt_pos (x : Double) (exponent : Int) : 0 < x.unitAt exponent :=
  Nat.mul_pos (Nat.pow_pos (by decide)) (Nat.pow_pos (by decide))

theorem zpow_mul_pow_neg {b : ℚ} (hb : b ≠ 0) (e : ℤ) : b ^ e * b ^ (-e).toNat = b ^ e.toNat := by
  rw [← zpow_natCast, ← zpow_natCast, ← zpow_add₀ hb]
  congr 1
  omega

/-- The two are the quarter and the power of ten, both so often that they become whole. -/
theorem exists_measure (x : Double) (exponent : Int) :
    ∃ scale : ℚ, 0 < scale ∧ (x.unitAt exponent : ℚ) = 2 ^ (x.exponent - 2) * scale
      ∧ (x.gridAt exponent : ℚ) = 10 ^ exponent * scale := by
  refine ⟨10 ^ (-exponent).toNat * 2 ^ (-(x.exponent - 2)).toNat, by positivity, ?_, ?_⟩
  · unfold unitAt
    push_cast
    rw [← zpow_mul_pow_neg two_ne_zero (x.exponent - 2)]
    ring
  · unfold gridAt
    push_cast
    rw [← zpow_mul_pow_neg (by norm_num : (10 : ℚ) ≠ 0) exponent]
    ring

/-- At the exponent of a number's last decimal digit the number lies on the grid. -/
theorem gridAt_dvd (x : Double) :
    x.gridAt (min x.exponent 0) ∣ 4 * x.significand * x.unitAt (min x.exponent 0) := by
  unfold gridAt unitAt
  rw [show (min x.exponent 0).toNat = 0 by omega, Nat.pow_zero, Nat.one_mul]
  have hpow : 2 ^ (-(x.exponent - 2)).toNat ∣ 2 ^ (2 + (-(min x.exponent 0)).toNat) :=
    Nat.pow_dvd_pow 2 (by omega)
  have hten : 2 ^ (2 + (-(min x.exponent 0)).toNat) ∣ 4 * 10 ^ (-(min x.exponent 0)).toNat := by
    rw [Nat.pow_add]
    exact Nat.mul_dvd_mul_left 4 (pow_dvd_pow_of_dvd (by decide) _)
  refine (hpow.trans hten).trans ⟨x.significand * 2 ^ (x.exponent - 2).toNat, ?_⟩
  ring

/-! ### What the search takes -/

/-- Whether a multiple of the grid lies between two bounds, the bounds included or not. -/
def fits (ends : Bool) (low high unit grid n : Nat) : Bool :=
  if ends then low * unit ≤ n * grid && n * grid ≤ high * unit
  else low * unit < n * grid && n * grid < high * unit

theorem fits_iff {ends : Bool} {low high unit grid n : Nat} :
    fits ends low high unit grid n = true ↔ low * unit ≤ n * grid ∧ n * grid ≤ high * unit
      ∧ (n * grid = low * unit ∨ n * grid = high * unit → ends = true) := by
  unfold fits
  cases ends
  · rw [if_neg Bool.false_ne_true, Bool.and_eq_true, decide_eq_true_eq, decide_eq_true_eq]
    constructor
    · rintro ⟨hlow, hhigh⟩
      exact ⟨hlow.le, hhigh.le, by omega⟩
    · rintro ⟨hlow, hhigh, hends⟩
      have hoff : ¬ (n * grid = low * unit ∨ n * grid = high * unit) := fun hon =>
        Bool.false_ne_true (hends hon)
      omega
  · rw [if_pos rfl, Bool.and_eq_true, decide_eq_true_eq, decide_eq_true_eq]
    exact ⟨fun h => ⟨h.1, h.2, fun _ => rfl⟩, fun h => ⟨h.1, h.2.1⟩⟩

/-- Of two neighbours that one which passes a test; of two that do, the one above if it is the
nearer one. -/
def nearerOf (passes : Nat → Bool) (upper : Bool) (below : Nat) : Option Nat :=
  if passes below && passes (below + 1) then some (if upper then below + 1 else below)
  else if passes below then some below
  else if passes (below + 1) then some (below + 1)
  else none

theorem passes_of_nearerOf {passes : Nat → Bool} {upper : Bool} {below n : Nat}
    (h : nearerOf passes upper below = some n) : passes n = true := by
  unfold nearerOf at h
  split at h
  · next hboth =>
    rw [Bool.and_eq_true] at hboth
    cases h
    split
    · exact hboth.2
    · exact hboth.1
  · split at h
    · next hbelow =>
      cases h
      exact hbelow
    · split at h
      · next habove =>
        cases h
        exact habove
      · cases h

theorem nearerOf_ne_none {passes : Nat → Bool} {below : Nat} (h : passes below = true)
    (upper : Bool) : nearerOf passes upper below ≠ none := by
  unfold nearerOf
  rw [h, if_pos rfl]
  split <;> exact Option.some_ne_none _

section
variable {tie : Tie} {ends : Bool} {low value high unit grid n : Nat}

theorem nearestOnGrid?_eq (tie : Tie) (ends : Bool) (low value high unit grid : Nat) :
    ∃ upper, nearestOnGrid? tie ends low value high unit grid
      = nearerOf (fits ends low high unit grid) upper (value * unit / grid) := ⟨_, rfl⟩

theorem fits_of_nearestOnGrid? (h : nearestOnGrid? tie ends low value high unit grid = some n) :
    fits ends low high unit grid n = true := by
  obtain ⟨upper, heq⟩ := nearestOnGrid?_eq tie ends low value high unit grid
  exact passes_of_nearerOf (heq ▸ h)

/-- A number on the grid is not missed. -/
theorem nearestOnGrid?_ne_none (hgrid : grid ∣ value * unit) (hunit : 0 < unit) (hlow : low < value)
    (hhigh : value < high) : nearestOnGrid? tie ends low value high unit grid ≠ none := by
  obtain ⟨upper, heq⟩ := nearestOnGrid?_eq tie ends low value high unit grid
  have hexact : value * unit / grid * grid = value * unit := Nat.div_mul_cancel hgrid
  have hlow := Nat.mul_lt_mul_of_pos_right hlow hunit
  have hhigh := Nat.mul_lt_mul_of_pos_right hhigh hunit
  rw [heq]
  exact nearerOf_ne_none (fits_iff.mpr ⟨by omega, by omega, by omega⟩) upper

end

section
variable {x : Double} {tie : Tie}

theorem searchDown_succ (tie : Tie) (x : Double) (fuel : Nat) (exponent : Int) :
    searchDown tie x (fuel + 1) exponent
      = match nearestOnGrid? tie (x.significand % 2 = 0) x.lowQuarters (4 * x.significand)
          x.highQuarters (x.unitAt exponent) (x.gridAt exponent) with
        | some digits => ⟨digits, exponent⟩
        | none => searchDown tie x fuel (exponent - 1) := rfl

/-- A decimal that fits is near enough to the number. -/
theorem attracts_of_fits {exponent : Int} {digits : Nat}
    (h : fits (x.significand % 2 = 0) x.lowQuarters x.highQuarters (x.unitAt exponent)
      (x.gridAt exponent) digits = true) : x.Attracts (Decimal.value ⟨digits, exponent⟩) := by
  obtain ⟨hlow, hhigh, hends⟩ := fits_iff.mp h
  obtain ⟨scale, hscale, hunit, hgrid⟩ := exists_measure x exponent
  have hmeasure : ∀ quarters : Nat, ((quarters * x.unitAt exponent : ℕ) : ℚ)
      = quarters * 2 ^ (x.exponent - 2) * scale := by
    intro quarters
    rw [Nat.cast_mul, hunit, mul_assoc]
  have hvalue : ((digits * x.gridAt exponent : ℕ) : ℚ)
      = Decimal.value ⟨digits, exponent⟩ * scale := by
    rw [Nat.cast_mul, hgrid, Decimal.value, mul_assoc]
  refine ⟨?_, ?_, fun hon => of_decide_eq_true (hends (hon.imp (fun heq => ?_) fun heq => ?_))⟩
  · refine le_of_mul_le_mul_right ?_ hscale
    rw [← hmeasure, ← hvalue]
    exact Nat.cast_le.mpr hlow
  · refine le_of_mul_le_mul_right ?_ hscale
    rw [← hmeasure, ← hvalue]
    exact Nat.cast_le.mpr hhigh
  · exact Nat.cast_injective (R := ℚ) (by rw [hvalue, hmeasure, heq])
  · exact Nat.cast_injective (R := ℚ) (by rw [hvalue, hmeasure, heq])

/-- **Whatever the search takes rounds to the number**, if it has fuel up to an exponent at which the
number lies on the grid. -/
theorem searchDown_attracts (hpos : 0 < x.significand) {last : Int}
    (hlast : x.gridAt last ∣ 4 * x.significand * x.unitAt last) (fuel : Nat) (exponent : Int)
    (hle : last ≤ exponent) (hfuel : exponent < last + fuel) :
    x.Attracts (searchDown tie x fuel exponent).value := by
  induction fuel generalizing exponent with
  | zero => omega
  | succ fuel ih =>
    rw [searchDown_succ]
    split
    · next digits hdigits => exact attracts_of_fits (fits_of_nearestOnGrid? hdigits)
    · next hnone =>
      by_cases hat : exponent = last
      · subst hat
        refine absurd hnone (nearestOnGrid?_ne_none hlast (x.unitAt_pos _) ?_ ?_)
        · unfold lowQuarters
          split <;> omega
        · unfold highQuarters
          omega
      · exact ih (exponent - 1) (by omega) (by omega)

theorem shortest_attracts (hpos : 0 < x.significand) : x.Attracts (x.shortest tie).value := by
  have hzero : x.isZero = false := decide_eq_false (by omega)
  have hbound : min x.exponent 0 ≤ x.decimalBound := by
    unfold decimalBound
    dsimp only
    split <;> omega
  unfold shortest
  rw [if_neg (by rw [hzero]; exact Bool.false_ne_true)]
  exact searchDown_attracts hpos x.gridAt_dvd _ _ hbound (by omega)

end
end Double

/-! ### Reading a decimal that is near to a number -/

section
variable {x : Double} {d : Decimal}

theorem Double.two_zpow_le_ten_zpow {e : ℤ} (he : 0 ≤ e) : (2 : ℚ) ^ (3 * e) ≤ 10 ^ e := by
  rw [zpow_mul]
  exact zpow_le_zpow_left₀ he (by norm_num) (by norm_num)

/-- What is near to a number is no larger than all numbers. -/
theorem Double.Attracts.le_two_zpow {q : ℚ} (hx : x.IsCanonical) (h : x.Attracts q) :
    q ≤ 2 ^ (1024 : ℤ) := by
  calc q ≤ x.highQuarters * 2 ^ (x.exponent - 2) := h.le_high
    _ ≤ 2 ^ (55 : ℤ) * 2 ^ (969 : ℤ) := by
      refine mul_le_mul ?_ ?_ (Double.two_zpow_pos _).le (Double.two_zpow_pos _).le
      · have hle : x.highQuarters ≤ 2 ^ 55 := by
          have hlt := x.significand_lt
          unfold Double.highQuarters
          omega
        exact_mod_cast hle
      · refine zpow_le_zpow_right₀ one_le_two ?_
        have hmax := hx.le_maxExponent
        unfold Double.maxExponent at hmax
        omega
    _ = 2 ^ (1024 : ℤ) := by
      rw [← Double.two_zpow_add]
      norm_num

/-- What is near to a number other than zero is no smaller than half the smallest one. -/
theorem Double.Attracts.two_zpow_le {q : ℚ} (hx : x.IsCanonical) (hpos : 0 < x.significand)
    (h : x.Attracts q) : 2 ^ (-1075 : ℤ) ≤ q := by
  have hone : (1 : ℚ) ≤ x.significand := by exact_mod_cast hpos
  calc (2 : ℚ) ^ (-1075 : ℤ) ≤ 2 ^ (x.exponent - 1) := by
        refine zpow_le_zpow_right₀ one_le_two ?_
        have hmin := hx.minExponent_le
        unfold Double.minExponent at hmin
        omega
    _ = 2 * 2 ^ (x.exponent - 2) := by
        rw [Double.two_zpow_sub_one, show x.exponent - 1 - 1 = x.exponent - 2 by omega]
    _ ≤ x.lowQuarters * 2 ^ (x.exponent - 2) := by
        refine mul_le_mul_of_nonneg_right ?_ (Double.two_zpow_pos _).le
        rcases Double.cast_lowQuarters hpos with heq | ⟨-, -, heq⟩ <;> rw [heq] <;> linarith
    _ ≤ q := h.low_le

theorem Decimal.digits_pos_of_attracts (hx : x.IsCanonical) (hpos : 0 < x.significand)
    (h : x.Attracts d.value) : 0 < d.digits := by
  have hvalue := lt_of_lt_of_le (Double.two_zpow_pos _) (h.two_zpow_le hx hpos)
  by_contra hzero
  rw [Decimal.value, Nat.eq_zero_of_not_pos hzero, Nat.cast_zero, zero_mul] at hvalue
  exact lt_irrefl _ hvalue

/-- No decimal near to a number is too large to be read. -/
theorem Decimal.exponent_le_of_attracts (hx : x.IsCanonical) (hpos : 0 < x.significand)
    (h : x.Attracts d.value) : d.exponent ≤ Decimal.maxExponent := by
  by_contra hgt
  have hexp : (401 : ℤ) ≤ d.exponent := by
    unfold Decimal.maxExponent at hgt
    omega
  have hlarge : (2 : ℚ) ^ (1203 : ℤ) ≤ d.value := by
    calc (2 : ℚ) ^ (1203 : ℤ) ≤ 10 ^ (401 : ℤ) := Double.two_zpow_le_ten_zpow (by decide)
      _ ≤ 10 ^ d.exponent := zpow_le_zpow_right₀ (by norm_num) hexp
      _ ≤ d.digits * 10 ^ d.exponent := by
        refine le_mul_of_one_le_left (by positivity) ?_
        exact_mod_cast Decimal.digits_pos_of_attracts hx hpos h
  exact absurd (le_trans hlarge (h.le_two_zpow hx))
    (not_le.mpr (Double.two_zpow_lt_iff.mpr (by norm_num)))

/-- No decimal near to a number is so small that it is read as zero. -/
theorem Decimal.natAbs_le_of_attracts (hx : x.IsCanonical) (hpos : 0 < x.significand)
    (h : x.Attracts d.value) (hneg : d.exponent < 0) :
    d.exponent.natAbs ≤ Decimal.maxExponent + Nat.log2 d.digits := by
  by_contra hgt
  have hexp : d.exponent ≤ -(401 + (Nat.log2 d.digits : ℤ)) := by
    unfold Decimal.maxExponent at hgt
    omega
  have hpow : (10 : ℚ) ^ d.exponent ≤ 2 ^ (-(1203 + (Nat.log2 d.digits : ℤ))) := by
    calc (10 : ℚ) ^ d.exponent ≤ 10 ^ (-(401 + (Nat.log2 d.digits : ℤ))) :=
          zpow_le_zpow_right₀ (by norm_num) hexp
      _ = (10 ^ (401 + (Nat.log2 d.digits : ℤ)))⁻¹ := zpow_neg _ _
      _ ≤ (2 ^ (3 * (401 + (Nat.log2 d.digits : ℤ))))⁻¹ :=
          inv_anti₀ (Double.two_zpow_pos _) (Double.two_zpow_le_ten_zpow (by omega))
      _ = 2 ^ (-(3 * (401 + (Nat.log2 d.digits : ℤ)))) := (zpow_neg _ _).symm
      _ ≤ 2 ^ (-(1203 + (Nat.log2 d.digits : ℤ))) := zpow_le_zpow_right₀ one_le_two (by omega)
  have hsmall : d.value < 2 ^ (-1202 : ℤ) := by
    have hdigits : (d.digits : ℚ) < 2 ^ ((Nat.log2 d.digits : ℤ) + 1) := by
      exact_mod_cast Nat.lt_log2_self
    calc d.value < 2 ^ ((Nat.log2 d.digits : ℤ) + 1) * 10 ^ d.exponent :=
          mul_lt_mul_of_pos_right hdigits (by positivity)
      _ ≤ 2 ^ ((Nat.log2 d.digits : ℤ) + 1) * 2 ^ (-(1203 + (Nat.log2 d.digits : ℤ))) :=
          mul_le_mul_of_nonneg_left hpow (Double.two_zpow_pos _).le
      _ = 2 ^ (-1202 : ℤ) := by
          rw [← Double.two_zpow_add]
          congr 1
          omega
  exact absurd (lt_of_le_of_lt (h.two_zpow_le hx hpos) hsmall)
    (not_lt.mpr (zpow_le_zpow_right₀ one_le_two (by norm_num)))

theorem Decimal.value_of_nonneg (hsign : 0 ≤ d.exponent) :
    ((d.digits * 10 ^ d.exponent.toNat : ℕ) : ℚ) / (1 : ℕ) = d.value := by
  rw [Decimal.value, ← Int.toNat_of_nonneg hsign, zpow_natCast]
  push_cast
  rw [div_one, Int.toNat_natCast]

theorem Decimal.value_of_neg (hsign : d.exponent < 0) :
    (d.digits : ℚ) / (10 ^ d.exponent.natAbs : ℕ) = d.value := by
  have hexp : d.exponent = -(d.exponent.natAbs : ℤ) := by omega
  rw [Decimal.value, hexp, zpow_neg, zpow_natCast, Int.natAbs_neg, Int.natAbs_natCast,
    div_eq_mul_inv]
  push_cast
  rfl

/-- **A decimal near enough to a number is read as the number.** -/
theorem Decimal.toDouble?_of_attracts (hx : x.IsCanonical) (hpos : 0 < x.significand)
    (h : x.Attracts d.value) : d.toDouble? x.negative = some x := by
  unfold Decimal.toDouble?
  rw [if_neg (Nat.ne_of_gt (Decimal.digits_pos_of_attracts hx hpos h))]
  by_cases hsign : 0 ≤ d.exponent
  · have hle := Decimal.exponent_le_of_attracts hx hpos h
    rw [if_pos hsign, if_neg (by omega)]
    exact Double.ofRatio?_of_attracts hx hpos Nat.one_pos (by rwa [Decimal.value_of_nonneg hsign])
  · have hle := Decimal.natAbs_le_of_attracts hx hpos h (not_le.mp hsign)
    rw [if_neg hsign, if_neg (by omega)]
    exact Double.ofRatio?_of_attracts hx hpos (Nat.pow_pos (by decide))
      (by rwa [Decimal.value_of_neg (not_le.mp hsign)])

theorem Double.eq_zero_of_isZero (hx : x.IsCanonical) (hzero : x.isZero = true) :
    x = .zero x.negative := by
  have hsignificand : x.significand = 0 := of_decide_eq_true hzero
  have hexponent : x.exponent = Double.minExponent := by
    refine hx.normal.resolve_right ?_
    rw [hsignificand]
    decide
  obtain ⟨negative, significand, exponent, hlt⟩ := x
  subst hsignificand hexponent
  rfl

/-- **The shortest decimal of a number reads back as the number.** -/
theorem Decimal.toDouble?_shortest (hx : x.IsCanonical) (tie : Tie) :
    (x.shortest tie).toDouble? x.negative = some x := by
  by_cases hpos : 0 < x.significand
  · exact Decimal.toDouble?_of_attracts hx hpos (Double.shortest_attracts hpos)
  · have hzero : x.isZero = true := decide_eq_true (Nat.eq_zero_of_not_pos hpos)
    unfold Double.shortest
    rw [if_pos hzero]
    exact (congrArg some (Double.eq_zero_of_isZero hx hzero)).symm

end
end MailTriage
