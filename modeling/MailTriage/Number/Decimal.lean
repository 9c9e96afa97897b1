import MailTriage.Number.Double
import MailTriage.Text.Digits

/-! # Decimals

A decimal is digits times a power of ten.  The nearest number of double precision is its value there
(`Decimal.toDouble?`).  There is a quicker way that comes near to it: the digits and the power of ten
are rounded each, and then their product or quotient once more (`Decimal.quick?`).

Back, the shortest decimal of a number has the fewest digits with which a decimal still rounds to
that number, and of those with so few digits it is the nearest one (`Double.shortest`).  A decimal is
written without an exponent by `Decimal.positional`.
-/
namespace MailTriage

-- Powers are those of the numbers themselves, also where every monoid has its own.
attribute [local instance (10001)] instPowNat

/-- A decimal: digits, and the exponent of the power of ten that they count. -/
structure Decimal where
  digits : Nat
  exponent : Int
deriving DecidableEq, Repr

/-- Which one of two equally near decimals is taken. -/
inductive Tie where
  | upper
  | even
deriving DecidableEq, Repr

/-- A decimal of this exponent is larger than all numbers of double precision. -/
def Decimal.maxExponent : Nat := 400

/-- The number of double precision nearest to a decimal with a sign, if the decimal is not too
large. -/
def Decimal.toDouble? (negative : Bool) (d : Decimal) : Option Double :=
  if d.digits = 0 then some (.zero negative)
  else if 0 ≤ d.exponent then
    if maxExponent < d.exponent.toNat then none
    else Double.ofRatio? negative (d.digits * 10 ^ d.exponent.toNat) 1
  else if maxExponent + Nat.log2 d.digits < d.exponent.natAbs then some (.zero negative)
  else Double.ofRatio? negative d.digits (10 ^ d.exponent.natAbs)

/-! ### The quicker way -/

/-- The largest power of ten of double precision. -/
def Decimal.maxPower : Nat := 308

namespace Double

/-- A number times a power of ten: the power is rounded, and then the product.  It may be too
large. -/
def timesTen? (x : Double) (places : Nat) : Option Double := do
  let power ← ofNat? (10 ^ places)
  ofRatio? x.negative (x.ratio.1 * power.ratio.1) (x.ratio.2 * power.ratio.2)

/-- A number divided by a power of ten: the power is rounded, and then the quotient. -/
def overTen? (x : Double) (places : Nat) : Option Double := do
  let power ← ofNat? (10 ^ places)
  ofRatio? x.negative (x.ratio.1 * power.ratio.2) (x.ratio.2 * power.ratio.1)

/-- A number divided by any power of ten: by the largest one as long as more places are left, until
nothing is left of the number; with fuel for each time. -/
def shrink? (x : Double) : Nat → Nat → Option Double
  | 0, _ => some x
  | fuel + 1, places =>
    if x.isZero then some x
    else if places ≤ Decimal.maxPower then x.overTen? places
    else do (← x.overTen? Decimal.maxPower).shrink? fuel (places - Decimal.maxPower)

end Double

/-- The number of double precision that a decimal with a sign becomes the quicker way, if it is not
too large. -/
def Decimal.quick? (negative : Bool) (d : Decimal) : Option Double :=
  if d.digits = 0 then some (.zero negative)
  else do
    let x ← Double.ofRatio? negative d.digits 1
    if 0 ≤ d.exponent then
      if maxPower < d.exponent.toNat then none else x.timesTen? d.exponent.toNat
    else x.shrink? d.exponent.natAbs d.exponent.natAbs

/-- How a decimal becomes a number of double precision. -/
inductive Rounding where
  /-- It is rounded once. -/
  | nearest
  /-- It is rounded the quicker way. -/
  | quick
deriving DecidableEq, Repr

/-- The number of double precision that a decimal with a sign becomes, if it is not too large. -/
def Rounding.toDouble? : Rounding → Bool → Decimal → Option Double
  | .nearest => Decimal.toDouble?
  | .quick => Decimal.quick?

/-! ### The shortest decimal -/

namespace Double

/-- The multiple of `grid` that rounds to a number: the one just below or just above it, and the
nearer one if both do.  The number is `value` units, and what lies between `low` and `high` units
rounds to it, the two ends included if `ends` says so. -/
def nearestOnGrid? (tie : Tie) (ends : Bool) (low value high unit grid : Nat) : Option Nat :=
  let below := value * unit / grid
  let fits (n : Nat) : Bool :=
    if ends then low * unit ≤ n * grid && n * grid ≤ high * unit
    else low * unit < n * grid && n * grid < high * unit
  let twice := 2 * (value * unit % grid)
  let upper := grid < twice || (twice = grid && (tie = .upper || below % 2 = 1))
  if fits below && fits (below + 1) then some (if upper then below + 1 else below)
  else if fits below then some below
  else if fits (below + 1) then some (below + 1)
  else none

/-- The first hit among the decimals with ever smaller exponents. -/
def searchDown (tie : Tie) (x : Double) : Nat → Int → Decimal
  | 0, exponent => ⟨0, exponent⟩
  | fuel + 1, exponent =>
    let m := x.significand
    let low := if m = 2 ^ (52 : Nat) && minExponent < x.exponent then 4 * m - 1 else 4 * m - 2
    let quarter := x.exponent - 2
    let unit := 2 ^ quarter.toNat * 10 ^ (-exponent).toNat
    let grid := 10 ^ exponent.toNat * 2 ^ (-quarter).toNat
    match nearestOnGrid? tie (m % 2 = 0) low (4 * m) (4 * m + 2) unit grid with
    | some digits => ⟨digits, exponent⟩
    | none => searchDown tie x fuel (exponent - 1)

/-- An exponent of ten that no decimal near to a number exceeds. -/
def decimalBound (x : Double) : Int :=
  let binary := x.exponent + Nat.log2 x.significand
  if 0 ≤ binary then binary * 31 / 100 + 1 else binary * 3 / 10 + 1

/-- The shortest decimal of the size of a number.  The search ends at the last decimal digit of the
number itself at the latest. -/
def shortest (tie : Tie) (x : Double) : Decimal :=
  if x.isZero then ⟨0, 0⟩
  else
    let bound := x.decimalBound
    searchDown tie x (bound - min x.exponent 0 + 1).toNat bound

end Double

/-- The digits of a decimal, with its point where it belongs and zeros up to it. -/
def Decimal.positional (d : Decimal) : List Char :=
  let digits := Text.decimalChars d.digits
  let before : Int := digits.length + d.exponent
  if 0 ≤ d.exponent then digits ++ List.replicate d.exponent.toNat '0'
  else if 0 < before then digits.take before.toNat ++ '.' :: digits.drop before.toNat
  else '0' :: '.' :: List.replicate before.natAbs '0' ++ digits

example : (Double.ofRatio? false 1 10).map (Double.shortest .even) = some ⟨1, -1⟩ := by
  decide +kernel
example : (Double.ofNat? (10 ^ 23)).map (Double.shortest .even) = some ⟨1, 23⟩ := by
  decide +kernel
example : Decimal.quick? false ⟨15, -1⟩ = Decimal.toDouble? false ⟨15, -1⟩ := by decide +kernel
example : (Decimal.quick? false ⟨9452706955539223, -16⟩).map (Double.shortest .even)
    = some ⟨9452706955539224, -16⟩ := by decide +kernel
example : (⟨15, -1⟩ : Decimal).positional = ['1', '.', '5'] := by decide
example : (⟨5, -3⟩ : Decimal).positional = ['0', '.', '0', '0', '5'] := by decide

end MailTriage
