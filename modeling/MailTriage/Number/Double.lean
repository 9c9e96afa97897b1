/-! # Double precision numbers

A finite number of double precision is a sign and `significand · 2 ^ exponent`, the significand with
at most 53 binary digits.  Every quotient of natural numbers has a nearest such number, of two
equally near ones that with the even significand, unless it lies beyond the largest (`ofRatio?`).
All of it is arithmetic of natural numbers.
-/
namespace MailTriage

-- Powers are those of the numbers themselves, also where every monoid has its own.
attribute [local instance (10001)] instPowNat

/-- A quotient rounded to a whole number, a half going to the even neighbour. -/
def roundHalfEven (num den : Nat) : Nat :=
  let below := num / den
  let twice := 2 * (num % den)
  if twice < den || (twice = den && below % 2 = 0) then below else below + 1

/-- A finite number of double precision. -/
structure Double where
  negative : Bool
  significand : Nat
  exponent : Int
  significand_lt : significand < 2 ^ (53 : Nat)
deriving DecidableEq, Repr

namespace Double

/-- The exponent of the smallest numbers. -/
def minExponent : Int := -1074

/-- The exponent of the largest numbers. -/
def maxExponent : Int := 971

/-- A zero with its sign. -/
def zero (negative : Bool) : Double := ⟨negative, 0, minExponent, by decide⟩

instance : Inhabited Double := ⟨zero false⟩

/-- A quotient measured in units of a power of two. -/
def inUnits (num den : Nat) (exponent : Int) : Nat × Nat :=
  if 0 ≤ exponent then (num, den * 2 ^ exponent.toNat) else (num * 2 ^ exponent.natAbs, den)

/-- The exponent for which a quotient, measured in its power of two, has 53 binary digits; smaller
quotients have the smallest exponent. -/
def exponentFor (num den : Nat) : Int :=
  let guess : Int := (Nat.log2 num : Int) - Nat.log2 den - 52
  let (num, den) := inUnits num den guess
  max minExponent (if num / den < 2 ^ (52 : Nat) then guess - 1 else guess)

/-- The number nearest to a quotient, if the quotient is not too large. -/
def ofRatio? (negative : Bool) (num den : Nat) : Option Double :=
  let exponent := exponentFor num den
  let (num, den) := inUnits num den exponent
  let significand := roundHalfEven num den
  if h : significand < 2 ^ (53 : Nat) then
    if exponent ≤ maxExponent then some ⟨negative, significand, exponent, h⟩ else none
  else if exponent + 1 ≤ maxExponent then some ⟨negative, 2 ^ (52 : Nat), exponent + 1, by decide⟩
  else none

/-- The number nearest to a natural number, if that is not too large. -/
def ofNat? (n : Nat) : Option Double := ofRatio? false n 1

/-- Whether a number is zero, of whichever sign. -/
def isZero (x : Double) : Bool := x.significand = 0

/-- The size of a number as a quotient. -/
def ratio (x : Double) : Nat × Nat :=
  if 0 ≤ x.exponent then (x.significand * 2 ^ x.exponent.toNat, 1)
  else (x.significand, 2 ^ x.exponent.natAbs)

/-- The size of a number rounded to a whole number, a half going up. -/
def roundSize (x : Double) : Nat :=
  let (num, den) := x.ratio
  (2 * num + den) / (2 * den)

/-- The integer that a number is, if it is one. -/
def toInt? (x : Double) : Option Int :=
  let (num, den) := x.ratio
  if num % den = 0 then some (if x.negative then -(num / den : Nat) else (num / den : Nat))
  else none

example : (ofNat? (2 ^ 53 + 1)).bind toInt? = some (2 ^ 53) := by decide
example : (ofNat? (2 ^ 53 + 3)).bind toInt? = some (2 ^ 53 + 4) := by decide
example : ofRatio? false 1 (2 ^ 1075) = some (zero false) := by decide +kernel

end Double
end MailTriage
