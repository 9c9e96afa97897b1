import MailTriage.Number.Decimal
import MailTriage.Text.Digits

/-! # JSON numbers of double precision

A number's text has as its value a number of double precision (`valueOf`): the nearest one, or the
one that is found the quicker way, from as many of its digits as have 64 bits together (`mantissa`).
Too large is what lies beyond all of them, and an exponent of more than 31 bits in any case.

A value is written with the fewest digits that read back, always with a point or an exponent: as a
plain decimal where the point stands among the first sixteen digits or has at most four zeros behind
it, else with one digit before the point (`realChars`).
-/
namespace MailTriage.Json

/-- The largest exponent that can be written. -/
def maxWrittenExponent : Nat := 0x7FFFFFFF

/-- The exponent that digits denote after those of `seen`, or the digits that are left when it has
become too large. -/
def exponentDigits (seen : Nat) : List Char → Except (List Char) Nat
  | [] => .ok seen
  | c :: rest =>
    if maxWrittenExponent < 10 * seen + Text.digitValue c then .error rest
    else exponentDigits (10 * seen + Text.digitValue c) rest

/-- Digits are taken after those of `seen` as long as they have 64 bits together.  Gives what they
denote and the digits that are left. -/
def firstDigits (seen : Nat) : List Char → Nat × List Char
  | [] => (seen, [])
  | c :: rest =>
    if 10 * seen + Text.digitValue c ≤ Text.maxCount then
      firstDigits (10 * seen + Text.digitValue c) rest
    else (seen, c :: rest)

/-- The decimal that the digits before and behind the point are taken for.  The quicker way leaves
digits away that are too many, before the point and behind it. -/
def mantissa : Rounding → List Char → List Char → Decimal
  | .nearest, whole, fraction =>
    ⟨Text.valueOfDigits 0 (whole ++ fraction), -(fraction.length : Int)⟩
  | .quick, whole, fraction =>
    let (seen, more) := firstDigits 0 whole
    let (digits, left) := firstDigits seen fraction
    ⟨digits, more.length + left.length - fraction.length⟩

/-- The value of a number's text.  If it is too large, the part of the text that need not be read to
know that. -/
def valueOf (rounding : Rounding) (number : List Char) : Except (List Char) Double :=
  let negative := number.head? = some '-'
  let unsigned := if negative then number.drop 1 else number
  let whole := unsigned.takeWhile Text.isDigit
  let rest := unsigned.dropWhile Text.isDigit
  let fraction := match rest with
    | '.' :: cs => cs.takeWhile Text.isDigit
    | _ => []
  let power := (rest.dropWhile fun c => c ≠ 'e' && c ≠ 'E').drop 1
  let shrinks := power.head? = some '-'
  let d := mantissa rounding whole fraction
  match exponentDigits 0 (power.dropWhile fun c => !Text.isDigit c) with
  | .error unread =>
    if d.digits = 0 || shrinks then .ok (.zero negative) else .error unread
  | .ok written =>
    let exponent : Int := d.exponent + if shrinks then -(written : Int) else written
    match rounding.toDouble? negative ⟨d.digits, exponent⟩ with
    | some x => .ok x
    | none => .error []

/-- A decimal other than zero: plain near to the point, with an exponent far away from it. -/
def decimalChars (d : Decimal) : List Char :=
  let digits := Text.decimalChars d.digits
  let before : Int := digits.length + d.exponent
  if -5 < before && before ≤ 16 then
    d.positional ++ if 0 ≤ d.exponent then ['.', '0'] else []
  else
    let mantissa := match digits with
      | first :: second :: rest => first :: '.' :: second :: rest
      | digits => digits
    mantissa ++ 'e' :: (Text.decimalInt (before - 1)).toList

/-- The text of a number of double precision. -/
def realChars (x : Double) : List Char :=
  let size := if x.isZero then ['0', '.', '0'] else decimalChars (x.shortest .even)
  if x.negative then '-' :: size else size

end MailTriage.Json
