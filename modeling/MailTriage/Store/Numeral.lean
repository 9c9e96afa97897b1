import MailTriage.Number.Decimal

/-! # Columns of whole numbers

A column of whole numbers takes a text as well.  A text that reads as a whole number of 64 bits is
stored as that number, also where it has a fraction or an exponent; any other text is stored as it
is.
-/
namespace MailTriage

/-- What a column of whole numbers holds. -/
inductive Numeral where
  | whole (n : Int)
  /-- A text that is no whole number. -/
  | other (text : String)
deriving DecidableEq, Repr

namespace Numeral

/-- Whether a character may stand around a number. -/
def isPadding (c : Char) : Bool := c = ' ' || (0x9 ≤ c.toNat && c.toNat ≤ 0xD)

/-- The whole number that a decimal is in double precision, if it lies between the numbers of 64
bits. -/
def wholeOf? (negative : Bool) (d : Decimal) : Option Int := do
  let n ← (← d.toDouble? negative).toInt?
  if Int64.minValue.toInt < n && n < Int64.maxValue.toInt then some n else none

/-- The exponent of ten that the end of a number gives. -/
def exponentOf? : List Char → Option Int
  | [] => some 0
  | mark :: rest =>
    let digits := match rest with
      | '+' :: digits | '-' :: digits => digits
      | digits => digits
    let size : Int := Text.valueOfDigits 0 digits
    if (mark ≠ 'e' && mark ≠ 'E') || digits.isEmpty || !digits.all Text.isDigit then none
    else some (if rest.head? = some '-' then -size else size)

/-- The whole number that a text reads as. -/
def read? (text : String) : Option Int := do
  let cs := ((text.toList.dropWhile isPadding).reverse.dropWhile isPadding).reverse
  let negative := cs.head? = some '-'
  let cs := match cs with
    | '+' :: rest | '-' :: rest => rest
    | cs => cs
  let whole := cs.takeWhile Text.isDigit
  let left := cs.dropWhile Text.isDigit
  let fraction := match left with
    | '.' :: rest => rest.takeWhile Text.isDigit
    | _ => []
  let power := match left with
    | '.' :: rest => rest.dropWhile Text.isDigit
    | left => left
  if whole.isEmpty && fraction.isEmpty then none
  else
    let size : Int := Text.valueOfDigits 0 whole
    let n := if negative then -size else size
    if left.isEmpty && Int64.minValue.toInt ≤ n && n ≤ Int64.maxValue.toInt then some n
    else
      let exponent := (← exponentOf? power) - fraction.length
      wholeOf? negative ⟨Text.valueOfDigits 0 (whole ++ fraction), exponent⟩

/-- How a text is stored. -/
def ofText (text : String) : Numeral :=
  match read? text with
  | some n => .whole n
  | none => .other text

/-- Whether a numeral comes before another one or is the same: numbers first, then texts. -/
def le : Numeral → Numeral → Bool
  | .whole m, .whole n => m ≤ n
  | .whole _, .other _ => true
  | .other _, .whole _ => false
  | .other s, .other t => s ≤ t

example : ofText " 7.0e1 " = .whole 70 := by decide +kernel
example : ofText "1.5" = .other "1.5" := by decide +kernel
example : ofText "0x10" = .other "0x10" := by decide +kernel

end Numeral
end MailTriage
