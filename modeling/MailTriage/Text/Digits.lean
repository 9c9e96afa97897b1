/-! # Digits

Natural numbers as decimal text: with a fixed number of places (`fixedDigits`), with as few as they
need (`decimal`), and back (`valueOfDigits`); and with a fixed number of hexadecimal places
(`hexDigits`); a single one reads back as its value (`hexValue`).

A count is a natural number of 64 bits, written with decimal digits and perhaps a plus sign in front
of them (`readCount`).
-/
namespace MailTriage.Text

/-- The digit of a number below ten. -/
def digitChar (n : Nat) : Char := Char.ofNat (48 + n % 10)

/-- Whether a character is one of `0` to `9`. -/
def isDigit (c : Char) : Bool := '0' ≤ c && c ≤ '9'

/-- The value of a digit. -/
def digitValue (c : Char) : Nat := c.toNat - 48

/-- The last `places` decimal digits of a number, zeros in front included. -/
def fixedDigits : Nat → Nat → List Char
  | 0, _ => []
  | places + 1, n => fixedDigits places (n / 10) ++ [digitChar n]

/-- The number a sequence of digits denotes, read after the digits of `seen`. -/
def valueOfDigits (seen : Nat) (cs : List Char) : Nat :=
  cs.foldl (fun n c => 10 * n + digitValue c) seen

/-- The decimal digits of a number, the last ones first, with fuel for that many. -/
def digitsBackward : Nat → Nat → List Char
  | 0, _ => []
  | fuel + 1, n => digitChar n :: if n < 10 then [] else digitsBackward fuel (n / 10)

/-- The decimal digits of a number, without zeros in front. -/
def decimalChars (n : Nat) : List Char := (digitsBackward (n + 1) n).reverse

/-- The decimal text of a number. -/
def decimal (n : Nat) : String := String.ofList (decimalChars n)

/-- The decimal text of an integer, with `-` in front of a negative one. -/
def decimalInt (n : Int) : String :=
  String.ofList (if n < 0 then '-' :: decimalChars n.natAbs else decimalChars n.natAbs)

/-- The hexadecimal digit of a number below sixteen. -/
def hexDigit (n : Nat) : Char := if n < 10 then Char.ofNat (48 + n) else Char.ofNat (87 + n)

/-- The value of a hexadecimal digit. -/
def hexValue (c : Char) : Option Nat :=
  if isDigit c then some (digitValue c)
  else if 'a' ≤ c && c ≤ 'f' then some (c.toNat - 87)
  else if 'A' ≤ c && c ≤ 'F' then some (c.toNat - 55)
  else none

/-- The lowest hexadecimal digits of a number, as many as wanted. -/
def hexDigits : Nat → Nat → List Char
  | 0, _ => []
  | places + 1, n => hexDigits places (n / 16) ++ [hexDigit (n % 16)]

@[simp] theorem length_fixedDigits (places n : Nat) : (fixedDigits places n).length = places := by
  induction places generalizing n with
  | zero => rfl
  | succ places ih => simp [fixedDigits, ih]

example : decimal 0 = "0" := by decide
example : decimalInt (-120) = "-120" := by decide
example : fixedDigits 3 7 = ['0', '0', '7'] := by decide
example : valueOfDigits 0 ['1', '2', '0'] = 120 := by decide

/-! ### Counts -/

/-- The largest count. -/
def maxCount : Nat := 0xFFFFFFFFFFFFFFFF

/-- Why a text is not a count. -/
inductive CountFault where
  | empty
  | invalidDigit
  | tooLarge
deriving DecidableEq, Repr

/-- What is said about a text that is not a count. -/
def CountFault.message : CountFault → String
  | .empty => "cannot parse integer from empty string"
  | .invalidDigit => "invalid digit found in string"
  | .tooLarge => "number too large to fit in target type"

/-- Reads digits from the front on, after those whose value is `seen`.  The first of them that is
wrong, or too much, is the fault. -/
def countDigits (seen : Nat) : List Char → Except CountFault Nat
  | [] => .ok seen
  | c :: rest =>
    if !isDigit c then .error .invalidDigit
    else if maxCount < 10 * seen + digitValue c then .error .tooLarge
    else countDigits (10 * seen + digitValue c) rest

/-- Reads a count. -/
def readCount (text : String) : Except CountFault Nat :=
  match text.toList with
  | [] => .error .empty
  | ['+'] => .error .invalidDigit
  | '+' :: rest => countDigits 0 rest
  | digits => countDigits 0 digits

example : readCount "+007" = .ok 7 := rfl
example : readCount "5 " = .error .invalidDigit := rfl
example : readCount "18446744073709551616" = .error .tooLarge := rfl

end MailTriage.Text
