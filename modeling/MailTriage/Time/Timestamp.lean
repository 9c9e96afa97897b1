import MailTriage.Text.Split
import MailTriage.Text.Digits
import MailTriage.Time.Instant

/-! # Timestamps

The text form of an instant, in the profile of ISO 8601 that the internet uses:
`2024-01-02T03:04:05.500Z`.  Writing always gives UTC; the year takes four digits, and years outside
0 to 9999 carry a sign.  There are two readers.  `read` accepts the profile as it stands, with any
offset, `T`, `t` or a space before the time, and any number of fraction digits, of which nine count.
`readLoosely` accepts more: blanks between the parts, fewer digits, years with a sign, `UTC` for the
offset and an offset without a colon.
-/
namespace MailTriage.Timestamp

-- Powers and sums are those of the numbers themselves, also where every monoid has its own.
attribute [local instance (10001)] instPowNat Zero.ofOfNat0

/-! ### Writing -/

/-- How many digits of the fraction of a second are written. -/
inductive Precision where
  /-- As few of 0, 3, 6 and 9 as lose nothing. -/
  | shortest
  /-- Exactly three; what lies below is cut off. -/
  | millis
deriving DecidableEq, Repr

/-- A year: four digits, or a sign and at least four digits outside the years 0 to 9999. -/
def yearChars (year : Int) : List Char :=
  let size := year.natAbs
  let digits := if size < 10000 then Text.fixedDigits 4 size else Text.decimalChars size
  if year < 0 then '-' :: digits else if 9999 < year then '+' :: digits else digits

/-- The fraction of a second with its point, or nothing. -/
def fractionChars (precision : Precision) (nano : Nat) : List Char :=
  match precision with
  | .millis => '.' :: Text.fixedDigits 3 (nano / 1000000)
  | .shortest =>
    if nano = 0 then []
    else if nano % 1000000 = 0 then '.' :: Text.fixedDigits 3 (nano / 1000000)
    else if nano % 1000 = 0 then '.' :: Text.fixedDigits 6 (nano / 1000)
    else '.' :: Text.fixedDigits 9 nano

/-- The characters of an instant's timestamp.  A leap second is written as second 60. -/
def chars (precision : Precision) (t : Instant) : List Char :=
  let date := Calendar.dateOfDay t.day
  let s := t.secondOfDay
  let leap := if 1000000000 ≤ t.nano then 1 else 0
  yearChars date.year ++ '-' :: Text.fixedDigits 2 date.month ++ '-' :: Text.fixedDigits 2 date.day
    ++ 'T' :: Text.fixedDigits 2 (s / 3600) ++ ':' :: Text.fixedDigits 2 (s / 60 % 60)
    ++ ':' :: Text.fixedDigits 2 (s % 60 + leap)
    ++ fractionChars precision (t.nano % 1000000000) ++ ['Z']

/-- The timestamp with the fewest fraction digits that lose nothing. -/
def write (t : Instant) : String := String.ofList (chars .shortest t)

/-- The timestamp with exactly three fraction digits. -/
def writeMillis (t : Instant) : String := String.ofList (chars .millis t)

/-! ### Reading -/

/-- Why a text is not a timestamp. -/
inductive ReadError where
  | outOfRange
  | impossible
  | invalid
  | tooShort
  | tooLong
deriving DecidableEq, Repr

/-- What is said about a text that is not a timestamp. -/
def ReadError.message : ReadError → String
  | .outOfRange => "input is out of range"
  | .impossible => "no possible date and time matching input"
  | .invalid => "input contains invalid characters"
  | .tooShort => "premature end of input"
  | .tooLong => "trailing input"

/-- A reader of the front of a text gives a value and the rest of the text. -/
abbrev Reader (α : Type) := List Char → Except ReadError (α × List Char)

/-- A number of `least` to `most` digits. -/
def number (least most : Nat) : Reader Nat := fun cs =>
  if (cs.map Char.utf8Size).sum < least then .error .tooShort
  else
    let digits := (cs.take most).takeWhile Text.isDigit
    let value := Text.valueOfDigits 0 digits
    if digits.length < least then .error .invalid
    else if 0x8000000000000000 ≤ value then .error .outOfRange
    else .ok (value, cs.drop digits.length)

/-- A given character. -/
def char (c : Char) : Reader Unit := fun cs =>
  match cs with
  | [] => .error .tooShort
  | x :: rest => if x = c then .ok ((), rest) else .error .invalid

/-- A number that has to lie between two bounds. -/
def bounded (least most : Nat) (value : Nat × List Char) : Except ReadError (Nat × List Char) :=
  if least ≤ value.1 && value.1 ≤ most then .ok value else .error .outOfRange

/-- The separator between date and time. -/
def dateTimeSeparator : Reader Unit := fun cs =>
  match cs with
  | [] => .error .tooShort
  | x :: rest => if x = 'T' || x = 't' || x = ' ' then .ok ((), rest) else .error .invalid

/-- A fraction of a second, if a point follows: at least one digit, of which nine count.  The value
is in nanoseconds. -/
def fraction : Reader Nat := fun cs =>
  match cs with
  | '.' :: rest => do
    let (value, after) ← number 1 9 rest
    let places := rest.length - after.length
    return (value * 10 ^ (9 - places), after.dropWhile Text.isDigit)
  | _ => .ok (0, cs)

/-- Two digits of an offset, the first of them at most `highest`. -/
def offsetDigits (highest : Char) : Reader Nat := fun cs =>
  match cs with
  | a :: b :: rest =>
    if Text.isDigit a && Text.isDigit b then
      if a ≤ highest then .ok (Text.valueOfDigits 0 [a, b], rest) else .error .outOfRange
    else .error .invalid
  | [a] => if a.utf8Size = 1 then .error .tooShort else .error .invalid
  | [] => .error .tooShort

/-- An offset in seconds east of UTC: `Z`, or a sign, hours, whatever `separator` takes, and
minutes. -/
def offset (separator : Reader Unit) : Reader Int := fun cs =>
  match cs with
  | [] => .error .tooShort
  | x :: rest =>
    if x = 'Z' || x = 'z' then .ok (0, rest)
    else if x = '+' || x = '-' || x = '−' then do
      let (hours, rest) ← offsetDigits '9' rest
      let ((), rest) ← separator rest
      let (minutes, rest) ← offsetDigits '5' rest
      let seconds : Int := hours * 3600 + minutes * 60
      return (if x = '+' then seconds else -seconds, rest)
    else .error .invalid

/-- The fields of a timestamp as they were read. -/
structure Fields where
  year : Int
  month : Nat
  day : Nat
  hour : Nat
  minute : Nat
  second : Nat
  nano : Nat
  offset : Int

/-- The instant that the fields of a timestamp denote.  Second 60 is the leap second after
second 59. -/
def Fields.toInstant (f : Fields) : Except ReadError Instant :=
  if 86400 ≤ f.offset.natAbs then .error .outOfRange
  else if !(Calendar.Date.isValid ⟨f.year, f.month, f.day⟩) then .error .outOfRange
  else
    let second := if f.second = 60 then 59 else f.second
    let nano := if f.second = 60 then f.nano + 1000000000 else f.nano
    let clock : Int := f.hour * 3600 + f.minute * 60 + second
    let written := 86400 * Calendar.dayNumber ⟨f.year, f.month, f.day⟩ + clock
    if written < earliestSecond || latestSecond < written then .error .outOfRange
    else match Instant.of? (written - f.offset) nano with
      | some t => .ok t
      | none => .error .impossible

/-- A number of exactly so many digits. -/
def digits (count : Nat) : Reader Nat := fun cs =>
  let read := (cs.take count).takeWhile Text.isDigit
  if read.length < count then .error .invalid
  else .ok (Text.valueOfDigits 0 read, cs.drop count)

/-- The fields of a timestamp in the strict profile.  The date has to exist before the time is
looked at, and the time before the offset is. -/
def fields : Reader Fields := fun cs => do
  let (year, cs) ← digits 4 cs
  let ((), cs) ← char '-' cs
  let (month, cs) ← digits 2 cs
  let ((), cs) ← char '-' cs
  let (day, cs) ← digits 2 cs
  if !(Calendar.Date.isValid ⟨year, month, day⟩) then throw .outOfRange
  let ((), cs) ← dateTimeSeparator cs
  let (hour, cs) ← digits 2 cs
  let ((), cs) ← char ':' cs
  let (minute, cs) ← digits 2 cs
  let ((), cs) ← char ':' cs
  let (second, cs) ← digits 2 cs
  let (nano, cs) ← fraction cs
  if 23 < hour || 59 < minute || 60 < second then throw .outOfRange
  let (offset, cs) ← offset (char ':') cs
  return ({ year, month, day, hour, minute, second, nano, offset }, cs)

/-- How many bytes date and time take at least. -/
def leastLength : Nat := 19

/-- Reads a timestamp in the strict profile. -/
def read (text : String) : Except ReadError Instant := do
  if text.utf8ByteSize < leastLength then throw .tooShort
  let (f, rest) ← fields text.toList
  if !rest.isEmpty then throw .tooLong
  f.toInstant

/-- A year: up to four digits, or a sign and any number of digits. -/
def looseYear : Reader Int := fun cs =>
  match Text.trimStart cs with
  | '-' :: rest => do
    let (year, rest) ← number 1 rest.length rest
    return (-(year : Int), rest)
  | '+' :: rest => do
    let (year, rest) ← number 1 rest.length rest
    return (year, rest)
  | rest => do
    let (year, rest) ← number 1 4 rest
    return (year, rest)

/-- A number of one or two digits, blanks before it skipped. -/
def looseNumber : Reader Nat := fun cs => number 1 2 (Text.trimStart cs)

/-- A given character, blanks before it skipped. -/
def looseChar (c : Char) : Reader Unit := fun cs => char c (Text.trimStart cs)

/-- Any run of colons and blanks. -/
def looseColon : Reader Unit := fun cs => .ok ((), cs.dropWhile fun c => c = ':' || Text.isBlank c)

/-- `UTC` in any letter case, or an offset. -/
def looseOffset : Reader Int := fun cs =>
  if ((cs.take 3).map Char.toLower) = ['u', 't', 'c'] then .ok (0, cs.drop 3)
  else offset looseColon cs

/-- The fields of a timestamp in the loose form. -/
def looseFields : Reader Fields := fun cs => do
  let (year, cs) ← looseYear cs
  let ((), cs) ← looseChar '-' cs
  let (month, cs) ← looseNumber cs >>= bounded 1 12
  let ((), cs) ← looseChar '-' cs
  let (day, cs) ← looseNumber cs >>= bounded 1 31
  let ((), cs) ← dateTimeSeparator cs
  let (hour, cs) ← looseNumber cs >>= bounded 0 23
  let ((), cs) ← looseChar ':' cs
  let (minute, cs) ← looseNumber cs >>= bounded 0 59
  let ((), cs) ← looseChar ':' cs
  let (second, cs) ← looseNumber cs >>= bounded 0 60
  let (nano, cs) ← fraction cs
  let (offset, cs) ← looseOffset (Text.trimStart cs)
  return ({ year, month, day, hour, minute, second, nano, offset }, cs)

/-- Reads a timestamp in the loose form; blanks may follow it. -/
def readLoosely (text : String) : Except ReadError Instant := do
  let (f, rest) ← looseFields text.toList
  if !(Text.trimStart rest).isEmpty then throw .tooLong
  f.toInstant

end MailTriage.Timestamp
