import MailTriage.Json.Reader
import MailTriage.Text.Digits

/-! # Relaxed JSON

A second reader of JSON texts, for texts written by hand.  Beyond the strict form it takes comments
and more kinds of blanks, names without quotes, texts between apostrophes, escapes by two digits,
line ends inside a text after a backslash, a comma after the last part, hexadecimal numbers, numbers
with a plus sign or nothing on one side of the point, and infinities and words for no number.  An
infinity lies beyond double precision, so it denotes nothing; no number is null.
-/
namespace MailTriage.Json.Relaxed

/-- A reader of the front of a text gives what it read and the characters that are left, if the text
is well-formed. -/
abbrev Reader (α : Type) := List Char → Option (α × List Char)

/-! ### Gaps -/

/-- Whether a character is a blank. -/
def isBlank (c : Char) : Bool :=
  let n := c.toNat
  (0x9 ≤ n && n ≤ 0xD) || n = 0x20 || n = 0xA0 || n = 0x1680 || (0x2000 ≤ n && n ≤ 0x200A)
    || n = 0x2028 || n = 0x2029 || n = 0x202F || n = 0x205F || n = 0x3000 || n = 0xFEFF

/-- Whether a character ends a line. -/
def isLineEnd (c : Char) : Bool := c = '\n' || c = '\r' || c = '\u2028' || c = '\u2029'

/-- The characters after the end of a comment between `/*` and `*/`, if it ends. -/
def afterComment? : List Char → Option (List Char)
  | '*' :: '/' :: rest => some rest
  | _ :: rest => afterComment? rest
  | [] => none

/-- The characters after a comment or a blank in front, if there is one. -/
def afterGap? : List Char → Option (List Char)
  | '/' :: '*' :: rest => afterComment? rest
  | '/' :: '/' :: rest => some ((rest.dropWhile fun c => !isLineEnd c).drop 1)
  | c :: rest => if isBlank c then some rest else none
  | [] => none

/-- The characters without gaps in front, with fuel for each. -/
def skipGaps : Nat → List Char → List Char
  | 0, cs => cs
  | fuel + 1, cs =>
    match afterGap? cs with
    | some rest => skipGaps fuel rest
    | none => cs

/-- The characters without gaps in front. -/
def skip (cs : List Char) : List Char := skipGaps cs.length cs

/-! ### Texts -/

/-- The value of two hexadecimal digits. -/
def hexValue2 (a b : Char) : Option Nat := do
  return (← Text.hexValue a) * 16 + (← Text.hexValue b)

/-- Puts a code point in front of those read after it. -/
def push (n : Nat) (tail : Option (List Nat × List Char)) : Option (List Nat × List Char) :=
  tail.map fun (ns, left) => (n :: ns, left)

/-- The character that a backslash and a letter stand for. -/
def shortEscape (c : Char) : Option Char :=
  if c = '\'' then some '\''
  else if c = '0' then some '\x00'
  else if c = 'v' then some '\t'
  else Json.shortEscape c

/-- A text after its opening quote, up to and with the closing one, as code points; an escape may
give half of a surrogate pair. -/
def textBody (quote : Char) : Reader (List Nat)
  | [] => none
  | '\\' :: '\r' :: '\n' :: left => textBody quote left
  | '\\' :: 'u' :: a :: b :: c :: d :: left => do
    push (← hexValue4 a b c d) (textBody quote left)
  | '\\' :: 'x' :: a :: b :: left => do
    push (← hexValue2 a b) (textBody quote left)
  | '\\' :: c :: left =>
    if isLineEnd c then textBody quote left
    else do push (← shortEscape c).toNat (textBody quote left)
  | c :: left =>
    if c = quote then some ([], left)
    else if c.toNat < 0x20 then none
    else push c.toNat (textBody quote left)

/-- Whether a character may start a name without quotes. -/
def startsName (c : Char) : Bool := c.isAlpha || c = '_' || c = '$' || 0x80 ≤ c.toNat

/-- Whether a character may stand in a name without quotes. -/
def continuesName (c : Char) : Bool := (startsName c && !isBlank c) || Text.isDigit c

/-- A name without quotes, as code points, with whatever may start it. -/
def nameBody (mayBe : Char → Bool) : Reader (List Nat)
  | '\\' :: 'u' :: a :: b :: c :: d :: left =>
    match hexValue4 a b c d with
    | some n => push n (nameBody continuesName left)
    | none => some ([], '\\' :: 'u' :: a :: b :: c :: d :: left)
  | c :: left =>
    if mayBe c then push c.toNat (nameBody continuesName left) else some ([], c :: left)
  | [] => some ([], [])

/-- The characters of code points, unless half of a surrogate pair stands alone among them. -/
def joinPairs? : List Nat → Option (List Char)
  | [] => some []
  | n :: rest =>
    if isLowSurrogate n then none
    else if isHighSurrogate n then
      match rest with
      | m :: rest =>
        if isLowSurrogate m then do
          return Char.ofNat (0x10000 + (n - 0xD800) * 0x400 + (m - 0xDC00)) :: (← joinPairs? rest)
        else none
      | [] => none
    else do return Char.ofNat n :: (← joinPairs? rest)

/-! ### Numbers and words -/

/-- A number in hexadecimal digits, with its sign; one beyond 64 bits denotes nothing. -/
def hexNumber (negative : Bool) (digits : List Char) : Json :=
  let value := digits.foldl (fun n c => 16 * n + (Text.hexValue c).getD 0) 0
  if Text.maxCount < value then .broken
  else .integer (if negative then -(value : Int) else value)

/-- The value of a number in decimal digits whose text is in the strict form. -/
def decimalNumber (text : List Char) : Json :=
  match integerOf? text, valueOf .nearest text with
  | some n, _ => .integer n
  | none, .ok x => .real x
  | none, .error _ => .broken

/-- An exponent, if there is one. -/
def exponentPart : Reader (List Char) := fun cs =>
  match cs with
  | c :: rest =>
    if c = 'e' || c = 'E' then
      let sign := rest.takeWhile fun c => c = '+' || c = '-'
      let digits := (rest.drop sign.length).takeWhile Text.isDigit
      if sign.length ≤ 1 && !digits.isEmpty then
        some ('e' :: sign ++ digits, rest.drop (sign.length + digits.length))
      else none
    else some ([], cs)
  | [] => some ([], [])

/-- A number in decimal digits after its sign, with a digit on at least one side of a point. -/
def decimalText : Reader (List Char) := fun cs => do
  let whole := cs.takeWhile Text.isDigit
  let left := cs.dropWhile Text.isDigit
  let (fraction, left) := match left with
    | '.' :: rest => (some (rest.takeWhile Text.isDigit), rest.dropWhile Text.isDigit)
    | left => (none, left)
  if whole.isEmpty && (fraction.getD []).isEmpty then none
  else if 1 < whole.length && whole.head? = some '0' then none
  else
    let (power, left) ← exponentPart left
    let whole := if whole.isEmpty then ['0'] else whole
    let fraction := match fraction with
      | none => []
      | some [] => ['.', '0']
      | some digits => '.' :: digits
    return (whole ++ fraction ++ power, left)

/-- The characters after a word in front, in any letter case, if it is there. -/
def afterWord? (word : List Char) (cs : List Char) : Option (List Char) :=
  if (cs.take word.length).map Char.toLower = word then some (cs.drop word.length) else none

/-- A number after its sign. -/
def number (negative : Bool) : Reader Json := fun cs =>
  match cs with
  | '0' :: x :: d :: rest =>
    if (x = 'x' || x = 'X') && (Text.hexValue d).isSome then
      let digits := d :: rest.takeWhile fun c => (Text.hexValue c).isSome
      some (hexNumber negative digits, rest.dropWhile fun c => (Text.hexValue c).isSome)
    else decimal cs
  | cs =>
    match afterWord? "inf".toList cs with
    | some rest => some (.broken, (afterWord? "inity".toList rest).getD rest)
    | none => decimal cs
where
  /-- A number in decimal digits. -/
  decimal : Reader Json := fun cs => do
    let (size, left) ← decimalText cs
    return (decimalNumber (if negative then '-' :: size else size), left)

/-- What words stand for, in any letter case. -/
def words : List (String × Json) :=
  [("inf", .broken), ("infinity", .broken), ("nan", .null), ("qnan", .null), ("snan", .null)]

/-- What words stand for as they are written here. -/
def literals : List (String × Json) :=
  [("true", .bool true), ("false", .bool false), ("null", .null)]

/-- A word that no letter or digit follows. -/
def word : Reader Json := fun cs =>
  let ends (left : List Char) : Bool := !(left.head?.any Char.isAlphanum)
  let literal := literals.findSome? fun (spelling, json) =>
    if spelling.toList.isPrefixOf cs then some (json, cs.drop spelling.length) else none
  let known := words.findSome? fun (spelling, json) =>
    match afterWord? spelling.toList cs with
    | some left => if ends left then some (json, left) else none
    | none => none
  match literal with
  | some (json, left) => if ends left then some (json, left) else known
  | none => known

/-! ### Values -/

/-- A text, if it has no half of a surrogate pair in it. -/
def ofCodes (codes : List Nat) : Json :=
  match joinPairs? codes with
  | some cs => .text (String.ofList cs)
  | none => .broken

/-- A value without parts. -/
def leaf : Reader Json := fun cs =>
  match cs with
  | '"' :: left => do
    let (codes, left) ← textBody '"' left
    return (ofCodes codes, left)
  | '\'' :: left => do
    let (codes, left) ← textBody '\'' left
    return (ofCodes codes, left)
  | '+' :: left => number false left
  | '-' :: left => number true left
  | cs => if cs.head?.any fun c => c = '.' || Text.isDigit c then number false cs else word cs

/-- The name of a member, with or without quotes, as code points.  What reads as a value is no name
without quotes. -/
def name : Reader (List Nat) := fun cs =>
  match cs with
  | '"' :: left => textBody '"' left
  | '\'' :: left => textBody '\'' left
  | cs =>
    if (leaf cs).isSome then none
    else match nameBody startsName cs with
      | some ([], _) | none => none
      | some (codes, left) => some (codes, left)

/-- A colon. -/
def colon : Reader Unit := fun cs =>
  match skip cs with
  | ':' :: left => some ((), left)
  | _ => none

mutual

/-- A value, with fuel for each value, item and member inside it, and with room for so many arrays
and objects inside each other. -/
def value (room : Nat) : Nat → Reader Json
  | 0, _ => none
  | fuel + 1, cs =>
    match room, skip cs with
    | 0, '[' :: _ | 0, '{' :: _ => none
    | room + 1, '[' :: left => do
      let (items, left) ← items room fuel left
      return (.array items, left)
    | room + 1, '{' :: left => do
      let (members?, left) ← members room fuel left
      return ((members?.map Json.object).getD .broken, left)
    | _, cs => leaf cs

/-- The items of an array from one of them on, or none, up to and with the closing bracket. -/
def items (room : Nat) : Nat → Reader (List Json)
  | 0, _ => none
  | fuel + 1, cs =>
    match skip cs with
    | ']' :: left => some ([], left)
    | cs => do
      let (item, left) ← value room fuel cs
      match skip left with
      | ']' :: left => return ([item], left)
      | ',' :: left =>
        let (rest, left) ← items room fuel left
        return (item :: rest, left)
      | _ => none

/-- The members of an object from one of them on, or none, up to and with the closing brace; a name
with half of a surrogate pair denotes nothing. -/
def members (room : Nat) : Nat → Reader (Option (List (String × Json)))
  | 0, _ => none
  | fuel + 1, cs =>
    match skip cs with
    | '}' :: left => some (some [], left)
    | cs => do
      let (codes, left) ← name cs
      let ((), left) ← colon left
      let (item, left) ← value room fuel left
      let name? := (joinPairs? codes).map String.ofList
      match skip left with
      | '}' :: left => return (member name? item (some []), left)
      | ',' :: left =>
        let (rest?, left) ← members room fuel left
        return (member name? item rest?, left)
      | _ => none

end

/-- So many arrays and objects may lie inside each other. -/
def depthLimit : Nat := 1000

/-- Reads a text as relaxed JSON. -/
def read? (text : String) : Option Json := do
  let (json, left) ← value depthLimit (2 * text.length + 2) text.toList
  if (skip left).isEmpty then return json else none

end MailTriage.Json.Relaxed
