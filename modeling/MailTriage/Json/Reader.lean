import MailTriage.Json
import MailTriage.Json.Number
import MailTriage.Text.Quoted

/-! # Reading JSON

A strict reader of JSON texts: one value, with blanks around it and nothing else.  Each part of the
reader takes characters off the front and gives what they denote together with the characters that
are left.  Where it stops, it says why and what was left, from which `ReadError` finds the line and
the column.

A text is looked at in one of two ways (`Scrutiny`): only for its form, where parts that denote
nothing are read as such, or also for its meaning, where the first such part is a fault.  Numbers are
rounded in one of two ways as well (`Rounding`).
-/
namespace MailTriage.Json

-- Sums start from the zero of the numbers themselves, also where every monoid has its own.
attribute [local instance (10001)] Zero.ofOfNat0

/-- A value of another kind than the one that is wanted. -/
inductive Found where
  | null
  | bool (b : Bool)
  | integer (n : Int)
  | real (x : Double)
  | text (s : String)
  | array
  | object
deriving DecidableEq, Repr

/-- What is said about a value of another kind. -/
def Found.message : Found → String
  | .null => "null"
  | .bool b => "boolean \x60" ++ (if b then "true" else "false") ++ "\x60"
  | .integer n => "integer \x60" ++ Text.decimalInt n ++ "\x60"
  | .real x => "floating point \x60" ++ String.ofList (realChars x) ++ "\x60"
  | .text s => "string " ++ Text.quoted s
  | .array => "sequence"
  | .object => "map"

/-- Why a text is not the JSON that is wanted. -/
inductive Fault where
  | endInArray
  | endInObject
  | endInText
  | endInValue
  | colonExpected
  | commaOrBracketExpected
  | commaOrBraceExpected
  | keywordExpected
  | valueExpected
  | invalidEscape
  | invalidNumber
  | controlCharacter
  | nameExpected
  | trailingComma
  | trailingCharacters
  /-- Half of a surrogate pair without the other half. -/
  | loneSurrogate
  /-- No escape after the first half of a surrogate pair. -/
  | unpairedSurrogate
  | numberOutOfRange
  | nestedTooDeeply
  | otherKind (found : Found) (wanted : String)
deriving DecidableEq, Repr

/-- What is said about a fault. -/
def Fault.message : Fault → String
  | .endInArray => "EOF while parsing a list"
  | .endInObject => "EOF while parsing an object"
  | .endInText => "EOF while parsing a string"
  | .endInValue => "EOF while parsing a value"
  | .colonExpected => "expected \x60:\x60"
  | .commaOrBracketExpected => "expected \x60,\x60 or \x60]\x60"
  | .commaOrBraceExpected => "expected \x60,\x60 or \x60\x7d\x60"
  | .keywordExpected => "expected ident"
  | .valueExpected => "expected value"
  | .invalidEscape => "invalid escape"
  | .invalidNumber => "invalid number"
  | .controlCharacter => "control character (\\u0000-\\u001F) found while parsing a string"
  | .nameExpected => "key must be a string"
  | .trailingComma => "trailing comma"
  | .trailingCharacters => "trailing characters"
  | .loneSurrogate => "lone leading surrogate in hex escape"
  | .unpairedSurrogate => "unexpected end of hex escape"
  | .numberOutOfRange => "number out of range"
  | .nestedTooDeeply => "recursion limit exceeded"
  | .otherKind found wanted => "invalid type: " ++ found.message ++ ", expected " ++ wanted

/-- How closely a text is looked at. -/
inductive Scrutiny where
  /-- Only for its form. -/
  | form
  /-- Also for its meaning, with room for fewer than so many arrays and objects inside each
  other. -/
  | meaning (room : Nat)
deriving DecidableEq, Repr

/-- Whether each part has to mean something. -/
def Scrutiny.isStrict : Scrutiny → Bool
  | .form => false
  | .meaning _ => true

/-- The scrutiny inside one more array or object, if there is room for it. -/
def Scrutiny.enter? : Scrutiny → Option Scrutiny
  | .form => some .form
  | .meaning (room + 2) => some (.meaning (room + 1))
  | .meaning _ => none

/-- Where the reader stopped: the characters that were left, and how many bytes further on the fault
shows, or at the end if there are fewer. -/
structure Stop where
  fault : Fault
  left : List Char
  beyond : Nat

/-- A reader of the front of a text gives what it read and the characters that are left. -/
abbrev Reader (α : Type) := List Char → Except Stop (α × List Char)

/-- Stops at the next byte of what is left. -/
def stopAt {α : Type} (fault : Fault) (left : List Char) : Except Stop α :=
  .error ⟨fault, left, 1⟩

/-- Stops after what was read. -/
def stopAfter {α : Type} (fault : Fault) (left : List Char) : Except Stop α :=
  .error ⟨fault, left, 0⟩

/-- Whether a character may stand between the parts of a JSON text. -/
def isGap (c : Char) : Bool := c = ' ' || c = '\n' || c = '\t' || c = '\r'

/-- The characters without the gap in front. -/
def skipGap (cs : List Char) : List Char := cs.dropWhile isGap

/-! ### Texts -/

/-- The value of four hexadecimal digits. -/
def hexValue4 (a b c d : Char) : Option Nat := do
  return (((← Text.hexValue a) * 16 + (← Text.hexValue b)) * 16 + (← Text.hexValue c)) * 16
    + (← Text.hexValue d)

/-- The character that a backslash and a letter stand for. -/
def shortEscape (c : Char) : Option Char :=
  if c = '"' || c = '\\' || c = '/' then some c
  else if c = 'b' then some '\x08'
  else if c = 'f' then some '\x0c'
  else if c = 'n' then some '\n'
  else if c = 'r' then some '\r'
  else if c = 't' then some '\t'
  else none

/-- Whether a unit is the first half of a surrogate pair. -/
def isHighSurrogate (n : Nat) : Bool := 0xD800 ≤ n && n ≤ 0xDBFF

/-- Whether a unit is the second half of a surrogate pair. -/
def isLowSurrogate (n : Nat) : Bool := 0xDC00 ≤ n && n ≤ 0xDFFF

/-- Puts a character in front of the text read after it. -/
def push (c : Char) (tail : Except Stop (Option (List Char) × List Char)) :
    Except Stop (Option (List Char) × List Char) :=
  match tail with
  | .ok (cs?, left) => .ok (cs?.map (c :: ·), left)
  | .error stop => .error stop

/-- Marks the text read as broken. -/
def spoil (tail : Except Stop (Option (List Char) × List Char)) :
    Except Stop (Option (List Char) × List Char) :=
  match tail with
  | .ok (_, left) => .ok (none, left)
  | .error stop => .error stop

/-- Stops at an escape by number without four hexadecimal digits: after four bytes, or at the end of
the text if there are fewer. -/
def hexFault {α : Type} (left : List Char) : Except Stop α :=
  if (left.map Char.utf8Size).sum < 4 then stopAfter .endInText []
  else .error ⟨.invalidEscape, left, 4⟩

/-- Stops after the first half of a surrogate pair, where no whole escape follows. -/
def pairFault {α : Type} : List Char → Except Stop α
  | [] | ['\\'] => stopAfter .endInText []
  | '\\' :: 'u' :: left => hexFault left
  | '\\' :: left => stopAt .unpairedSurrogate left
  | left => stopAt .unpairedSurrogate left

/-- A text after its opening quote, up to and with the closing one; `none` when half of a surrogate
pair is in it, which is a fault in a strict reading. -/
def textBody (strict : Bool) : Reader (Option (List Char))
  | [] => stopAfter .endInText []
  | '"' :: left => .ok (some [], left)
  | '\\' :: 'u' :: a :: b :: c :: d :: left =>
    match hexValue4 a b c d with
    | none => hexFault (a :: b :: c :: d :: left)
    | some unit =>
      if isHighSurrogate unit then
        match left with
        | '\\' :: 'u' :: e :: f :: g :: h :: after =>
          match hexValue4 e f g h with
          | none => hexFault (e :: f :: g :: h :: after)
          | some second =>
            if isLowSurrogate second then
              push (Char.ofNat (0x10000 + (unit - 0xD800) * 0x400 + (second - 0xDC00)))
                (textBody strict after)
            else if strict then stopAfter .loneSurrogate after
            else spoil (textBody strict ('\\' :: 'u' :: e :: f :: g :: h :: after))
        | left => if strict then pairFault left else spoil (textBody strict left)
      else if isLowSurrogate unit then
        if strict then stopAfter .loneSurrogate left else spoil (textBody strict left)
      else push (Char.ofNat unit) (textBody strict left)
  | '\\' :: 'u' :: left => hexFault left
  | '\\' :: c :: left =>
    match shortEscape c with
    | some c => push c (textBody strict left)
    | none => stopAt .invalidEscape (c :: left)
  | ['\\'] => stopAfter .endInText []
  | c :: left =>
    if c.toNat < 0x20 then stopAfter .controlCharacter left else push c (textBody strict left)

/-! ### Numbers -/

/-- The characters after the digits in front. -/
def dropDigits (cs : List Char) : List Char := cs.dropWhile Text.isDigit

/-- What follows the exponent mark of a number: a sign or none, and at least one digit. -/
def exponentEnd (cs : List Char) : Except Stop (List Char) :=
  let unsigned := match cs with
    | '+' :: left | '-' :: left => left
    | left => left
  match unsigned with
  | [] => stopAfter .endInValue []
  | c :: left =>
    if Text.isDigit c then .ok (dropDigits left) else stopAt .invalidNumber (c :: left)

/-- What follows the whole part of a number: a fraction, an exponent, both or neither. -/
def fractionEnd (cs : List Char) : Except Stop (List Char) :=
  match cs with
  | '.' :: left =>
    match left with
    | [] => stopAfter .endInValue []
    | c :: _ =>
      if Text.isDigit c then
        match dropDigits left with
        | 'e' :: left | 'E' :: left => exponentEnd left
        | left => .ok left
      else stopAt .invalidNumber left
  | 'e' :: left | 'E' :: left => exponentEnd left
  | left => .ok left

/-- The characters after the whole part of a number without its sign: a zero, or digits that do not
start with one. -/
def wholeEnd (cs : List Char) : Except Stop (List Char) :=
  match cs with
  | [] => stopAfter .endInValue []
  | c :: left =>
    if c = '0' then
      match left with
      | d :: _ => if Text.isDigit d then stopAt .invalidNumber left else .ok left
      | [] => .ok left
    else if Text.isDigit c then .ok (dropDigits left)
    else stopAt .invalidNumber (c :: left)

/-- The integer that a number's text without fraction and exponent denotes.  Minus zero is none. -/
def integerOf? (number : List Char) : Option Int :=
  let negative := number.head? = some '-'
  let digits := if negative then number.drop 1 else number
  let value := Text.valueOfDigits 0 digits
  if !digits.all Text.isDigit || (negative && value = 0) then none
  else some (if negative then -value else value)

/-- A number.  One that is too large denotes nothing, which is a fault in a strict reading. -/
def number (rounding : Rounding) (strict : Bool) : Reader Json := fun cs => do
  let unsigned := if cs.head? = some '-' then cs.drop 1 else cs
  let left ← fractionEnd (← wholeEnd unsigned)
  let text := cs.take (cs.length - left.length)
  match valueOf rounding text with
  | .ok x =>
    match integerOf? text with
    | some n => return (.integer n, left)
    | none => return (.real x, left)
  | .error unread =>
    if strict then stopAfter .numberOutOfRange (unread ++ left) else return (.broken, left)

/-! ### Values -/

/-- The rest of a keyword. -/
def keyword : List Char → Json → Reader Json
  | [], value, cs => .ok (value, cs)
  | _ :: _, _, [] => stopAfter .endInValue []
  | k :: more, value, c :: left =>
    if c = k then keyword more value left else stopAt .keywordExpected (c :: left)

/-- The name of a member, up to and with the colon; `none` when half of a surrogate pair is in
it. -/
def name (strict : Bool) : Reader (Option String) := fun cs =>
  match cs with
  | '"' :: left => do
    let (name?, left) ← textBody strict left
    match skipGap left with
    | ':' :: left => return (name?.map String.ofList, left)
    | [] => stopAfter .endInObject []
    | left => stopAt .colonExpected left
  | left => stopAt .nameExpected left

/-- Puts a member in front of the others, unless its name or theirs denote nothing. -/
def member (name? : Option String) (item : Json) (rest? : Option (List (String × Json))) :
    Option (List (String × Json)) := do
  return (← name?, item) :: (← rest?)

mutual

/-- A value, with fuel for each value, item and member inside it. -/
def value (rounding : Rounding) (scrutiny : Scrutiny) : Nat → Reader Json
  | 0, cs => stopAt .endInValue cs
  | fuel + 1, cs =>
    match skipGap cs with
    | [] => stopAfter .endInValue []
    | 'n' :: left => keyword ['u', 'l', 'l'] .null left
    | 't' :: left => keyword ['r', 'u', 'e'] (.bool true) left
    | 'f' :: left => keyword ['a', 'l', 's', 'e'] (.bool false) left
    | '"' :: left => do
      let (text?, left) ← textBody scrutiny.isStrict left
      return ((text?.map fun cs => Json.text (String.ofList cs)).getD .broken, left)
    | '[' :: left =>
      match scrutiny.enter? with
      | none => stopAt .nestedTooDeeply ('[' :: left)
      | some inner =>
        match skipGap left with
        | [] => stopAfter .endInArray []
        | ']' :: left => .ok (.array [], left)
        | left => do
          let (items, left) ← items rounding inner fuel left
          return (.array items, left)
    | '{' :: left =>
      match scrutiny.enter? with
      | none => stopAt .nestedTooDeeply ('{' :: left)
      | some inner =>
        match skipGap left with
        | [] => stopAfter .endInObject []
        | '}' :: left => .ok (.object [], left)
        | left => do
          let (members?, left) ← members rounding inner fuel left
          return ((members?.map Json.object).getD .broken, left)
    | c :: left =>
      if c = '-' || Text.isDigit c then number rounding scrutiny.isStrict (c :: left)
      else stopAt .valueExpected (c :: left)

/-- The items of an array from one of them on, up to and with the closing bracket. -/
def items (rounding : Rounding) (scrutiny : Scrutiny) : Nat → Reader (List Json)
  | 0, cs => stopAt .endInArray cs
  | fuel + 1, cs => do
    let (item, left) ← value rounding scrutiny fuel cs
    match skipGap left with
    | [] => stopAfter .endInArray []
    | ']' :: left => return ([item], left)
    | ',' :: left =>
      match skipGap left with
      | [] => stopAfter .endInValue []
      | ']' :: left => stopAt .trailingComma (']' :: left)
      | left => do
        let (rest, left) ← items rounding scrutiny fuel left
        return (item :: rest, left)
    | left => stopAt .commaOrBracketExpected left

/-- The members of an object from one of them on, up to and with the closing brace; `none` when a
name denotes nothing. -/
def members (rounding : Rounding) (scrutiny : Scrutiny) :
    Nat → Reader (Option (List (String × Json)))
  | 0, cs => stopAt .endInObject cs
  | fuel + 1, cs => do
    let (name?, left) ← name scrutiny.isStrict cs
    let (item, left) ← value rounding scrutiny fuel left
    match skipGap left with
    | [] => stopAfter .endInObject []
    | '}' :: left => return (member name? item (some []), left)
    | ',' :: left =>
      match skipGap left with
      | [] => stopAfter .endInValue []
      | '}' :: left => stopAt .trailingComma ('}' :: left)
      | left => do
        let (rest?, left) ← members rounding scrutiny fuel left
        return (member name? item rest?, left)
    | left => stopAt .commaOrBraceExpected left

end

/-! ### Whole texts -/

/-- Why a text is not the JSON that is wanted, and where that shows. -/
structure ReadError where
  fault : Fault
  line : Nat
  column : Nat
deriving DecidableEq, Repr

/-- What is said about a text that is not the JSON that is wanted. -/
def ReadError.message (e : ReadError) : String :=
  e.fault.message ++ " at line " ++ Text.decimal e.line ++ " column " ++ Text.decimal e.column

/-- The line and the column that so many bytes from a place lead to; a column is a byte. -/
def advance (line column bytes : Nat) : List Char → Nat × Nat
  | [] => (line, column)
  | c :: rest =>
    if bytes < c.utf8Size then (line, column + bytes)
    else if c = '\n' then advance (line + 1) 0 (bytes - 1) rest
    else advance line (column + c.utf8Size) (bytes - c.utf8Size) rest

/-- The place where reading a text stopped. -/
def Stop.toError (stop : Stop) (all : List Char) : ReadError :=
  let size (cs : List Char) : Nat := (cs.map Char.utf8Size).sum
  let (line, column) := advance 1 0 (size all - size stop.left + stop.beyond) all
  { fault := stop.fault, line, column }

/-- The end of a text, after gaps. -/
def finish : Reader Unit := fun cs =>
  match skipGap cs with
  | [] => .ok ((), [])
  | left => stopAt .trailingCharacters left

/-- Reads a whole text. -/
def readWhole {α : Type} (reader : Reader α) (text : String) : Except ReadError α :=
  let all := text.toList
  let read := do
    let (a, left) ← reader all
    let ((), _) ← finish left
    return a
  match read with
  | .ok a => .ok a
  | .error stop => .error (stop.toError all)

/-- Reads a text as JSON, rounded and looked at in some way. -/
def readUnder (rounding : Rounding) (scrutiny : Scrutiny) (text : String) : Except ReadError Json :=
  readWhole (value rounding scrutiny (2 * text.length + 2)) text

/-- Reads a text as JSON, with the nearest numbers. -/
def read (text : String) : Except ReadError Json := readUnder .nearest .form text

/-- Reads a text as JSON all of whose parts have a meaning. -/
def readProper (rounding : Rounding) (text : String) : Except ReadError Json :=
  readUnder rounding (.meaning depthLimit) text

end MailTriage.Json
