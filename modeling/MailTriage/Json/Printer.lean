import MailTriage.Json
import MailTriage.Json.Number

/-! # Writing JSON

Two layouts of the same value: `compact` without any gaps, for storing, and `pretty` with a line for
each item and member, indented by two blanks, for reading.  In texts only the quote, the backslash
and control characters are escaped.
-/
namespace MailTriage.Json

/-- How a character is written inside a text. -/
def escaped (c : Char) : List Char :=
  if c = '"' then ['\\', '"']
  else if c = '\\' then ['\\', '\\']
  else if c = '\x08' then ['\\', 'b']
  else if c = '\x0c' then ['\\', 'f']
  else if c = '\n' then ['\\', 'n']
  else if c = '\r' then ['\\', 'r']
  else if c = '\t' then ['\\', 't']
  else if c.toNat < 0x20 then
    '\\' :: 'u' :: Text.hexDigits 4 c.toNat
  else [c]

/-- A text with its quotes. -/
def quoted (s : String) : List Char := '"' :: s.toList.flatMap escaped ++ ['"']

/-- A value without parts. -/
def leafChars : Json → List Char
  | .bool true => "true".toList
  | .bool false => "false".toList
  | .integer n => (Text.decimalInt n).toList
  | .real x => realChars x
  | .text s => quoted s
  | .broken => "\"\\ud800\"".toList
  | _ => "null".toList

mutual

/-- The characters of a value without gaps. -/
def compactChars : Json → List Char
  | .array items => '[' :: compactItems items ++ [']']
  | .object members => '{' :: compactMembers members ++ ['}']
  | .null => leafChars .null
  | .bool b => leafChars (.bool b)
  | .integer n => leafChars (.integer n)
  | .real x => leafChars (.real x)
  | .text s => leafChars (.text s)
  | .broken => leafChars .broken

/-- The items of an array, separated by commas. -/
def compactItems : List Json → List Char
  | [] => []
  | item :: [] => compactChars item
  | item :: rest => compactChars item ++ ',' :: compactItems rest

/-- The members of an object, separated by commas. -/
def compactMembers : List (String × Json) → List Char
  | [] => []
  | (name, v) :: [] => quoted name ++ ':' :: compactChars v
  | (name, v) :: rest => quoted name ++ ':' :: compactChars v ++ ',' :: compactMembers rest

end

/-- The text of a value without gaps. -/
def compact (json : Json) : String := String.ofList json.compactChars

/-- A new line, indented. -/
def newLine (indent : Nat) : List Char := '\n' :: List.replicate indent ' '

mutual

/-- The characters of a value with a line for each part, at a given indentation. -/
def prettyChars (indent : Nat) : Json → List Char
  | .array [] => ['[', ']']
  | .array items => '[' :: prettyItems (indent + 2) items ++ newLine indent ++ [']']
  | .object [] => ['{', '}']
  | .object members => '{' :: prettyMembers (indent + 2) members ++ newLine indent ++ ['}']
  | .null => leafChars .null
  | .bool b => leafChars (.bool b)
  | .integer n => leafChars (.integer n)
  | .real x => leafChars (.real x)
  | .text s => leafChars (.text s)
  | .broken => leafChars .broken

/-- The items of an array, each on a line of its own. -/
def prettyItems (indent : Nat) : List Json → List Char
  | [] => []
  | item :: [] => newLine indent ++ prettyChars indent item
  | item :: rest => newLine indent ++ prettyChars indent item ++ ',' :: prettyItems indent rest

/-- The members of an object, each on a line of its own. -/
def prettyMembers (indent : Nat) : List (String × Json) → List Char
  | [] => []
  | (name, v) :: [] => newLine indent ++ quoted name ++ ':' :: ' ' :: prettyChars indent v
  | (name, v) :: rest =>
    newLine indent ++ quoted name ++ ':' :: ' ' :: prettyChars indent v
      ++ ',' :: prettyMembers indent rest

end

/-- The text of a value with a line for each part. -/
def pretty (json : Json) : String := String.ofList (json.prettyChars 0)

end MailTriage.Json
