import MailTriage.Json.Settled

/-! # Reading a list of texts

A reader for one shape only, an array of texts.  It says of the first item that is no text what it
found instead, and where.
-/
namespace MailTriage.Json

/-- What a value is, where another kind is wanted. -/
def found : Json → Found
  | .null | .broken => .null
  | .bool b => .bool b
  | .integer n => .integer n
  | .real x => .real x
  | .text s => .text s
  | .array _ => .array
  | .object _ => .object

/-- Stops at a value of another kind: before an array or an object, after any other value. -/
def otherKind {α : Type} (wanted : String) : Reader α := fun cs =>
  match cs with
  | '[' :: _ => stopAfter (.otherKind .array wanted) cs
  | '{' :: _ => stopAfter (.otherKind .object wanted) cs
  | cs => do
    let (json, left) ← value .quick (.meaning 1) 1 cs
    stopAfter (.otherKind (json.settledBy .quick).found wanted) left

/-- A text. -/
def textItem : Reader String := fun cs =>
  match skipGap cs with
  | '"' :: left => do
    let (text?, left) ← textBody true left
    return (String.ofList (text?.getD []), left)
  | left => otherKind "a string" left

/-- The texts of an array from one of them on, up to and with the closing bracket, with fuel for
each. -/
def textItems : Nat → Reader (List String)
  | 0, cs => stopAt .endInArray cs
  | fuel + 1, cs => do
    let (item, left) ← textItem cs
    match skipGap left with
    | [] => stopAfter .endInArray []
    | ']' :: left => return ([item], left)
    | ',' :: left =>
      match skipGap left with
      | [] => stopAfter .endInValue []
      | ']' :: left => stopAt .trailingComma (']' :: left)
      | left => do
        let (rest, left) ← textItems fuel left
        return (item :: rest, left)
    | left => stopAt .commaOrBracketExpected left

/-- An array of texts. -/
def textArray : Reader (List String) := fun cs =>
  match skipGap cs with
  | '[' :: left =>
    match skipGap left with
    | [] => stopAfter .endInArray []
    | ']' :: left => .ok ([], left)
    | left => textItems left.length left
  | left => otherKind "a sequence" left

/-- Reads a text as an array of texts. -/
def readTexts (text : String) : Except ReadError (List String) := readWhole textArray text

end MailTriage.Json
