import MailTriage.Number.Double

/-! # JSON values

A JSON value as it is read from a text.  Objects keep their members in the order of the text, a
repeated name included; what a repeated name means is for the user of the object to say.  Numbers
written as whole numbers are integers of any size, all others have double precision.  Some parts of
a well-formed text denote nothing: a text in which an escape names half of a surrogate pair, an
object with such a name, and a number beyond double precision.  They are read as `broken`, which is
harmless where it is not looked at and refused where a value is wanted.
-/
namespace MailTriage

/-- A JSON value. -/
inductive Json where
  | null
  | bool (b : Bool)
  /-- A number written without fraction and exponent. -/
  | integer (n : Int)
  /-- Any other number. -/
  | real (x : Double)
  | text (s : String)
  /-- A part of a text that denotes nothing. -/
  | broken
  | array (items : List Json)
  | object (members : List (String × Json))
deriving Inhabited, Repr

namespace Json

/-- A text, or null. -/
def ofText? : Option String → Json
  | none => .null
  | some s => .text s

/-- A natural number, or null. -/
def ofNat? : Option Nat → Json
  | none => .null
  | some n => .integer n

/-- The array of some texts. -/
def ofTexts (texts : List String) : Json := .array (texts.map .text)

/-- All values that an object has under a name, in the order of the text. -/
def valuesAt (name : String) (members : List (String × Json)) : List Json :=
  (members.filter fun m => m.1 == name).map (·.2)

/-- The value that counts under a name: the last one. -/
def get? (name : String) (members : List (String × Json)) : Option Json :=
  (valuesAt name members).getLast?

/-- Members with one of them set: the first of that name gets the value, and without one the member
comes last. -/
def setMember (name : String) (value : Json) : List (String × Json) → List (String × Json)
  | [] => [(name, value)]
  | (n, v) :: rest => if n = name then (n, value) :: rest else (n, v) :: setMember name value rest

/-- The object with a member set.  A value that is not an object stays as it is. -/
def set (json : Json) (name : String) (value : Json) : Json :=
  match json with
  | .object members => .object (setMember name value members)
  | other => other

/-! ### Values that mean something in all their parts -/

/-- So many arrays and objects inside each other are too many. -/
def depthLimit : Nat := 128

mutual

/-- Whether all parts of a value inside `depth` arrays and objects have a meaning. -/
def isProper (depth : Nat) : Json → Bool
  | .null | .bool _ | .integer _ | .real _ | .text _ => true
  | .broken => false
  | .array items => depth + 1 < depthLimit && areProper (depth + 1) items
  | .object members => depth + 1 < depthLimit && haveProper (depth + 1) members

/-- Whether all items of an array are proper. -/
def areProper (depth : Nat) : List Json → Bool
  | [] => true
  | item :: rest => isProper depth item && areProper depth rest

/-- Whether all members of an object are proper. -/
def haveProper (depth : Nat) : List (String × Json) → Bool
  | [] => true
  | (_, v) :: rest => isProper depth v && haveProper depth rest

end

end Json
end MailTriage
