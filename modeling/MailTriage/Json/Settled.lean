import MailTriage.Json.Reader

/-! # Settled JSON values

Whoever takes a JSON value as data, and not as text, settles two things that the text leaves open:
of the values under a repeated name the last one counts, at the place of the first; and whole
numbers have 64 bits, so one outside their range has double precision, rounded like the others.
-/
namespace MailTriage.Json

/-- A whole number as data: an integer of 64 bits, with or without sign, or else a number of double
precision. -/
def settledInteger (rounding : Rounding) (n : Int) : Json :=
  if Int64.minValue.toInt ≤ n && n < 0x10000000000000000 then .integer n
  else match valueOf rounding (Text.decimalInt n).toList with
    | .ok x => .real x
    | .error _ => .broken

/-- Members with each name once: adds a member, or gives its value to the name that is there. -/
def putMember (members : List (String × Json)) (name : String) (value : Json) :
    List (String × Json) :=
  if members.any (·.1 == name) then
    members.map fun m => if m.1 = name then (m.1, value) else m
  else members ++ [(name, value)]

mutual

/-- The value as data. -/
def settledBy (rounding : Rounding) : Json → Json
  | .integer n => settledInteger rounding n
  | .array items => .array (settledItems rounding items)
  | .object members => .object (settledMembers rounding [] members)
  | .null => .null
  | .bool b => .bool b
  | .real x => .real x
  | .text s => .text s
  | .broken => .broken

/-- The items of an array as data. -/
def settledItems (rounding : Rounding) : List Json → List Json
  | [] => []
  | item :: rest => settledBy rounding item :: settledItems rounding rest

/-- The members of an object as data, after those that were settled before. -/
def settledMembers (rounding : Rounding) (before : List (String × Json)) :
    List (String × Json) → List (String × Json)
  | [] => before
  | (name, v) :: rest => settledMembers rounding (putMember before name (settledBy rounding v)) rest

end

/-- The value as data, with the nearest numbers. -/
def settled (json : Json) : Json := json.settledBy .nearest

/-- Reads a text as JSON data, looked at for its meaning. -/
def readData (rounding : Rounding) (text : String) : Except ReadError Json :=
  (readProper rounding text).map (settledBy rounding)

end MailTriage.Json
