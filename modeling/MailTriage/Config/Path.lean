import MailTriage.Config.Setting
import MailTriage.Json.Settled

/-! # Paths to settings

The name of a setting may be a path: `telemetry.otlp_endpoint` is a member of the table `telemetry`,
and `assignees.allowed_domains[1]` an item of a list.  A name that does not read as a path stands
for itself.  Putting a value at a path makes the tables and lists on the way; a table joins the
table that is there already, anything else takes the place of what was there.  The letter case of
names does not count.
-/
namespace MailTriage.Setting

/-! ### Reading a path -/

/-- A step into a table or into a list. -/
inductive Step where
  | member (name : String)
  | item (index : Int)
deriving DecidableEq, Repr

/-- Whether a character may stand in a name on a path. -/
def isNameChar (c : Char) : Bool := c.isAlphanum || c = '_' || c = '-' || c = ' '

/-- Whether a character may stand around the number between brackets. -/
def isPadding (c : Char) : Bool := c = ' ' || c = '\t'

/-- The number that the characters between brackets denote, if it has 64 bits. -/
def readIndex? (cs : List Char) : Option Int :=
  let cs := (cs.dropWhile isPadding).reverse.dropWhile isPadding |>.reverse
  let digits := if cs.head? = some '-' then cs.drop 1 else cs
  let size : Int := Text.valueOfDigits 0 digits
  let n := if cs.head? = some '-' then -size else size
  if digits.isEmpty || !digits.all Text.isDigit then none
  else if Int64.minValue.toInt ≤ n && n ≤ Int64.maxValue.toInt then some n
  else none

/-- The steps after the first name, with fuel for each. -/
def readSteps? : Nat → List Char → Option (List Step)
  | _, [] => some []
  | 0, _ => none
  | fuel + 1, '.' :: rest => do
    let name := rest.takeWhile isNameChar
    if name.isEmpty then none
    else return .member (String.ofList name) :: (← readSteps? fuel (rest.dropWhile isNameChar))
  | fuel + 1, '[' :: rest => do
    let index ← readIndex? (rest.takeWhile (· ≠ ']'))
    match rest.dropWhile (· ≠ ']') with
    | ']' :: rest => return .item index :: (← readSteps? fuel rest)
    | _ => none
  | _, _ => none

/-- The steps that a name stands for. -/
def stepsOf (name : String) : List Step :=
  let cs := name.toList
  let first := cs.takeWhile isNameChar
  match readSteps? cs.length (cs.dropWhile isNameChar) with
  | some steps =>
    if first.isEmpty then [.member name] else .member (String.ofList first) :: steps
  | none => [.member name]

/-! ### Putting a value at a path -/

/-- Members with one of them set. -/
def setMember (name : String) (setting : Setting) :
    List (String × Setting) → List (String × Setting)
  | [] => [(name, setting)]
  | (n, old) :: rest =>
    if n = name then (n, setting) :: rest else (n, old) :: setMember name setting rest

mutual

/-- What is there after a setting was put over an old one, if there was one.  An empty table leaves
what was there as it was. -/
def laidOver (old : Option Setting) : Setting → Setting
  | .table [] => old.getD (.table [])
  | .table (member :: rest) => .table (joinMembers (old.getD .absent).members (member :: rest))
  | .absent => .absent
  | .bool b => .bool b
  | .integer n => .integer n
  | .real x => .real x
  | .text s => .text s
  | .list items => .list items

/-- Members with others put over them. -/
def joinMembers (old : List (String × Setting)) :
    List (String × Setting) → List (String × Setting)
  | [] => old
  | (name, setting) :: rest =>
    let name := Text.lower name
    joinMembers (setMember name (laidOver (find? old name) setting) old) rest

end

/-- Where an index into a list of some length leads; a negative one counts from the end. -/
def indexInto (length : Nat) (index : Int) : Nat :=
  if 0 ≤ index then index.toNat else length - index.natAbs

/-- The setting with another one put at a path inside it. -/
def place (value : Setting) : List Step → Setting → Setting
  | [], _ => value
  | .member name :: rest, old =>
    let name := Text.lower name
    let inner := find? old.members name
    let placed := if rest.isEmpty then laidOver inner value
      else place value rest (inner.getD .absent)
    .table (setMember name placed old.members)
  | .item index :: rest, old =>
    let position := indexInto old.items.length index
    let items := old.items ++ List.replicate (position + 1 - old.items.length) .absent
    .list (items.set position (place value rest ((items[position]?).getD .absent)))

/-! ### From JSON -/

mutual

/-- The setting that JSON data stand for. -/
def ofJson : Json → Setting
  | .null | .broken => .absent
  | .bool b => .bool b
  | .integer n =>
    if n ≤ Int64.maxValue.toInt then .integer n
    else match Double.ofNat? n.natAbs with
      | some x => .real x
      | none => .absent
  | .real x => .real x
  | .text s => .text s
  | .array items => .list (ofItems items)
  | .object members => .table (ofMembers members)

/-- The settings that the items of an array stand for. -/
def ofItems : List Json → List Setting
  | [] => []
  | item :: rest => ofJson item :: ofItems rest

/-- The settings that the members of an object stand for. -/
def ofMembers : List (String × Json) → List (String × Setting)
  | [] => []
  | (name, v) :: rest => (name, ofJson v) :: ofMembers rest

end

/-- The tree of settings with names, each at the path that its name reads as. -/
def gather (named : List (String × Setting)) : Setting :=
  named.foldl (fun root (name, setting) => place setting (stepsOf name) root) (.table [])

/-- The tree of settings that the members of a JSON object name.  The names on top of the tree are
read once more, because one that was no path as it was written may be one in lower case. -/
def tree (named : List (String × Json)) : Setting :=
  gather (gather (ofMembers named)).members

example : stepsOf "a.b[ -1 ]" = [.member "a", .member "b", .item (-1)] := by
  decide +kernel
example : stepsOf "a..b" = [.member "a..b"] := by decide +kernel

end MailTriage.Setting
