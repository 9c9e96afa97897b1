import MailTriage.Json.Number
import MailTriage.Text.Digits
import MailTriage.Text.Lower

/-! # Settings

A setting is a single value, a list or a table of settings.  Where one kind of value is wanted
another one is taken with some good will: a text may stand for a truth value or a number, a number
for a truth value, and a number or a truth value for a text.  Sections are tables, or lists of their
settings in order.  An absent value stands for an optional setting that is left out, and for nothing
else.
-/
namespace MailTriage

/-- A setting or a whole tree of them. -/
inductive Setting where
  | absent
  | bool (b : Bool)
  /-- A whole number of 64 bits. -/
  | integer (n : Int)
  /-- Any other number. -/
  | real (x : Double)
  | text (s : String)
  | list (items : List Setting)
  | table (members : List (String × Setting))
deriving Inhabited, Repr

/-- How a setting of some kind is taken from what is there. -/
abbrev SettingReader (α : Type) := Setting → Option α

namespace Setting

/-- The members of a table; of anything else there are none. -/
def members : Setting → List (String × Setting)
  | .table members => members
  | _ => []

/-- The items of a list; of anything else there are none. -/
def items : Setting → List Setting
  | .list items => items
  | _ => []

/-- The member of some name. -/
def find? (members : List (String × Setting)) (name : String) : Option Setting :=
  (members.find? (·.1 == name)).map (·.2)

/-! ### Single values -/

/-- The truth value that a word stands for. -/
def truthOfWord (word : String) : Option Bool :=
  if word ∈ ["true", "on", "yes"] then some true
  else if word ∈ ["false", "off", "no"] then some false
  else none

/-- A truth value. -/
def asTruth : SettingReader Bool
  | .bool b => some b
  | .integer n => some (n ≠ 0)
  | .real x => some !x.isZero
  | .text s =>
    let word := Text.lower s
    if word = "1" then some true else if word = "0" then some false else truthOfWord word
  | _ => none

/-- A natural number of 64 bits.  A number of double precision is rounded, a half going up, and cut
off at either end. -/
def asCount64 : SettingReader Nat
  | .integer n => if n < 0 then none else some n.toNat
  | .real x => some (if x.negative then 0 else min x.roundSize Text.maxCount)
  | .bool b => some (if b then 1 else 0)
  | .text s =>
    match truthOfWord (Text.lower s) with
    | some b => some (if b then 1 else 0)
    | none => (Text.readCount s).toOption
  | _ => none

/-- A natural number of 32 bits. -/
def asCount32 : SettingReader Nat := fun setting => setting.asCount64.filter (· < 0x100000000)

/-- A text.  A number of double precision has as many digits as it takes, and no exponent. -/
def asText : SettingReader String
  | .text s => some s
  | .bool b => some (if b then "true" else "false")
  | .integer n => some (Text.decimalInt n)
  | .real x =>
    let size := (x.shortest .upper).positional
    some (String.ofList (if x.negative then '-' :: size else size))
  | _ => none

/-- A setting that may be absent. -/
def asOptional {α : Type} (reader : SettingReader α) : SettingReader (Option α)
  | .absent => some none
  | setting => (reader setting).map some

/-- A list of settings. -/
def asList {α : Type} (reader : SettingReader α) : SettingReader (List α)
  | .list items => items.mapM reader
  | _ => none

/-! ### Sections -/

/-- What a section holds under each name. -/
abbrev Section := String → Option Setting

/-- A section with settings of the given names. -/
def asSection (names : List String) : SettingReader Section
  | .table members => some (find? members)
  | .list items => some fun name => if name ∈ names then items[names.idxOf name]? else none
  | _ => none

/-- A setting with a value of its own when it is not there. -/
def field {α : Type} (settings : Section) (name : String) (default : α)
    (reader : SettingReader α) : Option α :=
  match settings name with
  | none => some default
  | some setting => reader setting

/-- A setting that has to be there. -/
def required {α : Type} (settings : Section) (name : String) (reader : SettingReader α) :
    Option α :=
  (settings name).bind reader

end Setting
end MailTriage
