import MailTriage.Json.Reader
import MailTriage.Time.Timestamp

/-! # Records in JSON

A record has fixed fields, each with a decoder of its own.  It is written as an object, in which
unknown members are ignored and a known one may come only once, or as an array of its fields in
order, of which the last ones may be left out.  No decoder converts one kind of value to another.
-/
namespace MailTriage.Json

/-- Why a value is not of the wanted form. -/
inductive DecodeError where
  | notARecord
  | repeatedField (name : String)
  | tooManyItems
  | missingField (name : String)
  | wrongKind (wanted : String)
  | outOfRange
  | notATimestamp (why : Timestamp.ReadError)
deriving DecidableEq, Repr

/-- What is said about a value that is not of the wanted form. -/
def DecodeError.message : DecodeError → String
  | .notARecord => "expected a record"
  | .repeatedField name => "duplicate field \x60" ++ name ++ "\x60"
  | .tooManyItems => "trailing characters"
  | .missingField name => "missing field \x60" ++ name ++ "\x60"
  | .wrongKind wanted => "expected " ++ wanted
  | .outOfRange => "number out of range"
  | .notATimestamp why => why.message

/-- A decoder of values. -/
abbrev Decoder (α : Type) := Json → Except DecodeError α

/-- What a record holds under each of its field names. -/
abbrev Fields := String → Option Json

/-- The fields of a record with these names. -/
def record (names : List String) : Decoder Fields
  | .object members =>
    match names.find? fun name => 1 < (valuesAt name members).length with
    | some name => .error (.repeatedField name)
    | none => .ok fun name => (valuesAt name members).head?
  | .array items =>
    if names.length < items.length then .error .tooManyItems
    else .ok fun name => if name ∈ names then items[names.idxOf name]? else none
  | _ => .error .notARecord

/-- A field that has a value of its own when it is absent. -/
def field {α : Type} (fields : Fields) (name : String) (absent : α) (decoder : Decoder α) :
    Except DecodeError α :=
  match fields name with
  | none => .ok absent
  | some json => decoder json

/-- A field that must not be absent. -/
def requiredField {α : Type} (fields : Fields) (name : String) (decoder : Decoder α) :
    Except DecodeError α :=
  match fields name with
  | none => .error (.missingField name)
  | some json => decoder json

/-- A value that may be null. -/
def nullable {α : Type} (decoder : Decoder α) : Decoder (Option α)
  | .null => .ok none
  | json => (decoder json).map some

/-- A text. -/
def decodeText : Decoder String
  | .text s => .ok s
  | _ => .error (.wrongKind "a string")

/-- A truth value. -/
def decodeBool : Decoder Bool
  | .bool b => .ok b
  | _ => .error (.wrongKind "a boolean")

/-- An integer of 64 bits. -/
def decodeInt64 : Decoder Int64
  | .integer n =>
    if Int64.minValue.toInt ≤ n && n ≤ Int64.maxValue.toInt then .ok (Int64.ofInt n)
    else .error .outOfRange
  | _ => .error (.wrongKind "an integer")

/-- A list. -/
def decodeList {α : Type} (decoder : Decoder α) : Decoder (List α)
  | .array items => items.mapM decoder
  | _ => .error (.wrongKind "a sequence")

/-- An instant, by a timestamp in the loose form. -/
def decodeInstant : Decoder Instant
  | .text s =>
    match Timestamp.readLoosely s with
    | .ok t => .ok t
    | .error why => .error (.notATimestamp why)
  | _ => .error (.wrongKind "a timestamp")

/-- An instant's timestamp. -/
def ofInstant (t : Instant) : Json := .text (Timestamp.write t)

/-- An instant's timestamp, or null. -/
def ofInstant? : Option Instant → Json
  | none => .null
  | some t => ofInstant t

end MailTriage.Json
