import MailTriage.Json.Printer
import MailTriage.Json.Record
import MailTriage.Rule.Document

/-! # The JSON format of stored rule documents

Writing gives every field, with null for one that is empty.  Reading takes each field as absent or
present: an absent one has its default, null stands only where a field may be empty, and the
assignment of a label rule is a text or an object with an address.
-/
namespace MailTriage

open Json (Decoder DecodeError)

/-- Why a text is not a stored document. -/
inductive DocumentError where
  | text (why : Json.ReadError)
  | shape (why : DecodeError)
deriving DecidableEq, Repr

/-- What is said about a text that is not a stored document. -/
def DocumentError.message : DocumentError → String
  | .text why => why.message
  | .shape why => why.message

/-! ### Writing -/

/-- The condition of a document. -/
def Condition.encode (c : Condition) : Json :=
  .object [("fromEmail", .ofText? c.email), ("fromDomain", .ofText? c.domain)]

/-- The assignment of a document. -/
def DocumentAssignment.encode : DocumentAssignment → Json
  | .keyword word => .text word
  | .target email => .object [("assigneeEmail", .text email)]

/-- The value that an option writes, or null. -/
def encode? {α : Type} (encode : α → Json) : Option α → Json
  | none => .null
  | some a => encode a

/-- A stored label rule. -/
def LabelDocument.encode (doc : LabelDocument) : Json :=
  .object
    [("id", .text doc.id), ("match", doc.condition.encode), ("labelName", .ofText? doc.labelName),
      ("labelNames", encode? Json.ofTexts doc.labelNames),
      ("assignTo", encode? DocumentAssignment.encode doc.assignTo), ("enabled", .bool doc.enabled),
      ("createdAt", Json.ofInstant? doc.createdAt)]

/-- When a stored assignee rule assigns. -/
def AssignmentTiming.encode (timing : AssignmentTiming) : Json :=
  .object [("unassignedOnly", encode? Json.bool timing.unassignedOnly)]

/-- What the author of a stored assignee rule confirmed. -/
def SafetyConfirmation.encode (safety : SafetyConfirmation) : Json :=
  .object [("dangerousDomainConfirm", .bool safety.broadDomainConfirmed)]

/-- A stored assignee rule. -/
def AssigneeDocument.encode (doc : AssigneeDocument) : Json :=
  .object
    [("id", .text doc.id), ("enabled", .bool doc.enabled),
      ("priority", .integer doc.priority.toInt), ("match", doc.condition.encode),
      ("assigneeEmail", .text doc.assigneeEmail),
      ("when", encode? AssignmentTiming.encode doc.timing),
      ("safety", encode? SafetyConfirmation.encode doc.safety),
      ("createdAt", Json.ofInstant? doc.createdAt), ("updatedAt", Json.ofInstant? doc.updatedAt)]

/-! ### Reading -/

/-- The condition of a document. -/
def Condition.decode : Decoder Condition := fun json => do
  let fields ← Json.record ["fromEmail", "fromDomain"] json
  return {
    email := ← Json.field fields "fromEmail" none (Json.nullable Json.decodeText)
    domain := ← Json.field fields "fromDomain" none (Json.nullable Json.decodeText) }

/-- The assignment of a document.  An object is looked at as a whole, so nothing in it may be
improper. -/
def DocumentAssignment.decode : Decoder DocumentAssignment
  | .text word => .ok (.keyword word)
  | .object members => do
    if !(Json.object members).isProper 1 then throw (.wrongKind "an assignment")
    let fields ← Json.record ["assigneeEmail"] (.object members)
    return .target (← Json.requiredField fields "assigneeEmail" Json.decodeText)
  | _ => .error (.wrongKind "an assignment")

/-- A stored label rule. -/
def LabelDocument.decode : Decoder LabelDocument := fun json => do
  let fields ← Json.record
    ["id", "match", "labelName", "labelNames", "assignTo", "enabled", "createdAt"] json
  return {
    id := ← Json.field fields "id" "" Json.decodeText
    condition := ← Json.field fields "match" {} Condition.decode
    labelName := ← Json.field fields "labelName" none (Json.nullable Json.decodeText)
    labelNames :=
      ← Json.field fields "labelNames" none (Json.nullable (Json.decodeList Json.decodeText))
    assignTo := ← Json.field fields "assignTo" none (Json.nullable DocumentAssignment.decode)
    enabled := ← Json.field fields "enabled" true Json.decodeBool
    createdAt := ← Json.field fields "createdAt" none (Json.nullable Json.decodeInstant) }

/-- When a stored assignee rule assigns. -/
def AssignmentTiming.decode : Decoder AssignmentTiming := fun json => do
  let fields ← Json.record ["unassignedOnly"] json
  return {
    unassignedOnly := ← Json.field fields "unassignedOnly" none (Json.nullable Json.decodeBool) }

/-- What the author of a stored assignee rule confirmed. -/
def SafetyConfirmation.decode : Decoder SafetyConfirmation := fun json => do
  let fields ← Json.record ["dangerousDomainConfirm"] json
  return {
    broadDomainConfirmed := ← Json.field fields "dangerousDomainConfirm" false Json.decodeBool }

/-- A stored assignee rule. -/
def AssigneeDocument.decode : Decoder AssigneeDocument := fun json => do
  let fields ← Json.record
    ["id", "enabled", "priority", "match", "assigneeEmail", "when", "safety", "createdAt",
      "updatedAt"] json
  return {
    id := ← Json.field fields "id" "" Json.decodeText
    enabled := ← Json.field fields "enabled" true Json.decodeBool
    priority := ← Json.field fields "priority" 0 Json.decodeInt64
    condition := ← Json.field fields "match" {} Condition.decode
    assigneeEmail := ← Json.field fields "assigneeEmail" "" Json.decodeText
    timing := ← Json.field fields "when" none (Json.nullable AssignmentTiming.decode)
    safety := ← Json.field fields "safety" none (Json.nullable SafetyConfirmation.decode)
    createdAt := ← Json.field fields "createdAt" none (Json.nullable Json.decodeInstant)
    updatedAt := ← Json.field fields "updatedAt" none (Json.nullable Json.decodeInstant) }

/-- Reads a text as a stored document of some kind. -/
def readDocument {α : Type} (decode : Decoder α) (text : String) : Except DocumentError α :=
  match Json.readUnder .quick .form text with
  | .error why => .error (.text why)
  | .ok json =>
    match decode json with
    | .error why => .error (.shape why)
    | .ok doc => .ok doc

/-- The text of a stored label rule. -/
def LabelDocument.write (doc : LabelDocument) : String := doc.encode.compact

/-- The text of a stored assignee rule. -/
def AssigneeDocument.write (doc : AssigneeDocument) : String := doc.encode.compact

/-- Reads a text as a stored label rule. -/
def LabelDocument.read (text : String) : Except DocumentError LabelDocument :=
  readDocument LabelDocument.decode text

/-- Reads a text as a stored assignee rule. -/
def AssigneeDocument.read (text : String) : Except DocumentError AssigneeDocument :=
  readDocument AssigneeDocument.decode text

end MailTriage
