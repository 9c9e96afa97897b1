import MailTriage.Address
import MailTriage.Json.Printer
import MailTriage.Json.Texts
import MailTriage.Mailbox
import MailTriage.Store.Tables

/-! # Stored messages

The store keeps the last state of each message, its sender in normal form.  A sample takes the
messages received last.
-/
namespace MailTriage

/-- A message as it comes in. -/
structure IncomingMessage where
  id : String
  sender : Option String
  labels : List String
  assignee : Option String
  receivedAt : Instant
deriving DecidableEq

/-- The row of a message that is stored now for the first time. -/
def MessageRow.ofIncoming (now : Instant) (message : IncomingMessage) : MessageRow where
  id := some message.id
  sender := message.sender.bind normalizeEmail
  labelsJson := (Json.ofTexts message.labels).compact
  assignee := message.assignee
  receivedAt := Timestamp.writeMillis message.receivedAt
  createdAt := Timestamp.writeMillis now
  updatedAt := Timestamp.writeMillis now

/-- The rows with a message stored: in the row of its id, or in a new one. -/
def storeMessage (row : MessageRow) : List MessageRow → List MessageRow
  | [] => [row]
  | old :: rest =>
    if old.id = row.id then { row with createdAt := old.createdAt } :: rest
    else old :: storeMessage row rest

/-- Reads the labels of a message. -/
def readLabels (text : String) : Except StoreError (List String) :=
  (Json.readTexts (readBack text)).mapError .json

/-- The message of a row. -/
def MessageRow.message (row : MessageRow) : Except StoreError Message := do
  let id ← match row.id with
    | some id => Except.ok (readBack id)
    | none => Except.error (StoreError.sql .nullValue)
  let labels ← readLabels row.labelsJson
  return { id, sender := row.sender.map readBack, labels, assignee := row.assignee.map readBack }

/-- Whether a message is sampled before or with another: the one received later, then the one with
the smaller id. -/
def MessageRow.sampledBefore (a b : MessageRow) : Bool :=
  if a.receivedAt ≠ b.receivedAt then b.receivedAt < a.receivedAt else nullFirst a.id b.id

/-- The limit of a query for so many rows: a signed number of 64 bits, the largest one where more rows
are wanted than it can say. -/
def rowLimit (size : Nat) : Int64 := if size < 0x8000000000000000 then .ofNat size else .maxValue

/-- The first of some rows, as many as the limit says; a negative limit is none. -/
def limitRows (limit : Int64) (rows : List MessageRow) : List MessageRow :=
  if limit < 0 then rows else rows.take limit.toNatClampNeg

/-- Whether a row belongs to an audience. -/
def Audience.hasRow : Audience → MessageRow → Bool
  | .everyone, _ => true
  | .unassigned, row => row.assignee.isNone

namespace Tables

/-- Stores a message now. -/
def upsertMessage (tables : Tables) (now : Instant) (message : IncomingMessage) :
    Except StoreError Tables :=
  match tables.messages.rows .messages with
  | .error why => .error (.sql why)
  | .ok rows => .ok { tables with messages := some (storeMessage (.ofIncoming now message) rows) }

/-- The messages of an audience received last, as many as wanted. -/
def sampleMessages (tables : Tables) (size : Nat) (audience : Audience) :
    Except StoreError (List Message) :=
  match tables.messages.rows .messages with
  | .error why => .error (.sql why)
  | .ok rows =>
    (limitRows (rowLimit size)
      ((rows.filter audience.hasRow).mergeSort MessageRow.sampledBefore)).mapM MessageRow.message

/-- The sender of the message with some id, if it is known. -/
def senderOf (tables : Tables) (id : String) : Except StoreError (Option String) :=
  match tables.messages.rows .messages with
  | .error why => .error (.sql why)
  | .ok rows =>
    .ok (((rows.find? fun row => row.id == some id).bind (·.sender)).map readBack)

/-- The answers of the stored messages. -/
def toMailbox (tables : Tables) : Mailbox :=
  { sample := tables.sampleMessages, senderOf := tables.senderOf }

end Tables
end MailTriage
