import MailTriage.Json.Printer
import MailTriage.Json.Settled
import MailTriage.Mailbox
import MailTriage.Store.Tables

/-! # The stored audit log

Entries are appended and never changed.  Their times are stored as timestamps with milliseconds, and
a listing compares these texts: for the years 0 to 9999 the texts are in the order of time.
-/
namespace MailTriage

/-- The row of an entry. -/
def AuditRow.ofEntry (id : String) (entry : AuditEntry) : AuditRow where
  id := some id
  actor := entry.actor
  action := entry.action
  messageId := entry.messageId
  label := entry.label
  metadataJson := entry.metadata.map Json.compact
  createdAt := Timestamp.writeMillis entry.timestamp

/-- Reads the metadata of an entry. -/
def readMetadata : Option String → Except StoreError (Option Json)
  | none => .ok none
  | some text =>
    match Json.readData .quick (readBack text) with
    | .ok json => .ok (some json)
    | .error why => .error (.json why)

/-- The entry of a row. -/
def AuditRow.entry (row : AuditRow) : Except StoreError AuditEntry := do
  let metadata ← readMetadata row.metadataJson
  match Timestamp.read (readBack row.createdAt) with
  | .error why => throw (.timestamp why)
  | .ok timestamp =>
    return { timestamp, actor := readBack row.actor, action := readBack row.action
             messageId := readBack row.messageId, label := row.label.map readBack, metadata }

/-- Whether an entry is listed before or with another: by time, then by id. -/
def AuditRow.listedBefore (a b : AuditRow) : Bool :=
  if a.createdAt ≠ b.createdAt then a.createdAt < b.createdAt else nullFirst a.id b.id

namespace Tables

/-- Appends an entry under an id. -/
def appendAudit (tables : Tables) (id : String) (entry : AuditEntry) : Except StoreError Tables :=
  match tables.insertAuditRow (.ofEntry id entry) with
  | .error why => .error (.sql why)
  | .ok tables => .ok tables

/-- The entries since an instant, by time. -/
def entriesSince (tables : Tables) (since : Instant) : Except StoreError (List AuditEntry) :=
  match tables.auditLog.rows .auditLog with
  | .error why => .error (.sql why)
  | .ok rows =>
    ((rows.filter fun row => Timestamp.writeMillis since ≤ row.createdAt).mergeSort
      AuditRow.listedBefore).mapM AuditRow.entry

/-- The answers of the stored audit log. -/
def toAuditLog (tables : Tables) : AuditLog := { entriesSince := tables.entriesSince }

end Tables
end MailTriage
