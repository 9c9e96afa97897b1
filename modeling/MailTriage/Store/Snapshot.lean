import MailTriage.Json.Printer
import MailTriage.Json.Record
import MailTriage.Store.Migration

/-! # Snapshots

A snapshot is the whole store as one JSON text: the ledger, and for each table its rows as objects
with a member for each column.  A table that does not exist is null.
-/
namespace MailTriage

/-! ### Rows as cells -/

/-- The cell of a text that may be null. -/
def Cell.ofText? : Option String → Cell
  | none => .null
  | some s => .text s

/-- The cell of a numeral. -/
def Cell.ofNumeral : Numeral → Cell
  | .whole n => .integer n
  | .other s => .text s

/-- The cells of a label rule. -/
def LabelRow.cells (row : LabelRow) : Cells :=
  [("id", .ofText? row.id), ("rule_json", .text row.ruleJson), ("enabled", .ofNumeral row.enabled),
    ("created_at", .text row.createdAt), ("updated_at", .text row.updatedAt)]

/-- The cells of an assignee rule. -/
def AssigneeRow.cells (row : AssigneeRow) : Cells :=
  [("id", .ofText? row.id), ("priority", .ofNumeral row.priority),
    ("rule_json", .text row.ruleJson), ("enabled", .ofNumeral row.enabled),
    ("created_at", .text row.createdAt), ("updated_at", .ofText? row.updatedAt)]

/-- The cells of a message. -/
def MessageRow.cells (row : MessageRow) : Cells :=
  [("id", .ofText? row.id), ("sender_email", .ofText? row.sender),
    ("labels_json", .text row.labelsJson), ("assignee_email", .ofText? row.assignee),
    ("received_at", .text row.receivedAt), ("created_at", .text row.createdAt),
    ("updated_at", .text row.updatedAt)]

/-- The cells of an entry of the audit log. -/
def AuditRow.cells (row : AuditRow) : Cells :=
  [("id", .ofText? row.id), ("actor_email", .text row.actor), ("action", .text row.action),
    ("message_id", .text row.messageId), ("label", .ofText? row.label),
    ("metadata_json", .ofText? row.metadataJson), ("created_at", .text row.createdAt)]

/-! ### Cells as JSON -/

/-- The JSON of a cell. -/
def Cell.encode : Cell → Json
  | .null => .null
  | .integer n => .integer n
  | .text s => .text s

/-- The cell that a JSON value stands for. -/
def Cell.decode? : Json → Option Cell
  | .null => some .null
  | .integer n => some (.integer n)
  | .text s => some (.text s)
  | _ => none

/-- The cells that a JSON object stands for. -/
def Cells.decode? : Json → Option Cells
  | .object members => members.mapM fun (name, v) => (Cell.decode? v).map (name, ·)
  | _ => none

namespace Snapshot

/-- The JSON of a table. -/
def encodeTable {Row : Type} (cells : Row → Cells) : Table Row → Json
  | none => .null
  | some rows =>
    .array (rows.map fun row => .object ((cells row).map fun (name, cell) => (name, cell.encode)))

/-- The table that a JSON value stands for. -/
def decodeTable? {Row : Type} (ofCells : Cells → Except SqlError Row) : Json → Option (Table Row)
  | .null => some none
  | .array items => do
    return some (← items.mapM fun item => do (ofCells (← Cells.decode? item)).toOption)
  | _ => none

/-- The text of a store. -/
def write (store : Store) : String :=
  let tables := store.content
  Json.pretty <| .object
    [("schema_migrations", match store.ledger with
        | none => .null
        | some versions => .ofTexts versions),
      ("label_rules", encodeTable LabelRow.cells tables.labelRules),
      ("assignee_rules", encodeTable AssigneeRow.cells tables.assigneeRules),
      ("messages", encodeTable MessageRow.cells tables.messages),
      ("audit_log", encodeTable AuditRow.cells tables.auditLog)]

/-- The store that a text stands for. -/
def read? (text : String) : Option Store :=
  match Json.read text with
  | .ok (.object members) => do
    let member (name : String) : Json := (Json.get? name members).getD .null
    let ledger ←
      (Json.nullable (Json.decodeList Json.decodeText) (member "schema_migrations")).toOption
    return {
      ledger
      content := {
        labelRules := ← decodeTable? LabelRow.ofCells (member "label_rules")
        assigneeRules := ← decodeTable? AssigneeRow.ofCells (member "assignee_rules")
        messages := ← decodeTable? MessageRow.ofCells (member "messages")
        auditLog := ← decodeTable? AuditRow.ofCells (member "audit_log") } }
  | _ => none

end Snapshot
end MailTriage
