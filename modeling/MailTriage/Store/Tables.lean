import MailTriage.Store.Row

/-! # Tables

The four tables of the store, each a list of rows in the order in which they were inserted.  The id
is the key of a table: no two rows share one.  A row without an id has no key and never clashes.
-/
namespace MailTriage

/-- The names of the tables. -/
inductive TableName where
  | labelRules
  | assigneeRules
  | messages
  | auditLog
deriving DecidableEq, Repr

/-- How a table is called. -/
def TableName.text : TableName → String
  | .labelRules => "label_rules"
  | .assigneeRules => "assignee_rules"
  | .messages => "messages"
  | .auditLog => "audit_log"

/-- All tables in the order in which they are created. -/
def TableName.all : List TableName := [.labelRules, .assigneeRules, .messages, .auditLog]

/-- The columns of a table. -/
def TableName.columns : TableName → List String
  | .labelRules => ["id", "rule_json", "enabled", "created_at", "updated_at"]
  | .assigneeRules => ["id", "priority", "rule_json", "enabled", "created_at", "updated_at"]
  | .messages =>
    ["id", "sender_email", "labels_json", "assignee_email", "received_at", "created_at",
      "updated_at"]
  | .auditLog =>
    ["id", "actor_email", "action", "message_id", "label", "metadata_json", "created_at"]

/-- A table: its rows, or nothing when there is no such table. -/
abbrev Table (Row : Type) := Option (List Row)

/-- The tables of the store. -/
structure Tables where
  labelRules : Table LabelRow := none
  assigneeRules : Table AssigneeRow := none
  messages : Table MessageRow := none
  auditLog : Table AuditRow := none
deriving DecidableEq, Inhabited

/-- The rows of a table. -/
def Table.rows {Row : Type} (name : TableName) : Table Row → Except SqlError (List Row)
  | some rows => .ok rows
  | none => .error (.noSuchTable name.text)

/-- The rows with one row more, unless its id is taken. -/
def insertRow {Row : Type} (name : TableName) (id : Row → Option String) (row : Row)
    (rows : List Row) : Except SqlError (List Row) :=
  if (id row).isSome && rows.any fun other => id other == id row then
    .error (.uniqueViolated name.text "id")
  else .ok (rows ++ [row])

namespace Tables

/-- Whether there is a table. -/
def has (tables : Tables) : TableName → Bool
  | .labelRules => tables.labelRules.isSome
  | .assigneeRules => tables.assigneeRules.isSome
  | .messages => tables.messages.isSome
  | .auditLog => tables.auditLog.isSome

/-- Creates all tables, empty, if there is none of them. -/
def create (tables : Tables) : Except SqlError Tables :=
  match TableName.all.find? tables.has with
  | some name => .error (.tableExists name.text)
  | none =>
    .ok { labelRules := some [], assigneeRules := some [], messages := some []
          auditLog := some [] }

/-- Removes a table with its rows. -/
def drop (tables : Tables) (name : TableName) : Except SqlError Tables :=
  if !tables.has name then .error (.noSuchTable name.text)
  else match name with
    | .labelRules => .ok { tables with labelRules := none }
    | .assigneeRules => .ok { tables with assigneeRules := none }
    | .messages => .ok { tables with messages := none }
    | .auditLog => .ok { tables with auditLog := none }

/-- Inserts a label rule. -/
def insertLabelRow (tables : Tables) (row : LabelRow) : Except SqlError Tables := do
  let rows ← tables.labelRules.rows .labelRules
  return { tables with labelRules := some (← insertRow .labelRules (·.id) row rows) }

/-- Inserts an assignee rule. -/
def insertAssigneeRow (tables : Tables) (row : AssigneeRow) : Except SqlError Tables := do
  let rows ← tables.assigneeRules.rows .assigneeRules
  return { tables with assigneeRules := some (← insertRow .assigneeRules (·.id) row rows) }

/-- Inserts a message. -/
def insertMessageRow (tables : Tables) (row : MessageRow) : Except SqlError Tables := do
  let rows ← tables.messages.rows .messages
  return { tables with messages := some (← insertRow .messages (·.id) row rows) }

/-- Inserts an entry of the audit log. -/
def insertAuditRow (tables : Tables) (row : AuditRow) : Except SqlError Tables := do
  let rows ← tables.auditLog.rows .auditLog
  return { tables with auditLog := some (← insertRow .auditLog (·.id) row rows) }

/-- Inserts a row put together from cells. -/
def insertCells (tables : Tables) (name : TableName) (cells : Cells) : Except SqlError Tables := do
  if !tables.has name then throw (.noSuchTable name.text)
  match cells.find? fun cell => !name.columns.contains cell.1 with
  | some (column, _) => throw (.noSuchColumn name.text column)
  | none => pure ()
  match name with
  | .labelRules => tables.insertLabelRow (← LabelRow.ofCells cells)
  | .assigneeRules => tables.insertAssigneeRow (← AssigneeRow.ofCells cells)
  | .messages => tables.insertMessageRow (← MessageRow.ofCells cells)
  | .auditLog => tables.insertAuditRow (← AuditRow.ofCells cells)

end Tables

/-- A text that may be null before or with another one: null first, then in the order of the
texts. -/
def nullFirst : Option String → Option String → Bool
  | none, _ => true
  | some _, none => false
  | some a, some b => a ≤ b

end MailTriage
