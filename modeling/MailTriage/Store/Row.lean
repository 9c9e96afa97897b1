import MailTriage.Store.Error
import MailTriage.Store.Numeral

/-! # Rows

The rows of the four tables.  A row can also be put together from single cells: a column that is not
given has its default, a column that must have a value refuses null, and of several such columns the
first one in the order of the table is named.
-/
namespace MailTriage

/-- What is read back of a stored text: it ends at its first null character.  Comparisons look at
the whole text. -/
def readBack (text : String) : String :=
  String.ofList (text.toList.takeWhile (· ≠ '\x00'))

/-- A stored label rule with what is known about it beside its document. -/
structure LabelRow where
  id : Option String
  ruleJson : String
  enabled : Numeral
  createdAt : String
  updatedAt : String
deriving DecidableEq, Repr

/-- A stored assignee rule with what is known about it beside its document. -/
structure AssigneeRow where
  id : Option String
  priority : Numeral
  ruleJson : String
  enabled : Numeral
  createdAt : String
  updatedAt : Option String
deriving DecidableEq, Repr

/-- A stored message. -/
structure MessageRow where
  id : Option String
  sender : Option String
  labelsJson : String
  assignee : Option String
  receivedAt : String
  createdAt : String
  updatedAt : String
deriving DecidableEq, Repr

/-- A stored entry of the audit log. -/
structure AuditRow where
  id : Option String
  actor : String
  action : String
  messageId : String
  label : Option String
  metadataJson : Option String
  createdAt : String
deriving DecidableEq, Repr

/-- A value given for a column. -/
inductive Cell where
  | null
  | integer (n : Int)
  | text (s : String)
deriving DecidableEq, Repr

/-- The values given for the columns of a row. -/
abbrev Cells := List (String × Cell)

namespace Cells

/-- The value given for a column. -/
def get? (cells : Cells) (column : String) : Option Cell :=
  (cells.find? (·.1 == column)).map (·.2)

/-- The text of a column that may be null. -/
def text? (cells : Cells) (column : String) : Option String :=
  match cells.get? column with
  | some (.text s) => some s
  | some (.integer n) => some (Text.decimalInt n)
  | some .null | none => none

/-- The text of a column that must have one. -/
def text (cells : Cells) (table column : String) (absent : Option String) :
    Except SqlError String :=
  match cells.get? column with
  | some (.text s) => .ok s
  | some (.integer n) => .ok (Text.decimalInt n)
  | some .null => .error (.notNullViolated table column)
  | none =>
    match absent with
    | some s => .ok s
    | none => .error (.notNullViolated table column)

/-- The numeral of a column that must have one. -/
def numeral (cells : Cells) (table column : String) (absent : Int) : Except SqlError Numeral :=
  match cells.get? column with
  | some (.integer n) => .ok (.whole n)
  | some (.text s) => .ok (.ofText s)
  | some .null => .error (.notNullViolated table column)
  | none => .ok (.whole absent)

end Cells

/-- The row of a label rule with the given cells. -/
def LabelRow.ofCells (cells : Cells) : Except SqlError LabelRow := do
  return {
    id := cells.text? "id"
    ruleJson := ← cells.text "label_rules" "rule_json" none
    enabled := ← cells.numeral "label_rules" "enabled" 1
    createdAt := ← cells.text "label_rules" "created_at" none
    updatedAt := ← cells.text "label_rules" "updated_at" none }

/-- The row of an assignee rule with the given cells. -/
def AssigneeRow.ofCells (cells : Cells) : Except SqlError AssigneeRow := do
  return {
    id := cells.text? "id"
    priority := ← cells.numeral "assignee_rules" "priority" 0
    ruleJson := ← cells.text "assignee_rules" "rule_json" none
    enabled := ← cells.numeral "assignee_rules" "enabled" 1
    createdAt := ← cells.text "assignee_rules" "created_at" none
    updatedAt := cells.text? "updated_at" }

/-- The row of a message with the given cells. -/
def MessageRow.ofCells (cells : Cells) : Except SqlError MessageRow := do
  return {
    id := cells.text? "id"
    sender := cells.text? "sender_email"
    labelsJson := ← cells.text "messages" "labels_json" (some "[]")
    assignee := cells.text? "assignee_email"
    receivedAt := ← cells.text "messages" "received_at" none
    createdAt := ← cells.text "messages" "created_at" none
    updatedAt := ← cells.text "messages" "updated_at" none }

/-- The row of an entry of the audit log with the given cells. -/
def AuditRow.ofCells (cells : Cells) : Except SqlError AuditRow := do
  return {
    id := cells.text? "id"
    actor := ← cells.text "audit_log" "actor_email" none
    action := ← cells.text "audit_log" "action" none
    messageId := ← cells.text "audit_log" "message_id" none
    label := cells.text? "label"
    metadataJson := cells.text? "metadata_json"
    createdAt := ← cells.text "audit_log" "created_at" none }

end MailTriage
