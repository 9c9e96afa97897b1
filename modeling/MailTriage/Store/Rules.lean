import MailTriage.Json.Relaxed
import MailTriage.Rule.DocumentFormat
import MailTriage.Rule.Draft
import MailTriage.Store.Tables

/-! # Stored rules

Rules are stored as documents, and every reading brings the documents to today's form.  Beside its
document a row keeps the id, whether the rule is enabled, the priority and the times; these win over
whatever the document says.  A document that is no rule is skipped, and the listing says so; a row
that cannot be read at all makes the whole listing fail.

Ids of new rules and the time of the clock are passed in.
-/
namespace MailTriage

/-- Why stored rules could not be read or changed. -/
inductive RepositoryError where
  | sql (why : SqlError)
  | json (why : DocumentError)
  | timestamp (why : Timestamp.ReadError)
  | validation (why : ValidationError)
  | shape (why : ShapeError)
  | notFound (id : String)
deriving DecidableEq, Repr

/-- What is said when stored rules could not be read or changed. -/
def RepositoryError.message : RepositoryError → String
  | .sql why => "sql error: " ++ why.message
  | .json why => "json error: " ++ why.message
  | .timestamp why => "datetime parse error: " ++ why.message
  | .validation why => "invalid rule: " ++ why.message
  | .shape why => "malformed stored rule: " ++ why.message
  | .notFound id => "rule not found: " ++ id

/-! ### Rows -/

/-- The whole number that stands for a truth value. -/
def flag (b : Bool) : Numeral := .whole (if b then 1 else 0)

/-- The text of a column that should not be null. -/
def requireText : Option String → Except RepositoryError String
  | some s => .ok (readBack s)
  | none => .error (.sql .nullValue)

/-- The number of a column that should have one. -/
def requireNumber : Numeral → Except RepositoryError Int
  | .whole n => .ok n
  | .other _ => .error (.sql .datatypeMismatch)

/-- The instant of a timestamp column. -/
def readStoredTime (text : String) : Except RepositoryError Instant :=
  (Timestamp.read (readBack text)).mapError .timestamp

/-- The instant of a timestamp column that may be null. -/
def readStoredTime? : Option String → Except RepositoryError (Option Instant)
  | none => .ok none
  | some text => (readStoredTime text).map some

/-- The row of a label document; without a time of its own it was created now. -/
def LabelRow.ofDocument (now : Instant) (doc : LabelDocument) : LabelRow :=
  let createdAt := Timestamp.writeMillis (doc.createdAt.getD now)
  { id := some doc.id, ruleJson := doc.write, enabled := flag doc.enabled, createdAt
    updatedAt := createdAt }

/-- The row of an assignee document; without a time of its own it was created now. -/
def AssigneeRow.ofDocument (now : Instant) (doc : AssigneeDocument) : AssigneeRow where
  id := some doc.id
  priority := .whole doc.priority.toInt
  ruleJson := doc.write
  enabled := flag doc.enabled
  createdAt := Timestamp.writeMillis (doc.createdAt.getD now)
  updatedAt := doc.updatedAt.map Timestamp.writeMillis

/-- The rule of a row. -/
def LabelRow.rule (row : LabelRow) : Except RepositoryError LabelRule := do
  let id ← requireText row.id
  let enabled ← requireNumber row.enabled
  let doc ← (LabelDocument.read (readBack row.ruleJson)).mapError .json
  let createdAt ← readStoredTime row.createdAt
  let stored : LabelDocument :=
    { doc with id, enabled := enabled ≠ 0, createdAt := some createdAt }
  (LabelRule.ofDocument stored).mapError .shape

/-- The rule of a row. -/
def AssigneeRow.rule (row : AssigneeRow) : Except RepositoryError AssigneeRule := do
  let id ← requireText row.id
  let priority ← requireNumber row.priority
  let enabled ← requireNumber row.enabled
  let doc ← (AssigneeDocument.read (readBack row.ruleJson)).mapError .json
  let createdAt ← readStoredTime row.createdAt
  let updatedAt ← readStoredTime? row.updatedAt
  let stored : AssigneeDocument :=
    { doc with
      id, priority := Int64.ofInt priority, enabled := enabled ≠ 0
      createdAt := some createdAt, updatedAt }
  (AssigneeRule.ofDocument stored).mapError .shape

/-- Whether a label rule is listed before or with another: by time of creation, then by id. -/
def LabelRow.listedBefore (a b : LabelRow) : Bool :=
  if a.createdAt ≠ b.createdAt then a.createdAt < b.createdAt else nullFirst a.id b.id

/-- Whether an assignee rule is listed before or with another: by priority, then by time of
creation, then by id. -/
def AssigneeRow.listedBefore (a b : AssigneeRow) : Bool :=
  if a.priority ≠ b.priority then a.priority.le b.priority
  else if a.createdAt ≠ b.createdAt then a.createdAt < b.createdAt
  else nullFirst a.id b.id

/-! ### Listings -/

/-- What a listing came to, and the documents that it skipped. -/
structure Listing (α : Type) where
  outcome : Except RepositoryError (List α)
  skipped : List ShapeError

/-- Reads rows one after another.  A document that is no rule is skipped; any other failure ends the
listing. -/
def Listing.ofRows {Row α : Type} (rule : Row → Except RepositoryError α) : List Row → Listing α
  | [] => { outcome := .ok [], skipped := [] }
  | row :: rest =>
    match rule row with
    | .ok a =>
      let listing := Listing.ofRows rule rest
      { listing with outcome := listing.outcome.map (a :: ·) }
    | .error (.shape why) =>
      let listing := Listing.ofRows rule rest
      { listing with skipped := why :: listing.skipped }
    | .error why => { outcome := .error why, skipped := [] }

/-- The listing of a table in some order. -/
def Listing.ofTable {Row α : Type} (name : TableName) (before : Row → Row → Bool)
    (rule : Row → Except RepositoryError α) (table : Table Row) : Listing α :=
  match table.rows name with
  | .error why => { outcome := .error (.sql why), skipped := [] }
  | .ok rows => .ofRows rule (rows.mergeSort before)

/-- What loading all rules came to, and the documents that were skipped on the way. -/
structure LoadedRules where
  outcome : Except RepositoryError RuleSet
  skippedLabelRules : List ShapeError
  skippedAssigneeRules : List ShapeError

namespace Tables

/-- The label rules, by time of creation. -/
def listLabelRules (tables : Tables) : Listing LabelRule :=
  .ofTable .labelRules LabelRow.listedBefore LabelRow.rule tables.labelRules

/-- The assignee rules, by priority. -/
def listAssigneeRules (tables : Tables) : Listing AssigneeRule :=
  .ofTable .assigneeRules AssigneeRow.listedBefore AssigneeRow.rule tables.assigneeRules

/-- All rules: the label rules, and if they can be read the assignee rules. -/
def loadRules (tables : Tables) : LoadedRules :=
  let labels := tables.listLabelRules
  match labels.outcome with
  | .error why =>
    { outcome := .error why, skippedLabelRules := labels.skipped, skippedAssigneeRules := [] }
  | .ok labelRules =>
    let assignees := tables.listAssigneeRules
    { outcome := assignees.outcome.map fun assigneeRules => { labelRules, assigneeRules }
      skippedLabelRules := labels.skipped
      skippedAssigneeRules := assignees.skipped }

/-! ### Changes -/

/-- Stores a label document as it is. -/
def insertLabelDocument (tables : Tables) (now : Instant) (doc : LabelDocument) :
    Except RepositoryError Tables :=
  (tables.insertLabelRow (.ofDocument now doc)).mapError .sql

/-- Stores an assignee document as it is. -/
def insertAssigneeDocument (tables : Tables) (now : Instant) (doc : AssigneeDocument) :
    Except RepositoryError Tables :=
  (tables.insertAssigneeRow (.ofDocument now doc)).mapError .sql

/-- Stores a valid draft as a new label rule. -/
def createLabelRule (tables : Tables) (now : Instant) (id : String) (draft : LabelDraft) :
    Except RepositoryError (LabelRule × Tables) := do
  let draft ← draft.validate.mapError .validation
  let rule : LabelRule :=
    { id, condition := draft.condition, labels := draft.labels, assignTo := draft.assignTo
      enabled := draft.enabled, createdAt := now.truncateToMillis }
  return (rule, ← tables.insertLabelDocument now rule.toDocument)

/-- Stores a valid draft as a new assignee rule. -/
def createAssigneeRule (tables : Tables) (now : Instant) (id : String) (draft : AssigneeDraft)
    (allowed : List String) : Except RepositoryError (AssigneeRule × Tables) := do
  let draft ← (draft.validate allowed).mapError .validation
  let rule : AssigneeRule :=
    { id, enabled := draft.enabled, priority := draft.priority, condition := draft.condition
      assigneeEmail := draft.assigneeEmail, unassignedOnly := true
      broadDomainConfirmed := draft.broadDomainConfirmed, createdAt := now.truncateToMillis
      updatedAt := none }
  return (rule, ← tables.insertAssigneeDocument now rule.toDocument)

end Tables

/-- The text of a document with `enabled` set.  A text that is no JSON is refused even in a relaxed
reading, and a value that is no object stays as it is. -/
def setEnabledInText (text : String) (enabled : Bool) : Except SqlError String :=
  match Json.Relaxed.read? (readBack text) with
  | none => .error .malformedJson
  | some json => .ok (json.set "enabled" (.bool enabled)).compact

/-- The row of a label rule that was switched on or off now. -/
def LabelRow.setEnabled (now : Instant) (enabled : Bool) (row : LabelRow) :
    Except SqlError LabelRow := do
  return { row with
    ruleJson := ← setEnabledInText row.ruleJson enabled
    enabled := flag enabled
    updatedAt := Timestamp.writeMillis now }

/-- The row of an assignee rule that was switched on or off now. -/
def AssigneeRow.setEnabled (now : Instant) (enabled : Bool) (row : AssigneeRow) :
    Except SqlError AssigneeRow := do
  return { row with
    ruleJson := ← setEnabledInText row.ruleJson enabled
    enabled := flag enabled
    updatedAt := some (Timestamp.writeMillis now) }

/-- The rows with the one of a given id changed. -/
def changeRow {Row : Type} (idOf : Row → Option String) (id : String)
    (change : Row → Except SqlError Row) : List Row → Except RepositoryError (List Row)
  | [] => .error (.notFound id)
  | row :: rest =>
    if idOf row = some id then ((change row).mapError .sql).map (· :: rest)
    else (changeRow idOf id change rest).map (row :: ·)

/-- The rows without the one of a given id. -/
def removeRow {Row : Type} (idOf : Row → Option String) (id : String) :
    List Row → Except RepositoryError (List Row)
  | [] => .error (.notFound id)
  | row :: rest =>
    if idOf row = some id then .ok rest else (removeRow idOf id rest).map (row :: ·)

namespace Tables

/-- Switches a label rule on or off. -/
def setLabelRuleEnabled (tables : Tables) (now : Instant) (id : String) (enabled : Bool) :
    Except RepositoryError Tables := do
  let rows ← (tables.labelRules.rows .labelRules).mapError .sql
  return { tables with
    labelRules := some (← changeRow (·.id) id (LabelRow.setEnabled now enabled) rows) }

/-- Switches an assignee rule on or off. -/
def setAssigneeRuleEnabled (tables : Tables) (now : Instant) (id : String) (enabled : Bool) :
    Except RepositoryError Tables := do
  let rows ← (tables.assigneeRules.rows .assigneeRules).mapError .sql
  return { tables with
    assigneeRules := some (← changeRow (·.id) id (AssigneeRow.setEnabled now enabled) rows) }

/-- Removes a label rule. -/
def deleteLabelRule (tables : Tables) (id : String) : Except RepositoryError Tables := do
  let rows ← (tables.labelRules.rows .labelRules).mapError .sql
  return { tables with labelRules := some (← removeRow (·.id) id rows) }

/-- Removes an assignee rule. -/
def deleteAssigneeRule (tables : Tables) (id : String) : Except RepositoryError Tables := do
  let rows ← (tables.assigneeRules.rows .assigneeRules).mapError .sql
  return { tables with assigneeRules := some (← removeRow (·.id) id rows) }

end Tables
end MailTriage
