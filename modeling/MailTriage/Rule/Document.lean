import MailTriage.Rule
import MailTriage.Text.Lower

/-! # Stored rule documents

Rules are stored as documents, and documents are older than the rules of today: an old label rule
names one label, a new one a list, and some carry both; an assignment is the keyword `me` or an
address.  `LabelRule.ofDocument` and `AssigneeRule.ofDocument` bring every document to the one form
that the rest of the library works with, or say what is missing; `toDocument` writes a rule back in
the newest form.
-/
namespace MailTriage

/-- The assignment of a stored label rule. -/
inductive DocumentAssignment where
  | keyword (word : String)
  | target (email : String)
deriving DecidableEq, Repr

/-- A stored label rule. -/
structure LabelDocument where
  id : String := ""
  condition : Condition := {}
  /-- The only label of an old document. -/
  labelName : Option String := none
  labelNames : Option (List String) := none
  assignTo : Option DocumentAssignment := none
  enabled : Bool := true
  createdAt : Option Instant := none
deriving DecidableEq, Inhabited

/-- When a stored assignee rule assigns. -/
structure AssignmentTiming where
  unassignedOnly : Option Bool := none
deriving DecidableEq, Repr, Inhabited

/-- What the author of a stored assignee rule confirmed. -/
structure SafetyConfirmation where
  broadDomainConfirmed : Bool := false
deriving DecidableEq, Repr, Inhabited

/-- A stored assignee rule. -/
structure AssigneeDocument where
  id : String := ""
  enabled : Bool := true
  priority : Int64 := 0
  condition : Condition := {}
  assigneeEmail : String := ""
  timing : Option AssignmentTiming := none
  safety : Option SafetyConfirmation := none
  createdAt : Option Instant := none
  updatedAt : Option Instant := none
deriving DecidableEq, Inhabited

/-- Why a stored document is no rule. -/
inductive ShapeError where
  | missingCondition (id : String)
  | missingLabels (id : String)
  | invalidAssignment (id value : String)
  | missingAssignee (id : String)
deriving DecidableEq, Repr

/-- What is said about a document that is no rule. -/
def ShapeError.message : ShapeError → String
  | .missingCondition id => "rule " ++ id ++ " has neither fromEmail nor fromDomain"
  | .missingLabels id => "label rule " ++ id ++ " has no label names"
  | .invalidAssignment id value => "rule " ++ id ++ " has unsupported assignTo value " ++ value
  | .missingAssignee id => "assignee rule " ++ id ++ " has no assignee email"

/-- The set of the names that are not blank, trimmed. -/
def labelSet (names : List String) : TextSet :=
  TextSet.ofList ((names.map Text.trim).filter (· ≠ ""))

/-- All label names of a document, from both of its fields. -/
def LabelDocument.allNames (doc : LabelDocument) : List String :=
  doc.labelNames.getD [] ++ doc.labelName.toList

/-- The assignment of the document with some id.  A blank keyword assigns nothing. -/
def DocumentAssignment.resolve (id : String) :
    DocumentAssignment → Except ShapeError (Option Assignment)
  | .keyword word =>
    if Text.eqIgnoringAsciiCase word "me" then .ok (some .me)
    else if Text.trim word = "" then .ok none
    else .error (.invalidAssignment id word)
  | .target email =>
    match normalizeEmail email with
    | some normal => .ok (some (.assignee normal))
    | none => .error (.invalidAssignment id email)

/-- The assignment of a document that may have none. -/
def LabelDocument.assignment (doc : LabelDocument) : Except ShapeError (Option Assignment) :=
  match doc.assignTo with
  | none => .ok none
  | some assignTo => assignTo.resolve doc.id

/-- The rule of a stored label rule. -/
def LabelRule.ofDocument (doc : LabelDocument) : Except ShapeError LabelRule :=
  let condition := doc.condition.normalized
  let labels := labelSet doc.allNames
  if condition.isEmpty then .error (.missingCondition doc.id)
  else if labels.isEmpty then .error (.missingLabels doc.id)
  else match doc.assignment with
    | .error e => .error e
    | .ok assignTo =>
      .ok { id := doc.id, condition, labels, assignTo, enabled := doc.enabled
            createdAt := doc.createdAt.getD .epoch }

/-- The rule of a stored assignee rule.  Whatever the document says, only unassigned messages are
assigned. -/
def AssigneeRule.ofDocument (doc : AssigneeDocument) : Except ShapeError AssigneeRule :=
  let condition := doc.condition.normalized
  let assigneeEmail := Text.lower (Text.trim doc.assigneeEmail)
  if condition.isEmpty then .error (.missingCondition doc.id)
  else if assigneeEmail = "" then .error (.missingAssignee doc.id)
  else
    .ok { id := doc.id, enabled := doc.enabled, priority := doc.priority, condition, assigneeEmail
          unassignedOnly := true
          broadDomainConfirmed := (doc.safety.map (·.broadDomainConfirmed)).getD false
          createdAt := doc.createdAt.getD .epoch, updatedAt := doc.updatedAt }

/-- The stored form of an assignment. -/
def Assignment.toDocument : Assignment → DocumentAssignment
  | .me => .keyword "me"
  | .assignee email => .target email

/-- The stored form of a label rule. -/
def LabelRule.toDocument (rule : LabelRule) : LabelDocument where
  id := rule.id
  condition := rule.condition
  labelNames := some rule.labels.toList
  assignTo := rule.assignTo.map (·.toDocument)
  enabled := rule.enabled
  createdAt := some rule.createdAt

/-- The stored form of an assignee rule. -/
def AssigneeRule.toDocument (rule : AssigneeRule) : AssigneeDocument where
  id := rule.id
  enabled := rule.enabled
  priority := rule.priority
  condition := rule.condition
  assigneeEmail := rule.assigneeEmail
  timing := some { unassignedOnly := some true }
  safety := some { broadDomainConfirmed := rule.broadDomainConfirmed }
  createdAt := some rule.createdAt
  updatedAt := rule.updatedAt

end MailTriage
