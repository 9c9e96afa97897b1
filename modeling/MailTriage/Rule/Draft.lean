import MailTriage.Rule.Document

/-! # Drafts of rules and their validation

A draft is a rule before it is stored.  `validate` brings its condition, labels and assignee to
normal form, or says what is wrong with it.  For an assignee rule the assignee's domain must be on
the list of allowed domains, unless the list is empty, and a condition on a broad domain needs a
confirmation.
-/
namespace MailTriage

/-- A label rule before it is stored. -/
structure LabelDraft where
  condition : Condition
  labels : TextSet
  assignTo : Option Assignment
  enabled : Bool
deriving DecidableEq

/-- An assignee rule before it is stored. -/
structure AssigneeDraft where
  enabled : Bool
  priority : Int64
  condition : Condition
  assigneeEmail : String
  broadDomainConfirmed : Bool
deriving DecidableEq

/-- What is wrong with a draft. -/
inductive ValidationError where
  | missingCondition
  | invalidSenderEmail (email : String)
  | missingLabels
  | invalidAssigneeEmail (email : String)
  | assigneeDomainNotAllowed (domain : String)
  | broadDomainNotConfirmed (domain : String)
deriving DecidableEq, Repr

/-- What is said about a draft that is wrong. -/
def ValidationError.message : ValidationError → String
  | .missingCondition => "rule needs a fromEmail or fromDomain condition"
  | .invalidSenderEmail email => "fromEmail " ++ email ++ " is not a valid address"
  | .missingLabels => "label rule needs at least one label name"
  | .invalidAssigneeEmail email => "assignee email " ++ email ++ " is not a valid address"
  | .assigneeDomainNotAllowed domain =>
    "assignee domain " ++ domain ++ " is not in the allowed list"
  | .broadDomainNotConfirmed domain =>
    "fromDomain " ++ domain ++ " is broad; confirm the dangerous domain to save this rule"

/-- The condition in normal form, if it names something and its address has a domain. -/
def Condition.validate (c : Condition) : Except ValidationError Condition :=
  let normal := c.normalized
  if normal.isEmpty then .error .missingCondition
  else match normal.email with
    | none => .ok normal
    | some email =>
      if (normalizeEmail email).isNone then .error (.invalidSenderEmail email) else .ok normal

/-- Whether a domain is on a list of allowed domains.  An empty list allows every domain. -/
def isAllowedDomain (allowed : List String) (domain : String) : Bool :=
  allowed.isEmpty || allowed.any fun a => normalizeDomain a == domain

/-- An assignee's address in normal form, if its domain is allowed. -/
def validateAssigneeEmail (email : String) (allowed : List String) :
    Except ValidationError String :=
  match Sender.parse? email with
  | none => .error (.invalidAssigneeEmail email)
  | some assignee =>
    if isAllowedDomain allowed assignee.domain then .ok assignee.email
    else .error (.assigneeDomainNotAllowed assignee.domain)

/-- The draft in normal form, if its condition is valid and it has a label. -/
def LabelDraft.validate (draft : LabelDraft) : Except ValidationError LabelDraft := do
  let condition ← draft.condition.validate
  let labels := labelSet draft.labels.toList
  if labels.isEmpty then throw .missingLabels
  return { draft with condition, labels }

/-- The draft in normal form, if its condition and its assignee are valid and a broad domain is
confirmed. -/
def AssigneeDraft.validate (draft : AssigneeDraft) (allowed : List String) :
    Except ValidationError AssigneeDraft := do
  let condition ← draft.condition.validate
  let assigneeEmail ← validateAssigneeEmail draft.assigneeEmail allowed
  match condition.domain with
  | some domain =>
    if isBroadDomain domain && !draft.broadDomainConfirmed then
      throw (.broadDomainNotConfirmed domain)
  | none => pure ()
  return { draft with condition, assigneeEmail }

end MailTriage
