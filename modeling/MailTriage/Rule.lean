import MailTriage.Condition
import MailTriage.TextSet
import MailTriage.Time.Instant

/-! # Rules

A label rule puts labels on the messages of the senders it covers and may say who takes them.  An
assignee rule names the person who takes the unassigned messages of the senders it covers; of
several, the one with the smallest priority counts.  Only enabled rules have an effect.
-/
namespace MailTriage

/-- Whom a label rule gives a message to. -/
inductive Assignment where
  /-- The person who applies the rule. -/
  | me
  | assignee (email : String)
deriving DecidableEq, Repr

/-- A rule that puts labels on messages. -/
structure LabelRule where
  id : String
  condition : Condition
  labels : TextSet
  assignTo : Option Assignment
  enabled : Bool
  createdAt : Instant
deriving DecidableEq

/-- A rule that names the person who takes unassigned messages. -/
structure AssigneeRule where
  id : String
  enabled : Bool
  priority : Int64
  condition : Condition
  assigneeEmail : String
  /-- Whether only messages without an owner are assigned. -/
  unassignedOnly : Bool
  /-- Whether the author confirmed a condition on a broad domain. -/
  broadDomainConfirmed : Bool
  createdAt : Instant
  updatedAt : Option Instant
deriving DecidableEq

/-- The rules that are in force together. -/
structure RuleSet where
  labelRules : List LabelRule := []
  assigneeRules : List AssigneeRule := []
deriving DecidableEq, Inhabited

/-- Whether a label rule is enabled and covers a sender. -/
def LabelRule.applies (rule : LabelRule) (sender : Sender) : Bool :=
  rule.enabled && rule.condition.covers sender

/-- Whether an assignee rule is enabled and covers a sender. -/
def AssigneeRule.applies (rule : AssigneeRule) (sender : Sender) : Bool :=
  rule.enabled && rule.condition.covers sender

end MailTriage
