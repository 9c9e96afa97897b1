import MailTriage.Rule

/-! # Decisions

What a set of rules decides for one sender: the labels of all label rules that apply together with
the assignment of the first that has one (`decideLabels`), and the assignee of the first assignee
rule that applies, in the order of priorities (`resolveAssignee`).  A text that is no address is
covered by no rule.
-/
namespace MailTriage

/-- Labels and assignment decided for a sender. -/
structure LabelDecision where
  labels : TextSet := ∅
  assignTo : Option Assignment := none
deriving DecidableEq

/-- The assignee decided for a sender, with the rule that decided it. -/
structure ResolvedAssignee where
  ruleId : String
  assigneeEmail : String
  priority : Int64
  reason : MatchReason
deriving DecidableEq

/-- The decision of some label rules for a sender. -/
def decideLabelsFor (sender : Sender) (rules : List LabelRule) : LabelDecision :=
  let applying := rules.filter (·.applies sender)
  { labels := TextSet.unions (applying.map (·.labels))
    assignTo := applying.findSome? (·.assignTo) }

/-- The decision of some label rules for the sender that a text names. -/
def decideLabels (senderText : String) (rules : List LabelRule) : LabelDecision :=
  match Sender.parse? senderText with
  | none => {}
  | some sender => decideLabelsFor sender rules

/-- Why a single assignee rule covers the sender that a text names, whether or not it is enabled. -/
def matchAssigneeRule (senderText : String) (rule : AssigneeRule) : Option MatchReason :=
  (Sender.parse? senderText).bind rule.condition.reason?

/-- Assignee rules in the order in which they are tried: by ascending priority, rules of the same
priority in the order given. -/
def evaluationOrder (rules : List AssigneeRule) : List AssigneeRule :=
  rules.mergeSort fun a b => a.priority ≤ b.priority

/-- The assignee that a rule decides for a sender, if it applies. -/
def AssigneeRule.resolve? (sender : Sender) (rule : AssigneeRule) : Option ResolvedAssignee :=
  if rule.enabled then
    (rule.condition.reason? sender).map fun reason =>
      { ruleId := rule.id, assigneeEmail := rule.assigneeEmail, priority := rule.priority, reason }
  else none

/-- The decision of some assignee rules for a sender. -/
def resolveAssigneeFor (sender : Sender) (rules : List AssigneeRule) : Option ResolvedAssignee :=
  (evaluationOrder rules).findSome? (·.resolve? sender)

/-- The decision of some assignee rules for the sender that a text names. -/
def resolveAssignee (senderText : String) (rules : List AssigneeRule) : Option ResolvedAssignee :=
  (Sender.parse? senderText).bind fun sender => resolveAssigneeFor sender rules

end MailTriage
