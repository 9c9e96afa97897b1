import MailTriage.Mailbox
import MailTriage.Rule.Decision

/-! # Explanations

An explanation shows what every rule has to say about the sender of one message, the rules that are
disabled and those that do not cover it included, next to the decision itself.  Which label rule
gives the assignment and which assignee rule is selected is found in one pass over the rules, with a
flag that says whether the place is taken.
-/
namespace MailTriage

/-- What a label rule has to say about a sender. -/
structure LabelRuleTrace where
  ruleId : String
  enabled : Bool
  condition : Condition
  reason : Option MatchReason
  labels : TextSet
  /-- Whether the rule's labels are in the decision. -/
  applied : Bool
  /-- Whether the rule gives the decision its assignment. -/
  assignToApplied : Bool
deriving DecidableEq

/-- What an assignee rule has to say about a sender. -/
structure AssigneeRuleTrace where
  ruleId : String
  enabled : Bool
  priority : Int64
  condition : Condition
  reason : Option MatchReason
  assigneeEmail : String
  /-- Whether the rule gives the decision its assignee. -/
  selected : Bool
deriving DecidableEq

/-- The decision for a sender. -/
structure ExplainedOutcome where
  labels : TextSet := ∅
  assignTo : Option Assignment := none
  assignee : Option ResolvedAssignee := none
deriving DecidableEq

/-- Something that an explanation could not do. -/
inductive ExplanationWarning where
  | invalidSender (text : String)
  | unknownSender (messageId : String)
  | lookupFailed (why : StoreError)
deriving DecidableEq, Repr

/-- A warning in words. -/
def ExplanationWarning.message : ExplanationWarning → String
  | .invalidSender text => "sender " ++ text ++ " is not a valid address; no rule can match"
  | .unknownSender messageId => "message " ++ messageId ++ " has no known sender"
  | .lookupFailed why => "sender lookup failed: " ++ why.message

/-- What the rules have to say about a message. -/
structure MessageExplanation where
  messageId : String
  /-- The sender's address in normal form. -/
  fromEmail : Option String
  labelRules : List LabelRuleTrace
  /-- In the order in which the rules are tried. -/
  assigneeRules : List AssigneeRuleTrace
  outcome : ExplainedOutcome
  warnings : List ExplanationWarning
deriving DecidableEq

/-- Why a condition covers the sender, if there is a sender. -/
def Condition.reasonFor? (c : Condition) (sender : Option Sender) : Option MatchReason :=
  sender.bind c.reason?

/-- The traces of label rules; `taken` says whether an earlier rule gave the assignment. -/
def labelTraces (sender : Option Sender) (taken : Bool) : List LabelRule → List LabelRuleTrace
  | [] => []
  | rule :: rest =>
    let reason := rule.condition.reasonFor? sender
    let applied := rule.enabled && reason.isSome
    let assignToApplied := applied && !taken && rule.assignTo.isSome
    { ruleId := rule.id, enabled := rule.enabled, condition := rule.condition, reason
      labels := rule.labels, applied, assignToApplied }
      :: labelTraces sender (taken || assignToApplied) rest

/-- The traces of assignee rules; `taken` says whether an earlier rule was selected. -/
def assigneeTraces (sender : Option Sender) (taken : Bool) :
    List AssigneeRule → List AssigneeRuleTrace
  | [] => []
  | rule :: rest =>
    let reason := rule.condition.reasonFor? sender
    let selected := rule.enabled && reason.isSome && !taken
    { ruleId := rule.id, enabled := rule.enabled, priority := rule.priority
      condition := rule.condition, reason, assigneeEmail := rule.assigneeEmail, selected }
      :: assigneeTraces sender (taken || selected) rest

/-- The decision for a sender, if there is one. -/
def explainedOutcome (sender : Option Sender) (rules : RuleSet) : ExplainedOutcome :=
  match sender with
  | none => {}
  | some sender =>
    let decision := decideLabels sender.email rules.labelRules
    { labels := decision.labels, assignTo := decision.assignTo
      assignee := resolveAssignee sender.email rules.assigneeRules }

/-- The explanation for a message whose sender is the given text, if there is one. -/
def explain (messageId : String) (senderText : Option String) (rules : RuleSet) :
    MessageExplanation :=
  let sender := senderText.bind Sender.parse?
  { messageId
    fromEmail := sender.map (·.email)
    labelRules := labelTraces sender false rules.labelRules
    assigneeRules := assigneeTraces sender false (evaluationOrder rules.assigneeRules)
    outcome := explainedOutcome sender rules
    warnings := match senderText, sender with
      | some text, none => [.invalidSender text]
      | _, _ => [] }

/-- The sender text of a message, told or looked up, and what went wrong with looking it up. -/
structure SenderSource where
  senderText : Option String
  warning : Option ExplanationWarning

/-- The sender that is told, or else the one that the mailbox knows. -/
def SenderSource.find (mailbox : Mailbox) (messageId : String) : Option String → SenderSource
  | some text => { senderText := some text, warning := none }
  | none =>
    match mailbox.senderOf messageId with
    | .ok (some text) => { senderText := some text, warning := none }
    | .ok none => { senderText := none, warning := some (.unknownSender messageId) }
    | .error why => { senderText := none, warning := some (.lookupFailed why) }

/-- The explanation for a message.  A sender that is not told is looked up; when that fails, the
explanation is one without a sender, and says so. -/
def explainMessage (mailbox : Mailbox) (messageId : String) (senderText : Option String)
    (rules : RuleSet) : MessageExplanation :=
  let source := SenderSource.find mailbox messageId senderText
  let explanation := explain messageId source.senderText rules
  { explanation with warnings := explanation.warnings ++ source.warning.toList }

end MailTriage
