import MailTriage.Inspection.Sample

/-! # Dangerous and inactive rules

An enabled rule is dangerous when its domain is broad, when its author had to confirm a broad
domain, or when it covers more messages of its sample than a limit allows.  It is inactive when its
sample has messages and it covers none of them.  An empty sample says nothing about any rule, and
neither does one that could not be drawn.
-/
namespace MailTriage

/-! ### Dangers -/

/-- What makes a rule dangerous. -/
inductive Danger where
  /-- The condition names a broad domain, here as it was written. -/
  | broadDomain (domain : String)
  /-- The author confirmed a broad domain. -/
  | confirmedBroadDomain
  /-- The rule covers `hits` of `size` messages, more than `limit`. -/
  | tooManyMatches (hits size limit : Nat)
deriving DecidableEq, Repr

/-- A danger in words. -/
def Danger.message : Danger → String
  | .broadDomain domain =>
    "fromDomain " ++ domain ++ " is broad and may match mail from unrelated senders"
  | .confirmedBroadDomain => "rule was saved with a dangerous domain confirmation"
  | .tooManyMatches hits size limit =>
    "matched " ++ Text.decimal hits ++ " of " ++ Text.decimal size
      ++ " sampled messages, above the limit of " ++ Text.decimal limit

/-- Whether a danger comes from a sample. -/
def Danger.isSampled : Danger → Bool
  | .tooManyMatches .. => true
  | _ => false

/-- A finding about a dangerous rule. -/
structure DangerousRule where
  ruleId : String
  kind : RuleKind
  condition : Condition
  danger : Danger
  /-- How many messages of its sample the rule covers, if the sample was drawn. -/
  previewCount : Option Nat
deriving DecidableEq, Repr

/-- The broad domain that a condition names, as it was written. -/
def Condition.broadDomain? (c : Condition) : Option String := c.domain.filter isBroadDomain

/-- The findings about one rule: the broad domain first, then the number of hits. -/
def dangersOf (id : String) (kind : RuleKind) (condition : Condition) (confirmed : Bool)
    (draw : Option SampleDraw) (limit : Nat) : List DangerousRule :=
  let previewCount := draw.map (·.hits condition)
  let broad := match condition.broadDomain? with
    | some domain => [Danger.broadDomain domain]
    | none => if confirmed then [.confirmedBroadDomain] else []
  let many := match draw with
    | some draw =>
      let hits := draw.hits condition
      if limit < hits then [Danger.tooManyMatches hits draw.size limit] else []
    | none => []
  (broad ++ many).map fun danger => { ruleId := id, kind, condition, danger, previewCount }

/-- The findings about a label rule. -/
def LabelRule.dangers (draw : Option SampleDraw) (limit : Nat) (rule : LabelRule) :
    List DangerousRule :=
  dangersOf rule.id .label rule.condition false draw limit

/-- The findings about an assignee rule. -/
def AssigneeRule.dangers (draw : Option SampleDraw) (limit : Nat) (rule : AssigneeRule) :
    List DangerousRule :=
  dangersOf rule.id .assignee rule.condition rule.broadDomainConfirmed draw limit

/-- The findings about the enabled rules, label rules first. -/
def dangerousRules (rules : RuleSet) (samples : Samples) (limit : Nat) : List DangerousRule :=
  (rules.labelRules.filter (·.enabled)).flatMap (·.dangers samples.forLabels limit)
    ++ (rules.assigneeRules.filter (·.enabled)).flatMap (·.dangers samples.forAssignees limit)

/-! ### Inactivity -/

/-- A finding about a rule that covers no message of its sample. -/
structure InactiveRule where
  ruleId : String
  kind : RuleKind
  condition : Condition
  /-- How many messages the sample had. -/
  sampleSize : Nat
deriving DecidableEq, Repr

/-- A finding in words. -/
def InactiveRule.message (finding : InactiveRule) : String :=
  match finding.kind with
  | .label =>
    "enabled label rule matched none of " ++ Text.decimal finding.sampleSize ++ " sampled messages"
  | .assignee =>
    "enabled assignee rule matched none of " ++ Text.decimal finding.sampleSize
      ++ " sampled unassigned messages"

/-- The finding about one rule, if there is one. -/
def inactivityOf? (id : String) (kind : RuleKind) (condition : Condition) (draw : SampleDraw) :
    Option InactiveRule :=
  if 0 < draw.size && draw.hits condition == 0 then
    some { ruleId := id, kind, condition, sampleSize := draw.size }
  else none

/-- The findings about the enabled rules, label rules first. -/
def inactiveRules (rules : RuleSet) (samples : Samples) : List InactiveRule :=
  (match samples.forLabels with
    | none => []
    | some draw => (rules.labelRules.filter (·.enabled)).filterMap fun rule =>
      inactivityOf? rule.id .label rule.condition draw)
    ++ (match samples.forAssignees with
    | none => []
    | some draw => (rules.assigneeRules.filter (·.enabled)).filterMap fun rule =>
      inactivityOf? rule.id .assignee rule.condition draw)

end MailTriage
