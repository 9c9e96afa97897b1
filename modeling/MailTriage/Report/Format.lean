import MailTriage.Inspection.Explanation
import MailTriage.Inspection.Health
import MailTriage.Json.Record
import MailTriage.Suggestion

/-! # Reports as JSON

The JSON form of reports and of what they are made of.  The members come in a fixed order, and what
is not there is null.
-/
namespace MailTriage

/-- The name of a reason. -/
def MatchReason.name : MatchReason → String
  | .email => "fromEmail"
  | .domain => "fromDomain"

/-- The name of a family of rules. -/
def RuleKind.name : RuleKind → String
  | .label => "label"
  | .assignee => "assignee"

/-- The name of a kind of conflict. -/
def ConflictKind.name : ConflictKind → String
  | .labelLabel => "label_label"
  | .assigneeAssignee => "assignee_assignee"
  | .crossType => "cross_type"

/-- The name of a danger. -/
def Danger.name : Danger → String
  | .broadDomain _ | .confirmedBroadDomain => "broad_domain"
  | .tooManyMatches .. => "too_many_matches"

/-- The name of a warning about a suggestion. -/
def SuggestionWarning.name : SuggestionWarning → String
  | .broadDomain => "broad_domain"

namespace Json

/-- A value, or null. -/
def ofOption {α : Type} (encode : α → Json) : Option α → Json
  | none => .null
  | some a => encode a

/-- The array of some values. -/
def ofList {α : Type} (encode : α → Json) (values : List α) : Json := .array (values.map encode)

/-- A condition. -/
def ofCondition (c : Condition) : Json :=
  .object [("from_email", ofText? c.email), ("from_domain", ofText? c.domain)]

/-- Why a condition covers a sender, or null. -/
def ofReason? : Option MatchReason → Json := ofOption fun reason => .text reason.name

/-- An assignment. -/
def ofAssignment : Assignment → Json
  | .me => .object [("type", .text "me")]
  | .assignee email => .object [("type", .text "assignee"), ("assignee_email", .text email)]

/-- An assignment, or null. -/
def ofAssignment? : Option Assignment → Json := ofOption ofAssignment

/-- The assignee decided for a sender, or null. -/
def ofResolved? : Option ResolvedAssignee → Json := ofOption fun resolved =>
  .object
    [("rule_id", .text resolved.ruleId), ("assignee_email", .text resolved.assigneeEmail),
      ("priority", .integer resolved.priority.toInt), ("reason", .text resolved.reason.name)]

/-- The fields of a draft of a label rule. -/
def labelDraftMembers (draft : LabelDraft) : List (String × Json) :=
  [("matcher", ofCondition draft.condition), ("label_names", ofTexts draft.labels.toList),
    ("assign_to", ofAssignment? draft.assignTo), ("enabled", .bool draft.enabled)]

/-- The fields of a draft of an assignee rule. -/
def assigneeDraftMembers (draft : AssigneeDraft) : List (String × Json) :=
  [("enabled", .bool draft.enabled), ("priority", .integer draft.priority.toInt),
    ("matcher", ofCondition draft.condition), ("assignee_email", .text draft.assigneeEmail),
    ("dangerous_domain_confirm", .bool draft.broadDomainConfirmed)]

/-! ### Inspections -/

/-- A conflict. -/
def ofConflict (c : Conflict) : Json :=
  .object
    [("type", .text c.kind.name), ("rule_ids", ofTexts c.ruleIds),
      ("match_condition", .text c.overlap.describe), ("conflicting_results", ofTexts c.results),
      ("message", .text c.message)]

/-- A finding about a dangerous rule. -/
def ofDangerousRule (finding : DangerousRule) : Json :=
  .object
    [("rule_id", .text finding.ruleId), ("rule_type", .text finding.kind.name),
      ("reason", .text finding.danger.name),
      ("match_condition", .text finding.condition.describe),
      ("message", .text finding.danger.message), ("preview_count", ofNat? finding.previewCount)]

/-- A finding about an inactive rule. -/
def ofInactiveRule (finding : InactiveRule) : Json :=
  .object
    [("rule_id", .text finding.ruleId), ("rule_type", .text finding.kind.name),
      ("match_condition", .text finding.condition.describe), ("message", .text finding.message)]

/-- How many messages the samples had. -/
def ofCoverage (coverage : SampleCoverage) : Json :=
  .object
    [("label_sample_size", ofNat? coverage.labelSampleSize),
      ("assignee_sample_size", ofNat? coverage.assigneeSampleSize)]

/-- A report on dangerous rules. -/
def ofDangerReport (report : DangerReport) : Json :=
  .object
    [("dangerous_rules", ofList ofDangerousRule report.dangerousRules),
      ("coverage", ofCoverage report.coverage)]

/-- A report on inactive rules. -/
def ofInactivityReport (report : InactivityReport) : Json :=
  .object
    [("inactive_rules", ofList ofInactiveRule report.inactiveRules),
      ("coverage", ofCoverage report.coverage)]

/-- A report on a rule set. -/
def ofHealthReport (report : HealthReport) : Json :=
  .object
    [("conflicts", ofList ofConflict report.conflicts),
      ("dangerous_rules", ofList ofDangerousRule report.dangerousRules),
      ("inactive_rules", ofList ofInactiveRule report.inactiveRules),
      ("coverage", ofCoverage report.coverage)]

/-! ### Explanations -/

/-- What a label rule has to say. -/
def ofLabelTrace (trace : LabelRuleTrace) : Json :=
  .object
    [("rule_id", .text trace.ruleId), ("enabled", .bool trace.enabled),
      ("match_condition", .text trace.condition.describe), ("reason", ofReason? trace.reason),
      ("label_names", ofTexts trace.labels.toList), ("applied", .bool trace.applied),
      ("assign_to_applied", .bool trace.assignToApplied)]

/-- What an assignee rule has to say. -/
def ofAssigneeTrace (trace : AssigneeRuleTrace) : Json :=
  .object
    [("rule_id", .text trace.ruleId), ("enabled", .bool trace.enabled),
      ("priority", .integer trace.priority.toInt),
      ("match_condition", .text trace.condition.describe), ("reason", ofReason? trace.reason),
      ("assignee_email", .text trace.assigneeEmail), ("selected", .bool trace.selected)]

/-- The decision for a sender. -/
def ofOutcome (outcome : ExplainedOutcome) : Json :=
  .object
    [("labels", ofTexts outcome.labels.toList), ("assign_to", ofAssignment? outcome.assignTo),
      ("assignee", ofResolved? outcome.assignee)]

/-- What the rules have to say about a message. -/
def ofExplanation (explanation : MessageExplanation) : Json :=
  .object
    [("message_id", .text explanation.messageId), ("from_email", ofText? explanation.fromEmail),
      ("label_rules", ofList ofLabelTrace explanation.labelRules),
      ("assignee_rules", ofList ofAssigneeTrace explanation.assigneeRules),
      ("outcome", ofOutcome explanation.outcome),
      ("warnings", ofTexts (explanation.warnings.map (·.message)))]

/-! ### Suggestions -/

/-- The rule that a suggestion would create. -/
def ofProposal : ProposedRule → Json
  | .label draft => .object (("kind", .text "label") :: labelDraftMembers draft)
  | .assignee draft => .object (("kind", .text "assignee") :: assigneeDraftMembers draft)

/-- A suggestion. -/
def ofSuggestion (s : Suggestion) : Json :=
  .object
    [("suggestion_id", .text s.id), ("type", .text s.kind.name),
      ("sender",
        .object [("from_email", .text s.sender.email), ("from_domain", .text s.sender.domain)]),
      ("reason", .text s.reason), ("evidence_count", .integer s.evidenceCount),
      ("actor_count", .integer s.actorCount), ("actors", ofTexts s.actors),
      ("proposed_rule", ofProposal s.proposal),
      ("warnings", ofTexts (s.warnings.map (·.name)))]

/-- All suggestions. -/
def ofSuggestionReport (report : SuggestionReport) : Json :=
  .object
    [("suggestions", ofList ofSuggestion report.suggestions),
      ("warnings", ofTexts (report.warnings.map (·.message)))]

end Json
end MailTriage
