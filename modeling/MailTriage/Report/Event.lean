import MailTriage.Inspection.Sample
import MailTriage.Json.Printer
import MailTriage.Rule.Document

/-! # Events

What the program reports about its own work while it makes a report.  Each event belongs to a part
of the program and to the task during which it happened, and is written as one line of JSON.
-/
namespace MailTriage

/-- How serious an event is. -/
inductive Level where
  | info
  | warn
deriving DecidableEq, Repr

/-- The name of a level. -/
def Level.name : Level → String
  | .info => "info"
  | .warn => "warn"

/-- Something that happened. -/
inductive Event where
  /-- So many migrations were applied. -/
  | schemaUpgraded (applied : Nat)
  | labelRuleSkipped (why : ShapeError)
  | assigneeRuleSkipped (why : ShapeError)
  | rulesLoaded (labelRules assigneeRules : Nat)
  | sampleFailed (audience : Audience) (why : StoreError)
  | ruleSetInspected (conflicts dangerous inactive : Nat)
  /-- The sender of the message to be explained was not told. -/
  | senderUnknown (why : StoreError)
  | auditLogFailed (why : StoreError)
  /-- The sender of a message in the audit log was not told. -/
  | lookupFailed (messageId : String) (why : StoreError)
  | suggestionsGenerated (suggestions failedLookups : Nat)
deriving DecidableEq, Repr

namespace Event

/-- How serious an event is. -/
def level : Event → Level
  | .schemaUpgraded _ | .rulesLoaded .. | .ruleSetInspected .. | .suggestionsGenerated .. => .info
  | _ => .warn

/-- The part of the program that an event belongs to. -/
def target : Event → String
  | .schemaUpgraded _ => "triage_core::migrations"
  | .labelRuleSkipped _ | .assigneeRuleSkipped _ => "triage_core::rules::repositories"
  | .rulesLoaded .. => "triage_report"
  | .sampleFailed .. | .ruleSetInspected .. | .senderUnknown _ => "triage_core::inspector"
  | .auditLogFailed _ | .lookupFailed .. | .suggestionsGenerated .. =>
    "triage_core::suggestions::miner"

/-- The task during which an event happened. -/
def span : Event → Option String
  | .sampleFailed .. | .ruleSetInspected .. => some "inspect_rule_set"
  | .senderUnknown _ => some "explain_message"
  | .auditLogFailed _ | .lookupFailed .. | .suggestionsGenerated .. =>
    some "generate_suggestions_at"
  | _ => none

/-- An event in words. -/
def message : Event → String
  | .schemaUpgraded _ => "database schema upgraded"
  | .labelRuleSkipped _ => "skipping malformed label rule"
  | .assigneeRuleSkipped _ => "skipping malformed assignee rule"
  | .rulesLoaded .. => "loaded rules"
  | .sampleFailed .. => "message sample failed; omitting sample-derived findings"
  | .ruleSetInspected .. => "rule set inspected"
  | .senderUnknown _ | .lookupFailed .. => "sender lookup failed"
  | .auditLogFailed _ => "audit log listing failed"
  | .suggestionsGenerated .. => "generated rule suggestions"

/-- What is known about an event beside its message. -/
def details : Event → List (String × Json)
  | .schemaUpgraded applied => [("applied", .integer applied)]
  | .labelRuleSkipped why | .assigneeRuleSkipped why => [("error", .text why.message)]
  | .rulesLoaded labelRules assigneeRules =>
    [("label_rules", .integer labelRules), ("assignee_rules", .integer assigneeRules)]
  | .sampleFailed audience why =>
    [("unassigned_only", .bool (audience = .unassigned)), ("error", .text why.message)]
  | .ruleSetInspected conflicts dangerous inactive =>
    [("conflicts", .integer conflicts), ("dangerous", .integer dangerous),
      ("inactive", .integer inactive)]
  | .senderUnknown why | .auditLogFailed why => [("error", .text why.message)]
  | .lookupFailed messageId why =>
    [("message_id", .text messageId), ("error", .text why.message)]
  | .suggestionsGenerated suggestions failedLookups =>
    [("suggestions", .integer suggestions), ("failed_lookups", .integer failedLookups)]

/-- The JSON of an event of the service with some name. -/
def encode (service : String) (event : Event) : Json :=
  .object
    [("service", .text service), ("level", .text event.level.name),
      ("target", .text event.target), ("span", .ofText? event.span), ("trace_id", .null),
      ("fields", .object (("message", .text event.message) :: event.details))]

end Event
end MailTriage
