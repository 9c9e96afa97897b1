import MailTriage.Inspection.Conflict
import MailTriage.Inspection.Danger

/-! # Health reports

An inspection of a rule set: its conflicts, which need no messages, and the dangerous and inactive
rules, which are read off one pair of samples.
-/
namespace MailTriage

/-- How many messages a sample has at most, and how many of them a rule may cover. -/
structure InspectionConfig where
  sampleSize : Nat := 50
  matchLimit : Nat := 100
deriving DecidableEq, Repr, Inhabited

/-- The dangerous rules of a rule set. -/
structure DangerReport where
  dangerousRules : List DangerousRule
  coverage : SampleCoverage
deriving DecidableEq

/-- The inactive rules of a rule set. -/
structure InactivityReport where
  inactiveRules : List InactiveRule
  coverage : SampleCoverage
deriving DecidableEq

/-- All findings about a rule set. -/
structure HealthReport where
  conflicts : List Conflict
  dangerousRules : List DangerousRule
  inactiveRules : List InactiveRule
  coverage : SampleCoverage
deriving DecidableEq

/-- The dangerous rules of a rule set, given the samples. -/
def DangerReport.of (config : InspectionConfig) (rules : RuleSet) (samples : Samples) :
    DangerReport where
  dangerousRules := MailTriage.dangerousRules rules samples config.matchLimit
  coverage := samples.coverage

/-- The inactive rules of a rule set, given the samples. -/
def InactivityReport.of (rules : RuleSet) (samples : Samples) : InactivityReport where
  inactiveRules := MailTriage.inactiveRules rules samples
  coverage := samples.coverage

/-- All findings about a rule set, given the samples. -/
def HealthReport.of (config : InspectionConfig) (rules : RuleSet) (samples : Samples) :
    HealthReport where
  conflicts := findConflicts rules.labelRules rules.assigneeRules
  dangerousRules := MailTriage.dangerousRules rules samples config.matchLimit
  inactiveRules := MailTriage.inactiveRules rules samples
  coverage := samples.coverage

/-- Draws samples and reports the dangerous rules. -/
def inspectDanger (mailbox : Mailbox) (config : InspectionConfig) (rules : RuleSet) :
    DangerReport :=
  .of config rules (.draw mailbox config.sampleSize)

/-- Draws samples and reports the inactive rules. -/
def inspectInactivity (mailbox : Mailbox) (config : InspectionConfig) (rules : RuleSet) :
    InactivityReport :=
  .of rules (.draw mailbox config.sampleSize)

/-- Draws samples and reports all findings. -/
def inspectHealth (mailbox : Mailbox) (config : InspectionConfig) (rules : RuleSet) :
    HealthReport :=
  .of config rules (.draw mailbox config.sampleSize)

end MailTriage
