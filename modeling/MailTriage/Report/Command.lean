import MailTriage.Config
import MailTriage.Report.Endpoint
import MailTriage.Report.Event
import MailTriage.Report.Format
import MailTriage.Store.Audit
import MailTriage.Store.Messages
import MailTriage.Store.Opened
import MailTriage.Store.Rules
import MailTriage.Suggestion.Mining
import MailTriage.Text.Quoted

/-! # The report command

The command opens a store, brings it to the newest version, loads its rules and prints one report
about them: their health, suggestions for new ones, both, or the explanation for one message.  A run
(`Run`) is a value: what is printed or why nothing is, the events on the way, and the store that is
left.  The arguments are looked at only once the rules are loaded.
-/
namespace MailTriage

-- Sums start from the zero of the numbers themselves, also where every monoid has its own.
attribute [local instance (10001)] Zero.ofOfNat0

/-- What a report is about. -/
inductive Command where
  | everything
  | health
  | suggestions
  | explain (messageId : String) (sender : Option String)
deriving DecidableEq, Repr

/-- The command that arguments give; those that it does not need are not looked at. -/
def Command.ofArguments : List String → Option Command
  | [] => some .everything
  | "health" :: _ => some .health
  | "suggestions" :: _ => some .suggestions
  | "explain" :: messageId :: rest => some (.explain messageId rest.head?)
  | _ => none

/-- How the command is used. -/
def usage : String := "usage: triage-report [health | suggestions | explain <message-id> [sender]]"

/-- Why a run printed nothing. -/
inductive RunError where
  | config (why : ConfigError)
  /-- Traces cannot be exported as wanted. -/
  | noExport
  | location (why : OpenError)
  | migration (why : MigrationError)
  | rules (why : RepositoryError)
  | usage
deriving DecidableEq, Repr

/-- The name of a fault in a count. -/
def countFaultName : Text.CountFault → String
  | .empty => "Empty"
  | .invalidDigit => "InvalidDigit"
  | .tooLarge => "PosOverflow"

/-- How a failed run is named on the error output. -/
def RunError.name : RunError → String
  | .config .unreadable => "ConfigBuild"
  | .config .invalidSetting => "Deserialize"
  | .config (.missingVariable name) => "MissingEnvVar(" ++ Text.quoted name ++ ")"
  | .config (.invalidSampleSize why) =>
    "InvalidSampleSize(ParseIntError \x7b kind: " ++ countFaultName why ++ " \x7d)"
  | .noExport => "ExporterBuild"
  | .location .missingToken => "MissingAuthToken"
  | .location .unreachable => "Database"
  | .migration (.ledger _) => "Ledger"
  | .migration (.apply ..) => "Apply"
  | .rules (.sql _) => "Sql"
  | .rules (.json _) => "Json"
  | .rules (.timestamp _) => "DateTimeParse"
  | .rules (.validation _) => "Validation"
  | .rules (.shape _) => "Shape"
  | .rules (.notFound _) => "NotFound"
  | .usage => Text.quoted MailTriage.usage

/-- What a run came to. -/
structure Run where
  /-- The text that is printed, or why there is none. -/
  output : Except RunError String
  events : List Event := []
  /-- The store afterwards, if it was opened. -/
  store : Option Store := none

/-- A report together with the events on the way to it. -/
structure Reported where
  json : Json
  events : List Event

namespace Reported

/-- The failure of a sample, if it failed. -/
def sampleEvents (audience : Audience) : Except StoreError SampleDraw → List Event
  | .ok _ => []
  | .error why => [.sampleFailed audience why]

/-- The health of a rule set. -/
def health (config : InspectionConfig) (tables : Tables) (rules : RuleSet) : Reported :=
  let samples := Samples.draw tables.toMailbox config.sampleSize
  let report := HealthReport.of config rules samples
  { json := .ofHealthReport report
    events := sampleEvents .everyone samples.everyone ++ sampleEvents .unassigned samples.unassigned
      ++ [.ruleSetInspected report.conflicts.length report.dangerousRules.length
        report.inactiveRules.length] }

/-- The failures among the lookups of a kind of suggestion. -/
def lookupEvents (mined : MinedKind) : List Event :=
  mined.lookups.filterMap fun lookup =>
    lookup.failure?.map fun why => .lookupFailed lookup.messageId why

/-- The suggestions for new rules. -/
def suggestions (config : Config) (tables : Tables) (now : Instant) (rules : RuleSet) : Reported :=
  let outcome := mineLog tables.toAuditLog tables.toMailbox config.mining now config.params rules
    fun _ _ => 0
  let report := MiningOutcome.report outcome
  { json := .ofSuggestionReport report
    events := match outcome with
      | .error why => [.auditLogFailed why]
      | .ok mined =>
        mined.flatMap lookupEvents
          ++ [.suggestionsGenerated report.suggestions.length
            (mined.map fun m => SenderLookup.failures m.lookups).sum] }

/-- The explanation for one message. -/
def explanation (tables : Tables) (messageId : String) (sender : Option String)
    (rules : RuleSet) : Reported :=
  let explanation := explainMessage tables.toMailbox messageId sender rules
  { json := .ofExplanation explanation
    events := explanation.warnings.filterMap fun
      | .lookupFailed why => some (.senderUnknown why)
      | _ => none }

end Reported

/-- The report of a command about the rules of a store. -/
def Command.report (command : Command) (config : Config) (tables : Tables) (now : Instant)
    (rules : RuleSet) : Reported :=
  match command with
  | .health => .health config.inspection tables rules
  | .suggestions => .suggestions config tables now rules
  | .explain messageId sender => .explanation tables messageId sender rules
  | .everything =>
    let health := Reported.health config.inspection tables rules
    let suggestions := Reported.suggestions config tables now rules
    { json := .object [("health", health.json), ("suggestions", suggestions.json)]
      events := health.events ++ suggestions.events }

namespace Run

/-- The variables that ask for compressed traces, which are not made here. -/
def compressionVariables : List String :=
  ["OTEL_EXPORTER_OTLP_TRACES_COMPRESSION", "OTEL_EXPORTER_OTLP_COMPRESSION"]

/-- Whether traces can be exported as configured, compressed if so wanted. -/
def canExport (config : Config) (compressed : Bool) : Bool :=
  !config.exportTraces
    || (match config.otlpEndpoint with
      | none | some "" => true
      | some endpoint => Endpoint.isWellFormed endpoint && !compressed)

/-- The event of an upgrade that applied something. -/
def upgradeEvents (applied : Nat) : List Event :=
  if 0 < applied then [.schemaUpgraded applied] else []

/-- Runs the command on a store that was opened.  The store is opened again after it was brought to
the newest version, so one that is not kept is then as it was before. -/
def onStore (config : Config) (now : Instant) (arguments : List String) (opened : OpenedStore) :
    Run :=
  let upgrade := opened.upgrade
  match upgrade.outcome with
  | .error why => { output := .error (.migration why), store := some upgrade.after }
  | .ok applied =>
    let isKept := (Location.ofText config.database).isKept
    let store := if isKept then upgrade.after else upgrade.before
    let loaded := store.content.loadRules
    let events := upgradeEvents applied ++ loaded.skippedLabelRules.map .labelRuleSkipped
      ++ loaded.skippedAssigneeRules.map .assigneeRuleSkipped
    match loaded.outcome with
    | .error why => { output := .error (.rules why), events, store := some store }
    | .ok rules =>
      let events := events ++ [.rulesLoaded rules.labelRules.length rules.assigneeRules.length]
      match Command.ofArguments arguments with
      | none => { output := .error .usage, events, store := some store }
      | some command =>
        let reported := command.report config store.content now rules
        { output := .ok (reported.json.pretty ++ "\n"), events := events ++ reported.events
          store := some store }

/-- Runs the command.  `opened` is the store at the configured place, or why it cannot be opened. -/
def start (config : Config) (compressed : Bool) (opened : Except OpenError OpenedStore)
    (now : Instant) (arguments : List String) : Run :=
  if !canExport config compressed then { output := .error .noExport }
  else match opened with
    | .error why => { output := .error (.location why) }
    | .ok opened => onStore config now arguments opened

/-- The lines that a run logs; for developers the log has another form, which is not made here. -/
def logLines (config : Config) (run : Run) : List Json :=
  if Text.eqIgnoringAsciiCase config.environment "dev" then []
  else run.events.map (·.encode config.serviceName)

end Run
end MailTriage
