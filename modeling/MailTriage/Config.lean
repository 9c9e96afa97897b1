import MailTriage.Config.Path
import MailTriage.Inspection.Health
import MailTriage.Suggestion

/-! # Configuration

A configuration is read from a JSON file.  Four environment variables override settings of the file;
then a setting `env:NAME` takes the value of the variable `NAME`; at last a tilde in front of the
path of the database becomes the home directory.  Variables are asked for one at a time, in a monad,
so that the environment may be a table or the real one.
-/
namespace MailTriage

/-- How the program is set up. -/
structure Config where
  serviceName : String
  environment : String
  /-- Where the store is. -/
  database : String
  /-- Where traces go. -/
  otlpEndpoint : Option String
  exportTraces : Bool
  inspection : InspectionConfig := {}
  params : SuggestionParams := {}
  mining : MiningConfig := {}
  /-- The domains that assignees may have. -/
  allowedDomains : List String := []
deriving DecidableEq, Repr

/-- Why there is no configuration. -/
inductive ConfigError where
  /-- There is no file, or it is not a JSON object. -/
  | unreadable
  /-- A setting is missing or of the wrong kind. -/
  | invalidSetting
  | missingVariable (name : String)
  | invalidSampleSize (why : Text.CountFault)
deriving DecidableEq, Repr

/-- What is said when there is no configuration. -/
def ConfigError.message : ConfigError → String
  | .unreadable => "failed to read configuration file"
  | .invalidSetting => "failed to parse configuration"
  | .missingVariable name => "missing required environment variable " ++ name
  | .invalidSampleSize why => "invalid TRIAGE_SAMPLE_SIZE override: " ++ why.message

namespace Config

/-! ### The file -/

/-- The settings of an inspection. -/
def readInspection : SettingReader InspectionConfig := fun setting => do
  let settings ← Setting.asSection ["sample_size", "too_many_matches_threshold"] setting
  let absent : InspectionConfig := {}
  return {
    sampleSize := ← Setting.field settings "sample_size" absent.sampleSize Setting.asCount64
    matchLimit :=
      ← Setting.field settings "too_many_matches_threshold" absent.matchLimit Setting.asCount64 }

/-- The settings for suggestions. -/
def readSuggestions : SettingReader (SuggestionParams × MiningConfig) := fun setting => do
  let settings ← Setting.asSection
    ["days", "min_actions", "min_actors", "lookup_concurrency", "mute_label",
      "mine_label_applications"] setting
  let params : SuggestionParams := {}
  let mining : MiningConfig := {}
  let params : SuggestionParams := {
    days := ← Setting.field settings "days" params.days Setting.asCount32
    minActions := ← Setting.field settings "min_actions" params.minActions Setting.asCount64
    minActors := ← Setting.field settings "min_actors" params.minActors Setting.asCount64 }
  let mining : MiningConfig := {
    lookupConcurrency :=
      ← Setting.field settings "lookup_concurrency" mining.lookupConcurrency Setting.asCount64
    muteLabel := ← Setting.field settings "mute_label" mining.muteLabel Setting.asText
    mineLabelApplications :=
      ← Setting.field settings "mine_label_applications" mining.mineLabelApplications
        Setting.asTruth }
  return (params, mining)

/-- The domains that assignees may have. -/
def readAllowedDomains : SettingReader (List String) := fun setting => do
  let settings ← Setting.asSection ["allowed_domains"] setting
  Setting.field settings "allowed_domains" [] (Setting.asList Setting.asText)

/-- The configuration that a tree of settings holds. -/
def ofSetting : SettingReader Config := fun setting => do
  let sections ← Setting.asSection
    ["app", "paths", "telemetry", "inspector", "suggestions", "assignees"] setting
  let app ← Setting.required sections "app" (Setting.asSection ["service_name", "env"])
  let paths ← Setting.required sections "paths" (Setting.asSection ["database"])
  let telemetry ← Setting.required sections "telemetry"
    (Setting.asSection ["otlp_endpoint", "export_traces"])
  let (params, mining) ← Setting.field sections "suggestions" ({}, {}) readSuggestions
  return {
    serviceName := ← Setting.required app "service_name" Setting.asText
    environment := ← Setting.required app "env" Setting.asText
    database := ← Setting.required paths "database" Setting.asText
    otlpEndpoint :=
      ← Setting.field telemetry "otlp_endpoint" none (Setting.asOptional Setting.asText)
    exportTraces := ← Setting.required telemetry "export_traces" Setting.asTruth
    inspection := ← Setting.field sections "inspector" {} readInspection
    params
    mining
    allowedDomains := ← Setting.field sections "assignees" [] readAllowedDomains }

/-- Reads the text of a file, if there is a file. -/
def read : Option String → Except ConfigError Config
  | none => .error .unreadable
  | some text =>
    match Json.readData .nearest text with
    | .ok (.object members) =>
      match ofSetting (Setting.tree members) with
      | some config => .ok config
      | none => .error .invalidSetting
    | _ => .error .unreadable

/-! ### The environment -/

section

variable {m : Type → Type} [Monad m]

/-- The value of a setting: that of the variable that it names after `env:`, or itself. -/
def resolve (variableOf : String → m (Option String)) (setting : String) :
    ExceptT ConfigError m String := do
  match "env:".toList.isPrefixOf? setting.toList with
  | none => return setting
  | some name =>
    match ← variableOf (String.ofList name) with
    | some value => return value
    | none => throw (.missingVariable (String.ofList name))

/-- The configuration with the settings that variables override. -/
def override (variableOf : String → m (Option String)) (config : Config) :
    ExceptT ConfigError m Config := do
  let environment := (← variableOf "APP_ENV").getD config.environment
  let otlpEndpoint := (← variableOf "OTLP_ENDPOINT") <|> config.otlpEndpoint
  let database := (← variableOf "DATABASE_PATH").getD config.database
  let sampleSize ← match ← variableOf "TRIAGE_SAMPLE_SIZE" with
    | none => pure config.inspection.sampleSize
    | some text =>
      match Text.readCount text with
      | .ok size => pure size
      | .error why => throw (.invalidSampleSize why)
  return { config with
    environment, otlpEndpoint, database
    inspection := { config.inspection with sampleSize } }

/-- The configuration with variables in place of the settings that name them. -/
def resolveAll (variableOf : String → m (Option String)) (config : Config) :
    ExceptT ConfigError m Config := do
  let serviceName ← resolve variableOf config.serviceName
  let environment ← resolve variableOf config.environment
  let database ← resolve variableOf config.database
  let otlpEndpoint ← config.otlpEndpoint.mapM (resolve variableOf)
  let muteLabel ← resolve variableOf config.mining.muteLabel
  let allowedDomains ← config.allowedDomains.mapM (resolve variableOf)
  return { config with
    serviceName, environment, database, otlpEndpoint, allowedDomains
    mining := { config.mining with muteLabel } }

/-- A path with the home directory for a tilde that stands alone or before a slash. -/
def expandTilde (home : Option String) (path : String) : String :=
  match home, path.toList with
  | some home, ['~'] => home
  | some home, '~' :: '/' :: rest => home ++ String.ofList ('/' :: rest)
  | _, _ => path

/-- Loads a configuration from the text of its file, if there is one, and from the environment. -/
def load (variableOf : String → m (Option String)) (file : Option String) :
    ExceptT ConfigError m Config := do
  let config ← read file
  let config ← override variableOf config
  let config ← resolveAll variableOf config
  return { config with database := expandTilde (← variableOf "HOME") config.database }

end

end Config
end MailTriage
