import MailTriage.Mailbox
import MailTriage.Rule.Draft
import MailTriage.Sha256

/-! # Suggestions

A suggestion proposes a rule for what a team keeps doing by hand with the messages of one sender:
putting a label on them, muting them, or giving them to the same person.  It says how often that was
done and by how many people, and it creates nothing.  It has the same id in every report, drawn from
the kind and the sender alone (`suggestionId`).
-/
namespace MailTriage

/-- What a suggestion would do by itself from now on. -/
inductive SuggestionKind where
  | autoLabel
  | autoMute
  | autoAssign
deriving DecidableEq, Repr

/-- The name of a kind of suggestion. -/
def SuggestionKind.name : SuggestionKind → String
  | .autoLabel => "auto_label"
  | .autoMute => "auto_mute"
  | .autoAssign => "auto_assign"

/-- The kinds of suggestions in the order of a report. -/
def SuggestionKind.all : List SuggestionKind := [.autoLabel, .autoMute, .autoAssign]

/-- What tells a suggestion from all others: its kind, the address and the domain. -/
def identityText (kind : SuggestionKind) (email domain : String) : String :=
  kind.name ++ ":" ++ email ++ ":" ++ domain

/-- The id of a suggestion: the first sixteen digits of the hash of what identifies it. -/
def suggestionId (kind : SuggestionKind) (email domain : String) : String :=
  "sug_" ++ String.ofList ((Sha256.hexDigest (identityText kind email domain)).take 16)

/-- How far back the past is looked at, and how much of it makes a suggestion. -/
structure SuggestionParams where
  days : Nat := 14
  minActions : Nat := 3
  minActors : Nat := 2
deriving DecidableEq, Repr, Inhabited

/-- How suggestions are made. -/
structure MiningConfig where
  /-- How many senders are looked up at once. -/
  lookupConcurrency : Nat := 8
  /-- The label that a rule for muting puts on messages. -/
  muteLabel : String := "Muted"
  /-- Whether labels put on by hand lead to suggestions. -/
  mineLabelApplications : Bool := false
deriving DecidableEq, Repr, Inhabited

/-- The rule that a suggestion would create. -/
inductive ProposedRule where
  | label (draft : LabelDraft)
  | assignee (draft : AssigneeDraft)
deriving DecidableEq

/-- What makes a suggestion doubtful. -/
inductive SuggestionWarning where
  /-- The sender's domain is broad. -/
  | broadDomain
deriving DecidableEq, Repr

/-- A rule proposed for one sender. -/
structure Suggestion where
  id : String
  kind : SuggestionKind
  sender : Sender
  reason : String
  /-- How many actions speak for it. -/
  evidenceCount : Nat
  /-- How many people took them. -/
  actorCount : Nat
  /-- The first of these people, in order. -/
  actors : List String
  proposal : ProposedRule
  warnings : List SuggestionWarning
deriving DecidableEq

/-- What a report has to say about itself. -/
inductive MiningWarning where
  | auditLogUnavailable (why : StoreError)
  | failedLookups (count : Nat)
  | broadDomains
deriving DecidableEq, Repr

/-- A warning in words. -/
def MiningWarning.message : MiningWarning → String
  | .auditLogUnavailable why => "audit log unavailable: " ++ why.message
  | .failedLookups count =>
    Text.decimal count ++ " sender lookups failed; their audit entries were skipped"
  | .broadDomains => "some suggestions target broad sender domains; review before accepting"

/-- All suggestions for a stretch of the past. -/
structure SuggestionReport where
  suggestions : List Suggestion := []
  warnings : List MiningWarning := []
deriving DecidableEq

end MailTriage
