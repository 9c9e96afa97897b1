import MailTriage.Suggestion
import MailTriage.TextSet

/-! # Evidence

What speaks for a suggestion: the entries of the audit log that lie in the window, record an action
of the right kind and concern one sender.  From them are read off the people who acted and the
target that they chose most often.
-/
namespace MailTriage

/-- The first instant of the window that ends now; without such an instant the whole past counts. -/
def windowStart (now : Instant) (days : Nat) : Instant := (now.minusDays? days).getD .earliest

/-- The actions that speak for a kind of suggestion. -/
def SuggestionKind.actions (config : MiningConfig) : SuggestionKind → List String
  | .autoLabel => if config.mineLabelApplications then [AuditEntry.labelApply] else []
  | .autoMute => [AuditEntry.mute]
  | .autoAssign => [AuditEntry.assign, AuditEntry.takeover]

/-- The person who acted, in normal form where the text is an address. -/
def AuditEntry.actorKey (entry : AuditEntry) : String :=
  (normalizeEmail entry.actor).getD (Text.lower (Text.trim entry.actor))

/-- The person a message was given to: the one that the metadata name, or whoever took it over. -/
def AuditEntry.assignee? (entry : AuditEntry) : Option String :=
  ((entry.metadataText? ["assigneeEmail", "assignee_email"]).bind normalizeEmail)
    <|> (if entry.action = AuditEntry.takeover then normalizeEmail entry.actor else none)

/-- What an action was aimed at: a label or a person. -/
def SuggestionKind.target? (entry : AuditEntry) : SuggestionKind → Option String
  | .autoLabel => entry.label
  | .autoMute => none
  | .autoAssign => entry.assignee?

/-- Whether an enabled rule does for a sender what a suggestion of this kind would. -/
def SuggestionKind.isCovered (rules : RuleSet) (sender : Sender) : SuggestionKind → Bool
  | .autoLabel | .autoMute => rules.labelRules.any (·.applies sender)
  | .autoAssign => rules.assigneeRules.any (·.applies sender)

/-- The better of a text with its count and a further text: the one that occurs more often, and the
former of two that occur equally often. -/
def moreFrequent (texts : List String) (best : Option (String × Nat)) (text : String) :
    Option (String × Nat) :=
  match best with
  | some (former, count) =>
    if texts.count text ≤ count then some (former, count) else some (text, texts.count text)
  | none => some (text, texts.count text)

/-- The text that occurs most often in a list, the smallest of several, with its count. -/
def mostFrequent? (texts : List String) : Option (String × Nat) :=
  (TextSet.ofList texts).toList.foldl (moreFrequent texts) none

/-- The entries that speak for a suggestion for one sender. -/
structure Evidence where
  sender : Sender
  entries : List AuditEntry

namespace Evidence

/-- How many actions there were. -/
def count (evidence : Evidence) : Nat := evidence.entries.length

/-- Who took them. -/
def actors (evidence : Evidence) : TextSet := .ofList (evidence.entries.map (·.actorKey))

/-- What they were aimed at most often, with how often that was. -/
def topTarget? (kind : SuggestionKind) (evidence : Evidence) : Option (String × Nat) :=
  mostFrequent? (evidence.entries.filterMap kind.target?)

/-- Whether there were enough actions by enough people. -/
def isEnough (params : SuggestionParams) (evidence : Evidence) : Bool :=
  params.minActions ≤ evidence.count && params.minActors ≤ evidence.actors.size

/-- The evidence for each sender, by ascending addresses, where `senderOf` tells the sender of a
message. -/
def collect (senderOf : String → Option Sender) (entries : List AuditEntry) : List Evidence :=
  let senders := entries.filterMap fun entry => senderOf entry.messageId
  (TextSet.ofList (senders.map (·.email))).toList.filterMap fun email =>
    (senders.find? (·.email == email)).map fun sender =>
      { sender
        entries := entries.filter fun entry =>
          (senderOf entry.messageId).any (·.email == email) }

end Evidence
end MailTriage
