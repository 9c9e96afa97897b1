import MailTriage.Suggestion.Evidence
import MailTriage.Suggestion.Lookup

/-! # Mining the audit log

Each kind of suggestion is mined by itself: the entries that record its actions, the senders of
their messages, the evidence for each sender, and of that what no enabled rule covers and what is
enough.  A lookup that fails leaves its messages out; an audit log that cannot be read leaves the
whole report empty.
-/
namespace MailTriage

-- Sums start from the zero of the numbers themselves, also where every monoid has its own.
attribute [local instance (10001)] Zero.ofOfNat0

/-- How many people a suggestion lists at most. -/
def maxListedActors : Nat := 5

/-- What is said for a suggestion, and the rule it proposes; nothing when the actions have no target
that a rule of this kind needs. -/
def Evidence.proposal? (config : MiningConfig) (days : Nat) (kind : SuggestionKind)
    (evidence : Evidence) : Option (String × ProposedRule) :=
  let condition : Condition := { email := some evidence.sender.email }
  let extent := Text.decimal evidence.count ++ " times by " ++ Text.decimal evidence.actors.size
    ++ " people in the last " ++ Text.decimal days ++ " days"
  let labelling (label : String) : ProposedRule :=
    .label { condition, labels := .singleton label, assignTo := none, enabled := true }
  match kind with
  | .autoLabel =>
    (evidence.topTarget? kind).map fun (label, _) =>
      ("label " ++ label ++ " applied " ++ extent, labelling label)
  | .autoMute => some ("muted " ++ extent, labelling config.muteLabel)
  | .autoAssign =>
    (evidence.topTarget? kind).map fun (assignee, handled) =>
      ("assigned " ++ extent ++ "; " ++ assignee ++ " took " ++ Text.decimal handled ++ " of them",
        .assignee
          { enabled := true, priority := 0, condition, assigneeEmail := assignee
            broadDomainConfirmed := false })

/-- The suggestion that some evidence leads to. -/
def Evidence.suggestion? (config : MiningConfig) (days : Nat) (kind : SuggestionKind)
    (evidence : Evidence) : Option Suggestion :=
  (evidence.proposal? config days kind).map fun (reason, proposal) =>
    { id := suggestionId kind evidence.sender.email evidence.sender.domain
      kind
      sender := evidence.sender
      reason
      evidenceCount := evidence.count
      actorCount := evidence.actors.size
      actors := evidence.actors.toList.take maxListedActors
      proposal
      warnings := if isBroadDomain evidence.sender.domain then [.broadDomain] else [] }

/-- Whether one suggestion is reported before or with another: the one with more evidence, then the
one with the smaller address. -/
def Suggestion.reportedBefore (a b : Suggestion) : Bool :=
  if a.evidenceCount ≠ b.evidenceCount then b.evidenceCount < a.evidenceCount
  else a.sender.email ≤ b.sender.email

/-- The suggestions of one kind, given the entries that count and the senders of their messages. -/
def suggestionsFor (config : MiningConfig) (params : SuggestionParams) (rules : RuleSet)
    (kind : SuggestionKind) (senderOf : String → Option Sender) (entries : List AuditEntry) :
    List Suggestion :=
  let evidence := (Evidence.collect senderOf entries).filter fun evidence =>
    !kind.isCovered rules evidence.sender && evidence.isEnough params
  (evidence.filterMap (·.suggestion? config params.days kind)).mergeSort Suggestion.reportedBefore

/-- What mining for one kind of suggestion came to, and the lookups that were made for it. -/
structure MinedKind where
  kind : SuggestionKind
  suggestions : List Suggestion
  lookups : List SenderLookup

/-- The entries that speak for a kind of suggestion. -/
def relevantEntries (config : MiningConfig) (kind : SuggestionKind) (entries : List AuditEntry) :
    List AuditEntry :=
  entries.filter fun entry => (kind.actions config).contains entry.action

/-- Mines the entries of the window for one kind of suggestion; `choose` says which of the lookups
in flight completes next. -/
def mineKind (mailbox : Mailbox) (config : MiningConfig) (params : SuggestionParams)
    (rules : RuleSet) (entries : List AuditEntry) (choose : Nat → Nat) (kind : SuggestionKind) :
    MinedKind :=
  let relevant := relevantEntries config kind entries
  let messageIds := TextSet.ofList (relevant.map (·.messageId))
  let lookups :=
    SenderLookup.all mailbox (completionOrder config.lookupConcurrency choose messageIds.toList)
  { kind, lookups
    suggestions := suggestionsFor config params rules kind (SenderLookup.find? lookups) relevant }

/-- The report on all kinds of suggestions. -/
def SuggestionReport.ofMined (mined : List MinedKind) : SuggestionReport :=
  let suggestions := mined.flatMap (·.suggestions)
  let failed := (mined.map fun m => SenderLookup.failures m.lookups).sum
  let failedLookups := if 0 < failed then [MiningWarning.failedLookups failed] else []
  let anyBroad := suggestions.any (·.warnings.contains .broadDomain)
  let broad := if anyBroad then [MiningWarning.broadDomains] else []
  { suggestions, warnings := failedLookups ++ broad }

/-- What mining came to: for each kind of suggestion, unless the audit log could not be read. -/
abbrev MiningOutcome := Except StoreError (List MinedKind)

/-- The report on an outcome. -/
def MiningOutcome.report : MiningOutcome → SuggestionReport
  | .error why => { warnings := [.auditLogUnavailable why] }
  | .ok mined => .ofMined mined

/-- Mines the audit log for every kind of suggestion; `choose` says for each kind which of its
lookups in flight completes next. -/
def mineLog (log : AuditLog) (mailbox : Mailbox) (config : MiningConfig) (now : Instant)
    (params : SuggestionParams) (rules : RuleSet) (choose : SuggestionKind → Nat → Nat) :
    MiningOutcome := do
  let since := windowStart now params.days
  let entries ← log.entriesSince since
  let inWindow := entries.filter fun entry => since ≤ entry.timestamp
  return SuggestionKind.all.map fun kind =>
    mineKind mailbox config params rules inWindow (choose kind) kind

/-- The suggestions that the audit log leads to, with lookups completing in the order in which they
start. -/
def suggestRules (log : AuditLog) (mailbox : Mailbox) (config : MiningConfig) (now : Instant)
    (params : SuggestionParams) (rules : RuleSet) : SuggestionReport :=
  MiningOutcome.report (mineLog log mailbox config now params rules fun _ _ => 0)

end MailTriage
