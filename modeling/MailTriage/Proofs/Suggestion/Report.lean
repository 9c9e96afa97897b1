import MailTriage.Proofs.Suggestion.Mining

/-! # What a report is made of

A report needs two things from the lookups of senders: which sender each message has, and how many
messages of each kind of suggestion had no answer.  Neither depends on the order in which the lookups
complete, so the report can be said without them (`report_mineLog_eq`): it has the suggestions that
the entries of the window lead to with the senders that the mailbox knows (`suggestionsFrom`), and
the number of failed lookups that the messages of these entries make (`failedLookups`).
-/
namespace MailTriage

-- Sums start from the zero of the numbers themselves, also where every monoid has its own.
attribute [local instance (10001)] Zero.ofOfNat0

/-! ### The entries and messages that count -/

/-- The entries of the window that speak for a kind of suggestion. -/
def minedEntries (config : MiningConfig) (since : Instant) (entries : List AuditEntry)
    (kind : SuggestionKind) : List AuditEntry :=
  relevantEntries config kind (entries.filter fun entry => since ≤ entry.timestamp)

/-- The messages of some entries. -/
def messagesOf (entries : List AuditEntry) : TextSet := .ofList (entries.map (·.messageId))

/-- Whether the lookup of a message's sender has no answer. -/
def Mailbox.fails (mailbox : Mailbox) (messageId : String) : Bool :=
  match mailbox.senderOf messageId with
  | .error _ => true
  | .ok _ => false

/-- How many lookups fail: for each kind of suggestion, the messages of its entries without an
answer. -/
def failedLookups (mailbox : Mailbox) (config : MiningConfig) (since : Instant)
    (entries : List AuditEntry) : Nat :=
  (SuggestionKind.all.map fun kind => (messagesOf ((minedEntries config since entries kind).filter
    fun entry => mailbox.fails entry.messageId)).size).sum

/-- The suggestions that entries lead to with the senders that a mailbox knows. -/
def suggestionsFrom (mailbox : Mailbox) (config : MiningConfig) (params : SuggestionParams)
    (rules : RuleSet) (since : Instant) (entries : List AuditEntry) : List Suggestion :=
  SuggestionKind.all.flatMap fun kind => suggestionsFor config params rules kind
    mailbox.knownSender? (minedEntries config since entries kind)

/-- The report on some suggestions and a number of failed lookups. -/
def SuggestionReport.ofSuggestions (suggestions : List Suggestion) (failed : Nat) :
    SuggestionReport where
  suggestions := suggestions
  warnings := (if 0 < failed then [.failedLookups failed] else [])
    ++ if suggestions.any (·.warnings.contains .broadDomain) then [.broadDomains] else []

section
variable {config : MiningConfig} {since : Instant} {entries : List AuditEntry}
  {kind : SuggestionKind}

theorem mem_minedEntries {entry : AuditEntry} :
    entry ∈ minedEntries config since entries kind
      ↔ entry ∈ entries ∧ since ≤ entry.timestamp ∧ entry.action ∈ kind.actions config := by
  rw [minedEntries, relevantEntries, List.mem_filter, List.mem_filter, List.contains_iff_mem,
    decide_eq_true_eq, and_assoc]

/-- Entries may be left out before or after the window is looked at. -/
theorem minedEntries_filter (p : AuditEntry → Bool) :
    minedEntries config since (entries.filter p) kind
      = (minedEntries config since entries kind).filter p := by
  rw [minedEntries, minedEntries, relevantEntries, relevantEntries]
  simp only [List.filter_filter]
  refine List.filter_congr fun entry _ => ?_
  rw [← Bool.and_assoc]
  exact Bool.and_comm _ _

theorem mem_messagesOf {messageId : String} :
    messageId ∈ messagesOf entries ↔ ∃ entry ∈ entries, entry.messageId = messageId := by
  rw [messagesOf, TextSet.mem_ofList, List.mem_map]

theorem TextSet.nodup_toList (s : TextSet) : s.toList.Nodup := by
  refine s.increasing.imp fun {x y} hlt heq => ?_
  rw [heq] at hlt
  exact String.lt_irrefl y hlt

/-- The messages of the entries that are about certain messages. -/
theorem toList_messagesOf_filter (p : String → Bool) :
    (messagesOf (entries.filter fun entry => p entry.messageId)).toList
      = (messagesOf entries).toList.filter p := by
  have hset : messagesOf (entries.filter fun entry => p entry.messageId)
      = ⟨(messagesOf entries).toList.filter p, (messagesOf entries).increasing.filter p⟩ := by
    refine TextSet.ext fun messageId => ?_
    rw [mem_messagesOf, TextSet.mem_def, List.mem_filter, ← TextSet.mem_def, mem_messagesOf]
    constructor
    · rintro ⟨entry, hentry, rfl⟩
      obtain ⟨hmem, hp⟩ := List.mem_filter.mp hentry
      exact ⟨⟨entry, hmem, rfl⟩, hp⟩
    · rintro ⟨⟨entry, hmem, rfl⟩, hp⟩
      exact ⟨entry, List.mem_filter.mpr ⟨hmem, hp⟩, rfl⟩
  rw [hset]

end

/-! ### Lookups that fail -/

section
variable {mailbox : Mailbox} {messageId : String}

theorem Mailbox.fails_eq_false_iff :
    mailbox.fails messageId = false ↔ ∃ sender?, mailbox.senderOf messageId = .ok sender? := by
  rw [fails]
  cases mailbox.senderOf messageId <;> simp

/-- A message whose lookup fails has no known sender. -/
theorem Mailbox.knownSender?_of_fails (h : mailbox.fails messageId = true) :
    mailbox.knownSender? messageId = none := by
  rw [fails] at h
  rw [knownSender?]
  split at h
  · next hwhy => rw [hwhy]
  · cases h

/-- A known sender is named by its address. -/
theorem Mailbox.parse?_email_of_knownSender? {s : Sender}
    (h : mailbox.knownSender? messageId = some s) : Sender.parse? s.email = some s := by
  obtain ⟨text, -, hparse⟩ := knownSender?_eq_some_iff.mp h
  exact Sender.parse?_email hparse

/-- Of some lookups as many fail as there are messages without an answer. -/
theorem SenderLookup.failures_eq (messageIds : List String) :
    failures (all mailbox messageIds) = (messageIds.filter mailbox.fails).length := by
  induction messageIds with
  | nil => rfl
  | cons messageId rest ih =>
    rw [failures, all, List.map_cons, List.filterMap_cons, List.filter_cons, failure?,
      Mailbox.fails]
    cases mailbox.senderOf messageId with
    | error why => exact congrArg (· + 1) ih
    | ok sender? => exact ih

theorem failures_mineKind (config : MiningConfig) (params : SuggestionParams) (rules : RuleSet)
    (inWindow : List AuditEntry) (choose : Nat → Nat) (kind : SuggestionKind) :
    SenderLookup.failures (mineKind mailbox config params rules inWindow choose kind).lookups
      = (messagesOf ((relevantEntries config kind inWindow).filter
        fun entry => mailbox.fails entry.messageId)).size := by
  have hperm := completionOrder_perm config.lookupConcurrency choose
    (messagesOf (relevantEntries config kind inWindow)).toList
  rw [TextSet.size, toList_messagesOf_filter, ← (hperm.filter mailbox.fails).length_eq]
  exact SenderLookup.failures_eq _

/-- No lookup fails where all messages have an answer. -/
theorem failedLookups_of_answered {config : MiningConfig} {since : Instant}
    {entries : List AuditEntry}
    (h : ∀ entry ∈ entries, mailbox.fails entry.messageId = false) :
    failedLookups mailbox config since entries = 0 := by
  rw [failedLookups, List.sum_eq_zero_iff_forall_eq_nat, List.forall_mem_map]
  intro kind _
  have hnil : (minedEntries config since entries kind).filter
      (fun entry => mailbox.fails entry.messageId) = [] :=
    List.filter_eq_nil_iff.mpr fun entry hentry => by
      rw [h entry (mem_minedEntries.mp hentry).1]
      exact Bool.false_ne_true
  rw [hnil]
  rfl

end

/-! ### The report -/

section
variable {log : AuditLog} {mailbox : Mailbox} {config : MiningConfig} {now : Instant}
  {params : SuggestionParams} {rules : RuleSet} {entries : List AuditEntry}

/-- Mining sees the senders that the mailbox knows. -/
theorem suggestions_mineKind (inWindow : List AuditEntry) (choose : Nat → Nat)
    (kind : SuggestionKind) :
    (mineKind mailbox config params rules inWindow choose kind).suggestions
      = suggestionsFor config params rules kind mailbox.knownSender?
        (relevantEntries config kind inWindow) := by
  have hcollect : Evidence.collect
      (minedSender mailbox config choose (relevantEntries config kind inWindow))
      (relevantEntries config kind inWindow)
      = Evidence.collect mailbox.knownSender? (relevantEntries config kind inWindow) :=
    Evidence.collect_congr fun entry hentry => minedSender_eq choose hentry
  rw [suggestionsFor, ← hcollect]
  rfl

/-- **What a report is made of**, in whichever order the lookups complete. -/
theorem report_mineLog_eq (choose : SuggestionKind → Nat → Nat)
    (hlog : log.entriesSince (windowStart now params.days) = .ok entries) :
    MiningOutcome.report (mineLog log mailbox config now params rules choose)
      = .ofSuggestions
        (suggestionsFrom mailbox config params rules (windowStart now params.days) entries)
        (failedLookups mailbox config (windowStart now params.days) entries) := by
  rw [mineLog_eq_ok choose hlog, MiningOutcome.report, SuggestionReport.ofMined]
  simp only [List.flatMap_map, List.map_map, Function.comp_def, suggestions_mineKind,
    failures_mineKind]
  rfl

/-- An audit log that cannot be read leaves a warning and nothing else. -/
theorem report_mineLog_eq_unavailable (choose : SuggestionKind → Nat → Nat) {why : StoreError}
    (hlog : log.entriesSince (windowStart now params.days) = .error why) :
    MiningOutcome.report (mineLog log mailbox config now params rules choose)
      = { warnings := [.auditLogUnavailable why] } := by
  rw [mineLog_eq_error choose hlog, MiningOutcome.report]

/-- A report has suggestions only where the audit log can be read. -/
theorem mem_suggestions_report {suggestion : Suggestion} (choose : SuggestionKind → Nat → Nat)
    (h : suggestion ∈
      (MiningOutcome.report (mineLog log mailbox config now params rules choose)).suggestions) :
    ∃ entries, log.entriesSince (windowStart now params.days) = .ok entries
      ∧ suggestion ∈ suggestionsFrom mailbox config params rules (windowStart now params.days)
        entries := by
  cases hlog : log.entriesSince (windowStart now params.days) with
  | error why =>
    rw [report_mineLog_eq_unavailable choose hlog] at h
    cases h
  | ok entries =>
    rw [report_mineLog_eq choose hlog] at h
    exact ⟨entries, rfl, h⟩

end

/-! ### The suggestions -/

section
variable {mailbox : Mailbox} {config : MiningConfig} {params : SuggestionParams} {rules : RuleSet}
  {since : Instant} {entries : List AuditEntry} {suggestion : Suggestion}

theorem mem_suggestionsFrom :
    suggestion ∈ suggestionsFrom mailbox config params rules since entries
      ↔ suggestion ∈ suggestionsFor config params rules suggestion.kind mailbox.knownSender?
        (minedEntries config since entries suggestion.kind) := by
  rw [suggestionsFrom, List.mem_flatMap]
  constructor
  · rintro ⟨kind, -, hmem⟩
    rwa [kind_of_mem_suggestionsFor hmem]
  · exact fun hmem => ⟨suggestion.kind, suggestion.kind.mem_all, hmem⟩

theorem presents_of_mem_suggestionsFrom
    (h : suggestion ∈ suggestionsFrom mailbox config params rules since entries) :
    suggestion.Presents config
      (evidenceFor mailbox config since entries suggestion.kind suggestion.sender.email) := by
  rw [← entriesFrom_relevantEntries]
  exact presents_of_mem_suggestionsFor (fun _ _ => Mailbox.parse?_email_of_knownSender?)
    (mem_suggestionsFrom.mp h)

/-- There is a suggestion exactly for what the evidence warrants. -/
theorem exists_mem_suggestionsFrom_iff {kind : SuggestionKind} {email : String} :
    (∃ suggestion ∈ suggestionsFrom mailbox config params rules since entries,
        suggestion.kind = kind ∧ suggestion.sender.email = email)
      ↔ kind.IsWarranted params rules email
        (evidenceFor mailbox config since entries kind email) := by
  rw [← entriesFrom_relevantEntries,
    ← exists_mem_suggestionsFor_iff fun _ _ => Mailbox.parse?_email_of_knownSender?]
  constructor
  · rintro ⟨suggestion, hmem, rfl, hemail⟩
    exact ⟨suggestion, mem_suggestionsFrom.mp hmem, hemail⟩
  · rintro ⟨suggestion, hmem, hemail⟩
    obtain rfl := kind_of_mem_suggestionsFor hmem
    exact ⟨suggestion, mem_suggestionsFrom.mpr hmem, rfl, hemail⟩

end

/-- A mailbox that has all messages from one sender, and has lost some of them. -/
def newsMailbox (lost : List String) : Mailbox where
  sample _ _ := .ok []
  senderOf messageId :=
    if messageId ∈ lost then .error (.unavailable (.lookup messageId))
    else .ok (some "News <news@shop.io>")

/-- One person who mutes one message of the sender warrants a suggestion, if one is enough. -/
theorem isWarranted_muted :
    SuggestionKind.autoMute.IsWarranted { days := 14, minActions := 1, minActors := 1 } {}
      "news@shop.io" (evidenceFor (newsMailbox []) {} (windowStart .epoch 14)
        [mutedBy "ann@desk.io" "1"] .autoMute "news@shop.io") where
  nonempty := by decide
  enoughActions := by decide
  enoughActors := by decide
  unmatched := fun _ _ ⟨_, hmem, _⟩ => nomatch hmem
  target := fun h => absurd rfl h

end MailTriage
