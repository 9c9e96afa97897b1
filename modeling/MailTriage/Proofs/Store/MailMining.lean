import MailTriage.Proofs.Store.MailHistory
import MailTriage.Proofs.Suggestion.Parameters

/-! # Mining a store and mining in memory

A store keeps less of a history than a list in memory does: times up to the milliseconds, texts up to
their first null characters, and senders in normal form.  Mining a store gives what mining the kept
entries and messages in memory gives (`MailHistory.mined_eq_kept`).  Against the whole history in
memory one thing is left that can make a difference when all texts are kept: the window starts at an
instant that is not cut off, so an entry within its first millisecond is before the window once its
time is cut off.  The reports agree exactly if no such entry counts (`Store.mines_as_memory`).
-/
namespace MailTriage

/-! ### Reports -/

/-- The report on the mail in a store. -/
def Tables.mined (tables : Tables) (config : MiningConfig) (now : Instant)
    (params : SuggestionParams) (rules : RuleSet) (choose : SuggestionKind → Nat → Nat) :
    SuggestionReport :=
  MiningOutcome.report (mineLog tables.toAuditLog tables.toMailbox config now params rules choose)

/-- A mailbox in memory with some messages. -/
def mailboxOf (messages : List Message) : Mailbox := MemoryMailbox.toMailbox { messages }

/-- The report on entries and messages in memory. -/
def minedInMemory (entries : List AuditEntry) (messages : List Message) (config : MiningConfig)
    (now : Instant) (params : SuggestionParams) (rules : RuleSet)
    (choose : SuggestionKind → Nat → Nat) : SuggestionReport :=
  MiningOutcome.report
    (mineLog (MemoryAuditLog.toAuditLog { entries }) (mailboxOf messages) config now params rules
      choose)

theorem senderOf_mailboxOf (messages : List Message) (id : String) :
    (mailboxOf messages).senderOf id
      = .ok ((messages.find? fun message => message.id == id).bind (·.sender)) := by
  show MemoryMailbox.senderOf { messages } id = _
  rw [MemoryMailbox.senderOf, if_neg List.not_mem_nil]

theorem answersAll_mailboxOf (messages : List Message) : (mailboxOf messages).AnswersAll :=
  fun id => ⟨_, senderOf_mailboxOf messages id⟩

/-- In memory the audit log is always available. -/
theorem minedInMemory_ne_unavailable (entries : List AuditEntry) (messages : List Message)
    (config : MiningConfig) (now : Instant) (params : SuggestionParams) (rules : RuleSet)
    (choose : SuggestionKind → Nat → Nat) (why : StoreError) :
    minedInMemory entries messages config now params rules choose
      ≠ { warnings := [.auditLogUnavailable why] } := by
  intro hunavailable
  have hwarnings : (minedInMemory entries messages config now params rules choose).warnings
      = if (minedInMemory entries messages config now params rules choose).suggestions.any
          (·.warnings.contains .broadDomain) then [.broadDomains]
        else [] := warnings_mineLog choose rfl (answersAll_mailboxOf messages)
  rw [hunavailable] at hwarnings
  simp at hwarnings

theorem evidenceFor_congr {mailbox mailbox' : Mailbox} {config : MiningConfig} {since : Instant}
    (h : ∀ id, mailbox.knownSender? id = mailbox'.knownSender? id) (entries : List AuditEntry)
    (kind : SuggestionKind) (email : String) :
    evidenceFor mailbox config since entries kind email
      = evidenceFor mailbox' config since entries kind email := by
  simp only [evidenceFor, h]

theorem length_evidenceFor_le (mailbox : Mailbox) (config : MiningConfig) (since : Instant)
    (entries : List AuditEntry) (kind : SuggestionKind) (email : String) :
    (evidenceFor mailbox config since entries kind email).length
      ≤ (entries.filter fun entry => since ≤ entry.timestamp).length := by
  rw [evidenceFor]
  refine (List.monotone_filter_right entries fun entry hcounts => ?_).length_le
  exact (Bool.and_eq_true_iff.mp hcounts).1

/-! ### What is kept of a history -/

namespace MailHistory

/-- The entries of a history. -/
def entries (history : MailHistory) : List AuditEntry := history.recorded.map (·.2)

/-- The messages of a history. -/
def messages (history : MailHistory) : List Message := history.received.map (·.2.message)

/-- All entries since an instant can be read back. -/
def IsReadableSince (history : MailHistory) (since : Instant) : Prop :=
  ∀ entry ∈ history.entries, entry.IsListed since → entry.IsReadable

variable {history : MailHistory} {config : MiningConfig} {now : Instant}
  {params : SuggestionParams} {rules : RuleSet}

theorem senderOf_tables (history : MailHistory) :
    history.tables.toMailbox.senderOf
      = (mailboxOf (history.messages.map (·.kept))).senderOf := by
  rw [history.holdMail.senderOf, messages, List.map_map]
  rfl

theorem mem_entries {entry : AuditEntry} :
    entry ∈ history.entries ↔ ∃ record ∈ history.recorded, record.2 = entry := List.mem_map

/-- **Mining a store is mining what it keeps.** -/
theorem mined_eq_kept (hnow : now.InFourDigitYear)
    (hreadable : history.IsReadableSince (windowStart now params.days))
    (choose choose' : SuggestionKind → Nat → Nat) :
    history.tables.mined config now params rules choose
      = minedInMemory (history.entries.map (·.kept)) (history.messages.map (·.kept)) config now
        params rules choose' := by
  obtain ⟨listed, hlisted, hperm⟩ := history.holdMail.exists_entriesSince history.inFourDigitYear
    (windowStart_le now params.days) hnow
    fun record hrecord => hreadable record.2 (List.mem_map_of_mem hrecord)
  have hanswers : history.tables.toMailbox.AnswersAll := fun id => by
    rw [history.senderOf_tables]
    exact answersAll_mailboxOf _ id
  have hknown : ∀ id, history.tables.toMailbox.knownSender? id
      = (mailboxOf (history.messages.map (·.kept))).knownSender? id := fun id => by
    rw [Mailbox.knownSender?, Mailbox.knownSender?, history.senderOf_tables]
  refine report_mineLog_congr choose choose' hlisted rfl hanswers (answersAll_mailboxOf _)
    fun kind email => .inl (List.Perm.map _ ?_)
  rw [evidenceFor_congr hknown]
  refine (hperm.filter _).trans (List.Perm.of_eq ?_)
  -- what the listing leaves out is outside the window, too
  rw [evidenceFor, entries, List.map_map, List.filter_map, List.filter_map, List.filter_filter]
  refine congrArg _ (List.filter_congr fun record _ => ?_)
  refine Bool.and_eq_left_iff_imp.mpr fun hcounts => decide_eq_true ?_
  rw [Function.comp, Bool.and_eq_true, decide_eq_true_eq] at hcounts
  exact Instant.le_trans (Instant.truncateToMillis_le _) hcounts.1

/-- A listing that fails leaves nothing but a warning. -/
theorem exists_mined_eq_unavailable (hnow : now.InFourDigitYear) {days : Nat}
    (hunreadable : ¬ history.IsReadableSince (windowStart now days)) :
    ∃ why, ∀ (params : SuggestionParams) rules choose, params.days = days →
      history.tables.mined config now params rules choose
        = { warnings := [.auditLogUnavailable (.json why)] } := by
  obtain ⟨why, hwhy⟩ := history.holdMail.exists_entriesSince_eq_error history.inFourDigitYear
    (windowStart_le now days) hnow fun hreadable => hunreadable fun entry hentry => by
      obtain ⟨record, hrecord, rfl⟩ := mem_entries.mp hentry
      exact hreadable record hrecord
  refine ⟨why, fun params rules choose hdays => ?_⟩
  have hlog : history.tables.toAuditLog.entriesSince (windowStart now days) = .error (.json why) :=
    hwhy
  rw [Tables.mined, mineLog, hdays, hlog]
  rfl

end MailHistory

/-! ### Histories whose texts are kept -/

/-- The sender of a message is read back as it is stored. -/
def Message.KeepsSender (message : Message) : Prop :=
  ∀ email ∈ message.sender.bind normalizeEmail, '\x00' ∉ email.toList

/-- All texts of a history are read back as they are stored. -/
structure MailHistory.KeepsTexts (history : MailHistory) : Prop where
  entries : ∀ entry ∈ history.entries, entry.KeepsTexts
  senders : ∀ message ∈ history.messages, message.KeepsSender

/-- A message whose sender is kept has the same sender for mining. -/
theorem Message.KeepsSender.bind_parse? {message : Message} (h : message.KeepsSender) :
    message.kept.sender.bind Sender.parse? = message.sender.bind Sender.parse? := by
  rw [show message.kept.sender = message.sender.bind normalizeEmail from
      map_readBack_eq_self_iff.mpr h,
    Option.bind_assoc]
  simp only [Sender.bind_normalizeEmail]

theorem knownSender?_mailboxOf (messages : List Message) (id : String) :
    (mailboxOf messages).knownSender? id
      = (messages.find? fun message => message.id == id).bind fun message =>
        message.sender.bind Sender.parse? := by
  rw [Mailbox.knownSender?, senderOf_mailboxOf]
  cases messages.find? fun message => message.id == id with
  | none => rfl
  | some message =>
    rw [Option.bind_some, Option.bind_some]
    cases message.sender with
    | none => rfl
    | some text => rw [Option.bind_some]

/-- Mining knows the same senders of messages and of what is kept of them. -/
theorem knownSender?_mailboxOf_kept {messages : List Message}
    (h : ∀ message ∈ messages, message.KeepsSender) (id : String) :
    (mailboxOf (messages.map (·.kept))).knownSender? id = (mailboxOf messages).knownSender? id := by
  have hids : ((fun message : Message => message.id == id) ∘ fun message : Message => message.kept)
      = fun message => message.id == id := rfl
  rw [knownSender?_mailboxOf, knownSender?_mailboxOf, List.find?_map, hids]
  cases hfound : messages.find? fun message => message.id == id with
  | none => rfl
  | some message => exact (h message (List.mem_of_find?_eq_some hfound)).bind_parse?

/-- Settling the metadata of an entry changes none of the texts in them. -/
theorem AuditEntry.metadataText?_settled (entry : AuditEntry) (names : List String) :
    { entry with metadata := entry.metadata.map (Json.settledBy .quick) }.metadataText? names
      = entry.metadataText? names := by
  rw [metadataText?, metadataText?]
  cases entry.metadata with
  | none => rfl
  | some json =>
    cases json with
    | object members =>
      simp only [Option.map_some, Json.settledBy, Json.get?_settled]
      refine congrArg (fun text? => names.findSome? text?) (funext fun name => ?_)
      cases Json.get? name members with
      | none => rfl
      | some value =>
        cases value with
        | integer n =>
          rw [Option.map_some, Json.settledBy]
          rcases Json.settledInteger_cases n with h | ⟨x, h⟩ | h <;> rw [h]
        | null | bool _ | real _ | text _ | broken | array _ | object _ => rfl
    | integer n =>
      rw [Option.map_some, Json.settledBy]
      rcases Json.settledInteger_cases n with h | ⟨x, h⟩ | h <;> rw [h]
    | null | bool _ | real _ | text _ | broken | array _ => rfl

/-- Neither does it matter which numbers are in the metadata. -/
theorem AuditEntry.metadataText?_wording (entry : AuditEntry) (names : List String) :
    { entry with metadata := entry.metadata.map Json.wording }.metadataText? names
      = entry.metadataText? names := by
  rw [metadataText?, metadataText?]
  cases entry.metadata with
  | none => rfl
  | some json =>
    cases json with
    | object members =>
      simp only [Option.map_some, Json.wording, Json.get?_wordingMembers]
      refine congrArg (fun text? => names.findSome? text?) (funext fun name => ?_)
      cases Json.get? name members with
      | none => rfl
      | some value => cases value <;> rfl
    | null | bool _ | integer _ | real _ | text _ | broken | array _ => rfl

/-- The texts in metadata that can be read are kept. -/
theorem AuditEntry.metadataText?_kept {entry : AuditEntry} (h : entry.IsReadable)
    (names : List String) : entry.kept.metadataText? names = entry.metadataText? names := by
  obtain ⟨metadata, hmetadata⟩ := h
  obtain ⟨forms, hwording, rfl⟩ := metadataBack_eq_ok hmetadata
  have hkept : entry.kept.metadata = forms.map (Json.settledBy .quick) := by
    rw [kept, hmetadata]
    rfl
  calc entry.kept.metadataText? names
      = { entry with metadata := forms.map (Json.settledBy .quick) }.metadataText? names := by
        rw [metadataText?, metadataText?, hkept]
    _ = { entry with metadata := forms }.metadataText? names :=
        metadataText?_settled { entry with metadata := forms } names
    _ = { entry with metadata := forms.map Json.wording }.metadataText? names :=
        (metadataText?_wording { entry with metadata := forms } names).symm
    _ = { entry with metadata := entry.metadata.map Json.wording }.metadataText? names := by
        rw [hwording]
    _ = entry.metadataText? names := entry.metadataText?_wording names

theorem AuditEntry.KeepsTexts.view_kept {entry : AuditEntry} (h : entry.KeepsTexts)
    (hreadable : entry.IsReadable) (kind : SuggestionKind) :
    kind.view entry.kept = kind.view entry := by
  have hactor : entry.kept.actor = entry.actor := readBack_of_not_mem h.actor
  have haction : entry.kept.action = entry.action := readBack_of_not_mem h.action
  have hlabel : entry.kept.label = entry.label := map_readBack_eq_self_iff.mpr h.label
  have hkey : entry.kept.actorKey = entry.actorKey := by rw [actorKey, actorKey, hactor]
  have hassignee : entry.kept.assignee? = entry.assignee? := by
    rw [assignee?, assignee?, metadataText?_kept hreadable, haction, hactor]
  have htarget : kind.target? entry.kept = kind.target? entry := by
    cases kind with
    | autoLabel => simp only [SuggestionKind.target?, hlabel]
    | autoMute => simp only [SuggestionKind.target?]
    | autoAssign => simp only [SuggestionKind.target?, hassignee]
  rw [SuggestionKind.view, SuggestionKind.view, hkey, htarget]

/-! ### What the cut of the times costs -/

namespace MailHistory

/-- The entries of a history that speak for a suggestion. -/
def evidence (history : MailHistory) (config : MiningConfig) (since : Instant)
    (kind : SuggestionKind) (email : String) : List AuditEntry :=
  evidenceFor (mailboxOf history.messages) config since history.entries kind email

/-- No entry that counts for a suggestion is before the window once its time is cut off. -/
def MissesNothing (history : MailHistory) (config : MiningConfig) (since : Instant) : Prop :=
  ∀ (kind : SuggestionKind) email, kind.IsIdle (history.evidence config since kind email)
    ∨ ∀ entry ∈ history.evidence config since kind email,
      since ≤ entry.timestamp.truncateToMillis

variable {history : MailHistory} {config : MiningConfig} {now since : Instant}
  {params : SuggestionParams} {rules : RuleSet}

theorem mem_entries_of_mem_evidence {kind : SuggestionKind} {email : String} {entry : AuditEntry}
    (h : entry ∈ history.evidence config since kind email) : entry ∈ history.entries :=
  (mem_evidenceFor.mp h).1

/-- What is kept of the evidence: the entries whose times, cut off, are in the window. -/
theorem evidenceFor_kept (h : history.KeepsTexts) (kind : SuggestionKind) (email : String) :
    evidenceFor (mailboxOf (history.messages.map (·.kept))) config since
        (history.entries.map (·.kept)) kind email
      = ((history.evidence config since kind email).filter fun entry =>
        since ≤ entry.timestamp.truncateToMillis).map (·.kept) := by
  rw [evidenceFor_congr (knownSender?_mailboxOf_kept h.senders), evidence, evidenceFor, evidenceFor,
    List.filter_map, List.filter_filter]
  refine congrArg _ (List.filter_congr fun entry hentry => ?_)
  have haction : entry.kept.action = entry.action :=
    readBack_of_not_mem (h.entries entry hentry).action
  have hmessage : entry.kept.messageId = entry.messageId :=
    readBack_of_not_mem (h.entries entry hentry).messageId
  rw [Function.comp, haction, hmessage]
  show (decide (since ≤ entry.timestamp.truncateToMillis) && _) = _
  by_cases hkept : since ≤ entry.timestamp.truncateToMillis
  · have hsince := Instant.le_trans hkept (Instant.truncateToMillis_le entry.timestamp)
    rw [decide_eq_true hkept, decide_eq_true hsince, Bool.true_and, Bool.true_and]
  · rw [decide_eq_false hkept, Bool.false_and, Bool.false_and]

theorem map_view_kept (h : history.KeepsTexts) (hreadable : history.IsReadableSince since)
    (config : MiningConfig) (kind : SuggestionKind) (email : String) :
    (((history.evidence config since kind email).filter fun entry =>
        since ≤ entry.timestamp.truncateToMillis).map (·.kept)).map kind.view
      = ((history.evidence config since kind email).filter fun entry =>
        since ≤ entry.timestamp.truncateToMillis).map kind.view := by
  rw [List.map_map]
  refine List.map_congr_left fun entry hentry => ?_
  obtain ⟨hmem, hkept⟩ := List.mem_filter.mp hentry
  have hmem := mem_entries_of_mem_evidence hmem
  have hlisted : entry.IsListed since :=
    Instant.le_trans (Instant.truncateToMillis_le since) (of_decide_eq_true hkept)
  exact (h.entries entry hmem).view_kept (hreadable entry hmem hlisted) kind

/-- If nothing is missed, mining sees no difference between a history and what is kept of it. -/
theorem alike_kept (h : history.KeepsTexts) (hreadable : history.IsReadableSince since)
    (hmisses : history.MissesNothing config since) (kind : SuggestionKind) (email : String) :
    kind.Alike
      (evidenceFor (mailboxOf (history.messages.map (·.kept))) config since
        (history.entries.map (·.kept)) kind email)
      (history.evidence config since kind email) := by
  have hviews := map_view_kept h hreadable config kind email
  rw [evidenceFor_kept h]
  rcases hmisses kind email with ⟨hkind, hidle⟩ | hall
  · refine .inr ⟨⟨hkind, fun entry hentry => ?_⟩, hkind, hidle⟩
    have hview : kind.view entry ∈ _ := List.mem_map_of_mem hentry
    rw [hviews] at hview
    obtain ⟨original, horiginal, hsame⟩ := List.mem_map.mp hview
    have htarget : kind.target? original = kind.target? entry := congrArg Prod.snd hsame
    rw [← htarget]
    exact hidle original (List.mem_filter.mp horiginal).1
  · refine .inl (List.Perm.of_eq (hviews.trans ?_))
    rw [List.filter_eq_self.mpr fun entry hentry => decide_eq_true (hall entry hentry)]

/-- An entry that is missed shows in the report for some thresholds. -/
theorem exists_mined_ne (h : history.KeepsTexts) {days : Nat}
    (hmisses : ¬ history.MissesNothing config (windowStart now days)) :
    ∃ params : SuggestionParams, params.days = days
      ∧ minedInMemory (history.entries.map (·.kept)) (history.messages.map (·.kept)) config now
          params {} (fun _ _ => 0)
        ≠ minedInMemory history.entries history.messages config now params {} fun _ _ => 0 := by
  simp only [MissesNothing, Classical.not_forall, not_or] at hmisses
  obtain ⟨kind, email, hidle, entry, hentry, hmissed⟩ := hmisses
  refine ⟨{ days
            minActions := (history.evidence config (windowStart now days) kind email).length
            minActors := 0 }, rfl, Ne.symm ?_⟩
  refine report_mineLog_ne _ _ rfl rfl kind email ?_ ?_
  · exact
      { nonempty := List.ne_nil_of_mem hentry
        enoughActions := Nat.le_refl _
        enoughActors := Nat.zero_le _
        unmatched := fun s _ hmatched => by
          cases kind <;> obtain ⟨_, hmem, _⟩ := hmatched <;> cases hmem
        target := SuggestionKind.not_isIdle_iff.mp hidle }
  · rw [evidenceFor_kept h, List.length_map]
    exact List.length_filter_lt_length_iff_exists.mpr ⟨entry, hentry, by simpa using hmissed⟩

/-- A window that starts at a whole millisecond loses no entry. -/
theorem missesNothing_of_whole (h : since.truncateToMillis = since) :
    history.MissesNothing config since := by
  refine fun kind email => .inr fun entry hentry => ?_
  have hcut := Instant.truncateToMillis_mono (mem_evidenceFor.mp hentry).2.1
  rwa [h] at hcut

end MailHistory

/-- **Mining a store and mining in memory.**  Once the metadata of all entries since the start of the
window can be read, the report on a store is the one on the kept entries and messages in memory,
whatever the rules and thresholds are and in whichever order lookups complete; otherwise it has only
a warning.  If all texts are kept, the report on the store is always the one on the whole history in
memory exactly when these metadata can be read and no entry that counts is missed. -/
theorem Store.mines_as_memory (history : MailHistory) {now : Instant} (hnow : now.InFourDigitYear)
    (config : MiningConfig) (days : Nat) :
    (history.IsReadableSince (windowStart now days) →
      ∀ (params : SuggestionParams) rules choose choose', params.days = days →
        history.tables.mined config now params rules choose
          = minedInMemory (history.entries.map (·.kept)) (history.messages.map (·.kept)) config now
            params rules choose')
    ∧ (¬ history.IsReadableSince (windowStart now days) →
      ∃ why, ∀ (params : SuggestionParams) rules choose, params.days = days →
        history.tables.mined config now params rules choose
          = { warnings := [.auditLogUnavailable (.json why)] })
    ∧ (history.KeepsTexts →
      ((∀ (params : SuggestionParams) rules choose choose', params.days = days →
          history.tables.mined config now params rules choose
            = minedInMemory history.entries history.messages config now params rules choose')
        ↔ history.IsReadableSince (windowStart now days)
          ∧ history.MissesNothing config (windowStart now days))) := by
  refine ⟨?_, MailHistory.exists_mined_eq_unavailable hnow, fun hkeeps => ⟨fun hsame => ?_, ?_⟩⟩
  · rintro hreadable params rules choose choose' rfl
    exact MailHistory.mined_eq_kept hnow hreadable choose choose'
  · have hreadable : history.IsReadableSince (windowStart now days) := by
      refine Classical.byContradiction fun hunreadable => ?_
      obtain ⟨why, hwhy⟩ := MailHistory.exists_mined_eq_unavailable hnow hunreadable
      have hwarning := hwhy { days } {} (fun _ _ => 0) rfl
      rw [hsame { days } {} _ (fun _ _ => 0) rfl] at hwarning
      exact minedInMemory_ne_unavailable _ _ _ _ _ _ _ _ hwarning
    refine ⟨hreadable, Classical.byContradiction fun hmisses => ?_⟩
    obtain ⟨params, rfl, hne⟩ := MailHistory.exists_mined_ne hkeeps hmisses
    refine hne ?_
    rw [← hsame params {} (fun _ _ => 0) (fun _ _ => 0) rfl]
    exact (MailHistory.mined_eq_kept hnow hreadable _ _).symm
  · rintro ⟨hreadable, hmisses⟩ params rules choose choose' rfl
    rw [MailHistory.mined_eq_kept hnow hreadable choose choose']
    exact report_mineLog_congr choose' choose' rfl rfl (answersAll_mailboxOf _)
      (answersAll_mailboxOf _) (MailHistory.alike_kept hkeeps hreadable hmisses)

/-! ### Two people mute a newsletter -/

/-- 2024-01-01T00:00:00.000500Z, half a millisecond into the year. -/
def Instant.newYear : Instant := ⟨1704067200, 500000, by decide, by decide, by decide, by decide⟩

/-- 2024-01-02T00:00:00Z. -/
def Instant.dayLater : Instant :=
  { Instant.epoch with
    second := 1704153600
    leap_at_minute_end := by decide
    earliest_le := by decide
    le_latest := by decide }

/-- 2024-01-15T00:00:00Z and some nanoseconds. -/
def Instant.twoWeeksLater (nano : Nat) (h : nano < 1000000000) : Instant :=
  ⟨1705276800, nano, by omega, by omega, by decide, by decide⟩

/-- A newsletter comes in, and two people mute it: one as the year starts, the other the day
after. -/
def newsletterHistory : MailHistory where
  changes :=
    [.receive .epoch
      { id := "m1", sender := some "News <news@shop.io>", labels := [], assignee := none
        receivedAt := .epoch },
    .record "1"
      { timestamp := .newYear, actor := "ann@desk.io", action := AuditEntry.mute, messageId := "m1"
        label := none, metadata := none },
    .record "2"
      { timestamp := .dayLater, actor := "bob@desk.io", action := AuditEntry.mute, messageId := "m1"
        label := none, metadata := none }]
  recorded_nodup := by decide
  received_nodup := by decide
  inFourDigitYear := by decide

/-- Two actions by two people within two weeks make a suggestion. -/
def twoOfTwo : SuggestionParams := { days := 14, minActions := 2, minActors := 2 }

/-- Seen from a whole millisecond the newsletter looks the same in the store as in memory. -/
theorem Store.mines_as_memory_newsletter :
    (Instant.twoWeeksLater 0 (by decide)).InFourDigitYear ∧ newsletterHistory.KeepsTexts
      ∧ newsletterHistory.tables.mined {} (.twoWeeksLater 0 (by decide)) twoOfTwo {} (fun _ _ => 0)
        = minedInMemory newsletterHistory.entries newsletterHistory.messages {}
          (.twoWeeksLater 0 (by decide)) twoOfTwo {} fun _ _ => 0 := by
  have hnow : (Instant.twoWeeksLater 0 (by decide)).InFourDigitYear := by decide
  have htexts : ∀ entry ∈ newsletterHistory.entries, '\x00' ∉ entry.actor.toList
      ∧ '\x00' ∉ entry.action.toList ∧ '\x00' ∉ entry.messageId.toList ∧ entry.label = none := by
    decide
  have hmetadata : ∀ entry ∈ newsletterHistory.entries, entry.metadata = none := by decide
  have hsender : normalizeEmail "News <news@shop.io>" = some "news@shop.io" := by decide
  have hkeeps : newsletterHistory.KeepsTexts :=
    { entries := fun entry hentry => by
        obtain ⟨hactor, haction, hmessage, hlabel⟩ := htexts entry hentry
        exact ⟨hactor, haction, hmessage, by rw [hlabel]; nofun⟩
      senders := fun message hmessage email hemail => by
        obtain rfl := List.mem_singleton.mp hmessage
        rw [show email = "news@shop.io" from (Option.some_inj.mp (hsender.symm.trans hemail)).symm]
        decide }
  refine ⟨hnow, hkeeps, ?_⟩
  refine ((Store.mines_as_memory newsletterHistory hnow {} 14).2.2 hkeeps).mpr ⟨?_, ?_⟩ twoOfTwo {}
    _ _ rfl
  · exact fun entry hentry _ =>
      ⟨_, AuditEntry.metadataBack_of_isData (by rw [hmetadata entry hentry]; nofun)⟩
  · exact MailHistory.missesNothing_of_whole (truncateToMillis_windowStart rfl 14)

/-- **An entry is missed.**  Seen from 2024-01-15T00:00:00.000300Z the first of the two entries is in
the window.  In memory both of them count and suggest to mute the newsletter; the store has cut the
time of the first to the start of the year, which is before the window, and suggests nothing. -/
theorem Store.mining_misses_newsletter :
    (∃ suggestion ∈ (minedInMemory newsletterHistory.entries newsletterHistory.messages {}
        (.twoWeeksLater 300000 (by decide)) twoOfTwo {} fun _ _ => 0).suggestions,
      suggestion.kind = .autoMute ∧ suggestion.sender.email = "news@shop.io")
    ∧ (newsletterHistory.tables.mined {} (.twoWeeksLater 300000 (by decide)) twoOfTwo {}
        fun _ _ => 0).suggestions = [] := by
  have hnow : (Instant.twoWeeksLater 300000 (by decide)).InFourDigitYear := by decide
  have hmetadata : ∀ entry ∈ newsletterHistory.entries, entry.metadata = none := by decide
  constructor
  · refine (exists_mem_report_iff _ rfl .autoMute "news@shop.io").mpr ?_
    exact
      { nonempty := by decide
        enoughActions := by decide
        enoughActors := by decide
        unmatched := fun _ _ ⟨_, hmem, _⟩ => nomatch hmem
        target := fun h => absurd rfl h }
  · have hreadable : newsletterHistory.IsReadableSince
        (windowStart (.twoWeeksLater 300000 (by decide)) twoOfTwo.days) := fun entry hentry _ =>
      ⟨_, AuditEntry.metadataBack_of_isData (by rw [hmetadata entry hentry]; nofun)⟩
    rw [MailHistory.mined_eq_kept hnow hreadable _ fun _ _ => 0]
    refine List.eq_nil_iff_forall_not_mem.mpr fun suggestion hmem => ?_
    have henough := ((exists_mem_report_iff _ rfl suggestion.kind suggestion.sender.email).mp
      ⟨suggestion, hmem, rfl, rfl⟩).enoughActions
    have hone : ((newsletterHistory.entries.map (·.kept)).filter fun entry =>
        windowStart (.twoWeeksLater 300000 (by decide)) twoOfTwo.days ≤ entry.timestamp).length
          = 1 := by decide
    exact absurd (Nat.le_trans henough (length_evidenceFor_le _ _ _ _ _ _)) (by rw [hone]; decide)

end MailTriage
