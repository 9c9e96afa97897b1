import Mathlib.Logic.Relation
import MailTriage.Mailbox.Memory
import MailTriage.Proofs.Suggestion.Alike

/-! # The history behind a report

A report does not look at all of the audit log.  It ignores an entry that is older than the window,
and one that records an action from which nothing is mined under the configuration
(`AuditEntry.IsIgnored`); and it does not look at the order of the others.  So there are edits of a
history that a report does not show (`HiddenEdit`), and one history comes out of another by such
edits exactly if both have the same entries that are not ignored, each of them as often
(`hiddenEdits_iff`).

That multiset is all the report depends on (`report_mineLog_of_relevantHistory_perm`).  Order could
show in three places: in the groups, in the choice of a target and in the list of suggestions.  Each
kind of suggestion reads its groups as multisets (`suggestionsFor_perm`), and failed lookups are
counted over the set of messages (`failedLookups_perm`).  So the edits leave the whole report as it
is (`mineLog_hiddenEdits`), also where lookups fail.
-/
namespace MailTriage

/-! ### Edits that do not show -/

/-- The entry is older than the window, or it records an action from which nothing is mined. -/
def AuditEntry.IsIgnored (config : MiningConfig) (since : Instant) (entry : AuditEntry) : Prop :=
  ¬ since ≤ entry.timestamp ∨ ∀ kind : SuggestionKind, entry.action ∉ kind.actions config

instance (config : MiningConfig) (since : Instant) (entry : AuditEntry) :
    Decidable (entry.IsIgnored config since) :=
  decidable_of_iff
    (¬ since ≤ entry.timestamp ∨ ∀ kind ∈ SuggestionKind.all, entry.action ∉ kind.actions config)
    (or_congr_right ⟨fun h kind => h kind kind.mem_all, fun h kind _ => h kind⟩)

/-- One change of a history that a report does not show. -/
inductive HiddenEdit (config : MiningConfig) (since : Instant) :
    List AuditEntry → List AuditEntry → Prop
  /-- The entries come in another order. -/
  | reorder {entries entries' : List AuditEntry} (h : entries.Perm entries') :
    HiddenEdit config since entries entries'
  /-- An entry that is ignored is added, at any place. -/
  | add (earlier later : List AuditEntry) {entry : AuditEntry} (h : entry.IsIgnored config since) :
    HiddenEdit config since (earlier ++ later) (earlier ++ entry :: later)
  /-- An entry that is ignored is removed, from any place. -/
  | remove (earlier later : List AuditEntry) {entry : AuditEntry}
    (h : entry.IsIgnored config since) :
    HiddenEdit config since (earlier ++ entry :: later) (earlier ++ later)

/-- Any number of changes that a report does not show, one after another. -/
abbrev HiddenEdits (config : MiningConfig) (since : Instant) :
    List AuditEntry → List AuditEntry → Prop :=
  Relation.ReflTransGen (HiddenEdit config since)

/-- The entries that are not ignored. -/
def relevantHistory (config : MiningConfig) (since : Instant) (entries : List AuditEntry) :
    List AuditEntry := entries.filter fun entry => ¬ entry.IsIgnored config since

section
variable {config : MiningConfig} {since : Instant} {entries entries' : List AuditEntry}

theorem relevantHistory_append_ignored (earlier later : List AuditEntry) {entry : AuditEntry}
    (h : entry.IsIgnored config since) :
    relevantHistory config since (earlier ++ entry :: later)
      = relevantHistory config since (earlier ++ later) := by
  rw [relevantHistory, relevantHistory, List.filter_append, List.filter_append,
    List.filter_cons_of_neg (by simpa using h)]

/-- One edit keeps the entries that are not ignored. -/
theorem HiddenEdit.perm (h : HiddenEdit config since entries entries') :
    (relevantHistory config since entries).Perm (relevantHistory config since entries') := by
  cases h with
  | reorder h => exact h.filter _
  | add earlier later h => rw [relevantHistory_append_ignored earlier later h]
  | remove earlier later h => rw [relevantHistory_append_ignored earlier later h]

theorem HiddenEdit.symm (h : HiddenEdit config since entries entries') :
    HiddenEdit config since entries' entries := by
  cases h with
  | reorder h => exact .reorder h.symm
  | add earlier later h => exact .remove earlier later h
  | remove earlier later h => exact .add earlier later h

/-- All entries that are ignored can be removed, one after another. -/
theorem hiddenEdits_relevantHistory (earlier entries : List AuditEntry) :
    HiddenEdits config since (earlier ++ entries)
      (earlier ++ relevantHistory config since entries) := by
  induction entries generalizing earlier with
  | nil => exact .refl
  | cons entry rest ih =>
    by_cases h : entry.IsIgnored config since
    · rw [relevantHistory, List.filter_cons_of_neg (by simpa using h)]
      exact .head (.remove earlier rest h) (ih earlier)
    · rw [relevantHistory, List.filter_cons_of_pos (by simpa using h),
        List.append_cons earlier entry rest, List.append_cons earlier entry (rest.filter _)]
      exact ih (earlier ++ [entry])

theorem HiddenEdits.symm (h : HiddenEdits config since entries entries') :
    HiddenEdits config since entries' entries := by
  induction h with
  | refl => exact .refl
  | tail _ hedit ih => exact .head hedit.symm ih

/-- **What edits keep.**  One history comes out of another by edits that do not show exactly if both
have the same entries that are not ignored, each of them as often. -/
theorem hiddenEdits_iff : HiddenEdits config since entries entries'
    ↔ (relevantHistory config since entries).Perm (relevantHistory config since entries') := by
  constructor
  · intro h
    induction h with
    | refl => exact .refl _
    | tail _ hedit ih => exact ih.trans hedit.perm
  · intro h
    calc HiddenEdits config since entries (relevantHistory config since entries) :=
          hiddenEdits_relevantHistory [] entries
      HiddenEdits config since _ (relevantHistory config since entries') := .single (.reorder h)
      HiddenEdits config since _ entries' :=
          HiddenEdits.symm (hiddenEdits_relevantHistory [] entries')

/-! ### What a report reads of a history -/

/-- Nothing that is mined is ignored. -/
theorem minedEntries_relevantHistory (entries : List AuditEntry) (kind : SuggestionKind) :
    minedEntries config since (relevantHistory config since entries) kind
      = minedEntries config since entries kind := by
  rw [relevantHistory, minedEntries_filter, List.filter_eq_self]
  intro entry hentry
  obtain ⟨-, hsince, haction⟩ := mem_minedEntries.mp hentry
  refine decide_eq_true fun hignored => ?_
  rcases hignored with hold | hunmined
  · exact hold hsince
  · exact hunmined kind haction

theorem minedEntries_perm
    (h : (relevantHistory config since entries).Perm (relevantHistory config since entries'))
    (kind : SuggestionKind) :
    (minedEntries config since entries kind).Perm (minedEntries config since entries' kind) := by
  rw [← minedEntries_relevantHistory entries, ← minedEntries_relevantHistory entries']
  exact (h.filter _).filter _

/-- The suggestions of a kind do not depend on the order of the entries. -/
theorem suggestionsFor_perm {params : SuggestionParams} {rules : RuleSet} {kind : SuggestionKind}
    {senderOf : String → Option Sender}
    (hsender : ∀ messageId s, senderOf messageId = some s → Sender.parse? s.email = some s)
    (h : entries.Perm entries') :
    suggestionsFor config params rules kind senderOf entries
      = suggestionsFor config params rules kind senderOf entries' :=
  suggestionsFor_congr hsender hsender fun _ => .inl ((h.filter _).map _)

theorem messagesOf_perm (h : entries.Perm entries') : messagesOf entries = messagesOf entries' :=
  TextSet.ext fun messageId => by simp only [mem_messagesOf, h.mem_iff]

theorem suggestionsFrom_perm {mailbox : Mailbox} {params : SuggestionParams} {rules : RuleSet}
    (h : ∀ kind, (minedEntries config since entries kind).Perm
      (minedEntries config since entries' kind)) :
    suggestionsFrom mailbox config params rules since entries
      = suggestionsFrom mailbox config params rules since entries' :=
  List.flatMap_congr fun kind _ =>
    suggestionsFor_perm (fun _ _ => Mailbox.parse?_email_of_knownSender?) (h kind)

theorem failedLookups_perm {mailbox : Mailbox}
    (h : ∀ kind, (minedEntries config since entries kind).Perm
      (minedEntries config since entries' kind)) :
    failedLookups mailbox config since entries = failedLookups mailbox config since entries' := by
  refine congrArg List.sum (List.map_congr_left fun kind _ => ?_)
  rw [messagesOf_perm ((h kind).filter _)]

end

/-! ### Reports -/

section
variable {log log' : AuditLog} {mailbox : Mailbox} {config : MiningConfig} {now : Instant}
  {params : SuggestionParams} {rules : RuleSet} {entries entries' : List AuditEntry}

/-- **A report is a function of the multiset of relevant entries**, whichever lookups fail and in
whichever order lookups complete. -/
theorem report_mineLog_of_relevantHistory_perm (choose choose' : SuggestionKind → Nat → Nat)
    (hlog : log.entriesSince (windowStart now params.days) = .ok entries)
    (hlog' : log'.entriesSince (windowStart now params.days) = .ok entries')
    (h : (relevantHistory config (windowStart now params.days) entries).Perm
      (relevantHistory config (windowStart now params.days) entries')) :
    MiningOutcome.report (mineLog log mailbox config now params rules choose)
      = MiningOutcome.report (mineLog log' mailbox config now params rules choose') := by
  have hmined := minedEntries_perm h
  rw [report_mineLog_eq choose hlog, report_mineLog_eq choose' hlog', suggestionsFrom_perm hmined,
    failedLookups_perm hmined]

end

/-- What an audit log tells since an instant comes out of what another one tells by edits that do
not show; or both cannot be read, for the same reason. -/
inductive AuditLog.EditedTo (config : MiningConfig) (since : Instant) (log log' : AuditLog) : Prop
  | read {entries entries' : List AuditEntry} (hlog : log.entriesSince since = .ok entries)
    (hlog' : log'.entriesSince since = .ok entries')
    (hedits : HiddenEdits config since entries entries') : EditedTo config since log log'
  | unread {why : StoreError} (hlog : log.entriesSince since = .error why)
    (hlog' : log'.entriesSince since = .error why) : EditedTo config since log log'

/-- The entries of an audit log in memory may be edited, whether it answers or not. -/
theorem MemoryAuditLog.editedTo (log : MemoryAuditLog) {config : MiningConfig} {since : Instant}
    {entries : List AuditEntry} (hedits : HiddenEdits config since log.entries entries) :
    AuditLog.EditedTo config since log.toAuditLog { log with entries }.toAuditLog := by
  obtain ⟨former, offline, listCalls⟩ := log
  cases offline with
  | true => exact .unread rfl rfl
  | false => exact .read rfl rfl hedits

/-- **Hidden edits leave the report as it is.**  Neither the order of the audit log nor the entries
in it that are older than the window or record an action that is not mined change anything in the
report, for every mailbox, rule set and configuration. -/
theorem mineLog_hiddenEdits (log log' : AuditLog) (mailbox : Mailbox) (config : MiningConfig)
    (now : Instant) (params : SuggestionParams) (rules : RuleSet)
    (choose choose' : SuggestionKind → Nat → Nat)
    (h : log.EditedTo config (windowStart now params.days) log') :
    MiningOutcome.report (mineLog log mailbox config now params rules choose)
      = MiningOutcome.report (mineLog log' mailbox config now params rules choose') := by
  cases h with
  | read hlog hlog' hedits =>
    exact report_mineLog_of_relevantHistory_perm choose choose' hlog hlog'
      (hiddenEdits_iff.mp hedits)
  | unread hlog hlog' =>
    rw [report_mineLog_eq_unavailable choose hlog, report_mineLog_eq_unavailable choose' hlog']

/-- Two people mute two messages, one of which is lost.  Told the other way round, with an action
from before the window and one from which nothing is mined, the history leads to the same report. -/
theorem mineLog_hiddenEdits_reordered :
    let log : MemoryAuditLog :=
      { entries := [mutedBy "ann@desk.io" "1", mutedBy "bob@desk.io" "2"] }
    let log' : MemoryAuditLog :=
      { entries :=
          [{ mutedBy "cid@desk.io" "1" with timestamp := .earliest }, mutedBy "bob@desk.io" "2",
            { mutedBy "ann@desk.io" "3" with action := "star" }, mutedBy "ann@desk.io" "1"] }
    let params : SuggestionParams := { days := 14, minActions := 1, minActors := 1 }
    log.toAuditLog.EditedTo {} (windowStart .epoch params.days) log'.toAuditLog
    ∧ MiningOutcome.report
        (mineLog log.toAuditLog (newsMailbox ["2"]) {} .epoch params {} fun _ _ => 0)
      = MiningOutcome.report
        (mineLog log'.toAuditLog (newsMailbox ["2"]) {} .epoch params {} fun _ _ => 1) := by
  intro log log' params
  have hold : AuditEntry.IsIgnored {} (windowStart .epoch 14)
      { mutedBy "cid@desk.io" "1" with timestamp := .earliest } := by decide
  have hunmined : AuditEntry.IsIgnored {} (windowStart .epoch 14)
      { mutedBy "ann@desk.io" "3" with action := "star" } := by decide
  have hedits : HiddenEdits {} (windowStart .epoch 14) log.entries log'.entries :=
    .head (.reorder (List.Perm.swap _ _ [])) (.head (.add [] _ hold)
      (.single (.add [_, mutedBy "bob@desk.io" "2"] [mutedBy "ann@desk.io" "1"] hunmined)))
  have hedited := log.editedTo hedits
  exact ⟨hedited, mineLog_hiddenEdits _ _ _ _ _ _ _ _ _ hedited⟩

end MailTriage
