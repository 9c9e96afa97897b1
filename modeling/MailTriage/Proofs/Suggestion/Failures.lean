import MailTriage.Proofs.Suggestion.Report

/-! # Failed lookups

A message whose lookup fails has no known sender, so its entries are in no evidence, and the report
suggests what it would suggest had they never been recorded.  The failures themselves are counted,
for each kind of suggestion and each of its messages once, and the count is the only difference
between the report and that of a run over the log without these entries, which asks for none of the
messages (`mineLog_failures_exact`).
-/
namespace MailTriage

/-! ### Logs without some entries -/

section
variable {log : AuditLog} {since : Instant}

/-- The log without the entries about some messages. -/
def AuditLog.without (log : AuditLog) (drop : String → Bool) : AuditLog where
  entriesSince since := (log.entriesSince since).map fun entries =>
    entries.filter fun entry => !drop entry.messageId

theorem AuditLog.entriesSince_without {entries : List AuditEntry} (drop : String → Bool)
    (hlog : log.entriesSince since = .ok entries) :
    (log.without drop).entriesSince since
      = .ok (entries.filter fun entry => !drop entry.messageId) := by
  simp only [without, hlog]
  rfl

theorem AuditLog.entriesSince_without_error {why : StoreError} (drop : String → Bool)
    (hlog : log.entriesSince since = .error why) :
    (log.without drop).entriesSince since = .error why := by
  simp only [without, hlog]
  rfl

/-- How many lookups of a run over a log fail; none if the log cannot be read. -/
def AuditLog.failedLookups (log : AuditLog) (mailbox : Mailbox) (config : MiningConfig)
    (since : Instant) : Nat :=
  match log.entriesSince since with
  | .ok entries => MailTriage.failedLookups mailbox config since entries
  | .error _ => 0

/-- There is a lookup without an answer among those for a kind of suggestion. -/
def MinedKind.HasFailure (mined : MinedKind) : Prop :=
  ∃ lookup ∈ mined.lookups, lookup.failure?.isSome = true

end

/-! ### Counting failures -/

section
variable {mailbox : Mailbox} {config : MiningConfig} {since : Instant} {entries : List AuditEntry}

theorem MinedKind.hasFailure_iff {mined : MinedKind} :
    mined.HasFailure ↔ 0 < SenderLookup.failures mined.lookups := by
  rw [SenderLookup.failures, List.length_pos_iff_exists_mem]
  simp only [HasFailure, List.mem_filterMap, Option.isSome_iff_exists]
  constructor
  · rintro ⟨lookup, hmem, why, h⟩
    exact ⟨why, lookup, hmem, h⟩
  · rintro ⟨why, lookup, hmem, h⟩
    exact ⟨lookup, hmem, why, h⟩

/-- A run has a failure exactly if the count is positive. -/
theorem failedLookups_pos_iff (params : SuggestionParams) (rules : RuleSet)
    (choose : SuggestionKind → Nat → Nat) :
    0 < failedLookups mailbox config since entries
      ↔ ∃ kind, (mineKind mailbox config params rules
        (entries.filter fun entry => since ≤ entry.timestamp) (choose kind) kind).HasFailure := by
  simp only [MinedKind.hasFailure_iff, failures_mineKind]
  rw [failedLookups, Nat.pos_iff_ne_zero, Ne, List.sum_eq_zero_iff_forall_eq_nat,
    List.forall_mem_map]
  simp only [SuggestionKind.mem_all, true_implies, Classical.not_forall, Nat.pos_iff_ne_zero]
  rfl

end

/-! ### The run without failures -/

section
variable {mailbox mailbox' : Mailbox} {config : MiningConfig} {params : SuggestionParams}
  {rules : RuleSet} {since : Instant} {entries : List AuditEntry}

/-- A mailbox answers all that another one answers, in the same way. -/
def Mailbox.Extends (mailbox' mailbox : Mailbox) : Prop :=
  ∀ messageId sender?, mailbox.senderOf messageId = .ok sender? →
    mailbox'.senderOf messageId = .ok sender?

theorem Mailbox.Extends.senderOf_eq (h : mailbox'.Extends mailbox) {messageId : String}
    (hanswered : mailbox.fails messageId = false) :
    mailbox'.senderOf messageId = mailbox.senderOf messageId := by
  obtain ⟨sender?, hsender⟩ := Mailbox.fails_eq_false_iff.mp hanswered
  rw [hsender, h messageId sender? hsender]

theorem Mailbox.Extends.fails_eq_false (h : mailbox'.Extends mailbox) {messageId : String}
    (hanswered : mailbox.fails messageId = false) : mailbox'.fails messageId = false := by
  rw [fails, h.senderOf_eq hanswered, ← fails, hanswered]

theorem Mailbox.Extends.knownSender?_eq (h : mailbox'.Extends mailbox) {messageId : String}
    (hanswered : mailbox.fails messageId = false) :
    mailbox'.knownSender? messageId = mailbox.knownSender? messageId := by
  rw [knownSender?, h.senderOf_eq hanswered, ← knownSender?]

theorem answered_of_mem_filter {entry : AuditEntry}
    (h : entry ∈ entries.filter fun entry => !mailbox.fails entry.messageId) :
    mailbox.fails entry.messageId = false := by
  simpa using (List.mem_filter.mp h).2

/-- Entries about messages whose lookups fail lead to nothing. -/
theorem suggestionsFrom_answered (h : mailbox'.Extends mailbox) :
    suggestionsFrom mailbox' config params rules since
        (entries.filter fun entry => !mailbox.fails entry.messageId)
      = suggestionsFrom mailbox config params rules since entries := by
  refine List.flatMap_congr fun kind _ => ?_
  have hcollect : Evidence.collect mailbox'.knownSender? (minedEntries config since
        (entries.filter fun entry => !mailbox.fails entry.messageId) kind)
      = Evidence.collect mailbox.knownSender? (minedEntries config since entries kind) := by
    rw [minedEntries_filter]
    calc
      _ = Evidence.collect mailbox.knownSender? ((minedEntries config since entries kind).filter
            fun entry => !mailbox.fails entry.messageId) :=
        Evidence.collect_congr fun entry hentry =>
          h.knownSender?_eq (answered_of_mem_filter hentry)
      _ = _ := Evidence.collect_filter fun entry hentry =>
        Mailbox.knownSender?_of_fails (by simpa using hentry)
  rw [suggestionsFor, suggestionsFor, hcollect]

theorem failedLookups_answered (h : mailbox'.Extends mailbox) :
    failedLookups mailbox' config since
      (entries.filter fun entry => !mailbox.fails entry.messageId) = 0 :=
  failedLookups_of_answered fun _ hentry => h.fails_eq_false (answered_of_mem_filter hentry)

end

/-! ### The report -/

/-- **Lookup failures degrade exactly.**  Take a run in which some lookups fail, and one with any
mailbox that gives the answers that there are, over the log without the entries about messages
whose lookups fail.  In the second run no lookup fails; the first has the same suggestions, and the
same warnings after one that counts the failures, which is there if a lookup failed. -/
theorem mineLog_failures_exact (log : AuditLog) (mailbox mailbox' : Mailbox) (config : MiningConfig)
    (now : Instant) (params : SuggestionParams) (rules : RuleSet)
    (choose choose' : SuggestionKind → Nat → Nat) (hextends : mailbox'.Extends mailbox) :
    (∀ mined, mineLog (log.without mailbox.fails) mailbox' config now params rules choose'
        = .ok mined → ∀ m ∈ mined, ¬ m.HasFailure)
    ∧ (MiningOutcome.report (mineLog log mailbox config now params rules choose)).suggestions
      = (MiningOutcome.report (mineLog (log.without mailbox.fails) mailbox' config now params rules
          choose')).suggestions
    ∧ (MiningOutcome.report (mineLog log mailbox config now params rules choose)).warnings
      = (if 0 < log.failedLookups mailbox config (windowStart now params.days) then
          [.failedLookups (log.failedLookups mailbox config (windowStart now params.days))]
        else [])
        ++ (MiningOutcome.report (mineLog (log.without mailbox.fails) mailbox' config now params
          rules choose')).warnings
    ∧ (0 < log.failedLookups mailbox config (windowStart now params.days)
      ↔ ∃ mined, mineLog log mailbox config now params rules choose = .ok mined
        ∧ ∃ m ∈ mined, m.HasFailure) := by
  cases hlog : log.entriesSince (windowStart now params.days) with
  | error why =>
    have hcount : log.failedLookups mailbox config (windowStart now params.days) = 0 := by
      rw [AuditLog.failedLookups, hlog]
    have hclean := AuditLog.entriesSince_without_error mailbox.fails hlog
    rw [report_mineLog_eq_unavailable choose hlog, report_mineLog_eq_unavailable choose' hclean,
      hcount, mineLog_eq_error choose hlog, mineLog_eq_error choose' hclean]
    simp
  | ok entries =>
    have hcount : log.failedLookups mailbox config (windowStart now params.days)
        = failedLookups mailbox config (windowStart now params.days) entries := by
      rw [AuditLog.failedLookups, hlog]
    have hclean := AuditLog.entriesSince_without mailbox.fails hlog
    have hnone : failedLookups mailbox' config (windowStart now params.days)
        (entries.filter fun entry => !mailbox.fails entry.messageId) = 0 :=
      failedLookups_answered hextends
    rw [report_mineLog_eq choose hlog, report_mineLog_eq choose' hclean, hcount, hnone,
      suggestionsFrom_answered hextends]
    refine ⟨fun mined hmined m hm hfails => ?_, rfl, rfl, ?_⟩
    · rw [mineLog_eq_ok choose' hclean, Except.ok.injEq] at hmined
      obtain ⟨kind, -, rfl⟩ := List.mem_map.mp (hmined ▸ hm)
      have hpos := (failedLookups_pos_iff params rules choose').mpr ⟨kind, hfails⟩
      rw [hnone] at hpos
      exact Nat.lt_irrefl 0 hpos
    · rw [failedLookups_pos_iff params rules choose, mineLog_eq_ok choose hlog]
      simp [SuggestionKind.mem_all]

/-- Of two muted messages one is lost, which leaves a warning and the suggestion for the other. -/
theorem mineLog_failures_exact_lost :
    let log : AuditLog :=
      { entriesSince := fun _ => .ok [mutedBy "ann@desk.io" "1", mutedBy "bob@desk.io" "2"] }
    let params : SuggestionParams := { days := 14, minActions := 1, minActors := 1 }
    (newsMailbox []).Extends (newsMailbox ["2"])
    ∧ (log.without (newsMailbox ["2"]).fails).entriesSince .epoch
      = .ok [mutedBy "ann@desk.io" "1"]
    ∧ (MiningOutcome.report
        (mineLog log (newsMailbox ["2"]) {} .epoch params {} fun _ _ => 0)).warnings
      = .failedLookups 1 :: (MiningOutcome.report (mineLog
        (log.without (newsMailbox ["2"]).fails) (newsMailbox []) {} .epoch params {}
        fun _ _ => 0)).warnings := by
  intro log params
  have hextends : (newsMailbox []).Extends (newsMailbox ["2"]) := by
    intro messageId sender? hanswer
    simp only [newsMailbox] at hanswer ⊢
    split at hanswer
    · cases hanswer
    · exact hanswer
  have hcount : log.failedLookups (newsMailbox ["2"]) {} (windowStart .epoch params.days) = 1 := by
    decide
  obtain ⟨-, -, hwarnings, -⟩ := mineLog_failures_exact log (newsMailbox ["2"]) (newsMailbox []) {}
    .epoch params {} (fun _ _ => 0) (fun _ _ => 0) hextends
  rw [hcount] at hwarnings
  exact ⟨hextends, rfl, hwarnings⟩

end MailTriage
