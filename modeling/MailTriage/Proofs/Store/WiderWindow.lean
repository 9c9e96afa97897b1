import MailTriage.Proofs.Store.Changes
import MailTriage.Proofs.Store.MailMining

/-! # A longer window over a store

A stored audit log lists by the texts of its times.  Since an earlier instant it lists every entry
that it lists since a later one, if the window ends before the year 10000 or the store has written
all its times itself (`Tables.remembers`): the text of the earlier instant is not after that of the
later one, or it starts with a sign and comes before every text that can be read.

But a listing that has one row it cannot read fails as a whole.  A row that is too old for the
shorter window can therefore make a report over the longer one empty (`Tables.mined_insertAuditRow`).
With that exception reports are monotone in their parameters (`mining_monotone`).
-/
namespace MailTriage

/-! ### The rows of a listing -/

namespace AuditRow

variable {row : AuditRow} {entry : AuditEntry} {earlier later : Instant}

theorem read_createdAt_of_entry (h : row.entry = .ok entry) :
    Timestamp.read (readBack row.createdAt) = .ok entry.timestamp := by
  rw [AuditRow.entry] at h
  cases hmetadata : readMetadata row.metadataJson with
  | error why =>
    rw [hmetadata] at h
    cases h
  | ok metadata =>
    rw [hmetadata] at h
    cases hread : Timestamp.read (readBack row.createdAt) with
    | error why =>
      rw [hread] at h
      cases h
    | ok timestamp =>
      rw [hread] at h
      cases h
      rfl

/-- Every text that can be read comes after a time with a sign. -/
theorem writeMillis_lt_createdAt (h : row.entry = .ok entry) (hyear : ¬ earlier.InFourDigitYear) :
    Timestamp.writeMillis earlier < row.createdAt := by
  obtain ⟨c, hc, hdigit⟩ := Timestamp.exists_digit_of_read (read_createdAt_of_entry h)
  refine Timestamp.writeMillis_lt_of_digit hyear ?_ hdigit
  rw [readBack, String.toList_ofList, List.head?_takeWhile] at hc
  exact (Option.filter_eq_some_iff.mp hc).1

/-- A row in the window that is listed since its start is listed since every earlier instant.  In a
window that starts after the year 9999 this takes a time that the store has written: another may have
the year 9999 in its text and lie after it by its offset. -/
theorem writeMillis_le_createdAt (h : row.entry = .ok entry) (hle : earlier ≤ later)
    (hlater : later ≤ entry.timestamp) (hlisted : Timestamp.writeMillis later ≤ row.createdAt)
    (htimes : (Calendar.dateOfDay later.day).year ≤ 9999
      ∨ ∃ t, row.createdAt = Timestamp.writeMillis t) :
    Timestamp.writeMillis earlier ≤ row.createdAt := by
  by_cases hyear : earlier.InFourDigitYear
  · rcases htimes with hlast | ⟨t, ht⟩
    · -- the texts of the two instants are in their order
      have hlaterYear : later.InFourDigitYear :=
        ⟨Int.le_trans hyear.1 (Instant.year_le_year hle), hlast⟩
      exact String.le_trans (Timestamp.writeMillis_le_of_le hle hlaterYear) hlisted
    · -- a written time that can be read is the time of the entry
      have hread := read_createdAt_of_entry h
      rw [ht, readBack_writeMillis] at hread
      have htYear : t.InFourDigitYear := by
        by_contra hno
        rw [Timestamp.read_writeMillis_of_not hno] at hread
        cases hread
      rw [Timestamp.read_writeMillis htYear] at hread
      rw [← Except.ok.inj hread] at hlater
      rw [ht]
      exact Timestamp.writeMillis_le_of_le
        (Instant.le_trans hle (Instant.le_trans hlater (Instant.truncateToMillis_le t))) htYear
  · exact String.not_lt.mp (String.lt_asymm (writeMillis_lt_createdAt h hyear))

end AuditRow

namespace Tables

variable {tables : Tables} {row : AuditRow} {since : Instant}

theorem insertAuditRow_eq_ok {next : Tables} (h : tables.insertAuditRow row = .ok next) :
    ∃ rows, tables.auditLog = some rows
      ∧ next = { tables with auditLog := some (rows ++ [row]) } := by
  obtain ⟨rows, hrows, hnext⟩ := exists_of_bind_eq_ok h
  obtain ⟨inserted, hinsert, hnext⟩ := exists_of_bind_eq_ok hnext
  have hlog : tables.auditLog = some rows := by
    cases hlog : tables.auditLog with
    | none =>
      rw [hlog] at hrows
      cases hrows
    | some held =>
      rw [hlog] at hrows
      rw [show held = rows from Except.ok.inj hrows]
  refine ⟨rows, hlog, ?_⟩
  rw [← insertRow_eq_ok hinsert]
  exact (Except.ok.inj hnext).symm

/-- One row that cannot be read makes a listing fail. -/
theorem exists_entriesSince_eq_error
    (h : ∃ row ∈ tables.rowsSince since, ∃ why, row.entry = .error why) :
    ∃ why, tables.entriesSince since = .error why := by
  cases hrows : tables.auditLog with
  | none =>
    obtain ⟨row, hrow, -⟩ := h
    rw [mem_rowsSince, hrows] at hrow
    cases hrow.1
  | some rows =>
    obtain ⟨row, hrow, why, hwhy⟩ := h
    obtain ⟨_, _, why, _, hfails⟩ := exists_mapM_eq_error
      (l := (tables.rowsSince since).mergeSort AuditRow.listedBefore) (f := AuditRow.entry)
      ⟨row, List.mem_mergeSort.mpr hrow, why, hwhy⟩
    exact ⟨why, (entriesSince_eq_mapM hrows since).trans hfails⟩

/-- A listing has the entries of its rows, all of which can be read. -/
theorem entriesSince_eq_ok {listed : List AuditEntry} (h : tables.entriesSince since = .ok listed) :
    listed.Perm ((tables.rowsSince since).filterMap fun row => row.entry.toOption) := by
  have hreadable : ∀ row ∈ tables.rowsSince since, ∃ entry, row.entry = .ok entry := by
    intro row hrow
    cases hentry : row.entry with
    | ok entry => exact ⟨entry, rfl⟩
    | error why =>
      obtain ⟨why, hwhy⟩ := exists_entriesSince_eq_error ⟨row, hrow, why, hentry⟩
      rw [hwhy] at h
      cases h
  cases hrows : tables.auditLog with
  | none =>
    rw [entriesSince, hrows] at h
    cases h
  | some rows =>
    rw [entriesSince_eq_mapM hrows since, mapM_eq_ok_filterMap fun row hrow =>
      hreadable row (List.mem_mergeSort.mp hrow)] at h
    rw [← Except.ok.inj h]
    exact (List.mergeSort_perm _ _).filterMap _

/-! ### Listings since an earlier instant -/

/-- The store has written all times of the audit log itself. -/
def WritesTimes (tables : Tables) : Prop :=
  ∀ row ∈ tables.auditLog.getD [], ∃ t, row.createdAt = Timestamp.writeMillis t

/-- The rows of a listing whose entries are in the window. -/
def rowsInWindow (tables : Tables) (since : Instant) : List AuditRow :=
  (tables.rowsSince since).filter fun row =>
    row.entry.toOption.any fun entry => since ≤ entry.timestamp

theorem mem_rowsInWindow :
    row ∈ tables.rowsInWindow since
      ↔ row ∈ tables.rowsSince since ∧ ∃ entry, row.entry = .ok entry ∧ since ≤ entry.timestamp := by
  rw [rowsInWindow, List.mem_filter, Option.any_eq_true]
  cases row.entry <;> simp [Except.toOption]

/-- The entries of the window are those of its rows. -/
theorem filter_entriesSince_perm {listed : List AuditEntry} (h : tables.entriesSince since = .ok listed) :
    (listed.filter fun entry => since ≤ entry.timestamp).Perm
      ((tables.rowsInWindow since).filterMap fun row => row.entry.toOption) := by
  refine ((entriesSince_eq_ok h).filter _).trans (List.Perm.of_eq ?_)
  rw [rowsInWindow, List.filter_filterMap, List.filterMap_filter]
  refine List.filterMap_congr fun row _ => ?_
  cases row.entry.toOption with
  | none => rfl
  | some entry => rw [Option.any_some, Option.filter_some]

/-- The rows of a window are listed since every earlier instant. -/
theorem rowsInWindow_sublist {earlier later : Instant} (hle : earlier ≤ later)
    (htimes : (Calendar.dateOfDay later.day).year ≤ 9999 ∨ tables.WritesTimes) :
    (tables.rowsInWindow later).Sublist (tables.rowsSince earlier) := by
  have hlisted : ∀ row ∈ tables.rowsInWindow later,
      Timestamp.writeMillis earlier ≤ row.createdAt := by
    intro row hrow
    obtain ⟨hrow, entry, hentry, hlater⟩ := mem_rowsInWindow.mp hrow
    obtain ⟨hmem, hsince⟩ := mem_rowsSince.mp hrow
    exact AuditRow.writeMillis_le_createdAt hentry hle hlater hsince
      (htimes.imp_right fun hwrites => hwrites row hmem)
  have htable : (tables.rowsInWindow later).Sublist (tables.auditLog.getD []) :=
    List.filter_sublist.trans List.filter_sublist
  have hsublist := htable.filter fun row => Timestamp.writeMillis earlier ≤ row.createdAt
  rwa [List.filter_eq_self.mpr fun row hrow => decide_eq_true (hlisted row hrow)] at hsublist

/-- **A stored log remembers**: what it lists since an instant it lists since every earlier one. -/
theorem remembers {earlier later : Instant} (hle : earlier ≤ later)
    (htimes : (Calendar.dateOfDay later.day).year ≤ 9999 ∨ tables.WritesTimes) :
    tables.toAuditLog.Remembers earlier later := by
  intro listed listed' hlisted hlisted'
  refine (filter_entriesSince_perm hlisted).subperm.trans ?_
  exact ((rowsInWindow_sublist hle htimes).filterMap _).subperm.trans
    (entriesSince_eq_ok hlisted').symm.subperm

/-! ### Times that the store writes -/

theorem WritesTimes.apply {next : Tables} (h : tables.WritesTimes) {change : MailChange}
    (happly : change.apply tables = .ok next) : next.WritesTimes := by
  cases change with
  | record id entry =>
    rw [MailChange.apply, appendAudit] at happly
    split at happly
    · cases happly
    · next hinsert =>
      cases happly
      obtain ⟨rows, hrows, rfl⟩ := insertAuditRow_eq_ok hinsert
      intro row hrow
      rcases List.mem_append.mp hrow with hrow | hrow
      · exact h row (by rwa [hrows])
      · rw [List.mem_singleton.mp hrow]
        exact ⟨entry.timestamp, rfl⟩
  | receive now message =>
    rw [MailChange.apply, upsertMessage] at happly
    split at happly <;> cases happly
    exact h

/-- Whatever comes in, the store writes the times itself. -/
theorem WritesTimes.afterMail (h : tables.WritesTimes) (changes : List MailChange) :
    (tables.afterMail changes).WritesTimes := by
  induction changes generalizing tables with
  | nil => exact h
  | cons change rest ih =>
    rw [Tables.afterMail, List.foldl_cons]
    cases happly : change.apply tables with
    | error why => exact ih h
    | ok next => exact ih (h.apply happly)

end Tables

theorem MailHistory.writesTimes (history : MailHistory) : history.tables.WritesTimes := by
  refine Tables.WritesTimes.afterMail (fun row hrow => ?_) history.changes
  rw [Store.holdMail_fresh.auditLog] at hrow
  cases hrow

/-! ### A row that cannot be read -/

namespace Tables

variable {tables next : Tables} {row : AuditRow}

/-- A row before an instant shows in no listing since then. -/
theorem entriesSince_insertAuditRow {since : Instant} (h : tables.insertAuditRow row = .ok next)
    (hbefore : row.createdAt < Timestamp.writeMillis since) :
    next.entriesSince since = tables.entriesSince since := by
  obtain ⟨rows, hrows, rfl⟩ := insertAuditRow_eq_ok h
  have hskipped : [row].filter (fun row => Timestamp.writeMillis since ≤ row.createdAt) = [] := by
    refine List.filter_eq_nil_iff.mpr fun other hother hle => ?_
    rw [List.mem_singleton.mp hother] at hle
    exact String.not_lt.mpr (of_decide_eq_true hle) hbefore
  rw [entriesSince_eq_mapM rfl, entriesSince_eq_mapM hrows, rowsSince, rowsSince, hrows,
    Option.getD_some, Option.getD_some, List.filter_append, hskipped, List.append_nil]

/-- **One row can empty the report over a longer window** and show in none over a shorter one: a row
that cannot be read, if the one window starts before it and the other one after it. -/
theorem mined_insertAuditRow (h : tables.insertAuditRow row = .ok next) {what : StoreError}
    (hunreadable : row.entry = .error what) (config : MiningConfig) (now : Instant)
    (params : SuggestionParams) (rules : RuleSet) (choose : SuggestionKind → Nat → Nat) :
    (row.createdAt < Timestamp.writeMillis (windowStart now params.days) →
      next.mined config now params rules choose = tables.mined config now params rules choose)
    ∧ (Timestamp.writeMillis (windowStart now params.days) ≤ row.createdAt →
      ∃ why, next.mined config now params rules choose
        = { warnings := [.auditLogUnavailable why] }) := by
  constructor
  · intro hbefore
    have hlog : next.toAuditLog.entriesSince (windowStart now params.days)
        = tables.toAuditLog.entriesSince (windowStart now params.days) :=
      entriesSince_insertAuditRow h hbefore
    have hmailbox : next.toMailbox = tables.toMailbox := by
      obtain ⟨rows, -, rfl⟩ := insertAuditRow_eq_ok h
      rfl
    rw [mined, mined, mineLog, mineLog, hlog, hmailbox]
  · intro hlisted
    have hrow : row ∈ next.rowsSince (windowStart now params.days) := by
      obtain ⟨rows, -, rfl⟩ := insertAuditRow_eq_ok h
      exact mem_rowsSince.mpr ⟨List.mem_append_right _ (List.mem_singleton_self row), hlisted⟩
    obtain ⟨why, hwhy⟩ := exists_entriesSince_eq_error ⟨row, hrow, what, hunreadable⟩
    exact ⟨why, report_mineLog_eq_unavailable choose hwhy⟩

end Tables

/-! ### Reports for other parameters -/

/-- **Reports are monotone in their parameters.**  Under stricter thresholds a report has exactly the
suggestions that meet them, unchanged and in order.  Over a longer window whatever is suggested over
the shorter one is suggested with at least as many actions by at least as many people, if the audit
log remembers and can be listed since the start of the longer window; if it cannot, the report has
only a warning.  A log in memory loses nothing; a stored log remembers, if the window ends before the
year 10000 or the store has written all times itself. -/
theorem mining_monotone (mailbox : Mailbox) (config : MiningConfig) (now : Instant)
    (rules : RuleSet) (choose choose' : SuggestionKind → Nat → Nat) :
    (∀ (log : AuditLog) (params stricter : SuggestionParams), stricter.IsStricter params →
      (MiningOutcome.report (mineLog log mailbox config now stricter rules choose')).suggestions
        = (MiningOutcome.report
            (mineLog log mailbox config now params rules choose)).suggestions.filter
          (·.meets stricter))
    ∧ (∀ (log : AuditLog) (params wider : SuggestionParams), wider.IsWider params →
      log.Remembers (windowStart now wider.days) (windowStart now params.days) →
      (MiningOutcome.report (mineLog log mailbox config now params rules choose)).IsOutweighedBy
          (MiningOutcome.report (mineLog log mailbox config now wider rules choose'))
        ∨ ∃ why, log.entriesSince (windowStart now wider.days) = .error why
          ∧ MiningOutcome.report (mineLog log mailbox config now wider rules choose')
            = { warnings := [.auditLogUnavailable why] })
    ∧ (∀ (log : MemoryAuditLog) (params wider : SuggestionParams), wider.IsWider params →
      (MiningOutcome.report
          (mineLog log.toAuditLog mailbox config now params rules choose)).IsOutweighedBy
        (MiningOutcome.report (mineLog log.toAuditLog mailbox config now wider rules choose')))
    ∧ ∀ (tables : Tables) (days days' : Nat), days ≤ days' →
      (Calendar.dateOfDay now.day).year ≤ 9999 ∨ tables.WritesTimes →
      tables.toAuditLog.Remembers (windowStart now days') (windowStart now days) := by
  refine ⟨fun log params stricter h => suggestions_report_stricter choose choose' h,
    fun log params wider h hremembers => isOutweighedBy_or_unavailable choose choose' h hremembers,
    fun log params wider h => log.isOutweighedBy choose choose' h,
    fun tables days days' h htimes => ?_⟩
  refine Tables.remembers (windowStart_antitone now h) (htimes.imp_left fun hyear => ?_)
  exact Int.le_trans (Instant.year_le_year (windowStart_le now days)) hyear

/-- The newsletter's entries can all be read, as they have no metadata. -/
theorem isReadableSince_newsletter (since : Instant) : newsletterHistory.IsReadableSince since := by
  have hmetadata : ∀ entry ∈ newsletterHistory.entries, entry.metadata = none := by decide
  exact fun entry hentry _ =>
    ⟨_, AuditEntry.metadataBack_of_isData (by rw [hmetadata entry hentry]; nofun)⟩

/-- The newsletter's store lists its audit log since every instant. -/
theorem mined_newsletter_ne_unavailable (params : SuggestionParams) (why : StoreError) :
    newsletterHistory.tables.mined {} (.twoWeeksLater 0 (by decide)) params {} (fun _ _ => 0)
      ≠ { warnings := [.auditLogUnavailable why] } := by
  rw [MailHistory.mined_eq_kept (by decide) (isReadableSince_newsletter _) _ fun _ _ => 0]
  exact minedInMemory_ne_unavailable _ _ _ _ _ _ _ why

/-- Muting the newsletter is suggested over two weeks. -/
theorem exists_mined_newsletter :
    ∃ suggestion ∈ (newsletterHistory.tables.mined {} (.twoWeeksLater 0 (by decide)) twoOfTwo {}
        fun _ _ => 0).suggestions,
      suggestion.kind = .autoMute ∧ suggestion.sender.email = "news@shop.io" := by
  rw [MailHistory.mined_eq_kept (by decide) (isReadableSince_newsletter _) _ fun _ _ => 0]
  refine (exists_mem_report_iff _ rfl .autoMute "news@shop.io").mpr ?_
  exact
    { nonempty := by decide
      enoughActions := by decide
      enoughActors := by decide
      unmatched := fun _ _ ⟨_, hmem, _⟩ => nomatch hmem
      target := fun h => absurd rfl h }

/-- Over the longest window, longer than there are instants, muting the newsletter is suggested again;
if it takes three actions, it is suggested no longer. -/
theorem mining_monotone_newsletter :
    (Instant.twoWeeksLater 0 (by decide)).minusDays? 4294967295 = none
    ∧ (∃ suggestion ∈ (newsletterHistory.tables.mined {} (.twoWeeksLater 0 (by decide))
          { twoOfTwo with days := 4294967295 } {} fun _ _ => 0).suggestions,
        suggestion.kind = .autoMute ∧ suggestion.sender.email = "news@shop.io")
    ∧ (newsletterHistory.tables.mined {} (.twoWeeksLater 0 (by decide))
        { twoOfTwo with minActions := 3 } {} fun _ _ => 0).suggestions
      = (newsletterHistory.tables.mined {} (.twoWeeksLater 0 (by decide)) twoOfTwo {}
          fun _ _ => 0).suggestions.filter (·.meets { twoOfTwo with minActions := 3 }) := by
  obtain ⟨hstricter, hwider, -, hremembers⟩ := mining_monotone newsletterHistory.tables.toMailbox {}
    (.twoWeeksLater 0 (by decide)) {} (fun _ _ => 0) fun _ _ => 0
  refine ⟨by decide, ?_, ?_⟩
  · obtain ⟨suggestion, hmem, hkind, hemail⟩ := exists_mined_newsletter
    rcases hwider newsletterHistory.tables.toAuditLog twoOfTwo
        { twoOfTwo with days := 4294967295 } ⟨by decide, Nat.le_refl _, Nat.le_refl _⟩
        (hremembers _ _ _ (by decide) (.inr newsletterHistory.writesTimes)) with
      houtweighed | ⟨why, -, hunavailable⟩
    · obtain ⟨other, hother, houtweighs⟩ := houtweighed suggestion hmem
      exact ⟨other, hother, houtweighs.kind.trans hkind, by rw [houtweighs.sender, hemail]⟩
    · exact absurd hunavailable (mined_newsletter_ne_unavailable _ why)
  · exact hstricter newsletterHistory.tables.toAuditLog twoOfTwo { twoOfTwo with minActions := 3 }
      ⟨rfl, by decide, by decide⟩

/-- An entry whose time is only a day in the year 2015. -/
def AuditRow.dayOnly : AuditRow where
  id := some "q"
  actor := "ann@desk.io"
  action := AuditEntry.mute
  messageId := "m1"
  label := none
  metadataJson := none
  createdAt := "2015-01-01"

/-- The newsletter's store with this entry inserted from outside. -/
def Tables.withDayOnly : Tables :=
  { newsletterHistory.tables with
    auditLog := newsletterHistory.tables.auditLog.map (· ++ [.dayOnly]) }

/-- **A longer window can lose every suggestion.**  Over two weeks the old entry shows in nothing, and
muting the newsletter is suggested; over 5000 days its time cannot be read, and nothing is. -/
theorem mining_not_monotone_dayOnly :
    newsletterHistory.tables.insertAuditRow .dayOnly = .ok .withDayOnly
    ∧ (∃ suggestion ∈ (Tables.withDayOnly.mined {} (.twoWeeksLater 0 (by decide)) twoOfTwo {}
          fun _ _ => 0).suggestions,
        suggestion.kind = .autoMute ∧ suggestion.sender.email = "news@shop.io")
    ∧ (Tables.withDayOnly.mined {} (.twoWeeksLater 0 (by decide)) { twoOfTwo with days := 5000 } {}
        fun _ _ => 0).suggestions = [] := by
  have hinsert : newsletterHistory.tables.insertAuditRow .dayOnly = .ok .withDayOnly := by rfl
  have hunreadable : AuditRow.dayOnly.entry = .error (.timestamp .tooShort) := by rfl
  refine ⟨hinsert, ?_, ?_⟩
  · rw [(Tables.mined_insertAuditRow hinsert hunreadable _ _ _ _ _).1 (by decide)]
    exact exists_mined_newsletter
  · obtain ⟨why, hunavailable⟩ := (Tables.mined_insertAuditRow hinsert hunreadable {}
      (.twoWeeksLater 0 (by decide)) { twoOfTwo with days := 5000 } {} fun _ _ => 0).2 (by decide)
    rw [hunavailable]

end MailTriage
