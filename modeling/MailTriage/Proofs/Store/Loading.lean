import MailTriage.Proofs.Store.Refinement

/-! # When the rules can be loaded

Everything that a document says can be stored and read back but one: the columns of a row hold
timestamps that are read in the strict profile, and this knows only years of four digits.  So all
rules load exactly when every time that is kept lies in such a year, and one that does not takes the
whole rule set down (`Store.loads_iff`).
-/
namespace MailTriage

namespace Tables

theorem outcome_loadRules (tables : Tables) :
    tables.loadRules.outcome
      = tables.listLabelRules.outcome >>= fun labelRules =>
        tables.listAssigneeRules.outcome.map fun assigneeRules =>
          { labelRules, assigneeRules } := by
  rw [loadRules]
  cases tables.listLabelRules.outcome <;> rfl

variable {tables : Tables} {book : RuleBook}

theorem Keep.outcome_listLabelRules_eq_error (h : tables.Keep book)
    (htimes : ¬ book.labels.All LabelDocument.HasOrdinaryTimes) :
    tables.listLabelRules.outcome = .error (.timestamp .invalid) := by
  obtain ⟨rows, hrows, hstores⟩ := h.labels
  rw [listLabelRules, hrows]
  refine hstores.outcome_eq_error .labelRules (fun row doc hkeeps hreadable => ?_)
    (fun row doc hkeeps => hkeeps.rule_eq_error) (by simp) htimes
  exact ⟨_, hkeeps.rule_eq hreadable⟩

theorem Keep.outcome_listAssigneeRules_eq_error (h : tables.Keep book)
    (htimes : ¬ book.assignees.All AssigneeDocument.HasOrdinaryTimes) :
    tables.listAssigneeRules.outcome = .error (.timestamp .invalid) := by
  obtain ⟨rows, hrows, hstores⟩ := h.assignees
  rw [listAssigneeRules, hrows]
  refine hstores.outcome_eq_error .assigneeRules (fun row doc hkeeps hreadable => ?_)
    (fun row doc hkeeps => hkeeps.rule_eq_error) (by simp) htimes
  exact ⟨_, hkeeps.rule_eq hreadable⟩

/-- Tables that hold a book load the rules that the book lists. -/
theorem Hold.exists_loaded (h : tables.Hold book) :
    ∃ labelRules assigneeRules, book.ListsLabels labelRules ∧ book.ListsAssignees assigneeRules
      ∧ tables.loadRules.outcome = .ok
        { labelRules := labelRules.map LabelRule.asListed
          assigneeRules := assigneeRules.map AssigneeRule.asListed } := by
  obtain ⟨labelRules, hlabels, hlabelsOutcome⟩ := h.exists_labels
  obtain ⟨assigneeRules, hassignees, hassigneesOutcome⟩ := h.exists_assignees
  refine ⟨labelRules, assigneeRules, hlabels, hassignees, ?_⟩
  rw [outcome_loadRules, hlabelsOutcome, hassigneesOutcome]
  rfl

/-- A single time out of range makes loading fail. -/
theorem Keep.outcome_loadRules_eq_error (h : tables.Keep book)
    (htimes : ¬ book.HasOrdinaryTimes) :
    tables.loadRules.outcome = .error (.timestamp .invalid) := by
  rw [outcome_loadRules]
  by_cases hlabels : book.labels.All LabelDocument.HasOrdinaryTimes
  · have hassignees : ¬ book.assignees.All AssigneeDocument.HasOrdinaryTimes :=
      fun hassignees => htimes ⟨hlabels, hassignees⟩
    obtain ⟨rules, -, hlabels⟩ := h.exists_labels hlabels
    rw [hlabels, h.outcome_listAssigneeRules_eq_error hassignees]
    rfl
  · rw [h.outcome_listLabelRules_eq_error hlabels]
    rfl

end Tables

/-- **When the rules load.**  After any history of changes in a new store, loading succeeds exactly
when all times that are kept lie in years of four digits.  Otherwise it fails as a whole: a timestamp
cannot be read. -/
theorem Store.loads_iff (history : List RuleChange) :
    ((∃ rules, (fresh.content.after history).loadRules.outcome = .ok rules)
      ↔ (RuleBook.after {} history).HasOrdinaryTimes)
    ∧ (¬ (RuleBook.after {} history).HasOrdinaryTimes →
      (fresh.content.after history).loadRules.outcome = .error (.timestamp .invalid)) := by
  have hkeep := keep_fresh.after history
  refine ⟨⟨fun ⟨rules, hload⟩ => ?_, fun htimes => ?_⟩, hkeep.outcome_loadRules_eq_error⟩
  · refine Classical.byContradiction fun htimes => ?_
    rw [hkeep.outcome_loadRules_eq_error htimes] at hload
    cases hload
  · obtain ⟨labelRules, assigneeRules, -, -, hload⟩ := Tables.Hold.exists_loaded ⟨hkeep, htimes⟩
    exact ⟨_, hload⟩

/-! ### A time an hour after the last year of four digits -/

/-- 10000-01-01T00:59:59Z, which is still the year 9999 an hour to the west. -/
def Instant.justTooLate : Instant :=
  { Instant.epoch with
    second := 253402304399
    leap_at_minute_end := by decide
    earliest_le := by decide
    le_latest := by decide }

/-- **One document takes all rules down.**  Its time is written with an offset in the year 9999, and
both documents are stored. -/
theorem Store.not_loaded_too_late :
    Timestamp.readLoosely "9999-12-31T23:59:59-01:00" = .ok .justTooLate
      ∧ (∃ next, (RuleChange.insertLabelDocument .epoch (vipDocument "1")).apply fresh.content
        = .ok next)
      ∧ (∃ next, (RuleChange.insertLabelDocument .epoch
          { vipDocument "2" with createdAt := some .justTooLate }).apply
            (fresh.content.after [.insertLabelDocument .epoch (vipDocument "1")]) = .ok next)
      ∧ (fresh.content.after
          [.insertLabelDocument .epoch (vipDocument "1"),
            .insertLabelDocument .epoch
              { vipDocument "2" with createdAt := some .justTooLate }]).loadRules.outcome
        = .error (.timestamp .invalid) := by
  refine ⟨by rfl, ?_, ?_, ?_⟩
  · exact (keep_fresh.apply _).exists_ok_iff.mpr ⟨_, rfl⟩
  · exact ((keep_fresh.after _).apply _).exists_ok_iff.mpr ⟨_, rfl⟩
  · refine (keep_fresh.after _).outcome_loadRules_eq_error fun htimes => ?_
    have hfar : Instant.justTooLate.truncateToMillis.InFourDigitYear :=
      htimes.labels "2" { vipDocument "2" with createdAt := some Instant.justTooLate.truncateToMillis }
        rfl _ rfl
    revert hfar
    decide

end MailTriage
