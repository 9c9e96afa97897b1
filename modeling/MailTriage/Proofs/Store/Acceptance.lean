import MailTriage.Proofs.Store.Creation
import MailTriage.Proofs.Store.Loading
import MailTriage.Proofs.Suggestion.Settling

/-! # Suggestions that are accepted

Accepting a suggestion stores the rule that it proposes.  Its address is a condition in normal form,
so validating it, storing it and reading it back leave it as it is, and the rules that are loaded
afterwards are the former ones and one that covers the senders with this address
(`Suggestion.gainsRule_of_accept`).  The next report is therefore the former one without what the
rule settles (`Tables.accepting_settles`).
-/
namespace MailTriage

/-! ### A listing with one row more -/

section
variable {Row α : Type} {name : TableName} {before : Row → Row → Bool}
  {rule : Row → Except RepositoryError α} {idOf : Row → Option String} {row : Row}
  {rows added : List Row} {listed : List α}

theorem Listing.allReadable_of_ofRows (h : (Listing.ofRows rule rows).outcome = .ok listed) :
    AllReadable rule (fun row => (rule row).toOption) rows := by
  induction rows generalizing listed with
  | nil => exact fun _ hmem => absurd hmem List.not_mem_nil
  | cons row rest ih =>
    rw [ofRows] at h
    refine List.forall_mem_cons.mpr ?_
    cases hrow : rule row with
    | ok a =>
      simp only [hrow] at h
      obtain ⟨more, hrest, -⟩ := exists_of_map_eq_ok h
      exact ⟨⟨.ok a, rfl, congrArg Except.toOption hrow.symm⟩, ih hrest⟩
    | error why =>
      simp only [hrow] at h
      cases why with
      | shape why => exact ⟨⟨.error why, rfl, congrArg Except.toOption hrow.symm⟩, ih h⟩
      | _ => cases h

/-- **A row that gives a rule adds it to the listing.**  If it gives one only under some condition,
then without the condition the listing fails. -/
theorem Listing.gains_of_insertRow {a : α} {p : Prop} [Decidable p] {why : RepositoryError}
    (hadded : insertRow name idOf row rows = .ok added)
    (hrow : rule row = if p then .ok a else .error why) (hwhy : ∀ shape, why ≠ .shape shape)
    (hlist : (Listing.ofTable name before rule (some rows)).outcome = .ok listed) :
    (p → ∃ listed', (Listing.ofTable name before rule (some added)).outcome = .ok listed')
    ∧ ∀ listed', (Listing.ofTable name before rule (some added)).outcome = .ok listed' →
      listed'.Perm (a :: listed) := by
  obtain rfl := insertRow_eq_ok hadded
  refine ⟨fun hp => ?_, fun listed' hlist' => ?_⟩
  · rw [if_pos hp] at hrow
    have hreadable : AllReadable rule (fun row => (rule row).toOption) (rows ++ [row]) := by
      refine List.forall_mem_append.mpr ⟨fun other hother => ?_, List.forall_mem_singleton.mpr ?_⟩
      · exact allReadable_of_ofRows hlist other (List.mem_mergeSort.mpr hother)
      · exact ⟨.ok a, hrow, congrArg Except.toOption hrow.symm⟩
    exact ⟨_, outcome_ofTable hreadable⟩
  · have hreadable := allReadable_of_ofRows hlist' row
      (List.mem_mergeSort.mpr (List.mem_append_right rows (List.mem_singleton_self row)))
    have hp : p := by
      by_contra hp
      rw [if_neg hp] at hrow
      obtain ⟨given, hgiven, -⟩ := hreadable
      rw [hrow] at hgiven
      cases given with
      | ok _ => cases hgiven
      | error shape => exact hwhy shape (Except.error.inj hgiven)
    rw [if_pos hp] at hrow
    have hsorted : ((rows ++ [row]).mergeSort before).Perm (row :: rows.mergeSort before) :=
      (List.mergeSort_perm _ _).trans
        (List.perm_append_comm.trans ((List.mergeSort_perm rows before).symm.cons row))
    rw [eq_filterMap_of_ofRows hlist, eq_filterMap_of_ofRows hlist']
    refine (hsorted.filterMap _).trans ?_
    rw [List.filterMap_cons_some (by rw [hrow]; rfl)]

end

/-! ### Rules that are created -/

/-- The row of a label rule that is created now gives the rule as it is listed, in a year of four
digits. -/
theorem LabelRule.rule_created {rule : LabelRule} {now : Instant}
    (hcreated : rule.createdAt = now.truncateToMillis)
    (hsettled : LabelRule.ofDocument rule.toDocument = .ok rule) :
    (LabelRow.ofDocument now rule.toDocument).rule
      = if now.InFourDigitYear then .ok rule.asListed else .error (.timestamp .invalid) := by
  have hkeeps := LabelRow.keeps_toDocument hcreated
  have hyear := inFourDigitYear_createdAt_iff hcreated
  have hlisted : LabelRule.ofDocument { rule.toDocument with id := readBack rule.toDocument.id }
      = .ok rule.asListed := by
    rw [← mem_toList_toOption, LabelRule.toOption_ofDocument_readBack, hsettled]
    exact List.mem_singleton_self _
  by_cases hnow : now.InFourDigitYear
  · have htimes := LabelRule.hasOrdinaryTimes_toDocument (hyear.mpr hnow)
    rw [if_pos hnow, hkeeps.rule_eq htimes, hlisted]
    rfl
  · rw [if_neg hnow]
    exact hkeeps.rule_eq_error fun htimes => hnow (hyear.mp (htimes _ rfl))

/-- The row of an assignee rule that is created now gives the rule as it is listed, in a year of
four digits. -/
theorem AssigneeRule.rule_created {rule : AssigneeRule} {now : Instant}
    (hcreated : rule.createdAt = now.truncateToMillis) (hupdated : rule.updatedAt = none)
    (hsettled : AssigneeRule.ofDocument rule.toDocument = .ok rule) :
    (AssigneeRow.ofDocument now rule.toDocument).rule
      = if now.InFourDigitYear then .ok rule.asListed else .error (.timestamp .invalid) := by
  have hkeeps := AssigneeRow.keeps_toDocument hcreated hupdated
  have hyear := inFourDigitYear_createdAt_iff hcreated
  have hlisted : AssigneeRule.ofDocument { rule.toDocument with id := readBack rule.toDocument.id }
      = .ok rule.asListed := by
    rw [← mem_toList_toOption, AssigneeRule.toOption_ofDocument_readBack, hsettled]
    exact List.mem_singleton_self _
  by_cases hnow : now.InFourDigitYear
  · have htimes := AssigneeRule.hasOrdinaryTimes_toDocument (hyear.mpr hnow) (by simp [hupdated])
    rw [if_pos hnow, hkeeps.rule_eq htimes, hlisted]
    rfl
  · rw [if_neg hnow]
    exact hkeeps.rule_eq_error fun htimes => hnow (hyear.mp (htimes.1 _ rfl))

namespace Tables

theorem loadRules_eq_ok_iff {tables : Tables} {rules : RuleSet} :
    tables.loadRules.outcome = .ok rules
      ↔ tables.listLabelRules.outcome = .ok rules.labelRules
        ∧ tables.listAssigneeRules.outcome = .ok rules.assigneeRules := by
  rw [outcome_loadRules]
  constructor
  · intro h
    obtain ⟨labelRules, hlabels, h⟩ := exists_of_bind_eq_ok h
    obtain ⟨assigneeRules, hassignees, rfl⟩ := exists_of_map_eq_ok h
    exact ⟨hlabels, hassignees⟩
  · rintro ⟨hlabels, hassignees⟩
    rw [hlabels, hassignees]
    rfl

section
variable {tables next : Tables} {clock : Instant} {id : String} {s : Sender} {rules : RuleSet}

/-- Creating a label rule for an address adds one rule to those that are loaded. -/
theorem gainsRule_of_createLabelRule {draft : LabelDraft} {rule : LabelRule}
    (hcreate : tables.createLabelRule clock id draft = .ok (rule, next))
    (hload : tables.loadRules.outcome = .ok rules) (hsender : Sender.parse? s.email = some s)
    (hcondition : draft.condition = { email := some s.email }) (hassign : draft.assignTo = none)
    (henabled : draft.enabled = true) :
    (clock.InFourDigitYear → ∃ rules', next.loadRules.outcome = .ok rules')
    ∧ ∀ rules', next.loadRules.outcome = .ok rules' →
      rules'.assigneeRules = rules.assigneeRules
      ∧ ∃ rule : LabelRule, rule.enabled = true ∧ rule.condition = { email := some s.email }
        ∧ rules'.labelRules.Perm (rule :: rules.labelRules) := by
  have hnormal := Condition.normalized_of_parse? hsender
  have hsettled : LabelRule.ofDocument rule.toDocument = .ok rule := by
    refine (ofDocument_created_label_rule_iff hcreate).mpr ⟨?_, by simp [hassign]⟩
    rw [hcondition, Condition.SettlesAtOnce, hnormal]
    simp
  obtain ⟨valid, hvalid, hrule, hinsert⟩ := createLabelRule_eq_ok hcreate
  obtain ⟨-, -, rfl⟩ := LabelDraft.validate_eq_ok hvalid
  obtain ⟨rows, added, hrows, hadded, rfl⟩ := insertLabelDocument_eq_ok hinsert
  obtain ⟨hlabels, hassignees⟩ := loadRules_eq_ok_iff.mp hload
  rw [listLabelRules, hrows] at hlabels
  obtain ⟨hloads, hperm⟩ := Listing.gains_of_insertRow hadded
    (LabelRule.rule_created (by rw [hrule]) hsettled) (by simp) hlabels
  refine ⟨fun hclock => ?_, fun rules' hload' => ?_⟩
  · obtain ⟨listed', hlisted'⟩ := hloads hclock
    exact ⟨⟨listed', rules.assigneeRules⟩, loadRules_eq_ok_iff.mpr ⟨hlisted', hassignees⟩⟩
  · obtain ⟨hlabels', hassignees'⟩ := loadRules_eq_ok_iff.mp hload'
    refine ⟨Except.ok.inj (hassignees'.symm.trans hassignees), rule.asListed, ?_, ?_, ?_⟩
    · show rule.enabled = true
      rw [hrule]
      exact henabled
    · show rule.condition = _
      rw [hrule, hcondition]
      exact hnormal
    · exact hperm _ hlabels'

/-- Creating an assignee rule for an address adds one rule to those that are loaded. -/
theorem gainsRule_of_createAssigneeRule {draft : AssigneeDraft} {allowed : List String}
    {rule : AssigneeRule}
    (hcreate : tables.createAssigneeRule clock id draft allowed = .ok (rule, next))
    (hload : tables.loadRules.outcome = .ok rules) (hsender : Sender.parse? s.email = some s)
    (hcondition : draft.condition = { email := some s.email }) (henabled : draft.enabled = true) :
    (clock.InFourDigitYear → ∃ rules', next.loadRules.outcome = .ok rules')
    ∧ ∀ rules', next.loadRules.outcome = .ok rules' →
      rules'.labelRules = rules.labelRules
      ∧ ∃ rule : AssigneeRule, rule.enabled = true ∧ rule.condition = { email := some s.email }
        ∧ rules'.assigneeRules.Perm (rule :: rules.assigneeRules) := by
  have hnormal := Condition.normalized_of_parse? hsender
  have hsettled : AssigneeRule.ofDocument rule.toDocument = .ok rule := by
    refine (ofDocument_created_assignee_rule_iff hcreate).mpr ?_
    rw [hcondition, Condition.SettlesAtOnce, hnormal]
    simp
  obtain ⟨valid, hvalid, hrule, hinsert⟩ := createAssigneeRule_eq_ok hcreate
  obtain ⟨assignee, -, -, -, -, rfl⟩ := AssigneeDraft.validate_eq_ok hvalid
  obtain ⟨rows, added, hrows, hadded, rfl⟩ := insertAssigneeDocument_eq_ok hinsert
  obtain ⟨hlabels, hassignees⟩ := loadRules_eq_ok_iff.mp hload
  rw [listAssigneeRules, hrows] at hassignees
  obtain ⟨hloads, hperm⟩ := Listing.gains_of_insertRow hadded
    (AssigneeRule.rule_created (by rw [hrule]) (by rw [hrule]) hsettled) (by simp) hassignees
  refine ⟨fun hclock => ?_, fun rules' hload' => ?_⟩
  · obtain ⟨listed', hlisted'⟩ := hloads hclock
    exact ⟨⟨rules.labelRules, listed'⟩, loadRules_eq_ok_iff.mpr ⟨hlabels, hlisted'⟩⟩
  · obtain ⟨hlabels', hassignees'⟩ := loadRules_eq_ok_iff.mp hload'
    refine ⟨Except.ok.inj (hlabels'.symm.trans hlabels), rule.asListed, ?_, ?_, ?_⟩
    · show rule.enabled = true
      rw [hrule]
      exact henabled
    · show rule.condition = _
      rw [hrule, hcondition]
      exact hnormal
    · exact hperm _ hassignees'

end

end Tables

/-! ### Accepting a suggestion -/

/-- Accepting a suggestion creates the rule that it proposes, with no restriction on whom messages
are given to. -/
def Suggestion.acceptance (suggestion : Suggestion) (clock : Instant) (id : String) : RuleChange :=
  match suggestion.proposal with
  | .label draft => .createLabelRule clock id draft
  | .assignee draft => .createAssigneeRule clock id draft []

section
variable {suggestion : Suggestion} {tables next : Tables} {clock : Instant} {id : String}

theorem Suggestion.exists_createLabelRule {draft : LabelDraft}
    (haccept : (suggestion.acceptance clock id).apply tables = .ok next)
    (hproposal : suggestion.proposal = .label draft) :
    ∃ rule, tables.createLabelRule clock id draft = .ok (rule, next) := by
  rw [acceptance, hproposal] at haccept
  obtain ⟨⟨rule, _⟩, hcreate, rfl⟩ := exists_of_map_eq_ok haccept
  exact ⟨rule, hcreate⟩

theorem Suggestion.exists_createAssigneeRule {draft : AssigneeDraft}
    (haccept : (suggestion.acceptance clock id).apply tables = .ok next)
    (hproposal : suggestion.proposal = .assignee draft) :
    ∃ rule, tables.createAssigneeRule clock id draft [] = .ok (rule, next) := by
  rw [acceptance, hproposal] at haccept
  obtain ⟨⟨rule, _⟩, hcreate, rfl⟩ := exists_of_map_eq_ok haccept
  exact ⟨rule, hcreate⟩

/-- **An accepted suggestion is a rule more**, and the other rules stay as they are. -/
theorem Suggestion.gainsRule_of_accept {config : MiningConfig} {evidence : List AuditEntry}
    {rules : RuleSet} (hpresents : suggestion.Presents config evidence)
    (hload : tables.loadRules.outcome = .ok rules)
    (haccept : (suggestion.acceptance clock id).apply tables = .ok next) :
    (clock.InFourDigitYear → ∃ rules', next.loadRules.outcome = .ok rules')
    ∧ ∀ rules', next.loadRules.outcome = .ok rules' →
      rules.GainsRule rules' suggestion.sender.email suggestion.kind := by
  have hproposes := hpresents.proposal
  cases hkind : suggestion.kind with
  | autoLabel =>
    rw [hkind] at hproposes
    obtain ⟨label, -, hproposal⟩ := hproposes
    obtain ⟨rule, hcreate⟩ := exists_createLabelRule haccept hproposal
    exact Tables.gainsRule_of_createLabelRule hcreate hload hpresents.sender rfl rfl rfl
  | autoMute =>
    rw [hkind] at hproposes
    obtain ⟨rule, hcreate⟩ := exists_createLabelRule haccept hproposes
    exact Tables.gainsRule_of_createLabelRule hcreate hload hpresents.sender rfl rfl rfl
  | autoAssign =>
    rw [hkind] at hproposes
    obtain ⟨assignee, -, hproposal⟩ := hproposes
    obtain ⟨rule, hcreate⟩ := exists_createAssigneeRule haccept hproposal
    exact Tables.gainsRule_of_createAssigneeRule hcreate hload hpresents.sender rfl rfl

end

/-- **Accepting a suggestion settles it and nothing else.**  Take a report on the rules that are
loaded, and a suggestion whose proposed rule is created.  In a year of four digits the rules load
again; they are the former ones and one more, which is for the suggestion's address; and a report on
these rules has the former suggestions in the former order, without those for the address that a rule
of the same type does for. -/
theorem Tables.accepting_settles {tables next : Tables} {log : AuditLog} {mailbox : Mailbox}
    {config : MiningConfig} {now : Instant} {params : SuggestionParams} {rules : RuleSet}
    {choose : SuggestionKind → Nat → Nat} {accepted : Suggestion} {clock : Instant} {id : String}
    (hload : tables.loadRules.outcome = .ok rules)
    (hmem : accepted ∈
      (MiningOutcome.report (mineLog log mailbox config now params rules choose)).suggestions)
    (haccept : (accepted.acceptance clock id).apply tables = .ok next) :
    (clock.InFourDigitYear → ∃ rules', next.loadRules.outcome = .ok rules')
    ∧ ∀ rules', next.loadRules.outcome = .ok rules' →
      rules.GainsRule rules' accepted.sender.email accepted.kind
      ∧ ∀ (reloaded : RuleSet) (choose' : SuggestionKind → Nat → Nat), reloaded.SameRules rules' →
        (MiningOutcome.report
            (mineLog log mailbox config now params reloaded choose')).suggestions
          = (MiningOutcome.report
              (mineLog log mailbox config now params rules choose)).suggestions.filter
            fun suggestion => ¬ accepted.Settles suggestion := by
  obtain ⟨entries, -, hfrom⟩ := mem_suggestions_report choose hmem
  have hpresents := presents_of_mem_suggestionsFrom hfrom
  obtain ⟨hloads, hgains⟩ := Suggestion.gainsRule_of_accept hpresents hload haccept
  refine ⟨hloads, fun rules' hload' => ⟨hgains rules' hload', fun reloaded choose' hsame => ?_⟩⟩
  exact (hgains rules' hload').suggestions_report hpresents.sender hsame choose choose'

theorem Tables.loadRules_unused : unused.loadRules.outcome = .ok {} :=
  loadRules_eq_ok_iff.mpr ⟨Listing.outcome_ofTable_nil, Listing.outcome_ofTable_nil⟩

/-- In a new store a suggestion to mute is accepted, and not made again. -/
theorem Tables.accepting_settles_muted :
    ∃ (accepted : Suggestion) (next : Tables) (rules : RuleSet),
      accepted ∈ (MiningOutcome.report (mineLog
        { entriesSince := fun _ => .ok [mutedBy "ann@desk.io" "1"] } (newsMailbox []) {} .epoch
        { days := 14, minActions := 1, minActors := 1 } {} fun _ _ => 0)).suggestions
      ∧ (accepted.acceptance .epoch "1").apply unused = .ok next
      ∧ next.loadRules.outcome = .ok rules
      ∧ accepted ∉ (MiningOutcome.report (mineLog
        { entriesSince := fun _ => .ok [mutedBy "ann@desk.io" "1"] } (newsMailbox []) {} .epoch
        { days := 14, minActions := 1, minActors := 1 } rules fun _ _ => 0)).suggestions := by
  obtain ⟨accepted, hfrom, hkind, hemail⟩ := exists_mem_suggestionsFrom_iff.mpr isWarranted_muted
  have hmem : accepted ∈ (MiningOutcome.report (mineLog
      { entriesSince := fun _ => .ok [mutedBy "ann@desk.io" "1"] } (newsMailbox []) {} .epoch
      { days := 14, minActions := 1, minActors := 1 } {} fun _ _ => 0)).suggestions := by
    rw [report_mineLog_eq _ rfl]
    exact hfrom
  have hpresents := presents_of_mem_suggestionsFrom hfrom
  have hproposes := hpresents.proposal
  rw [hkind, hemail] at hproposes
  obtain ⟨next, haccept⟩ : ∃ next, (accepted.acceptance .epoch "1").apply unused = .ok next := by
    rw [Suggestion.acceptance, show accepted.proposal = _ from hproposes]
    exact ⟨_, rfl⟩
  obtain ⟨hloads, hsettles⟩ := accepting_settles loadRules_unused hmem haccept
  obtain ⟨rules, hload⟩ := hloads (by decide)
  refine ⟨accepted, next, rules, hmem, haccept, hload, fun hagain => ?_⟩
  rw [(hsettles rules hload).2 rules _ ⟨fun _ => Iff.rfl, fun _ => Iff.rfl⟩, List.mem_filter]
    at hagain
  exact of_decide_eq_true hagain.2 ⟨rfl, Iff.rfl⟩

end MailTriage
