import MailTriage.Proofs.Rule.Document
import MailTriage.Proofs.Rule.Draft
import MailTriage.Proofs.Suggestion.Report

/-! # Proposals that can be accepted

A suggestion proposes a draft, and accepting it writes the draft, so the draft has to pass the
validation that writing applies.  Its condition does, since it names the address of a sender; so
does its assignee, since only addresses count as people that messages were given to.  A label does
unless it is blank: labels are counted as they were put on, so a blank one may be the most frequent.
This is the only way for a proposal to be refused (`validate_proposal_of_report`).
-/
namespace MailTriage

/-! ### Proposals -/

namespace ProposedRule

/-- The proposal as it is written, with no restriction on whom messages are given to. -/
def validate : ProposedRule → Except ValidationError ProposedRule
  | label draft => draft.validate.map label
  | assignee draft => (draft.validate []).map assignee

/-- The proposal with its labels trimmed. -/
def trimmed : ProposedRule → ProposedRule
  | label draft => label { draft with labels := labelSet draft.labels.toList }
  | assignee draft => assignee draft

end ProposedRule

/-- The label that was put on most often is blank. -/
def BlankLabelLeads (evidence : List AuditEntry) : Prop :=
  ∃ label, SuggestionKind.autoLabel.IsTopTarget evidence label ∧ Text.trim label = ""

section
variable {label assignee : String}

theorem isEmpty_labelSet_singleton :
    (labelSet (TextSet.singleton label).toList).isEmpty = true ↔ Text.trim label = "" := by
  rw [TextSet.isEmpty, List.isEmpty_iff, List.eq_nil_iff_forall_not_mem]
  constructor
  · intro h
    by_contra hne
    exact h (Text.trim label) (mem_labelSet.mpr
      ⟨⟨label, TextSet.mem_ofList.mpr (List.mem_singleton_self label), rfl⟩, hne⟩)
  · intro hblank name hname
    obtain ⟨⟨written, hwritten, rfl⟩, hne⟩ := mem_labelSet.mp hname
    obtain rfl := List.mem_singleton.mp (TextSet.mem_ofList.mp hwritten)
    exact hne hblank

theorem ProposedRule.validate_label_eq (draft : LabelDraft) :
    validate (.label draft) = draft.validate.map .label := rfl

theorem ProposedRule.validate_assignee_eq (draft : AssigneeDraft) :
    validate (.assignee draft) = (draft.validate []).map .assignee := rfl

/-- A proposal of one label is accepted unless the label is blank. -/
theorem ProposedRule.validate_label {draft : LabelDraft}
    (hcondition : draft.condition.validate = .ok draft.condition)
    (hlabels : draft.labels = .singleton label) :
    validate (.label draft)
      = if Text.trim label = "" then .error .missingLabels else .ok (trimmed (.label draft)) := by
  rw [validate_label_eq, LabelDraft.validate_of_condition hcondition, hlabels]
  by_cases hblank : Text.trim label = ""
  · rw [if_pos hblank, if_pos (isEmpty_labelSet_singleton.mpr hblank), Except.map]
  · rw [if_neg hblank, if_neg (mt isEmpty_labelSet_singleton.mp hblank), Except.map, trimmed,
      hlabels]

theorem validateAssigneeEmail_of_normal (h : normalizeEmail assignee = some assignee) :
    validateAssigneeEmail assignee [] = .ok assignee := by
  obtain ⟨-, domain, hdomain⟩ := normalizeEmail_eq_some h
  exact validateAssigneeEmail_eq_ok_iff.mpr
    ⟨⟨assignee, domain⟩, Sender.parse?_eq_some_iff.mpr ⟨h, hdomain⟩, rfl, rfl⟩

/-- A proposal of a person for an address is accepted as it is. -/
theorem ProposedRule.validate_assignee {draft : AssigneeDraft}
    (hcondition : draft.condition.validate = .ok draft.condition)
    (hdomain : draft.condition.domain = none)
    (hassignee : normalizeEmail draft.assigneeEmail = some draft.assigneeEmail) :
    validate (.assignee draft) = .ok (trimmed (.assignee draft)) := by
  rw [validate_assignee_eq, AssigneeDraft.validate_of_condition hcondition hdomain,
    validateAssigneeEmail_of_normal hassignee, Except.map, Except.map, trimmed]

end

/-! ### Targets -/

/-- People that messages were given to are named by addresses in normal form. -/
theorem AuditEntry.AimsAt.normalizeEmail {entry : AuditEntry} {assignee : String}
    (h : entry.AimsAt .autoAssign assignee) : normalizeEmail assignee = some assignee := by
  cases h with
  | named _ hs => exact (Sender.parse?_eq_some_iff.mp (Sender.parse?_email hs)).1
  | takenOver _ _ hs => exact (Sender.parse?_eq_some_iff.mp (Sender.parse?_email hs)).1

theorem normalizeEmail_of_isTopTarget {evidence : List AuditEntry} {assignee : String}
    (h : SuggestionKind.autoAssign.IsTopTarget evidence assignee) :
    normalizeEmail assignee = some assignee := by
  obtain ⟨entry, -, haims⟩ := h.aimed
  exact haims.normalizeEmail

theorem BlankLabelLeads.trim_eq {evidence : List AuditEntry} {label : String}
    (h : BlankLabelLeads evidence) (hlabel : SuggestionKind.autoLabel.IsTopTarget evidence label) :
    Text.trim label = "" := by
  obtain ⟨leading, hleads, hblank⟩ := h
  rwa [hlabel.unique hleads]

/-! ### Suggestions -/

section
variable {config : MiningConfig} {evidence : List AuditEntry} {suggestion : Suggestion}

/-- A proposal that presents some evidence is refused only if a blank label leads in it. -/
theorem Suggestion.Presents.validate (h : suggestion.Presents config evidence)
    (hmute : Text.trim config.muteLabel ≠ "") :
    (suggestion.kind = .autoLabel ∧ BlankLabelLeads evidence
        ∧ suggestion.proposal.validate = .error .missingLabels)
      ∨ (¬ (suggestion.kind = .autoLabel ∧ BlankLabelLeads evidence)
        ∧ suggestion.proposal.validate = .ok suggestion.proposal.trimmed) := by
  have hcondition := Condition.validate_of_parse? h.sender
  have hproposes := h.proposal
  cases hkind : suggestion.kind with
  | autoLabel =>
    rw [hkind] at hproposes
    obtain ⟨label, hlabel, hproposal⟩ := hproposes
    have hvalidate : suggestion.proposal.validate = if Text.trim label = "" then
        .error .missingLabels else .ok suggestion.proposal.trimmed := by
      rw [hproposal]
      exact ProposedRule.validate_label hcondition rfl
    by_cases hblank : Text.trim label = ""
    · rw [if_pos hblank] at hvalidate
      exact .inl ⟨rfl, ⟨label, hlabel, hblank⟩, hvalidate⟩
    · rw [if_neg hblank] at hvalidate
      exact .inr ⟨fun hlacks => hblank (hlacks.2.trim_eq hlabel), hvalidate⟩
  | autoMute =>
    rw [hkind] at hproposes
    have hvalidate : suggestion.proposal.validate = if Text.trim config.muteLabel = "" then
        .error .missingLabels else .ok suggestion.proposal.trimmed := by
      rw [show suggestion.proposal = _ from hproposes]
      exact ProposedRule.validate_label hcondition rfl
    rw [if_neg hmute] at hvalidate
    exact .inr ⟨nofun, hvalidate⟩
  | autoAssign =>
    rw [hkind] at hproposes
    obtain ⟨assignee, hassignee, hproposal⟩ := hproposes
    have hvalidate : suggestion.proposal.validate = .ok suggestion.proposal.trimmed := by
      rw [hproposal]
      exact ProposedRule.validate_assignee hcondition rfl
        (normalizeEmail_of_isTopTarget hassignee)
    exact .inr ⟨nofun, hvalidate⟩

/-- A blank label leads only where labels are mined and somebody put on a blank one. -/
theorem BlankLabelLeads.exists_blank {mailbox : Mailbox} {since : Instant}
    {entries : List AuditEntry} {email : String}
    (h : BlankLabelLeads (evidenceFor mailbox config since entries .autoLabel email)) :
    config.mineLabelApplications = true
      ∧ ∃ entry ∈ entries, ∃ label ∈ entry.label, Text.trim label = "" := by
  obtain ⟨label, hleads, hblank⟩ := h
  obtain ⟨entry, hevidence, ⟨hlabel⟩⟩ := hleads.aimed
  obtain ⟨hmem, -, haction, -⟩ := mem_evidenceFor.mp hevidence
  refine ⟨?_, entry, hmem, label, hlabel, hblank⟩
  rw [SuggestionKind.actions] at haction
  by_contra hoff
  rw [if_neg hoff] at haction
  cases haction

end

/-- Where labels are not mined, or nobody put on a blank one, every suggestion can be accepted. -/
theorem validate_proposal_of_named_labels {log : AuditLog} {mailbox : Mailbox}
    {config : MiningConfig} {now : Instant} {params : SuggestionParams} {rules : RuleSet}
    (choose : SuggestionKind → Nat → Nat) (hmute : Text.trim config.muteLabel ≠ "")
    (hnamed : config.mineLabelApplications = true → ∀ entries,
      log.entriesSince (windowStart now params.days) = .ok entries →
      ∀ entry ∈ entries, ∀ label ∈ entry.label, Text.trim label ≠ "") :
    ∀ suggestion ∈
      (MiningOutcome.report (mineLog log mailbox config now params rules choose)).suggestions,
    suggestion.proposal.validate = .ok suggestion.proposal.trimmed := by
  intro suggestion hmem
  obtain ⟨entries, hlog, hmem⟩ := mem_suggestions_report choose hmem
  rcases (presents_of_mem_suggestionsFrom hmem).validate hmute with ⟨hkind, hleads, -⟩ | ⟨-, hvalid⟩
  · rw [hkind] at hleads
    obtain ⟨hon, entry, hentry, label, hlabel, hblank⟩ := hleads.exists_blank
    exact absurd hblank (hnamed hon entries hlog entry hentry label hlabel)
  · exact hvalid

/-- **Which suggestions can be accepted.**  With a label for muting that is not blank, a proposal
passes the validation that writing it applies, and is written as it is but for blanks around its
label; only a proposal to label, where the label that was put on most often is blank, is refused
for having no label. -/
theorem validate_proposal_of_report (log : AuditLog) (mailbox : Mailbox) (config : MiningConfig)
    (now : Instant) (params : SuggestionParams) (rules : RuleSet)
    (choose : SuggestionKind → Nat → Nat) (hmute : Text.trim config.muteLabel ≠ "") :
    ∀ suggestion ∈
      (MiningOutcome.report (mineLog log mailbox config now params rules choose)).suggestions,
    ∃ entries, log.entriesSince (windowStart now params.days) = .ok entries
      ∧ ((suggestion.kind = .autoLabel
            ∧ BlankLabelLeads (evidenceFor mailbox config (windowStart now params.days) entries
              suggestion.kind suggestion.sender.email)
            ∧ suggestion.proposal.validate = .error .missingLabels)
        ∨ (¬ (suggestion.kind = .autoLabel
            ∧ BlankLabelLeads (evidenceFor mailbox config (windowStart now params.days) entries
              suggestion.kind suggestion.sender.email))
          ∧ suggestion.proposal.validate = .ok suggestion.proposal.trimmed)) := by
  intro suggestion hmem
  obtain ⟨entries, hlog, hmem⟩ := mem_suggestions_report choose hmem
  exact ⟨entries, hlog, (presents_of_mem_suggestionsFrom hmem).validate hmute⟩

/-- A muted sender gets a proposal that can be accepted. -/
theorem validate_proposal_of_report_muted :
    Text.trim ({} : MiningConfig).muteLabel ≠ ""
    ∧ ∃ suggestion ∈ (MiningOutcome.report (mineLog
        { entriesSince := fun _ => .ok [mutedBy "ann@desk.io" "1"] } (newsMailbox []) {} .epoch
        { days := 14, minActions := 1, minActors := 1 } {} fun _ _ => 0)).suggestions,
      suggestion.kind = .autoMute
        ∧ suggestion.proposal.validate = .ok suggestion.proposal.trimmed := by
  have hmute : Text.trim ({} : MiningConfig).muteLabel ≠ "" := by decide
  obtain ⟨suggestion, hmem, hkind, -⟩ := exists_mem_suggestionsFrom_iff.mpr isWarranted_muted
  rw [report_mineLog_eq _ rfl]
  refine ⟨hmute, suggestion, hmem, hkind, ?_⟩
  have hvalidate := validate_proposal_of_report
    { entriesSince := fun _ => .ok [mutedBy "ann@desk.io" "1"] } (newsMailbox []) {} .epoch
    { days := 14, minActions := 1, minActors := 1 } {} (fun _ _ => 0) hmute
  rw [report_mineLog_eq _ rfl] at hvalidate
  obtain ⟨_, -, ⟨hlabel, -, -⟩ | ⟨-, hvalid⟩⟩ := hvalidate suggestion hmem
  · rw [hkind] at hlabel
    cases hlabel
  · exact hvalid

/-- Two people put on a blank label as often as one with a name; the proposal has the blank one, and
cannot be accepted. -/
theorem blank_label_refused :
    Text.trim ({ mineLabelApplications := true } : MiningConfig).muteLabel ≠ ""
    ∧ ∃ suggestion ∈ (MiningOutcome.report (mineLog
        { entriesSince := fun _ => .ok [labelledBy "ann@desk.io" "1" "VIP",
          labelledBy "bob@desk.io" "2" " "] }
        (newsMailbox []) { mineLabelApplications := true } .epoch
        { days := 14, minActions := 2, minActors := 2 } {} fun _ _ => 0)).suggestions,
      suggestion.proposal.validate = .error .missingLabels := by
  have hmute : Text.trim ({ mineLabelApplications := true } : MiningConfig).muteLabel ≠ "" := by
    decide
  have hevidence : evidenceFor (newsMailbox []) { mineLabelApplications := true }
      (windowStart .epoch 14) [labelledBy "ann@desk.io" "1" "VIP", labelledBy "bob@desk.io" "2" " "]
      .autoLabel "news@shop.io"
      = [labelledBy "ann@desk.io" "1" "VIP", labelledBy "bob@desk.io" "2" " "] := by
    rw [evidenceFor, List.filter_eq_self]
    decide
  have hwarranted : SuggestionKind.autoLabel.IsWarranted
      { days := 14, minActions := 2, minActors := 2 } {} "news@shop.io"
      (evidenceFor (newsMailbox []) { mineLabelApplications := true } (windowStart .epoch 14)
        [labelledBy "ann@desk.io" "1" "VIP", labelledBy "bob@desk.io" "2" " "] .autoLabel
        "news@shop.io") := by
    rw [hevidence]
    exact
      { nonempty := List.cons_ne_nil _ _
        enoughActions := by decide
        enoughActors := by decide
        unmatched := by
          rintro _ - ⟨_, hmem, -⟩
          cases hmem
        target := fun _ => ⟨_, List.mem_cons_self, _, .label rfl⟩ }
  obtain ⟨suggestion, hmem, hkind, hemail⟩ := exists_mem_suggestionsFrom_iff.mpr hwarranted
  rw [report_mineLog_eq _ rfl]
  refine ⟨hmute, suggestion, hmem, ?_⟩
  have hpresents := presents_of_mem_suggestionsFrom hmem
  rw [hkind, hemail, hevidence] at hpresents
  have hblank : BlankLabelLeads
      [labelledBy "ann@desk.io" "1" "VIP", labelledBy "bob@desk.io" "2" " "] := by
    refine ⟨" ", SuggestionKind.isTopTarget_iff.mpr ⟨by decide, ?_⟩, by decide⟩
    decide
  rcases hpresents.validate hmute with ⟨-, -, hrefused⟩ | ⟨hnot, -⟩
  · exact hrefused
  · exact absurd ⟨hkind, hblank⟩ hnot

end MailTriage
