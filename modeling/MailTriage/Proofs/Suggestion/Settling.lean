import MailTriage.Proofs.Rule.Draft
import MailTriage.Proofs.Suggestion.Alike

/-! # What further rules settle

Rules enter a report only through the senders that they cover.  So further rules take suggestions
away and do nothing else: the report on a rule set that covers more senders is the former one
without the suggestions for these (`suggestions_report_of_covered`).  An enabled rule for a single
address covers the senders with this address for the kinds of suggestions that would create a rule
of its type (`RuleSet.GainsRule.isCovered_eq`), which leads to the suggestions that it settles
(`RuleSet.GainsRule.suggestions_report`).
-/
namespace MailTriage

/-! ### Senders that are covered now -/

section
variable {config : MiningConfig} {params : SuggestionParams} {rules rules' : RuleSet}

/-- Of one kind of suggestion, those are left whose senders are not covered now. -/
theorem suggestionsFor_of_covered {kind : SuggestionKind} {senderOf : String → Option Sender}
    {entries : List AuditEntry} {added : Sender → Bool}
    (h : ∀ s, kind.isCovered rules' s = (kind.isCovered rules s || added s)) :
    suggestionsFor config params rules' kind senderOf entries
      = (suggestionsFor config params rules kind senderOf entries).filter
        fun suggestion => !added suggestion.sender := by
  refine pairwise_suggestionsFor.eq_of_mem_iff (pairwise_suggestionsFor.filter _)
    fun suggestion => ?_
  rw [List.mem_filter, mem_suggestionsFor, mem_suggestionsFor]
  constructor
  · rintro ⟨evidence, hcollect, hcovered, henough, hsuggestion⟩
    rw [h, Bool.or_eq_false_iff] at hcovered
    refine ⟨⟨evidence, hcollect, hcovered.1, henough, hsuggestion⟩, ?_⟩
    rw [(Evidence.suggestion?_eq_some hsuggestion).2.1, hcovered.2]
    rfl
  · rintro ⟨⟨evidence, hcollect, hcovered, henough, hsuggestion⟩, hadded⟩
    rw [(Evidence.suggestion?_eq_some hsuggestion).2.1, Bool.not_eq_true'] at hadded
    refine ⟨evidence, hcollect, ?_, henough, hsuggestion⟩
    rw [h, hcovered, hadded]
    rfl

/-- **Covering further senders takes their suggestions away**, and leaves the others in their
order. -/
theorem suggestions_report_of_covered {log : AuditLog} {mailbox : Mailbox} {now : Instant}
    (choose choose' : SuggestionKind → Nat → Nat) {added : SuggestionKind → Sender → Bool}
    (h : ∀ (kind : SuggestionKind) s,
      kind.isCovered rules' s = (kind.isCovered rules s || added kind s)) :
    (MiningOutcome.report (mineLog log mailbox config now params rules' choose')).suggestions
      = (MiningOutcome.report
          (mineLog log mailbox config now params rules choose)).suggestions.filter
        fun suggestion => !added suggestion.kind suggestion.sender := by
  cases hlog : log.entriesSince (windowStart now params.days) with
  | error why =>
    rw [report_mineLog_eq_unavailable choose hlog, report_mineLog_eq_unavailable choose' hlog]
    rfl
  | ok entries =>
    rw [report_mineLog_eq choose hlog, report_mineLog_eq choose' hlog]
    show suggestionsFrom _ _ _ _ _ _ = (suggestionsFrom _ _ _ _ _ _).filter _
    rw [suggestionsFrom, suggestionsFrom, List.filter_flatMap]
    refine List.flatMap_congr fun kind _ => ?_
    rw [suggestionsFor_of_covered (h kind)]
    refine List.filter_congr fun suggestion hmem => ?_
    rw [kind_of_mem_suggestionsFor hmem]

end

/-! ### One rule more -/

/-- Suggestions of the two kinds would create rules of the same type. -/
def SuggestionKind.SharesRules (kind kind' : SuggestionKind) : Prop :=
  kind = .autoAssign ↔ kind' = .autoAssign

instance (kind kind' : SuggestionKind) : Decidable (kind.SharesRules kind') :=
  inferInstanceAs (Decidable (_ ↔ _))

/-- A suggestion settles the suggestions for its address that a rule of the same type would do
for. -/
def Suggestion.Settles (accepted suggestion : Suggestion) : Prop :=
  suggestion.sender.email = accepted.sender.email ∧ suggestion.kind.SharesRules accepted.kind

instance (accepted suggestion : Suggestion) : Decidable (accepted.Settles suggestion) :=
  inferInstanceAs (Decidable (_ ∧ _))

/-- The second rule set has the rules of the first and one more, which is enabled, for an address,
and of the type that suggestions of a kind create. -/
def RuleSet.GainsRule (rules rules' : RuleSet) (email : String) : SuggestionKind → Prop
  | .autoLabel | .autoMute => rules'.assigneeRules = rules.assigneeRules
    ∧ ∃ rule : LabelRule, rule.enabled = true ∧ rule.condition = { email := some email }
      ∧ rules'.labelRules.Perm (rule :: rules.labelRules)
  | .autoAssign => rules'.labelRules = rules.labelRules
    ∧ ∃ rule : AssigneeRule, rule.enabled = true ∧ rule.condition = { email := some email }
      ∧ rules'.assigneeRules.Perm (rule :: rules.assigneeRules)

/-- Two rule sets have the same rules, each of them in any order and as often as it likes. -/
def RuleSet.SameRules (rules rules' : RuleSet) : Prop :=
  (∀ rule, rule ∈ rules.labelRules ↔ rule ∈ rules'.labelRules)
    ∧ ∀ rule, rule ∈ rules.assigneeRules ↔ rule ∈ rules'.assigneeRules

theorem any_eq_of_mem_iff {α : Type} {list list' : List α} (p : α → Bool)
    (h : ∀ a, a ∈ list ↔ a ∈ list') : list.any p = list'.any p := by
  rw [Bool.eq_iff_iff, List.any_eq_true, List.any_eq_true]
  exact exists_congr fun a => and_congr_left fun _ => h a

theorem any_of_perm_cons {α : Type} {list list' : List α} {a : α} (p : α → Bool)
    (h : list'.Perm (a :: list)) : list'.any p = (list.any p || p a) := by
  rw [any_eq_of_mem_iff p fun b => h.mem_iff, List.any_cons, Bool.or_comm]

section
variable {rules rules' : RuleSet} {kind : SuggestionKind} {accepted : Sender}

theorem RuleSet.SameRules.isCovered_eq (h : rules.SameRules rules') (kind : SuggestionKind)
    (s : Sender) : kind.isCovered rules s = kind.isCovered rules' s := by
  cases kind with
  | autoLabel | autoMute => exact any_eq_of_mem_iff _ h.1
  | autoAssign => exact any_eq_of_mem_iff _ h.2

theorem LabelRule.applies_of_parse? {rule : LabelRule}
    (hsender : Sender.parse? accepted.email = some accepted) (henabled : rule.enabled = true)
    (hcondition : rule.condition = { email := some accepted.email }) (s : Sender) :
    rule.applies s = decide (s.email = accepted.email) := by
  rw [applies, henabled, hcondition, Bool.true_and, Bool.eq_iff_iff, decide_eq_true_iff]
  exact Condition.covers_of_parse? hsender s

theorem AssigneeRule.applies_of_parse? {rule : AssigneeRule}
    (hsender : Sender.parse? accepted.email = some accepted) (henabled : rule.enabled = true)
    (hcondition : rule.condition = { email := some accepted.email }) (s : Sender) :
    rule.applies s = decide (s.email = accepted.email) := by
  rw [applies, henabled, hcondition, Bool.true_and, Bool.eq_iff_iff, decide_eq_true_iff]
  exact Condition.covers_of_parse? hsender s

/-- **A rule for an address covers its senders**, for the kinds that share the rule, and changes
nothing for any other sender or kind. -/
theorem RuleSet.GainsRule.isCovered_eq (h : rules.GainsRule rules' accepted.email kind)
    (hsender : Sender.parse? accepted.email = some accepted) (other : SuggestionKind) (s : Sender) :
    other.isCovered rules' s = (other.isCovered rules s
      || decide (s.email = accepted.email ∧ other.SharesRules kind)) := by
  have hshared (hshares : other.SharesRules kind) :
      decide (s.email = accepted.email ∧ other.SharesRules kind)
        = decide (s.email = accepted.email) :=
    decide_eq_decide.mpr (and_iff_left hshares)
  have hapart (hshares : ¬ other.SharesRules kind) :
      decide (s.email = accepted.email ∧ other.SharesRules kind) = false :=
    decide_eq_false fun h => hshares h.2
  cases kind with
  | autoLabel | autoMute =>
    obtain ⟨hsame, rule, henabled, hcondition, hperm⟩ := h
    cases other with
    | autoLabel | autoMute =>
      rw [hshared (by decide), ← rule.applies_of_parse? hsender henabled hcondition]
      exact any_of_perm_cons _ hperm
    | autoAssign =>
      rw [hapart (by decide), Bool.or_false, SuggestionKind.isCovered, SuggestionKind.isCovered,
        hsame]
  | autoAssign =>
    obtain ⟨hsame, rule, henabled, hcondition, hperm⟩ := h
    cases other with
    | autoLabel | autoMute =>
      rw [hapart (by decide), Bool.or_false, SuggestionKind.isCovered, SuggestionKind.isCovered,
        hsame]
    | autoAssign =>
      rw [hshared (by decide), ← rule.applies_of_parse? hsender henabled hcondition]
      exact any_of_perm_cons _ hperm

/-- **A rule for the address of a suggestion settles what the suggestion does.** -/
theorem RuleSet.GainsRule.suggestions_report {log : AuditLog} {mailbox : Mailbox}
    {config : MiningConfig} {now : Instant} {params : SuggestionParams} {gained : RuleSet}
    {suggestion : Suggestion}
    (h : rules.GainsRule gained suggestion.sender.email suggestion.kind)
    (hsender : Sender.parse? suggestion.sender.email = some suggestion.sender)
    (hsame : rules'.SameRules gained) (choose choose' : SuggestionKind → Nat → Nat) :
    (MiningOutcome.report (mineLog log mailbox config now params rules' choose')).suggestions
      = (MiningOutcome.report
          (mineLog log mailbox config now params rules choose)).suggestions.filter
        fun other => ¬ suggestion.Settles other := by
  rw [suggestions_report_of_covered choose choose' fun kind s =>
    (hsame.isCovered_eq kind s).trans (h.isCovered_eq hsender kind s)]
  refine List.filter_congr fun other _ => ?_
  rw [decide_not]
  rfl

end

end MailTriage
