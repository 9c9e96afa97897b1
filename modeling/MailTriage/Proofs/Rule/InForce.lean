import MailTriage.Inspection.Health
import MailTriage.Proofs.Inspection.Conflict
import MailTriage.Proofs.Inspection.Explanation
import MailTriage.Proofs.Rule.Resolution
import MailTriage.Suggestion.Mining

/-! # Disabled rules are inert

Rules have their effects in many places, and each place leaves out the disabled ones in its own way:
before a loop, within it, or after all rules have been sorted.  What they have in common is that all
effects come from the enabled rules alone, in the order in which they are listed
(`RuleSet.sameEffects_inForce`).  So nothing changes when disabled rules are deleted or rewritten
(`RuleSet.disabled_inert`).  The one place where that takes an argument is the choice of an assignee,
which sorts first: sorting is stable, so it does not matter when disabled rules are left out
(`filter_evaluationOrder`).
-/
namespace MailTriage

/-! ### Rules in force -/

/-- The enabled rules of a rule set. -/
def RuleSet.inForce (rules : RuleSet) : RuleSet where
  labelRules := rules.labelRules.filter (·.enabled)
  assigneeRules := rules.assigneeRules.filter (·.enabled)

/-- Two rule sets decide, report and suggest the same. -/
structure RuleSet.SameEffects (rules rules' : RuleSet) : Prop where
  labels : ∀ senderText,
    decideLabels senderText rules.labelRules = decideLabels senderText rules'.labelRules
  assignee : ∀ senderText,
    resolveAssignee senderText rules.assigneeRules = resolveAssignee senderText rules'.assigneeRules
  conflicts : findConflicts rules.labelRules rules.assigneeRules
    = findConflicts rules'.labelRules rules'.assigneeRules
  dangers : ∀ samples limit, dangerousRules rules samples limit = dangerousRules rules' samples limit
  inactivity : ∀ samples, inactiveRules rules samples = inactiveRules rules' samples
  /-- The outcome of an explanation for a sender that is told. -/
  outcome : ∀ messageId senderText,
    (explain messageId senderText rules).outcome = (explain messageId senderText rules').outcome
  /-- The outcome of an explanation for a sender that is looked up unless it is told. -/
  messageOutcome : ∀ mailbox messageId senderText,
    (explainMessage mailbox messageId senderText rules).outcome
      = (explainMessage mailbox messageId senderText rules').outcome
  suggestions : ∀ log mailbox config now params choose,
    MiningOutcome.report (mineLog log mailbox config now params rules choose)
      = MiningOutcome.report (mineLog log mailbox config now params rules' choose)

namespace RuleSet.SameEffects

variable {rules rules' rules'' : RuleSet}

theorem symm (h : rules.SameEffects rules') : rules'.SameEffects rules where
  labels senderText := (h.labels senderText).symm
  assignee senderText := (h.assignee senderText).symm
  conflicts := h.conflicts.symm
  dangers samples limit := (h.dangers samples limit).symm
  inactivity samples := (h.inactivity samples).symm
  outcome messageId senderText := (h.outcome messageId senderText).symm
  messageOutcome mailbox messageId senderText := (h.messageOutcome mailbox messageId senderText).symm
  suggestions log mailbox config now params choose :=
    (h.suggestions log mailbox config now params choose).symm

theorem trans (h : rules.SameEffects rules') (h' : rules'.SameEffects rules'') :
    rules.SameEffects rules'' where
  labels senderText := (h.labels senderText).trans (h'.labels senderText)
  assignee senderText := (h.assignee senderText).trans (h'.assignee senderText)
  conflicts := h.conflicts.trans h'.conflicts
  dangers samples limit := (h.dangers samples limit).trans (h'.dangers samples limit)
  inactivity samples := (h.inactivity samples).trans (h'.inactivity samples)
  outcome messageId senderText :=
    (h.outcome messageId senderText).trans (h'.outcome messageId senderText)
  messageOutcome mailbox messageId senderText :=
    (h.messageOutcome mailbox messageId senderText).trans
      (h'.messageOutcome mailbox messageId senderText)
  suggestions log mailbox config now params choose :=
    (h.suggestions log mailbox config now params choose).trans
      (h'.suggestions log mailbox config now params choose)

end RuleSet.SameEffects

/-! ### Effects come from the rules in force -/

theorem LabelRule.filter_applies_filter_enabled (s : Sender) (rules : List LabelRule) :
    (rules.filter (·.enabled)).filter (·.applies s) = rules.filter (·.applies s) := by
  rw [List.filter_filter]
  refine List.filter_congr fun rule _ => ?_
  rw [applies]
  cases rule.enabled <;> simp

theorem decideLabels_filter_enabled (senderText : String) (rules : List LabelRule) :
    decideLabels senderText (rules.filter (·.enabled)) = decideLabels senderText rules := by
  rw [decideLabels_eq, decideLabels_eq]
  cases Sender.parse? senderText with
  | none => rfl
  | some s =>
    show decideLabelsFor s _ = decideLabelsFor s _
    rw [decideLabelsFor, decideLabelsFor, LabelRule.filter_applies_filter_enabled]

theorem AssigneeRule.resolve?_of_disabled {rule : AssigneeRule} (h : rule.enabled = false)
    (s : Sender) : rule.resolve? s = none := by
  rw [resolve?, h]
  rfl

theorem resolveAssignee_filter_enabled (senderText : String) (rules : List AssigneeRule) :
    resolveAssignee senderText (rules.filter (·.enabled)) = resolveAssignee senderText rules := by
  rw [resolveAssignee, resolveAssignee]
  cases Sender.parse? senderText with
  | none => rfl
  | some s =>
    rw [Option.bind_some, Option.bind_some, resolveAssigneeFor, resolveAssigneeFor,
      ← filter_evaluationOrder]
    exact findSome?_filter fun rule hrule => AssigneeRule.resolve?_of_disabled hrule s

theorem findConflicts_inForce (rules : RuleSet) :
    findConflicts rules.inForce.labelRules rules.inForce.assigneeRules
      = findConflicts rules.labelRules rules.assigneeRules := by
  simp only [findConflicts, labelConflicts, assigneeConflicts, RuleSet.inForce, List.filter_filter,
    Bool.and_self]

theorem any_applies_filter_enabled (s : Sender) (rules : List LabelRule) :
    (rules.filter (·.enabled)).any (·.applies s) = rules.any (·.applies s) := by
  rw [List.any_filter]
  refine congrArg rules.any (funext fun rule => ?_)
  rw [LabelRule.applies, ← Bool.and_assoc, Bool.and_self]

theorem any_assigneeRule_applies_filter_enabled (s : Sender) (rules : List AssigneeRule) :
    (rules.filter (·.enabled)).any (·.applies s) = rules.any (·.applies s) := by
  rw [List.any_filter]
  refine congrArg rules.any (funext fun rule => ?_)
  rw [AssigneeRule.applies, ← Bool.and_assoc, Bool.and_self]

theorem isCovered_inForce (rules : RuleSet) (s : Sender) (kind : SuggestionKind) :
    kind.isCovered rules.inForce s = kind.isCovered rules s := by
  cases kind with
  | autoLabel => exact any_applies_filter_enabled s rules.labelRules
  | autoMute => exact any_applies_filter_enabled s rules.labelRules
  | autoAssign => exact any_assigneeRule_applies_filter_enabled s rules.assigneeRules

/-- Mining looks at the rules only to see which senders they cover. -/
theorem mineLog_congr {rules rules' : RuleSet}
    (h : ∀ s kind, SuggestionKind.isCovered rules s kind = SuggestionKind.isCovered rules' s kind)
    (log : AuditLog) (mailbox : Mailbox) (config : MiningConfig) (now : Instant)
    (params : SuggestionParams) (choose : SuggestionKind → Nat → Nat) :
    mineLog log mailbox config now params rules choose
      = mineLog log mailbox config now params rules' choose := by
  simp only [mineLog, mineKind, suggestionsFor, h]

theorem explain_outcome_inForce (messageId : String) (senderText : Option String)
    (rules : RuleSet) :
    (explain messageId senderText rules.inForce).outcome
      = (explain messageId senderText rules).outcome := by
  rw [explain_outcome_eq_decidedOutcome, explain_outcome_eq_decidedOutcome]
  cases senderText with
  | none => rfl
  | some text =>
    rw [decidedOutcome, decidedOutcome, RuleSet.inForce, decideLabels_filter_enabled,
      resolveAssignee_filter_enabled]

/-- **All effects come from the rules in force.** -/
theorem RuleSet.sameEffects_inForce (rules : RuleSet) : rules.inForce.SameEffects rules where
  labels senderText := decideLabels_filter_enabled senderText rules.labelRules
  assignee senderText := resolveAssignee_filter_enabled senderText rules.assigneeRules
  conflicts := findConflicts_inForce rules
  dangers samples limit := by
    simp only [dangerousRules, inForce, List.filter_filter, Bool.and_self]
  inactivity samples := by
    simp only [inactiveRules, inForce, List.filter_filter, Bool.and_self]
  outcome messageId senderText := explain_outcome_inForce messageId senderText rules
  messageOutcome mailbox messageId senderText :=
    explain_outcome_inForce messageId (SenderSource.find mailbox messageId senderText).senderText
      rules
  suggestions log mailbox config now params choose := by
    rw [mineLog_congr (isCovered_inForce rules)]

/-! ### Disabled rules -/

/-- Two lists have the same rules in the same places, but for rules that are disabled in both. -/
inductive SameButDisabled {α : Type} (enabled : α → Bool) : List α → List α → Prop
  | nil : SameButDisabled enabled [] []
  | same (rule : α) {rest rest' : List α} :
    SameButDisabled enabled rest rest' → SameButDisabled enabled (rule :: rest) (rule :: rest')
  | disabled {rule rule' : α} {rest rest' : List α} (h : enabled rule = false)
    (h' : enabled rule' = false) :
    SameButDisabled enabled rest rest' → SameButDisabled enabled (rule :: rest) (rule' :: rest')

theorem SameButDisabled.filter_eq {α : Type} {enabled : α → Bool} {rules rules' : List α}
    (h : SameButDisabled enabled rules rules') : rules.filter enabled = rules'.filter enabled := by
  induction h with
  | nil => rfl
  | same rule _ ih => rw [List.filter_cons, List.filter_cons, ih]
  | disabled h h' _ ih =>
    rw [List.filter_cons_of_neg (by simp [h]), List.filter_cons_of_neg (by simp [h']), ih]

/-- Two rule sets differ at most in the disabled rules: what these say, but not that they are
disabled. -/
def RuleSet.SameButDisabled (rules rules' : RuleSet) : Prop :=
  MailTriage.SameButDisabled LabelRule.enabled rules.labelRules rules'.labelRules
    ∧ MailTriage.SameButDisabled AssigneeRule.enabled rules.assigneeRules rules'.assigneeRules

/-- **Disabled rules are inert.**  Neither deleting all disabled rules nor rewriting any of them
changes a decision, a finding, the outcome of an explanation or a suggestion. -/
theorem RuleSet.disabled_inert :
    (∀ rules : RuleSet, rules.inForce.SameEffects rules)
      ∧ ∀ rules rules' : RuleSet, rules.SameButDisabled rules' → rules.SameEffects rules' := by
  refine ⟨sameEffects_inForce, fun rules rules' ⟨hlabels, hassignees⟩ => ?_⟩
  have hinForce : rules.inForce = rules'.inForce := by
    rw [inForce, inForce, hlabels.filter_eq, hassignees.filter_eq]
  have heffects := rules.sameEffects_inForce
  rw [hinForce] at heffects
  exact heffects.symm.trans rules'.sameEffects_inForce

/-- Between two rules for a domain, a disabled one with a smaller priority may be rewritten to cover
the domain as well. -/
theorem RuleSet.disabled_inert_vendor :
    RuleSet.SameEffects
      { assigneeRules :=
          [vendorAssigneeRule "1" "a@desk.io",
            { vendorAssigneeRule "2" "b@desk.io" with
              enabled := false, priority := -1, condition := { domain := some "other.io" } },
            vendorAssigneeRule "3" "c@desk.io"] }
      { assigneeRules :=
          [vendorAssigneeRule "1" "a@desk.io",
            { vendorAssigneeRule "2" "b@desk.io" with enabled := false, priority := -1 },
            vendorAssigneeRule "3" "c@desk.io"] } :=
  RuleSet.disabled_inert.2 _ _ ⟨.nil, .same _ (.disabled rfl rfl (.same _ .nil))⟩

end MailTriage
