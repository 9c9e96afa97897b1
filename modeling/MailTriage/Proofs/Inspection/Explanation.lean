import MailTriage.Inspection.Explanation
import MailTriage.Proofs.Rule.Decision

/-! # Explanations agree with decisions

An explanation finds the rule that gives the assignment, and the rule that is selected, with flags
of its own, while its outcome is decided on the address it has normalized already.  Both tell the
same story: the outcome is what the rules decide for the sender text as it was given, and it can be
read off the traces (`explain_agrees`).

The two passes are followed flag by flag: once a flag is up no later trace is marked, and before
that the first trace to be marked is the one of the rule that the decision finds.
-/
namespace MailTriage

variable (sender : Option Sender)

/-- Whether a label rule is enabled and covers the sender, if there is a sender. -/
def LabelRule.appliesTo (rule : LabelRule) : Bool := sender.any rule.applies

/-! ### Traces of label rules -/

/-- The trace of one label rule. -/
def LabelRule.trace (rule : LabelRule) (taken : Bool) : LabelRuleTrace where
  ruleId := rule.id
  enabled := rule.enabled
  condition := rule.condition
  reason := rule.condition.reasonFor? sender
  labels := rule.labels
  applied := rule.appliesTo sender
  assignToApplied := rule.appliesTo sender && !taken && rule.assignTo.isSome

theorem labelTraces_cons (taken : Bool) (rule : LabelRule) (rest : List LabelRule) :
    labelTraces sender taken (rule :: rest) = rule.trace sender taken
      :: labelTraces sender (taken || (rule.trace sender taken).assignToApplied) rest := by
  have h : (rule.enabled && (rule.condition.reasonFor? sender).isSome) = rule.appliesTo sender := by
    cases sender <;> simp [Condition.reasonFor?, LabelRule.appliesTo, LabelRule.applies,
      Condition.covers]
  rw [labelTraces, h]
  rfl

/-- There is one trace for each label rule, in the order of the rules. -/
theorem labelTraces_ruleIds (taken : Bool) (rules : List LabelRule) :
    (labelTraces sender taken rules).map (·.ruleId) = rules.map (·.id) := by
  induction rules generalizing taken with
  | nil => rfl
  | cons rule rest ih =>
    rw [labelTraces_cons, List.map_cons, List.map_cons, ih]
    rfl

/-- The labels of the traces that say so are those of the rules that apply. -/
theorem labels_of_applied (taken : Bool) (rules : List LabelRule) :
    ((labelTraces sender taken rules).filter (·.applied)).map (·.labels)
      = (rules.filter fun rule => rule.appliesTo sender).map (·.labels) := by
  induction rules generalizing taken with
  | nil => rfl
  | cons rule rest ih =>
    rw [labelTraces_cons]
    by_cases h : rule.appliesTo sender = true
    · rw [List.filter_cons_of_pos (by exact h), List.filter_cons_of_pos (by exact h),
        List.map_cons, List.map_cons, ih]
      rfl
    · rw [List.filter_cons_of_neg (by exact h), List.filter_cons_of_neg (by exact h), ih]

/-- The label rules that give their assignment, each with its trace. -/
def assigning (taken : Bool) (rules : List LabelRule) : List (LabelRule × LabelRuleTrace) :=
  (rules.zip (labelTraces sender taken rules)).filter (·.2.assignToApplied)

theorem assigning_cons_of_pos {taken : Bool} {rule : LabelRule} (rest : List LabelRule)
    (h : (rule.trace sender taken).assignToApplied = true) :
    assigning sender taken (rule :: rest)
      = (rule, rule.trace sender taken) :: assigning sender true rest := by
  rw [assigning, labelTraces_cons, List.zip_cons_cons, List.filter_cons_of_pos (by exact h), h,
    Bool.or_true]
  rfl

theorem assigning_cons_of_neg {taken : Bool} {rule : LabelRule} (rest : List LabelRule)
    (h : (rule.trace sender taken).assignToApplied = false) :
    assigning sender taken (rule :: rest) = assigning sender taken rest := by
  rw [assigning, labelTraces_cons, List.zip_cons_cons, List.filter_cons_of_neg (by simp [h]), h,
    Bool.or_false]
  rfl

/-- Once an assignment is given, no later rule gives one. -/
theorem assigning_taken (rules : List LabelRule) : assigning sender true rules = [] := by
  induction rules with
  | nil => rfl
  | cons rule rest ih => rw [assigning_cons_of_neg sender rest (by simp [LabelRule.trace]), ih]

/-- **The assignment flag.**  At most one rule gives its assignment, the first one that applies and
has one. -/
theorem assigning_eq (rules : List LabelRule) :
    (assigning sender false rules = []
        ∧ (rules.filter fun rule => rule.appliesTo sender).findSome? (·.assignTo) = none)
      ∨ ∃ rule trace, assigning sender false rules = [(rule, trace)] ∧ rule.assignTo.isSome
        ∧ (rules.filter fun rule => rule.appliesTo sender).findSome? (·.assignTo)
          = rule.assignTo := by
  induction rules with
  | nil => exact .inl ⟨rfl, rfl⟩
  | cons rule rest ih =>
    by_cases happlies : rule.appliesTo sender = true
    · rw [List.filter_cons_of_pos (by exact happlies), List.findSome?_cons]
      cases hassign : rule.assignTo with
      | none =>
        rw [assigning_cons_of_neg sender rest (by simp [LabelRule.trace, hassign])]
        exact ih
      | some assignment =>
        -- this rule raises the flag, which keeps all later ones from giving theirs
        refine .inr ⟨rule, rule.trace sender false, ?_, by rw [hassign]; rfl, hassign.symm⟩
        rw [assigning_cons_of_pos sender rest (by simp [LabelRule.trace, happlies, hassign]),
          assigning_taken]
    · rw [List.filter_cons_of_neg (by exact happlies),
        assigning_cons_of_neg sender rest (by simp [LabelRule.trace, happlies])]
      exact ih

/-- The same of the traces alone. -/
theorem assignToApplied_eq (rules : List LabelRule) :
    ((labelTraces sender false rules).filter (·.assignToApplied) = []
        ∧ (rules.filter fun rule => rule.appliesTo sender).findSome? (·.assignTo) = none)
      ∨ ∃ rule trace, (labelTraces sender false rules).filter (·.assignToApplied) = [trace]
        ∧ (rule, trace) ∈ rules.zip (labelTraces sender false rules) ∧ rule.assignTo.isSome
        ∧ (rules.filter fun rule => rule.appliesTo sender).findSome? (·.assignTo)
          = rule.assignTo := by
  have hlength : (labelTraces sender false rules).length = rules.length := by
    simpa using congrArg List.length (labelTraces_ruleIds sender false rules)
  have hmarked : (labelTraces sender false rules).filter (·.assignToApplied)
      = (assigning sender false rules).map Prod.snd := by
    have hsnd : (rules.zip (labelTraces sender false rules)).map Prod.snd
        = labelTraces sender false rules := List.map_snd_zip (by omega)
    conv => lhs; rw [← hsnd, List.filter_map]
    rfl
  rw [hmarked]
  rcases assigning_eq sender rules with ⟨hnil, hnone⟩ | ⟨rule, trace, hone, hsome, hfirst⟩
  · exact .inl ⟨by rw [hnil]; rfl, hnone⟩
  · refine .inr ⟨rule, trace, by rw [hone]; rfl, ?_, hsome, hfirst⟩
    have hmem : (rule, trace) ∈ assigning sender false rules := hone ▸ List.mem_singleton_self _
    exact (List.mem_filter.mp hmem).1

/-! ### Traces of assignee rules -/

/-- The trace of one assignee rule. -/
def AssigneeRule.trace (rule : AssigneeRule) (taken : Bool) : AssigneeRuleTrace where
  ruleId := rule.id
  enabled := rule.enabled
  priority := rule.priority
  condition := rule.condition
  reason := rule.condition.reasonFor? sender
  assigneeEmail := rule.assigneeEmail
  selected := rule.enabled && (rule.condition.reasonFor? sender).isSome && !taken

theorem assigneeTraces_cons (taken : Bool) (rule : AssigneeRule) (rest : List AssigneeRule) :
    assigneeTraces sender taken (rule :: rest) = rule.trace sender taken
      :: assigneeTraces sender (taken || (rule.trace sender taken).selected) rest := rfl

/-- Once a rule is selected, no later rule is. -/
theorem selected_taken (rules : List AssigneeRule) :
    (assigneeTraces sender true rules).filter (·.selected) = [] := by
  induction rules with
  | nil => rfl
  | cons rule rest ih =>
    rw [assigneeTraces_cons, List.filter_cons_of_neg (by simp [AssigneeRule.trace]), Bool.true_or,
      ih]

/-- What a trace says about the assignee. -/
def AssigneeRuleTrace.resolved? (trace : AssigneeRuleTrace) : Option ResolvedAssignee :=
  trace.reason.map fun reason =>
    { ruleId := trace.ruleId, assigneeEmail := trace.assigneeEmail, priority := trace.priority
      reason }

/-- A rule resolves the sender exactly if its trace is selected, unless the place is taken, and then
it does so as the trace says. -/
theorem resolve?_eq (rule : AssigneeRule) :
    sender.bind rule.resolve? = if (rule.trace sender false).selected
      then (rule.trace sender false).resolved? else none := by
  cases sender with
  | none => simp [AssigneeRule.trace, Condition.reasonFor?]
  | some s =>
    cases henabled : rule.enabled <;> cases hreason : rule.condition.reason? s <;>
      simp [AssigneeRule.resolve?, AssigneeRule.trace, AssigneeRuleTrace.resolved?,
        Condition.reasonFor?, henabled, hreason]

/-- **The selection flag.**  At most one trace is selected, the one of the first rule that resolves
the sender. -/
theorem selected_eq (rules : List AssigneeRule) :
    ((assigneeTraces sender false rules).filter (·.selected) = []
        ∧ rules.findSome? (fun rule => sender.bind rule.resolve?) = none)
      ∨ ∃ trace, (assigneeTraces sender false rules).filter (·.selected) = [trace]
        ∧ trace.reason.isSome
        ∧ rules.findSome? (fun rule => sender.bind rule.resolve?) = trace.resolved? := by
  induction rules with
  | nil => exact .inl ⟨rfl, rfl⟩
  | cons rule rest ih =>
    rw [assigneeTraces_cons, List.findSome?_cons, resolve?_eq]
    by_cases hselected : (rule.trace sender false).selected = true
    · -- this rule raises the flag, and the search ends with it
      have hreason : (rule.trace sender false).reason.isSome = true := by
        simp only [AssigneeRule.trace, Bool.and_eq_true] at hselected
        exact hselected.1.2
      obtain ⟨reason, hsome⟩ := Option.isSome_iff_exists.mp hreason
      refine .inr ⟨rule.trace sender false, ?_, hreason, ?_⟩
      · rw [List.filter_cons_of_pos hselected, hselected, Bool.or_true, selected_taken]
      · rw [if_pos hselected, AssigneeRuleTrace.resolved?, hsome]
        rfl
    · rw [if_neg hselected, List.filter_cons_of_neg hselected, Bool.eq_false_iff.mpr hselected]
      exact ih

/-! ### Explanations -/

/-- What the rules decide for a sender text, if there is one. -/
def decidedOutcome (senderText : Option String) (rules : RuleSet) : ExplainedOutcome :=
  match senderText with
  | none => {}
  | some text =>
    { labels := (decideLabels text rules.labelRules).labels
      assignTo := (decideLabels text rules.labelRules).assignTo
      assignee := resolveAssignee text rules.assigneeRules }

/-- An explanation that agrees with what the rules decide for a sender text. -/
structure MessageExplanation.Agrees (e : MessageExplanation) (senderText : Option String)
    (rules : RuleSet) : Prop where
  /-- Each label rule has its trace. -/
  ruleIds : e.labelRules.map (·.ruleId) = rules.labelRules.map (·.id)
  /-- The labels are those of the traces that say they are applied. -/
  labels : e.outcome.labels = TextSet.unions ((e.labelRules.filter (·.applied)).map (·.labels))
  /-- At most one trace gives an assignment, and it is the one of its rule. -/
  assignTo :
    (e.labelRules.filter (·.assignToApplied) = [] ∧ e.outcome.assignTo = none)
      ∨ ∃ rule trace, e.labelRules.filter (·.assignToApplied) = [trace]
        ∧ (rule, trace) ∈ rules.labelRules.zip e.labelRules
        ∧ rule.assignTo.isSome ∧ e.outcome.assignTo = rule.assignTo
  /-- At most one trace is selected, and the assignee is the one it names. -/
  assignee :
    (e.assigneeRules.filter (·.selected) = [] ∧ e.outcome.assignee = none)
      ∨ ∃ trace reason, e.assigneeRules.filter (·.selected) = [trace]
        ∧ trace.reason = some reason
        ∧ e.outcome.assignee
          = some ⟨trace.ruleId, trace.assigneeEmail, trace.priority, reason⟩
  /-- The outcome is the decision for the text as it was given. -/
  outcome : e.outcome = decidedOutcome senderText rules
  /-- Without a sender nothing is decided. -/
  empty : (senderText.bind Sender.parse?).isSome ∨ e.outcome = {}

theorem decideLabels_email {text : String} {s : Sender} (h : Sender.parse? text = some s)
    (rules : List LabelRule) : decideLabels s.email rules = decideLabelsFor s rules := by
  rw [decideLabels_eq, Sender.parse?_email h, Option.elim_some]

theorem resolveAssignee_email {text : String} {s : Sender} (h : Sender.parse? text = some s)
    (rules : List AssigneeRule) : resolveAssignee s.email rules = resolveAssigneeFor s rules := by
  simp only [resolveAssignee, Sender.parse?_email h, Option.bind_some]

theorem explain_labelRules (messageId : String) (senderText : Option String) (rules : RuleSet) :
    (explain messageId senderText rules).labelRules
      = labelTraces (senderText.bind Sender.parse?) false rules.labelRules := rfl

theorem explain_assigneeRules (messageId : String) (senderText : Option String)
    (rules : RuleSet) :
    (explain messageId senderText rules).assigneeRules
      = assigneeTraces (senderText.bind Sender.parse?) false
        (evaluationOrder rules.assigneeRules) := rfl

/-- The outcome in terms of the rules that apply to the sender. -/
theorem explain_outcome (messageId : String) (senderText : Option String) (rules : RuleSet) :
    (explain messageId senderText rules).outcome =
      { labels := TextSet.unions ((rules.labelRules.filter fun rule =>
          rule.appliesTo (senderText.bind Sender.parse?)).map (·.labels))
        assignTo := (rules.labelRules.filter fun rule =>
          rule.appliesTo (senderText.bind Sender.parse?)).findSome? (·.assignTo)
        assignee := (evaluationOrder rules.assigneeRules).findSome? fun rule =>
          (senderText.bind Sender.parse?).bind rule.resolve? } := by
  show explainedOutcome (senderText.bind Sender.parse?) rules = _
  cases hsender : senderText.bind Sender.parse? with
  | none =>
    have hnone : rules.labelRules.filter (fun rule => rule.appliesTo none) = [] :=
      List.filter_eq_nil_iff.mpr fun rule _ => by simp [LabelRule.appliesTo]
    have hassignee : (evaluationOrder rules.assigneeRules).findSome?
        (fun rule => (none : Option Sender).bind rule.resolve?) = none :=
      List.findSome?_eq_none_iff.mpr fun _ _ => rfl
    rw [hnone, hassignee]
    rfl
  | some s =>
    obtain ⟨text, -, hparse⟩ := Option.bind_eq_some_iff.mp hsender
    simp only [explainedOutcome, decideLabels_email hparse, resolveAssignee_email hparse,
      decideLabelsFor, resolveAssigneeFor, Option.bind_some, LabelRule.appliesTo, Option.any_some]

theorem explain_outcome_eq_decidedOutcome (messageId : String) (senderText : Option String)
    (rules : RuleSet) :
    (explain messageId senderText rules).outcome = decidedOutcome senderText rules := by
  show explainedOutcome (senderText.bind Sender.parse?) rules = _
  cases senderText with
  | none => rfl
  | some text =>
    rw [decidedOutcome, Option.bind_some]
    cases hparse : Sender.parse? text with
    | none =>
      rw [decideLabels_eq, resolveAssignee, hparse]
      rfl
    | some s =>
      rw [explainedOutcome, decideLabels_email hparse, resolveAssignee_email hparse,
        decideLabels_eq, resolveAssignee, hparse]
      rfl

/-- **An explanation never contradicts the decision.**  For every message, sender text and rules the
flags of the traces, the outcome and the decision for the text as it was given say the same. -/
theorem explain_agrees (messageId : String) (senderText : Option String) (rules : RuleSet) :
    (explain messageId senderText rules).Agrees senderText rules where
  ruleIds := labelTraces_ruleIds _ false rules.labelRules
  labels := by
    rw [explain_outcome, explain_labelRules, labels_of_applied]
  assignTo := by
    rw [explain_outcome, explain_labelRules]
    exact assignToApplied_eq (senderText.bind Sender.parse?) rules.labelRules
  assignee := by
    rw [explain_outcome, explain_assigneeRules]
    rcases selected_eq (senderText.bind Sender.parse?) (evaluationOrder rules.assigneeRules) with
      hnone | ⟨trace, hone, hsome, hfirst⟩
    · exact .inl hnone
    · obtain ⟨reason, hreason⟩ := Option.isSome_iff_exists.mp hsome
      refine .inr ⟨trace, reason, hone, hreason, hfirst.trans ?_⟩
      rw [AssigneeRuleTrace.resolved?, hreason]
      rfl
  outcome := explain_outcome_eq_decidedOutcome messageId senderText rules
  empty := by
    cases hsender : senderText.bind Sender.parse? with
    | none =>
      refine .inr ?_
      show explainedOutcome (senderText.bind Sender.parse?) rules = _
      rw [hsender]
      rfl
    | some s => exact .inl rfl

end MailTriage
