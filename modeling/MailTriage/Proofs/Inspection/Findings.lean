import Mathlib.Data.List.Basic
import MailTriage.Inspection.Health
import MailTriage.Mailbox.Memory
import MailTriage.Proofs.Inspection.Conflict
import MailTriage.Proofs.Inspection.Explanation
import MailTriage.Proofs.Store.Mailbox

/-! # What findings say

The findings of an inspection are read off senders that were taken out of a sample beforehand.  An
explanation takes one message at a time and knows nothing of samples.  Both count alike: a rule has
as many hits in a sample as there are messages in it whose explanation shows why the rule covers the
sender (`hits_ofMessages_eq`).  So too many matches, inactivity and the count shown with a finding
all say what explanations of the drawn messages would (`inspection_agrees_with_explanations`).

Label rules and assignee rules are inspected in the same way.  So both lists of findings are written
over one list of inspected rules (`dangerousRules_eq`, `inactiveRules_eq`), and everything else is
said of one such rule.
-/
namespace MailTriage

/-! ### Inspected rules -/

/-- The audience that rules of a kind are tried on. -/
def RuleKind.audience : RuleKind → Audience
  | .label => .everyone
  | .assignee => .unassigned

/-- What a finding or a trace tells of its rule. -/
structure RuleSubject where
  id : String
  kind : RuleKind
  condition : Condition
deriving DecidableEq

/-- What an inspection sees of a rule. -/
structure InspectedRule extends RuleSubject where
  /-- Whether the author confirmed a broad domain; nobody does so for a label rule. -/
  confirmed : Bool

/-- What findings and traces tell of a label rule. -/
def LabelRule.subject (rule : LabelRule) : RuleSubject := ⟨rule.id, .label, rule.condition⟩

/-- What findings and traces tell of an assignee rule. -/
def AssigneeRule.subject (rule : AssigneeRule) : RuleSubject :=
  ⟨rule.id, .assignee, rule.condition⟩

/-- The rule that a finding is about. -/
def DangerousRule.subject (finding : DangerousRule) : RuleSubject :=
  ⟨finding.ruleId, finding.kind, finding.condition⟩

/-- The rule that a finding is about. -/
def InactiveRule.subject (finding : InactiveRule) : RuleSubject :=
  ⟨finding.ruleId, finding.kind, finding.condition⟩

namespace RuleSet

/-- The rules that an inspection looks at, in its order. -/
def inspected (rules : RuleSet) : List InspectedRule :=
  (rules.labelRules.filter (·.enabled)).map (fun rule => ⟨rule.subject, false⟩)
    ++ (rules.assigneeRules.filter (·.enabled)).map
      fun rule => ⟨rule.subject, rule.broadDomainConfirmed⟩

/-- All rules, as findings and traces tell of them. -/
def subjects (rules : RuleSet) : List RuleSubject :=
  rules.labelRules.map (·.subject) ++ rules.assigneeRules.map (·.subject)

/-- A subject is that of an enabled rule. -/
def IsEnabled (rules : RuleSet) (subject : RuleSubject) : Prop :=
  (∃ rule ∈ rules.labelRules, rule.enabled = true ∧ rule.subject = subject)
    ∨ ∃ rule ∈ rules.assigneeRules, rule.enabled = true ∧ rule.subject = subject

theorem isEnabled_iff {rules : RuleSet} {subject : RuleSubject} :
    rules.IsEnabled subject ↔ ∃ rule ∈ rules.inspected, rule.toRuleSubject = subject := by
  simp only [IsEnabled, inspected, List.mem_append, List.mem_map, List.mem_filter]
  constructor
  · rintro (⟨rule, hmem, henabled, rfl⟩ | ⟨rule, hmem, henabled, rfl⟩)
    · exact ⟨_, .inl ⟨rule, ⟨hmem, henabled⟩, rfl⟩, rfl⟩
    · exact ⟨_, .inr ⟨rule, ⟨hmem, henabled⟩, rfl⟩, rfl⟩
  · rintro ⟨_, ⟨rule, ⟨hmem, henabled⟩, rfl⟩ | ⟨rule, ⟨hmem, henabled⟩, rfl⟩, rfl⟩
    · exact .inl ⟨rule, hmem, henabled, rfl⟩
    · exact .inr ⟨rule, hmem, henabled, rfl⟩

theorem IsEnabled.mem_subjects {rules : RuleSet} {subject : RuleSubject}
    (h : rules.IsEnabled subject) : subject ∈ rules.subjects := by
  rcases h with ⟨rule, hmem, -, rfl⟩ | ⟨rule, hmem, -, rfl⟩
  · exact List.mem_append_left _ (List.mem_map_of_mem hmem)
  · exact List.mem_append_right _ (List.mem_map_of_mem hmem)

end RuleSet

/-- The sample that rules of a kind are tried on. -/
def Samples.drawFor (samples : Samples) : RuleKind → Option SampleDraw
  | .label => samples.forLabels
  | .assignee => samples.forAssignees

namespace InspectedRule

/-- What is dangerous about a rule whatever the messages are. -/
def broadDangers (rule : InspectedRule) : List Danger :=
  match rule.condition.broadDomain? with
  | some domain => [.broadDomain domain]
  | none => if rule.confirmed then [.confirmedBroadDomain] else []

/-- What is dangerous about a rule as its sample goes. -/
def sampledDangers (samples : Samples) (limit : Nat) (rule : InspectedRule) : List Danger :=
  match samples.drawFor rule.kind with
  | some draw =>
    if limit < draw.hits rule.condition then
      [.tooManyMatches (draw.hits rule.condition) draw.size limit]
    else []
  | none => []

/-- The finding about a danger of a rule. -/
def finding (samples : Samples) (rule : InspectedRule) (danger : Danger) : DangerousRule where
  ruleId := rule.id
  kind := rule.kind
  condition := rule.condition
  danger := danger
  previewCount := (samples.drawFor rule.kind).map (·.hits rule.condition)

/-- The findings about the dangers of a rule. -/
def dangers (samples : Samples) (limit : Nat) (rule : InspectedRule) : List DangerousRule :=
  (rule.broadDangers ++ rule.sampledDangers samples limit).map (rule.finding samples)

/-- The finding about a rule that is inactive. -/
def inactivity? (samples : Samples) (rule : InspectedRule) : Option InactiveRule :=
  (samples.drawFor rule.kind).bind (inactivityOf? rule.id rule.kind rule.condition)

end InspectedRule

/-- The findings about dangerous rules are those about one rule after another. -/
theorem dangerousRules_eq (rules : RuleSet) (samples : Samples) (limit : Nat) :
    dangerousRules rules samples limit = rules.inspected.flatMap (·.dangers samples limit) := by
  rw [RuleSet.inspected, List.flatMap_append, List.flatMap_map, List.flatMap_map]
  rfl

/-- So are the findings about inactive rules. -/
theorem inactiveRules_eq (rules : RuleSet) (samples : Samples) :
    inactiveRules rules samples = rules.inspected.filterMap (·.inactivity? samples) := by
  have hlost : ∀ {α : Type} (l : List α), l.filterMap (fun _ : α => (none : Option InactiveRule))
      = [] := fun l => List.filterMap_eq_nil_iff.mpr fun _ _ => rfl
  rw [RuleSet.inspected, List.filterMap_append, List.filterMap_map, List.filterMap_map,
    inactiveRules]
  congr 1
  · show _ = List.filterMap (fun rule : LabelRule =>
      samples.forLabels.bind (inactivityOf? rule.id .label rule.condition)) _
    cases samples.forLabels with
    | none => exact (hlost _).symm
    | some draw => rfl
  · show _ = List.filterMap (fun rule : AssigneeRule =>
      samples.forAssignees.bind (inactivityOf? rule.id .assignee rule.condition)) _
    cases samples.forAssignees with
    | none => exact (hlost _).symm
    | some draw => rfl

/-! ### The findings about one rule -/

section
variable {rule : InspectedRule} {samples : Samples} {limit : Nat}

theorem InspectedRule.isSampled_of_mem_broadDangers {danger : Danger}
    (h : danger ∈ rule.broadDangers) : danger.isSampled = false := by
  rw [broadDangers] at h
  split at h
  · rw [List.mem_singleton.mp h]
    rfl
  · split at h
    · rw [List.mem_singleton.mp h]
      rfl
    · cases h

theorem InspectedRule.mem_sampledDangers {danger : Danger} :
    danger ∈ rule.sampledDangers samples limit
      ↔ ∃ draw ∈ samples.drawFor rule.kind, limit < draw.hits rule.condition
        ∧ danger = .tooManyMatches (draw.hits rule.condition) draw.size limit := by
  rw [sampledDangers]
  cases samples.drawFor rule.kind with
  | none => simp
  | some draw =>
    by_cases h : limit < draw.hits rule.condition <;> simp [h]

/-- A finding that comes from a sample says how many hits there were in it. -/
theorem InspectedRule.mem_dangers_sampled {f : DangerousRule} :
    f ∈ rule.dangers samples limit ∧ f.danger.isSampled = true
      ↔ ∃ draw ∈ samples.drawFor rule.kind, limit < draw.hits rule.condition
        ∧ f = rule.finding samples
          (.tooManyMatches (draw.hits rule.condition) draw.size limit) := by
  rw [dangers, List.mem_map]
  constructor
  · rintro ⟨⟨danger, hdanger, rfl⟩, hsampled⟩
    rcases List.mem_append.mp hdanger with hbroad | hmany
    · have hunsampled := isSampled_of_mem_broadDangers hbroad
      rw [show danger.isSampled = true from hsampled] at hunsampled
      cases hunsampled
    · obtain ⟨draw, hdraw, hlimit, rfl⟩ := mem_sampledDangers.mp hmany
      exact ⟨draw, hdraw, hlimit, rfl⟩
  · rintro ⟨draw, hdraw, hlimit, rfl⟩
    exact ⟨⟨_, List.mem_append_right _ (mem_sampledDangers.mpr ⟨draw, hdraw, hlimit, rfl⟩), rfl⟩,
      rfl⟩

theorem InspectedRule.mem_dangers {f : DangerousRule} (h : f ∈ rule.dangers samples limit) :
    ∃ danger, f = rule.finding samples danger := by
  obtain ⟨danger, -, rfl⟩ := List.mem_map.mp h
  exact ⟨danger, rfl⟩

theorem InspectedRule.inactivity?_eq_some_iff {f : InactiveRule} :
    rule.inactivity? samples = some f ↔ ∃ draw ∈ samples.drawFor rule.kind, 0 < draw.size
      ∧ draw.hits rule.condition = 0
      ∧ f = { ruleId := rule.id, kind := rule.kind, condition := rule.condition
              sampleSize := draw.size } := by
  rw [inactivity?, Option.bind_eq_some_iff]
  refine exists_congr fun draw => and_congr_right fun _ => ?_
  rw [inactivityOf?]
  by_cases h : 0 < draw.size ∧ draw.hits rule.condition = 0
  · rw [if_pos (by simpa using h)]
    simp [h, eq_comm]
  · rw [if_neg (by simpa using h)]
    refine iff_of_false nofun ?_
    rintro ⟨hsize, hhits, -⟩
    exact h ⟨hsize, hhits⟩

end

/-! ### Hits and explanations -/

/-- The rule that a trace is about. -/
def LabelRuleTrace.subject (trace : LabelRuleTrace) : RuleSubject :=
  ⟨trace.ruleId, .label, trace.condition⟩

/-- The rule that a trace is about. -/
def AssigneeRuleTrace.subject (trace : AssigneeRuleTrace) : RuleSubject :=
  ⟨trace.ruleId, .assignee, trace.condition⟩

namespace MessageExplanation

/-- What an explanation says about each rule: why it covers the sender, if it does. -/
def reasons (e : MessageExplanation) : List (RuleSubject × Option MatchReason) :=
  e.labelRules.map (fun trace => (trace.subject, trace.reason))
    ++ e.assigneeRules.map fun trace => (trace.subject, trace.reason)

/-- Whether an explanation shows a reason why a rule covers the sender. -/
def showsMatch (e : MessageExplanation) (subject : RuleSubject) : Bool :=
  e.reasons.any fun (about, reason) => about = subject && reason.isSome

end MessageExplanation

/-- How many of some messages have an explanation that shows why a rule covers the sender. -/
def explainedHits (rules : RuleSet) (messages : List Message) (subject : RuleSubject) : Nat :=
  messages.countP fun message => (explain message.id message.sender rules).showsMatch subject

theorem reasons_labelTraces (sender : Option Sender) (taken : Bool) (rules : List LabelRule) :
    (labelTraces sender taken rules).map (fun trace => (trace.subject, trace.reason))
      = rules.map fun rule => (rule.subject, rule.condition.reasonFor? sender) := by
  induction rules generalizing taken with
  | nil => rfl
  | cons rule rest ih =>
    rw [labelTraces_cons, List.map_cons, List.map_cons, ih]
    rfl

theorem reasons_assigneeTraces (sender : Option Sender) (taken : Bool) (rules : List AssigneeRule) :
    (assigneeTraces sender taken rules).map (fun trace => (trace.subject, trace.reason))
      = rules.map fun rule => (rule.subject, rule.condition.reasonFor? sender) := by
  induction rules generalizing taken with
  | nil => rfl
  | cons rule rest ih =>
    rw [assigneeTraces_cons, List.map_cons, List.map_cons, ih]
    rfl

section
variable {rules : RuleSet} {subject : RuleSubject}

/-- An explanation tells of every rule why its condition covers the sender. -/
theorem mem_reasons_explain {messageId : String} {senderText : Option String}
    {reason : Option MatchReason} :
    (subject, reason) ∈ (explain messageId senderText rules).reasons ↔ subject ∈ rules.subjects
      ∧ reason = subject.condition.reasonFor? (senderText.bind Sender.parse?) := by
  rw [MessageExplanation.reasons, explain_labelRules, explain_assigneeRules, reasons_labelTraces,
    reasons_assigneeTraces, RuleSet.subjects]
  simp only [List.mem_append, List.mem_map, mem_evaluationOrder, Prod.mk.injEq]
  constructor
  · rintro (⟨rule, hrule, rfl, rfl⟩ | ⟨rule, hrule, rfl, rfl⟩)
    · exact ⟨.inl ⟨rule, hrule, rfl⟩, rfl⟩
    · exact ⟨.inr ⟨rule, hrule, rfl⟩, rfl⟩
  · rintro ⟨⟨rule, hrule, rfl⟩ | ⟨rule, hrule, rfl⟩, rfl⟩
    · exact .inl ⟨rule, hrule, rfl, rfl⟩
    · exact .inr ⟨rule, hrule, rfl, rfl⟩

theorem showsMatch_explain (hsubject : subject ∈ rules.subjects) (messageId : String)
    (senderText : Option String) :
    (explain messageId senderText rules).showsMatch subject
      = (senderText.bind Sender.parse?).any subject.condition.covers := by
  have hcovers : (senderText.bind Sender.parse?).any subject.condition.covers
      = (subject.condition.reasonFor? (senderText.bind Sender.parse?)).isSome := by
    cases senderText.bind Sender.parse? <;> rfl
  rw [hcovers, Bool.eq_iff_iff, MessageExplanation.showsMatch, List.any_eq_true]
  constructor
  · rintro ⟨⟨about, reason⟩, hmem, hshows⟩
    obtain ⟨habout, hreason⟩ := Bool.and_eq_true_iff.mp hshows
    obtain rfl : about = subject := of_decide_eq_true habout
    rwa [← (mem_reasons_explain.mp hmem).2]
  · intro hreason
    exact ⟨(subject, _), mem_reasons_explain.mpr ⟨hsubject, rfl⟩, by simpa using hreason⟩

/-- **Hits are explained.**  A rule has as many hits in a sample as there are messages whose
explanation shows why it covers the sender. -/
theorem hits_ofMessages_eq (hsubject : subject ∈ rules.subjects) (messages : List Message) :
    (SampleDraw.ofMessages messages).hits subject.condition
      = explainedHits rules messages subject := by
  rw [SampleDraw.hits, SampleDraw.ofMessages, List.countP_filterMap, explainedHits]
  -- a message without a readable sender is in no sample, and its explanation shows no reason
  refine List.countP_congr fun message _ => ?_
  rw [showsMatch_explain hsubject]
  cases message.sender.bind Sender.parse? <;> rfl

end

/-! ### The findings of an inspection -/

/-- The messages drawn for an audience; none if the draw fails. -/
def Mailbox.drawn (mailbox : Mailbox) (size : Nat) (audience : Audience) : List Message :=
  match mailbox.sample size audience with
  | .ok messages => messages
  | .error _ => []

section
variable {mailbox : Mailbox} {size : Nat} {kind : RuleKind}

theorem Samples.drawFor_draw : (Samples.draw mailbox size).drawFor kind
    = (mailbox.sample size kind.audience).toOption.map .ofMessages := by
  cases kind with
  | label =>
    show ((mailbox.sample size .everyone).map SampleDraw.ofMessages).toOption
      = (mailbox.sample size .everyone).toOption.map .ofMessages
    cases mailbox.sample size .everyone <;> rfl
  | assignee =>
    show ((mailbox.sample size .unassigned).map SampleDraw.ofMessages).toOption
      = (mailbox.sample size .unassigned).toOption.map .ofMessages
    cases mailbox.sample size .unassigned <;> rfl

/-- The sample of rules of a kind is that of the messages drawn. -/
theorem Samples.eq_of_mem_drawFor {draw : SampleDraw}
    (h : draw ∈ (Samples.draw mailbox size).drawFor kind) :
    draw = .ofMessages (mailbox.drawn size kind.audience) := by
  rw [drawFor_draw] at h
  rw [Mailbox.drawn]
  cases hsample : mailbox.sample size kind.audience with
  | error why =>
    rw [hsample] at h
    cases h
  | ok messages =>
    rw [hsample] at h
    exact (Option.some_inj.mp h).symm

/-- If messages were drawn, there is a sample. -/
theorem Samples.ofMessages_mem_drawFor (h : mailbox.drawn size kind.audience ≠ []) :
    .ofMessages (mailbox.drawn size kind.audience) ∈ (Samples.draw mailbox size).drawFor kind := by
  rw [drawFor_draw]
  rw [Mailbox.drawn] at h ⊢
  cases hsample : mailbox.sample size kind.audience with
  | error why =>
    rw [hsample] at h
    exact absurd rfl h
  | ok messages => exact rfl

end

/-- The findings about dangerous and inactive rules say what explanations of the drawn messages
say. -/
structure AgreeWithExplanations (rules : RuleSet) (drawn : Audience → List Message) (limit : Nat)
    (dangerous : List DangerousRule) (idle : List InactiveRule) : Prop where
  /-- Findings are about enabled rules. -/
  enabled : (∀ finding ∈ dangerous, rules.IsEnabled finding.subject)
    ∧ ∀ finding ∈ idle, rules.IsEnabled finding.subject
  /-- An enabled rule matches too many messages if more of them are explained by it than the limit
  says. -/
  tooMany : ∀ subject, rules.IsEnabled subject →
    ((∃ finding ∈ dangerous, finding.subject = subject ∧ finding.danger.isSampled = true)
      ↔ limit < explainedHits rules (drawn subject.kind.audience) subject)
  /-- Such a finding says how many these are, and of how many messages. -/
  numbers : ∀ finding ∈ dangerous, finding.danger.isSampled = true →
    finding.danger = .tooManyMatches
      (explainedHits rules (drawn finding.kind.audience) finding.subject)
      (drawn finding.kind.audience).length limit
  /-- An enabled rule is inactive if there are messages and none of them is explained by it. -/
  inactive : ∀ subject, rules.IsEnabled subject →
    ((∃ finding ∈ idle, finding.subject = subject)
      ↔ drawn subject.kind.audience ≠ []
        ∧ explainedHits rules (drawn subject.kind.audience) subject = 0)
  /-- A count that a finding shows is the number of messages that are explained by its rule. -/
  preview : ∀ finding ∈ dangerous, ∀ count ∈ finding.previewCount,
    count = explainedHits rules (drawn finding.kind.audience) finding.subject
  /-- No rule is reported both ways. -/
  notBoth : ∀ finding ∈ dangerous, finding.danger.isSampled = true →
    ∀ other ∈ idle, other.subject ≠ finding.subject

section
variable {mailbox : Mailbox} {rules : RuleSet} {size limit : Nat}

/-- An inspected rule has as many hits in its sample as there are drawn messages explained by it. -/
theorem hits_of_mem_drawFor {rule : InspectedRule} (hrule : rule ∈ rules.inspected)
    {draw : SampleDraw} (hdraw : draw ∈ (Samples.draw mailbox size).drawFor rule.kind) :
    draw.hits rule.condition
      = explainedHits rules (mailbox.drawn size rule.kind.audience) rule.toRuleSubject := by
  rw [Samples.eq_of_mem_drawFor hdraw]
  have henabled : rules.IsEnabled rule.toRuleSubject := RuleSet.isEnabled_iff.mpr ⟨rule, hrule, rfl⟩
  exact hits_ofMessages_eq henabled.mem_subjects _

theorem exists_of_mem_dangerousRules {samples : Samples} {finding : DangerousRule}
    (h : finding ∈ dangerousRules rules samples limit) :
    ∃ rule ∈ rules.inspected, finding ∈ rule.dangers samples limit := by
  rw [dangerousRules_eq, List.mem_flatMap] at h
  exact h

/-- The findings that come from a sample, with what they say in terms of explanations. -/
theorem mem_dangerousRules_sampled {finding : DangerousRule}
    (hmem : finding ∈ dangerousRules rules (.draw mailbox size) limit)
    (hsampled : finding.danger.isSampled = true) :
    limit < explainedHits rules (mailbox.drawn size finding.kind.audience) finding.subject
      ∧ finding.danger = .tooManyMatches
        (explainedHits rules (mailbox.drawn size finding.kind.audience) finding.subject)
        (mailbox.drawn size finding.kind.audience).length limit := by
  obtain ⟨rule, hrule, hdanger⟩ := exists_of_mem_dangerousRules hmem
  obtain ⟨draw, hdraw, hlimit, rfl⟩ := InspectedRule.mem_dangers_sampled.mp ⟨hdanger, hsampled⟩
  have hhits := hits_of_mem_drawFor hrule hdraw
  refine ⟨Nat.lt_of_lt_of_eq hlimit hhits, ?_⟩
  show Danger.tooManyMatches _ _ _ = _
  rw [hhits, Samples.eq_of_mem_drawFor hdraw]
  rfl

theorem exists_of_mem_inactiveRules {samples : Samples} {finding : InactiveRule}
    (h : finding ∈ inactiveRules rules samples) :
    ∃ rule ∈ rules.inspected, rule.inactivity? samples = some finding := by
  rw [inactiveRules_eq, List.mem_filterMap] at h
  exact h

/-- The findings about inactive rules, with what they say in terms of explanations. -/
theorem mem_inactiveRules {finding : InactiveRule}
    (hmem : finding ∈ inactiveRules rules (.draw mailbox size)) :
    mailbox.drawn size finding.kind.audience ≠ []
      ∧ explainedHits rules (mailbox.drawn size finding.kind.audience) finding.subject = 0 := by
  obtain ⟨rule, hrule, hfinding⟩ := exists_of_mem_inactiveRules hmem
  obtain ⟨draw, hdraw, hsize, hhits, rfl⟩ := InspectedRule.inactivity?_eq_some_iff.mp hfinding
  refine ⟨?_, (hits_of_mem_drawFor hrule hdraw).symm.trans hhits⟩
  rw [Samples.eq_of_mem_drawFor hdraw] at hsize
  exact List.ne_nil_of_length_pos hsize

/-- The findings over freshly drawn samples agree with the explanations of the drawn messages. -/
theorem agreeWithExplanations_draw (mailbox : Mailbox) (rules : RuleSet) (size limit : Nat) :
    AgreeWithExplanations rules (mailbox.drawn size) limit
      (dangerousRules rules (.draw mailbox size) limit)
      (inactiveRules rules (.draw mailbox size)) where
  enabled := by
    constructor
    · intro finding hmem
      obtain ⟨rule, hrule, hdanger⟩ := exists_of_mem_dangerousRules hmem
      obtain ⟨danger, rfl⟩ := InspectedRule.mem_dangers hdanger
      exact RuleSet.isEnabled_iff.mpr ⟨rule, hrule, rfl⟩
    · intro finding hmem
      obtain ⟨rule, hrule, hfinding⟩ := exists_of_mem_inactiveRules hmem
      obtain ⟨draw, -, -, -, rfl⟩ := InspectedRule.inactivity?_eq_some_iff.mp hfinding
      exact RuleSet.isEnabled_iff.mpr ⟨rule, hrule, rfl⟩
  tooMany := by
    intro subject henabled
    constructor
    · rintro ⟨finding, hmem, rfl, hsampled⟩
      exact (mem_dangerousRules_sampled hmem hsampled).1
    · intro hlimit
      obtain ⟨rule, hrule, rfl⟩ := RuleSet.isEnabled_iff.mp henabled
      -- more hits than a limit are at least one, so the draw did not fail
      have hdrawn : mailbox.drawn size rule.kind.audience ≠ [] := by
        intro hnil
        rw [hnil] at hlimit
        exact absurd hlimit (Nat.not_lt_zero _)
      have hdraw := Samples.ofMessages_mem_drawFor hdrawn
      rw [← hits_of_mem_drawFor hrule hdraw] at hlimit
      obtain ⟨hfinding, hsampled⟩ :=
        InspectedRule.mem_dangers_sampled.mpr ⟨_, hdraw, hlimit, rfl⟩
      refine ⟨_, ?_, rfl, hsampled⟩
      rw [dangerousRules_eq]
      exact List.mem_flatMap.mpr ⟨rule, hrule, hfinding⟩
  numbers := fun finding hmem hsampled => (mem_dangerousRules_sampled hmem hsampled).2
  inactive := by
    intro subject henabled
    constructor
    · rintro ⟨finding, hmem, rfl⟩
      exact mem_inactiveRules hmem
    · rintro ⟨hdrawn, hhits⟩
      obtain ⟨rule, hrule, rfl⟩ := RuleSet.isEnabled_iff.mp henabled
      have hdraw := Samples.ofMessages_mem_drawFor hdrawn
      rw [← hits_of_mem_drawFor hrule hdraw] at hhits
      have hfinding := InspectedRule.inactivity?_eq_some_iff.mpr
        ⟨_, hdraw, List.length_pos_iff.mpr hdrawn, hhits, rfl⟩
      have hmem := List.mem_filterMap.mpr ⟨rule, hrule, hfinding⟩
      rw [← inactiveRules_eq] at hmem
      exact ⟨_, hmem, rfl⟩
  preview := by
    intro finding hmem count hcount
    obtain ⟨rule, hrule, hdanger⟩ := exists_of_mem_dangerousRules hmem
    obtain ⟨danger, rfl⟩ := InspectedRule.mem_dangers hdanger
    obtain ⟨draw, hdraw, rfl⟩ := Option.map_eq_some_iff.mp hcount
    exact hits_of_mem_drawFor hrule hdraw
  notBoth := by
    intro finding hmem hsampled other hother hsubject
    obtain ⟨hlimit, -⟩ := mem_dangerousRules_sampled hmem hsampled
    obtain ⟨-, hhits⟩ := mem_inactiveRules hother
    have hkind : other.kind = finding.kind := congrArg RuleSubject.kind hsubject
    rw [hsubject, hkind] at hhits
    exact absurd (hhits ▸ hlimit) (Nat.not_lt_zero _)

end

/-! ### Limits that no sample exceeds -/

/-- A mailbox never draws more messages than were wanted. -/
def Mailbox.DrawsWithin (mailbox : Mailbox) : Prop :=
  ∀ size audience messages, mailbox.sample size audience = .ok messages → messages.length ≤ size

theorem MemoryMailbox.drawsWithin (box : MemoryMailbox) : box.toMailbox.DrawsWithin := by
  intro size audience messages h
  have hsample : box.sample size audience = .ok messages := h
  rw [sample] at hsample
  split at hsample
  · cases hsample
  · cases hsample
    exact List.length_take_le size _

theorem Tables.drawsWithin (tables : Tables) : tables.toMailbox.DrawsWithin :=
  fun _ _ _ h => length_le_of_sampleMessages h

theorem Mailbox.DrawsWithin.length_drawn_le {mailbox : Mailbox} (h : mailbox.DrawsWithin)
    (size : Nat) (audience : Audience) : (mailbox.drawn size audience).length ≤ size := by
  rw [drawn]
  cases hsample : mailbox.sample size audience with
  | ok messages => exact h _ _ _ hsample
  | error why => exact Nat.zero_le size

/-- Over a mailbox no rule is reported to match too many messages. -/
def Mailbox.NeverTooMany (mailbox : Mailbox) (config : InspectionConfig) (rules : RuleSet) : Prop :=
  ∀ finding ∈ (inspectHealth mailbox config rules).dangerousRules
    ++ (inspectDanger mailbox config rules).dangerousRules, finding.danger.isSampled = false

/-- A limit that is not below the size of a sample is never exceeded. -/
theorem Mailbox.DrawsWithin.neverTooMany {mailbox : Mailbox} (h : mailbox.DrawsWithin)
    {config : InspectionConfig} (hlimit : config.sampleSize ≤ config.matchLimit)
    (rules : RuleSet) : mailbox.NeverTooMany config rules := by
  intro finding hmem
  have hfinding : finding ∈ dangerousRules rules (.draw mailbox config.sampleSize)
      config.matchLimit := (List.mem_append.mp hmem).elim id id
  refine Bool.eq_false_iff.mpr fun hsampled => ?_
  have hmany := (mem_dangerousRules_sampled hfinding hsampled).1
  have hcount : explainedHits rules (mailbox.drawn config.sampleSize finding.kind.audience)
        finding.subject
      ≤ (mailbox.drawn config.sampleSize finding.kind.audience).length := List.countP_le_length
  have hdrawn := h.length_drawn_le config.sampleSize finding.kind.audience
  omega

/-- **Findings say what explanations would.**  Whatever the mailbox and the limits, the findings of
an inspection agree with the explanations of the messages drawn for it, and so do those of an
inspection for dangers or inactivity alone.  Over a mailbox in memory and over a store, no rule
matches too many messages if the limit is not below the size of a sample. -/
theorem inspection_agrees_with_explanations :
    (∀ mailbox config rules,
      AgreeWithExplanations rules (mailbox.drawn config.sampleSize) config.matchLimit
          (inspectHealth mailbox config rules).dangerousRules
          (inspectHealth mailbox config rules).inactiveRules
        ∧ AgreeWithExplanations rules (mailbox.drawn config.sampleSize) config.matchLimit
          (inspectDanger mailbox config rules).dangerousRules
          (inspectInactivity mailbox config rules).inactiveRules)
      ∧ ∀ (config : InspectionConfig) (rules : RuleSet), config.sampleSize ≤ config.matchLimit →
        (∀ box : MemoryMailbox, box.toMailbox.NeverTooMany config rules)
          ∧ ∀ tables : Tables, tables.toMailbox.NeverTooMany config rules := by
  refine ⟨fun mailbox config rules => ⟨?_, ?_⟩, fun config rules hlimit => ⟨fun box => ?_,
    fun tables => ?_⟩⟩
  · exact agreeWithExplanations_draw mailbox rules config.sampleSize config.matchLimit
  · exact agreeWithExplanations_draw mailbox rules config.sampleSize config.matchLimit
  · exact box.drawsWithin.neverTooMany hlimit rules
  · exact tables.drawsWithin.neverTooMany hlimit rules

/-- A label rule covers both messages drawn.  These are too many for a limit of one message, and not
for a limit of two, which is the size of the sample. -/
theorem inspection_agrees_with_explanations_vendor :
    let rules : RuleSet := { labelRules := [vendorLabelRule "1" "VIP"] }
    let box : MemoryMailbox :=
      { messages := [⟨"1", some "Ann <ann@vendor.io>", [], none⟩,
          ⟨"2", some "bob@vendor.io", [], some "cid@desk.io"⟩] }
    (∃ finding ∈ (inspectHealth box.toMailbox ⟨2, 1⟩ rules).dangerousRules,
        finding.subject = (vendorLabelRule "1" "VIP").subject ∧ finding.danger.isSampled = true)
      ∧ box.toMailbox.NeverTooMany ⟨2, 2⟩ rules := by
  intro rules box
  obtain ⟨hagree, hnever⟩ := inspection_agrees_with_explanations
  have henabled : rules.IsEnabled (vendorLabelRule "1" "VIP").subject :=
    .inl ⟨_, List.mem_singleton_self _, rfl, rfl⟩
  have hhits : (SampleDraw.ofMessages (box.toMailbox.drawn 2 .everyone)).hits
      (vendorLabelRule "1" "VIP").condition = 2 := by decide
  have hexplained : explainedHits rules (box.toMailbox.drawn 2 .everyone)
      (vendorLabelRule "1" "VIP").subject = 2 :=
    (hits_ofMessages_eq henabled.mem_subjects _).symm.trans hhits
  constructor
  · refine ((hagree box.toMailbox ⟨2, 1⟩ rules).1.tooMany _ henabled).mpr ?_
    exact Nat.lt_of_lt_of_eq (by decide) hexplained.symm
  · exact (hnever ⟨2, 2⟩ rules (by decide)).1 box

end MailTriage
