import MailTriage.Proofs.Inspection.Findings

/-! # Lost samples

A sample that cannot be drawn costs what is read off it and nothing else.  So the report of an
inspection that loses samples is what is left of the report of one that does not
(`HealthReport.without`): conflicts and findings about other rules stay in their places, and of the
findings about a rule whose sample is lost those about its domain stay, without a count.
`inspection_of_lostSamples` says so of every mailbox and every choice of lost samples.
-/
namespace MailTriage

/-! ### What is left of a report -/

/-- What is left of a finding: nothing if it comes from a lost sample, and if only its count does,
the finding without the count. -/
def DangerousRule.without? (lost : Audience → Bool) (finding : DangerousRule) :
    Option DangerousRule :=
  if lost finding.kind.audience then
    if finding.danger.isSampled then none else some { finding with previewCount := none }
  else some finding

/-- The coverage without the lost samples. -/
def SampleCoverage.without (lost : Audience → Bool) (coverage : SampleCoverage) :
    SampleCoverage where
  labelSampleSize := if lost .everyone then none else coverage.labelSampleSize
  assigneeSampleSize := if lost .unassigned then none else coverage.assigneeSampleSize

/-- What is left of a report on dangerous rules. -/
def DangerReport.without (lost : Audience → Bool) (report : DangerReport) : DangerReport where
  dangerousRules := report.dangerousRules.filterMap (·.without? lost)
  coverage := report.coverage.without lost

/-- What is left of a report on inactive rules: every finding in it comes from a sample. -/
def InactivityReport.without (lost : Audience → Bool) (report : InactivityReport) :
    InactivityReport where
  inactiveRules := report.inactiveRules.filter fun finding => !lost finding.kind.audience
  coverage := report.coverage.without lost

/-- What is left of a report on everything: all conflicts, and what is left of the rest. -/
def HealthReport.without (lost : Audience → Bool) (report : HealthReport) : HealthReport where
  conflicts := report.conflicts
  dangerousRules := report.dangerousRules.filterMap (·.without? lost)
  inactiveRules := report.inactiveRules.filter fun finding => !lost finding.kind.audience
  coverage := report.coverage.without lost

/-! ### Losing samples -/

/-- One mailbox draws the same samples of a size as another, but loses some. -/
structure Mailbox.LosesSamples (mailbox : Mailbox) (lost : Audience → Bool) (size : Nat)
    (mailbox' : Mailbox) : Prop where
  fails : ∀ audience, lost audience = true → ∃ why, mailbox'.sample size audience = .error why
  draws : ∀ audience, lost audience = false →
    mailbox'.sample size audience = mailbox.sample size audience

/-- In memory samples can be lost at will. -/
theorem MemoryMailbox.losesSamples (box : MemoryMailbox) (audience : Audience) (size : Nat) :
    box.toMailbox.LosesSamples (· = audience) size (box.failSampling audience).toMailbox where
  fails := by
    intro other hlost
    refine ⟨.unavailable .sampling, if_pos ?_⟩
    rw [of_decide_eq_true hlost]
    exact List.mem_cons_self
  draws := by
    intro other hkept
    have hne : other ≠ audience := of_decide_eq_false hkept
    show sample _ size other = sample _ size other
    simp only [sample, failSampling, List.mem_cons, hne, false_or]

/-- Two losses are one loss of both. -/
theorem Mailbox.LosesSamples.trans {mailbox mailbox' mailbox'' : Mailbox}
    {lost lost' : Audience → Bool} {size : Nat} (h : mailbox.LosesSamples lost size mailbox')
    (h' : mailbox'.LosesSamples lost' size mailbox'') :
    mailbox.LosesSamples (fun audience => lost audience || lost' audience) size mailbox'' where
  fails := by
    intro audience hlost
    -- what the second mailbox does not lose itself it draws as the first one does, which fails
    cases hlost' : lost' audience with
    | true => exact h'.fails audience hlost'
    | false =>
      rw [h'.draws audience hlost']
      exact h.fails audience (by simpa [hlost'] using hlost)
  draws := by
    intro audience hkept
    obtain ⟨hkept, hkept'⟩ := Bool.or_eq_false_iff.mp hkept
    rw [h'.draws audience hkept', h.draws audience hkept]

/-- Some samples are those of others, without the lost ones. -/
structure Samples.Without (samples : Samples) (lost : Audience → Bool) (samples' : Samples) :
    Prop where
  gone : ∀ kind, lost kind.audience = true → samples'.drawFor kind = none
  kept : ∀ kind, lost kind.audience = false → samples'.drawFor kind = samples.drawFor kind

theorem Mailbox.LosesSamples.samples {mailbox mailbox' : Mailbox} {lost : Audience → Bool}
    {size : Nat} (h : mailbox.LosesSamples lost size mailbox') :
    Samples.Without (.draw mailbox size) lost (.draw mailbox' size) where
  gone := by
    intro kind hlost
    obtain ⟨why, hwhy⟩ := h.fails _ hlost
    rw [Samples.drawFor_draw, hwhy]
    rfl
  kept := by
    intro kind hkept
    rw [Samples.drawFor_draw, Samples.drawFor_draw, h.draws _ hkept]

/-! ### What is left of the findings -/

section
variable {samples samples' : Samples} {lost : Audience → Bool}

theorem Samples.Without.drawFor (h : samples.Without lost samples') (kind : RuleKind) :
    samples'.drawFor kind = if lost kind.audience then none else samples.drawFor kind := by
  cases hlost : lost kind.audience with
  | true => exact h.gone kind hlost
  | false => exact h.kept kind hlost

theorem Samples.Without.coverage (h : samples.Without lost samples') :
    samples'.coverage = samples.coverage.without lost := by
  have hlabel : samples'.forLabels = if lost .everyone then none else samples.forLabels :=
    h.drawFor .label
  have hassignee : samples'.forAssignees
      = if lost .unassigned then none else samples.forAssignees := h.drawFor .assignee
  rw [Samples.coverage, Samples.coverage, SampleCoverage.without, hlabel, hassignee]
  cases lost .everyone <;> cases lost .unassigned <;> rfl

/-- What is left of a finding about a rule: unless it comes from a lost sample, the finding that the
remaining samples give. -/
theorem Samples.Without.without?_finding (h : samples.Without lost samples') (rule : InspectedRule)
    (danger : Danger) :
    (rule.finding samples danger).without? lost
      = if lost rule.kind.audience && danger.isSampled then none
        else some (rule.finding samples' danger) := by
  show (if lost rule.kind.audience then
      if danger.isSampled then none
      else some { rule.finding samples danger with previewCount := none }
    else some (rule.finding samples danger)) = _
  cases hlost : lost rule.kind.audience with
  | true =>
    rw [if_pos rfl, Bool.true_and, InspectedRule.finding, InspectedRule.finding, h.gone _ hlost]
    rfl
  | false =>
    rw [if_neg Bool.false_ne_true, Bool.false_and, if_neg Bool.false_ne_true, InspectedRule.finding,
      InspectedRule.finding, h.kept _ hlost]

theorem Samples.Without.dangers (h : samples.Without lost samples') (limit : Nat)
    (rule : InspectedRule) :
    rule.dangers samples' limit = (rule.dangers samples limit).filterMap (·.without? lost) := by
  rw [InspectedRule.dangers, InspectedRule.dangers, List.filterMap_map, Function.comp_def]
  simp only [h.without?_finding]
  cases hlost : lost rule.kind.audience with
  | true =>
    -- what is broad about the rule is known without a sample, and nothing else is
    have hbroad : ∀ danger ∈ rule.broadDangers,
        (if true && danger.isSampled then none else some (rule.finding samples' danger))
          = some (rule.finding samples' danger) := by
      intro danger hmem
      rw [InspectedRule.isSampled_of_mem_broadDangers hmem]
      rfl
    have hsampled : ∀ danger ∈ rule.sampledDangers samples limit,
        (if true && danger.isSampled then none else some (rule.finding samples' danger))
          = none := by
      intro danger hmem
      obtain ⟨draw, -, -, rfl⟩ := InspectedRule.mem_sampledDangers.mp hmem
      rfl
    have hnone : rule.sampledDangers samples' limit = [] := by
      rw [InspectedRule.sampledDangers, h.gone _ hlost]
    rw [hnone, List.append_nil, List.filterMap_append, List.filterMap_eq_nil_iff.mpr hsampled,
      List.append_nil]
    exact (List.filterMap_eq_map_iff_forall_eq_some.mpr hbroad).symm
  | false =>
    have hsame : rule.sampledDangers samples' limit = rule.sampledDangers samples limit := by
      rw [InspectedRule.sampledDangers, InspectedRule.sampledDangers, h.kept _ hlost]
    rw [hsame]
    exact (List.filterMap_eq_map_iff_forall_eq_some.mpr fun _ _ => rfl).symm

theorem Samples.Without.inactivity? (h : samples.Without lost samples') (rule : InspectedRule) :
    rule.inactivity? samples'
      = (rule.inactivity? samples).filter fun finding => !lost finding.kind.audience := by
  have hkind : ∀ finding ∈ rule.inactivity? samples, finding.kind = rule.kind := by
    intro finding hfinding
    obtain ⟨draw, -, -, -, rfl⟩ := InspectedRule.inactivity?_eq_some_iff.mp hfinding
    rfl
  cases hlost : lost rule.kind.audience with
  | true =>
    rw [InspectedRule.inactivity?, h.gone _ hlost, Option.bind_none]
    refine (Option.filter_eq_none_iff.mpr fun finding hfinding => ?_).symm
    rw [hkind finding hfinding, hlost]
    exact Bool.false_ne_true
  | false =>
    have hsame : rule.inactivity? samples' = rule.inactivity? samples := by
      rw [InspectedRule.inactivity?, InspectedRule.inactivity?, h.kept _ hlost]
    rw [hsame]
    cases hfound : rule.inactivity? samples with
    | none => rfl
    | some finding =>
      have hkept : (!lost finding.kind.audience) = true := by
        rw [hkind finding hfound, hlost]
        rfl
      rw [Option.filter_some, if_pos hkept]

variable (h : samples.Without lost samples') (rules : RuleSet)
include h

theorem Samples.Without.dangerousRules (limit : Nat) :
    dangerousRules rules samples' limit
      = (dangerousRules rules samples limit).filterMap (·.without? lost) := by
  rw [dangerousRules_eq, dangerousRules_eq, List.filterMap_flatMap]
  exact List.flatMap_congr fun rule _ => h.dangers limit rule

theorem Samples.Without.inactiveRules :
    inactiveRules rules samples'
      = (inactiveRules rules samples).filter fun finding => !lost finding.kind.audience := by
  rw [inactiveRules_eq, inactiveRules_eq, List.filter_filterMap]
  exact List.filterMap_congr fun rule _ => h.inactivity? rule

end

/-- **A lost sample costs only its own findings.**  For every mailbox, rule set and configuration,
an inspection that loses samples reports what is left of the report without losses, in the same
order, whichever samples are lost; so do the inspections for dangers and inactivity alone. -/
theorem inspection_of_lostSamples (mailbox mailbox' : Mailbox) (lost : Audience → Bool)
    (config : InspectionConfig) (rules : RuleSet)
    (h : mailbox.LosesSamples lost config.sampleSize mailbox') :
    inspectHealth mailbox' config rules = (inspectHealth mailbox config rules).without lost
      ∧ inspectDanger mailbox' config rules = (inspectDanger mailbox config rules).without lost
      ∧ inspectInactivity mailbox' config rules
        = (inspectInactivity mailbox config rules).without lost := by
  have hdangerous := h.samples.dangerousRules rules config.matchLimit
  have hinactive := h.samples.inactiveRules rules
  refine ⟨?_, ?_, ?_⟩
  · rw [inspectHealth, HealthReport.of, hdangerous, hinactive, h.samples.coverage]
    rfl
  · rw [inspectDanger, DangerReport.of, hdangerous, h.samples.coverage]
    rfl
  · rw [inspectInactivity, InactivityReport.of, hinactive, h.samples.coverage]
    rfl

/-- A label rule and an assignee rule name the same broad domain.  Their findings lose a count each
as first the one sample and then the other is lost. -/
theorem inspection_of_lostSamples_broad :
    let broad : Condition := { domain := some "gmail.com" }
    let rules : RuleSet :=
      { labelRules := [{ vendorLabelRule "1" "VIP" with condition := broad }]
        assigneeRules := [{ vendorAssigneeRule "2" "b@desk.io" with condition := broad }] }
    let box : MemoryMailbox := { messages := [⟨"1", some "ann@gmail.com", [], none⟩] }
    let halfLost := box.failSampling .unassigned
    let allLost := halfLost.failSampling .everyone
    inspectHealth halfLost.toMailbox {} rules
      = (inspectHealth box.toMailbox {} rules).without (· = .unassigned)
    ∧ (inspectHealth halfLost.toMailbox {} rules).dangerousRules.map (·.previewCount)
      = [some 1, none]
    ∧ inspectHealth allLost.toMailbox {} rules
      = (inspectHealth box.toMailbox {} rules).without
        (fun audience => audience = .unassigned || audience = .everyone)
    ∧ (inspectHealth allLost.toMailbox {} rules).dangerousRules.map (·.previewCount)
      = [none, none] := by
  intro broad rules box halfLost allLost
  have hhalf := box.losesSamples .unassigned 50
  have hall := hhalf.trans (halfLost.losesSamples .everyone 50)
  exact ⟨(inspection_of_lostSamples _ _ _ {} rules hhalf).1, by decide,
    (inspection_of_lostSamples _ _ _ {} rules hall).1, by decide⟩

end MailTriage
