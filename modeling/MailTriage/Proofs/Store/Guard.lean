import MailTriage.Proofs.Rule.Reach
import MailTriage.Proofs.Store.Creation

/-! # The guard against broad domains

Validation judges a domain that was normalized twice, and a sender's domain is compared with one that
was normalized three times: on validation, on reading the document and in the comparison.  Since
normalizing is not idempotent, a draft that needs a confirmation and has none can be accepted.
`AssigneeDraft.isGuarded_iff` says exactly for which drafts this happens.
-/
namespace MailTriage

/-! ### What a loaded rule compares -/

/-- The domain that a sender's domain is compared with, for a rule that was created with a given
one. -/
def comparedDomain (text : String) : String :=
  normalizeDomain (normalizeDomain (normalizeDomain text))

theorem comparedDomain_ne_empty {text : String} (h : comparedDomain text ≠ "") :
    normalizeDomain text ≠ "" ∧ normalizeDomain (normalizeDomain text) ≠ "" := by
  have hsecond : normalizeDomain (normalizeDomain text) ≠ "" := by
    intro hempty
    rw [comparedDomain, hempty] at h
    exact h normalizeDomain_empty
  refine ⟨fun hempty => hsecond ?_, hsecond⟩
  rw [hempty, normalizeDomain_empty]

/-- Normalizing a condition three times gives the domain that is compared. -/
theorem Condition.normalized_thrice_domain {c : Condition} {text : String}
    (h : c.domain = some text) (hne : comparedDomain text ≠ "") :
    c.normalized.normalized.normalized.domain = some (comparedDomain text) := by
  obtain ⟨hfirst, hsecond⟩ := comparedDomain_ne_empty hne
  have h₁ := normalized_domain_eq_some_iff.mpr ⟨text, h, rfl, hfirst⟩
  have h₂ := normalized_domain_eq_some_iff.mpr ⟨_, h₁, rfl, hsecond⟩
  exact normalized_domain_eq_some_iff.mpr ⟨_, h₂, rfl, hne⟩

theorem outcome_listAssigneeRules_of_loadRules {tables : Tables} {rules : RuleSet}
    (h : tables.loadRules.outcome = .ok rules) :
    tables.listAssigneeRules.outcome = .ok rules.assigneeRules := by
  rw [Tables.loadRules] at h
  cases hlabels : tables.listLabelRules.outcome with
  | error why =>
    simp only [hlabels] at h
    cases h
  | ok labelRules =>
    simp only [hlabels] at h
    obtain ⟨assigneeRules, hassignees, rfl⟩ := exists_of_map_eq_ok h
    exact hassignees

/-- **The domain that a created rule is compared with.**  A sender that the rule wins through its
domain has the draft's domain, normalized three times. -/
theorem Tables.domain_of_created_rule_wins {tables next : Tables} {now : Instant} {id : String}
    {draft : AssigneeDraft} {allowed : List String} {rule : AssigneeRule}
    {later : List RuleChange} {rules : RuleSet} {text : String} {sender : Sender}
    {winner : ResolvedAssignee}
    (hnow : now.InFourDigitYear) (hid : readBack id = id)
    (hfresh : tables.assigneeRules.rowsAt (·.id) id = [])
    (hcreate : tables.createAssigneeRule now id draft allowed = .ok (rule, next))
    (hlater : ∀ change ∈ later, change.Spares id)
    (hload : (next.after later).loadRules.outcome = .ok rules)
    (hsender : Sender.parse? text = some sender)
    (hwinner : resolveAssignee text rules.assigneeRules = some winner)
    (hwins : winner.ruleId = id) (hreason : winner.reason = .domain) :
    draft.enabled = true
      ∧ ∃ domain ∈ draft.condition.domain, sender.domain = comparedDomain domain := by
  have hlist := outcome_listAssigneeRules_of_loadRules hload
  have hresolve : resolveAssigneeFor sender rules.assigneeRules = some winner := by
    rwa [resolveAssignee, hsender] at hwinner
  obtain ⟨found, hmem, hfound, -⟩ := exists_least_of_resolveAssigneeFor hresolve
  obtain ⟨henabled, hcovers, hfoundId, -⟩ := AssigneeRule.resolve?_eq_some_iff.mp hfound
  -- the rule that wins is the one that the new document gives back
  have hgiven : AssigneeRule.ofDocument rule.toDocument = .ok found := by
    rw [← mem_toList_toOption,
      ← filter_created_assignee_rule hnow hid hfresh hcreate hlater hlist, List.mem_filter]
    exact ⟨hmem, decide_eq_true (hfoundId.symm.trans hwins)⟩
  obtain ⟨valid, hvalid, hrule, -⟩ := createAssigneeRule_eq_ok hcreate
  obtain ⟨assignee, -, -, -, -, rfl⟩ := AssigneeDraft.validate_eq_ok hvalid
  obtain ⟨-, -, hloaded⟩ := AssigneeRule.ofDocument_eq_ok_iff.mp hgiven
  have hcondition : found.condition = draft.condition.normalized.normalized := by
    rw [hloaded, hrule]
    rfl
  refine ⟨?_, ?_⟩
  · rw [hloaded, hrule] at henabled
    exact henabled
  · rw [hreason, Condition.reason?_eq_domain_iff, hcondition] at hcovers
    obtain ⟨third, hthird, heq₃, -⟩ := Condition.normalized_domain_eq_some_iff.mp hcovers.2
    obtain ⟨second, hsecond, heq₂, -⟩ := Condition.normalized_domain_eq_some_iff.mp hthird
    obtain ⟨first, hfirst, heq₁, -⟩ := Condition.normalized_domain_eq_some_iff.mp hsecond
    exact ⟨first, hfirst, by rw [comparedDomain, heq₁, heq₂, heq₃]⟩

/-! ### A rule that is created in a new store -/

theorem Tables.exists_createAssigneeRule_unused {draft valid : AssigneeDraft}
    {allowed : List String} (hvalid : draft.validate allowed = .ok valid) (now : Instant)
    (id : String) :
    ∃ rule, unused.createAssigneeRule now id draft allowed = .ok (rule, single now rule) := by
  refine ⟨{ id, enabled := valid.enabled, priority := valid.priority
            condition := valid.condition, assigneeEmail := valid.assigneeEmail
            unassignedOnly := true, broadDomainConfirmed := valid.broadDomainConfirmed
            createdAt := now.truncateToMillis, updatedAt := none }, ?_⟩
  rw [createAssigneeRule, hvalid]
  rfl

theorem Tables.loadRules_single {tables next : Tables} {now : Instant} {id : String}
    {draft : AssigneeDraft} {allowed : List String} {rule found : AssigneeRule}
    (hnow : now.InFourDigitYear) (hid : readBack id = id)
    (hcreate : tables.createAssigneeRule now id draft allowed = .ok (rule, next))
    (hgiven : AssigneeRule.ofDocument rule.toDocument = .ok found) :
    (single now rule).loadRules.outcome = .ok { labelRules := [], assigneeRules := [found] } := by
  have hlabels : (single now rule).listLabelRules.outcome = .ok [] := Listing.outcome_ofTable_nil
  have hassignees : (single now rule).listAssigneeRules.outcome = .ok [found] := by
    obtain ⟨valid, -, hrule, -⟩ := createAssigneeRule_eq_ok hcreate
    rw [listAssigneeRules_single rule hnow (by rw [hrule]; exact hid) (by rw [hrule])
      (by rw [hrule]), hgiven]
    rfl
  simp only [loadRules, hlabels, hassignees]
  rfl

/-- The document of a created rule gives back a rule that is compared with the domain normalized
three times, if anything is left of it. -/
theorem Tables.exists_loaded_of_created {tables next : Tables} {now : Instant} {id : String}
    {draft : AssigneeDraft} {allowed : List String} {rule : AssigneeRule} {domain : String}
    (hcreate : tables.createAssigneeRule now id draft allowed = .ok (rule, next))
    (hdomain : draft.condition.domain = some domain) (hne : comparedDomain domain ≠ "") :
    ∃ found, AssigneeRule.ofDocument rule.toDocument = .ok found ∧ found.id = id
      ∧ found.enabled = draft.enabled
      ∧ found.condition.normalized.domain = some (comparedDomain domain) := by
  obtain ⟨valid, hvalid, hrule, -⟩ := createAssigneeRule_eq_ok hcreate
  obtain ⟨assignee, hparse, -, -, -, rfl⟩ := AssigneeDraft.validate_eq_ok hvalid
  have hthrice := Condition.normalized_thrice_domain hdomain hne
  have hnormal : rule.condition = draft.condition.normalized := by rw [hrule]
  have hemail : rule.assigneeEmail = assignee.email := by rw [hrule]
  refine ⟨_, AssigneeRule.ofDocument_eq_ok_iff.mpr ⟨?_, ?_, rfl⟩, ?_, ?_, ?_⟩
  · show rule.condition.normalized.isEmpty = false
    obtain ⟨second, hsecond, -, -⟩ := Condition.normalized_domain_eq_some_iff.mp hthrice
    rw [hnormal, Condition.isEmpty, hsecond]
    simp
  · show Text.lower (Text.trim rule.assigneeEmail) ≠ ""
    rw [hemail, Sender.lower_trim_email hparse]
    exact Sender.email_ne_empty hparse
  · show rule.id = id
    rw [hrule]
  · show rule.enabled = draft.enabled
    rw [hrule]
  · show rule.condition.normalized.normalized.domain = some (comparedDomain domain)
    rw [hnormal]
    exact hthrice

theorem resolveAssignee_single {text : String} {sender : Sender} {rule : AssigneeRule}
    {reason : MatchReason} (hsender : Sender.parse? text = some sender)
    (henabled : rule.enabled = true) (hreason : rule.condition.reason? sender = some reason) :
    resolveAssignee text [rule]
      = some { ruleId := rule.id, assigneeEmail := rule.assigneeEmail, priority := rule.priority
               reason } := by
  have hresolve : rule.resolve? sender
      = some { ruleId := rule.id, assigneeEmail := rule.assigneeEmail, priority := rule.priority
               reason } :=
    AssigneeRule.resolve?_eq_some_iff.mpr ⟨henabled, hreason, rfl, rfl, rfl⟩
  rw [resolveAssignee, hsender, Option.bind_some, resolveAssigneeFor, evaluationOrder,
    List.mergeSort_singleton, List.findSome?_cons, hresolve]

/-! ### The guard -/

/-- A rule that is created from the draft without a confirmation never wins a sender of a broad
domain through its own domain. -/
def AssigneeDraft.IsGuarded (draft : AssigneeDraft) (allowed : List String) : Prop :=
  ∀ (tables next : Tables) (now : Instant) (id : String) (rule : AssigneeRule)
    (later : List RuleChange) (rules : RuleSet) (text : String) (sender : Sender)
    (winner : ResolvedAssignee),
    draft.broadDomainConfirmed = false →
    now.InFourDigitYear → readBack id = id → tables.assigneeRules.rowsAt (·.id) id = [] →
    tables.createAssigneeRule now id draft allowed = .ok (rule, next) →
    (∀ change ∈ later, change.Spares id) →
    (next.after later).loadRules.outcome = .ok rules →
    Sender.parse? text = some sender →
    resolveAssignee text rules.assigneeRules = some winner →
    winner.ruleId = id → winner.reason = .domain → isBroadDomain sender.domain = false

/-- In a new store an accepted draft breaks the guard, if its domain, normalized three times, is
broad and the domain of some sender. -/
theorem AssigneeDraft.not_isGuarded {draft valid : AssigneeDraft} {allowed : List String}
    {domain : String} (hvalid : draft.validate allowed = .ok valid)
    (hunconfirmed : draft.broadDomainConfirmed = false) (henabled : draft.enabled = true)
    (hdomain : draft.condition.domain = some domain)
    (hsenders : IsSenderDomain (comparedDomain domain))
    (hbroad : isBroadDomain (comparedDomain domain) = true) : ¬ draft.IsGuarded allowed := by
  intro h
  obtain ⟨rule, hcreate⟩ := Tables.exists_createAssigneeRule_unused hvalid .epoch "1"
  obtain ⟨found, hgiven, hfoundId, hfoundEnabled, hfoundDomain⟩ :=
    Tables.exists_loaded_of_created hcreate hdomain hsenders.1
  obtain ⟨text, sender, hsender, heq, hcovers⟩ :=
    Condition.exists_sender_of_domain hfoundDomain hsenders
  -- the rule is the only one in the store, so it wins whomever it covers
  have hepoch : Instant.epoch.InFourDigitYear := by decide
  have hload := Tables.loadRules_single hepoch (by decide) hcreate hgiven
  have hnot := h Tables.unused _ .epoch "1" rule [] _ text sender _ hunconfirmed (by decide)
    (by decide) rfl hcreate (fun _ hmem => absurd hmem List.not_mem_nil) hload hsender
    (resolveAssignee_single hsender (hfoundEnabled.trans henabled) hcovers) hfoundId rfl
  rw [heq, hbroad] at hnot
  cases hnot

/-- A draft keeps the guard, if no sender's domain that it is compared with is broad. -/
theorem AssigneeDraft.isGuarded_of_forall {draft : AssigneeDraft} {allowed : List String}
    (h : ∀ valid, draft.validate allowed = .ok valid → draft.broadDomainConfirmed = false →
      draft.enabled = true → ∀ domain ∈ draft.condition.domain,
        IsSenderDomain (comparedDomain domain) → isBroadDomain (comparedDomain domain) = false) :
    draft.IsGuarded allowed := by
  intro tables next now id rule later rules text sender winner hunconfirmed hnow hid hfresh
    hcreate hlater hload hsender hwinner hwins hreason
  obtain ⟨henabled, domain, hdomain, heq⟩ := Tables.domain_of_created_rule_wins hnow hid hfresh
    hcreate hlater hload hsender hwinner hwins hreason
  obtain ⟨valid, hvalid, -, -⟩ := Tables.createAssigneeRule_eq_ok hcreate
  rw [heq]
  exact h valid hvalid hunconfirmed henabled domain hdomain
    (heq ▸ isSenderDomain_of_parse? hsender)

/-- The guard holds for every draft whose condition settles at once: then the domain that is judged
is the one that is compared. -/
theorem AssigneeDraft.isGuarded_of_settlesAtOnce {draft : AssigneeDraft} {allowed : List String}
    (hsettles : draft.condition.SettlesAtOnce) : draft.IsGuarded allowed := by
  refine isGuarded_of_forall fun valid hvalid hunconfirmed _ domain hdomain hsenders => ?_
  obtain ⟨-, -, -, -, hconfirmed, -⟩ := validate_eq_ok hvalid
  have hnormal : draft.condition.normalized.domain = some (normalizeDomain domain) :=
    Condition.normalized_domain_eq_some_iff.mpr
      ⟨domain, hdomain, rfl, (comparedDomain_ne_empty hsenders.1).1⟩
  have hstays := (normalizeDomain_normalizeDomain_iff domain).mpr (hsettles _ hnormal)
  rw [comparedDomain, hstays, hstays]
  refine Bool.eq_false_iff.mpr fun hbroad => ?_
  rw [hconfirmed _ hnormal hbroad] at hunconfirmed
  cases hunconfirmed

/-- **Which drafts the guard holds for.**  Among the drafts that are accepted without a confirmation
it fails exactly for the enabled ones whose domain, normalized three times, is broad and the domain
of some sender. -/
theorem AssigneeDraft.isGuarded_iff (draft : AssigneeDraft) (allowed : List String) :
    draft.IsGuarded allowed
      ↔ ∀ valid, draft.validate allowed = .ok valid → draft.broadDomainConfirmed = false →
        draft.enabled = true → ∀ domain ∈ draft.condition.domain,
          IsSenderDomain (comparedDomain domain) → isBroadDomain (comparedDomain domain) = false := by
  refine ⟨fun h valid hvalid hunconfirmed henabled domain hdomain hsenders => ?_,
    isGuarded_of_forall⟩
  refine Bool.eq_false_iff.mpr fun hbroad => ?_
  exact not_isGuarded hvalid hunconfirmed henabled hdomain hsenders hbroad h

/-- The guard holds for a domain that nobody shares. -/
theorem AssigneeDraft.isGuarded_vendor : (unconfirmedDraft ".vendor.io").IsGuarded [] := by
  refine (isGuarded_iff _ _).mpr fun valid _ _ _ domain hdomain _ => ?_
  cases hdomain
  decide

/-- **The guard fails.**  With three points in front the domain of a public provider is accepted
without a confirmation, and wins its senders. -/
theorem AssigneeDraft.not_isGuarded_dotted : ¬ (unconfirmedDraft "...gmail.com").IsGuarded [] := by
  have hcompared : comparedDomain "...gmail.com" = "gmail.com" := by decide
  have hvalid : (unconfirmedDraft "...gmail.com").validate []
      = .ok (unconfirmedDraft "..gmail.com") := rfl
  have hdomain : (unconfirmedDraft "...gmail.com").condition.domain = some "...gmail.com" := rfl
  refine not_isGuarded hvalid rfl rfl hdomain ?_ ?_
  · rw [hcompared]
    exact ⟨by decide, by decide, Address.bare_of_open_not_mem (by decide)⟩
  · rw [hcompared]
    decide

end MailTriage
