import MailTriage.Proofs.Address
import MailTriage.Proofs.Condition
import MailTriage.Rule.Draft

/-! # What validation accepts

Each check of a draft passes on exactly the drafts described here, and what it gives is the draft
with its condition, labels and assignee in normal form.
-/
namespace MailTriage

/-! ### Computations that may fail -/

theorem exists_of_bind_eq_ok {ε α β : Type} {x : Except ε α} {f : α → Except ε β} {b : β}
    (h : x >>= f = .ok b) : ∃ a, x = .ok a ∧ f a = .ok b := by
  cases x with
  | error why => cases h
  | ok a => exact ⟨a, rfl, h⟩

theorem exists_of_map_eq_ok {ε α β : Type} {x : Except ε α} {f : α → β} {b : β}
    (h : x.map f = .ok b) : ∃ a, x = .ok a ∧ f a = b := by
  cases x with
  | error why => cases h
  | ok a => exact ⟨a, rfl, Except.ok.inj h⟩

theorem eq_ok_of_mapError_eq_ok {ε ε' α : Type} {x : Except ε α} {f : ε → ε'} {a : α}
    (h : x.mapError f = .ok a) : x = .ok a := by
  cases x with
  | error why => cases h
  | ok _ => exact congrArg _ (Except.ok.inj h)

/-! ### Conditions and assignees -/

theorem Condition.validate_eq_ok_iff {c normal : Condition} :
    c.validate = .ok normal
      ↔ normal = c.normalized ∧ c.normalized.isEmpty = false
        ∧ ∀ email ∈ c.normalized.email, (normalizeEmail email).isSome = true := by
  rw [Condition.validate]
  cases hempty : c.normalized.isEmpty with
  | true => simp
  | false =>
    simp only [Bool.false_eq_true, if_false, true_and]
    cases hemail : c.normalized.email with
    | none => exact ⟨fun h => ⟨(Except.ok.inj h).symm, nofun⟩, fun h => by rw [h.1]⟩
    | some email =>
      cases hnormal : normalizeEmail email with
      | none => simp [hnormal]
      | some _ =>
        refine ⟨fun h => ⟨by simpa [hnormal] using h.symm, fun e he => ?_⟩, fun h => ?_⟩
        · cases he
          rw [hnormal]
          rfl
        · simp [hnormal, h.1]

theorem validateAssigneeEmail_eq_ok_iff {text email : String} {allowed : List String} :
    validateAssigneeEmail text allowed = .ok email
      ↔ ∃ assignee, Sender.parse? text = some assignee
        ∧ isAllowedDomain allowed assignee.domain = true ∧ assignee.email = email := by
  delta validateAssigneeEmail
  cases Sender.parse? text with
  | none => simp
  | some assignee => cases hallowed : isAllowedDomain allowed assignee.domain <;> simp [hallowed]

/-! ### Drafts -/

theorem LabelDraft.validate_eq_ok {draft valid : LabelDraft} (h : draft.validate = .ok valid) :
    draft.condition.validate = .ok draft.condition.normalized
      ∧ (labelSet draft.labels.toList).isEmpty = false
      ∧ valid = { draft with
          condition := draft.condition.normalized, labels := labelSet draft.labels.toList } := by
  obtain ⟨condition, hcondition, h⟩ := exists_of_bind_eq_ok h
  obtain ⟨rfl, -, -⟩ := Condition.validate_eq_ok_iff.mp hcondition
  cases hlabels : (labelSet draft.labels.toList).isEmpty with
  | true =>
    rw [if_pos hlabels] at h
    cases h
  | false =>
    rw [if_neg (by rw [hlabels]; exact Bool.false_ne_true)] at h
    exact ⟨hcondition, rfl, (Except.ok.inj h).symm⟩

theorem AssigneeDraft.validate_eq_ok {draft valid : AssigneeDraft} {allowed : List String}
    (h : draft.validate allowed = .ok valid) :
    ∃ assignee, Sender.parse? draft.assigneeEmail = some assignee
      ∧ isAllowedDomain allowed assignee.domain = true
      ∧ draft.condition.validate = .ok draft.condition.normalized
      ∧ (∀ domain ∈ draft.condition.normalized.domain,
          isBroadDomain domain = true → draft.broadDomainConfirmed = true)
      ∧ valid = { draft with
          condition := draft.condition.normalized, assigneeEmail := assignee.email } := by
  obtain ⟨condition, hcondition, h⟩ := exists_of_bind_eq_ok h
  obtain ⟨rfl, -, -⟩ := Condition.validate_eq_ok_iff.mp hcondition
  obtain ⟨email, hassignee, h⟩ := exists_of_bind_eq_ok h
  obtain ⟨assignee, hparse, hallowed, rfl⟩ := validateAssigneeEmail_eq_ok_iff.mp hassignee
  refine ⟨assignee, hparse, hallowed, hcondition, ?_⟩
  cases hdomain : draft.condition.normalized.domain with
  | none =>
    rw [hdomain] at h
    exact ⟨nofun, (Except.ok.inj h).symm⟩
  | some domain =>
    rw [hdomain] at h
    cases hguard : isBroadDomain domain && !draft.broadDomainConfirmed with
    | true =>
      simp [hguard, bind, Except.bind] at h
    | false =>
      simp [hguard, pure, Except.pure] at h
      refine ⟨fun _ hmem hbroad => ?_, h.symm⟩
      cases hmem
      rw [hbroad, Bool.true_and, Bool.not_eq_false'] at hguard
      exact hguard

/-- A label draft with a valid condition is valid if a label is left. -/
theorem LabelDraft.validate_of_condition {draft : LabelDraft}
    (hcondition : draft.condition.validate = .ok draft.condition) :
    draft.validate = if (labelSet draft.labels.toList).isEmpty then .error .missingLabels
      else .ok { draft with labels := labelSet draft.labels.toList } := by
  simp only [validate, hcondition, bind, Except.bind]
  split <;> rfl

/-- An assignee draft with a valid condition on an address alone is valid if its assignee is. -/
theorem AssigneeDraft.validate_of_condition {draft : AssigneeDraft} {allowed : List String}
    (hcondition : draft.condition.validate = .ok draft.condition)
    (hdomain : draft.condition.domain = none) :
    draft.validate allowed = (validateAssigneeEmail draft.assigneeEmail allowed).map fun email =>
      { draft with assigneeEmail := email } := by
  simp only [validate, hcondition, hdomain, bind, Except.bind, pure, Except.pure]
  cases validateAssigneeEmail draft.assigneeEmail allowed with
  | error why => simp only [Except.map]
  | ok email => simp only [Except.map]

/-! ### Conditions on one sender -/

section
variable {s : Sender}

/-- The address of a sender is a condition in normal form. -/
theorem Condition.normalized_of_parse? (h : Sender.parse? s.email = some s) :
    ({ email := some s.email } : Condition).normalized = { email := some s.email } := by
  have heq : ∀ {c : Condition}, c.email = some s.email → c.domain = none →
      c = { email := some s.email } := by
    rintro ⟨_, _⟩ rfl rfl
    rfl
  refine heq (normalized_email_eq_some_iff.mpr ⟨s.email, rfl, ?_, ?_⟩) rfl
  · exact Sender.lower_trim_email h
  · exact Sender.email_ne_empty h

theorem Condition.validate_of_parse? (h : Sender.parse? s.email = some s) :
    ({ email := some s.email } : Condition).validate = .ok { email := some s.email } := by
  rw [validate_eq_ok_iff, normalized_of_parse? h]
  refine ⟨rfl, rfl, fun email hemail => ?_⟩
  obtain rfl := Option.some_inj.mp hemail
  rw [(Sender.parse?_eq_some_iff.mp h).1]
  rfl

/-- It covers the senders with that address and no others. -/
theorem Condition.covers_of_parse? (h : Sender.parse? s.email = some s) (sender : Sender) :
    ({ email := some s.email } : Condition).covers sender = true ↔ sender.email = s.email := by
  rw [covers, reason?, normalized_of_parse? h]
  by_cases hemail : sender.email = s.email
  · simp [hemail]
  · simp [hemail, Ne.symm hemail]

end

end MailTriage
