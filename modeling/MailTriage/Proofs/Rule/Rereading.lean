import MailTriage.Proofs.Rule.Document

/-! # Documents that are read again

A rule that was read off a document is written back in today's form, which is read like any other.
Almost all of it is read back as it is, since it was brought to a form that stays when it was read
for the first time (`LabelRule.IsRead`, `AssigneeRule.IsRead`).  The exception is the condition's
domain: each time it is read, one leading `@` and one leading `.` are taken off.  So the rule comes
back exactly when its domain, if it has one, starts with no `@`, `.` or blank; otherwise it comes back
for another domain, or is refused if nothing is left of its condition
(`ofDocument_toDocument_settles_iff`).
-/
namespace MailTriage

/-- A document's assignment names an address in normal form. -/
theorem LabelDocument.isNormal_of_assignment {doc : LabelDocument} {assignTo : Option Assignment}
    (h : doc.assignment = .ok assignTo) : ∀ a ∈ assignTo, a.IsNormal := by
  rintro a rfl
  cases hdoc : doc.assignTo with
  | none =>
    simp only [assignment, hdoc] at h
    cases h
  | some written =>
    simp only [assignment, hdoc] at h
    delta DocumentAssignment.resolve at h
    cases written with
    | keyword word =>
      dsimp only at h
      split at h
      · cases h
        trivial
      · split at h <;> cases h
    | target email =>
      dsimp only at h
      cases hemail : normalizeEmail email with
      | none =>
        rw [hemail] at h
        cases h
      | some normal =>
        rw [hemail] at h
        cases h
        exact normalizeEmail_idem hemail

/-- What holds of every label rule that was read off a document. -/
structure LabelRule.IsRead (rule : LabelRule) : Prop where
  /-- The condition is a normal form, though maybe not one that stays. -/
  condition : ∃ written : Condition, rule.condition = written.normalized
  condition_some : rule.condition.isEmpty = false
  labels : labelSet rule.labels.toList = rule.labels
  labels_some : rule.labels.isEmpty = false
  assignTo : ∀ a ∈ rule.assignTo, a.IsNormal

/-- What holds of every assignee rule that was read off a document. -/
structure AssigneeRule.IsRead (rule : AssigneeRule) : Prop where
  /-- The condition is a normal form, though maybe not one that stays. -/
  condition : ∃ written : Condition, rule.condition = written.normalized
  condition_some : rule.condition.isEmpty = false
  assigneeEmail : Text.lower (Text.trim rule.assigneeEmail) = rule.assigneeEmail
  assigneeEmail_some : rule.assigneeEmail ≠ ""
  unassignedOnly : rule.unassignedOnly = true

namespace LabelRule

variable {rule : LabelRule}

theorem isRead_of_ofDocument {doc : LabelDocument} (h : ofDocument doc = .ok rule) :
    rule.IsRead := by
  obtain ⟨hcondition, hlabels, assignTo, hassign, rfl⟩ := ofDocument_eq_ok_iff.mp h
  exact {
    condition := ⟨doc.condition, rfl⟩
    condition_some := hcondition
    labels := labelSet_toList_labelSet _
    labels_some := hlabels
    assignTo := LabelDocument.isNormal_of_assignment hassign }

/-- The rule comes back with its condition normalized once more, unless nothing is left of the
condition. -/
theorem IsRead.ofDocument_toDocument (h : rule.IsRead) :
    ofDocument rule.toDocument
      = if rule.condition.normalized.isEmpty then .error (.missingCondition rule.id)
        else .ok { rule with condition := rule.condition.normalized } := by
  rw [ofDocument, labelSet_allNames_toDocument h.labels, h.labels_some,
    rule.assignment_toDocument_iff.mpr h.assignTo]
  rfl

theorem IsRead.settles_iff (h : rule.IsRead) :
    ofDocument rule.toDocument = .ok rule
      ↔ ∀ domain ∈ rule.condition.domain, StartsFirm domain := by
  obtain ⟨written, hwritten⟩ := h.condition
  rw [ofDocument_toDocument_iff h.condition_some h.labels h.labels_some, and_iff_left h.assignTo,
    hwritten, written.normalized_normalized_iff]

end LabelRule

namespace AssigneeRule

variable {rule : AssigneeRule}

theorem isRead_of_ofDocument {doc : AssigneeDocument} (h : ofDocument doc = .ok rule) :
    rule.IsRead := by
  obtain ⟨hcondition, hemail, rfl⟩ := ofDocument_eq_ok_iff.mp h
  exact {
    condition := ⟨doc.condition, rfl⟩
    condition_some := hcondition
    assigneeEmail := Text.lower_trim_lower_trim _
    assigneeEmail_some := hemail
    unassignedOnly := rfl }

/-- The rule comes back with its condition normalized once more, unless nothing is left of the
condition. -/
theorem IsRead.ofDocument_toDocument (h : rule.IsRead) :
    ofDocument rule.toDocument
      = if rule.condition.normalized.isEmpty then .error (.missingCondition rule.id)
        else .ok { rule with condition := rule.condition.normalized } := by
  have hassignee : Text.lower (Text.trim rule.toDocument.assigneeEmail) = rule.assigneeEmail :=
    h.assigneeEmail
  rw [ofDocument, hassignee, if_neg h.assigneeEmail_some, ← h.unassignedOnly]
  rfl

theorem IsRead.settles_iff (h : rule.IsRead) :
    ofDocument rule.toDocument = .ok rule
      ↔ ∀ domain ∈ rule.condition.domain, StartsFirm domain := by
  obtain ⟨written, hwritten⟩ := h.condition
  rw [ofDocument_toDocument_iff h.condition_some h.assigneeEmail h.assigneeEmail_some
    h.unassignedOnly, hwritten, written.normalized_normalized_iff]

end AssigneeRule

/-- **When a document's rule comes back.**  A rule that was read off a document is read off its own
document again exactly when its domain, if it has one, starts with no `@`, `.` or blank.  Whatever
it starts with, all but the condition comes back as it was, and the condition is normalized once
more; the rule is refused if nothing is left of it. -/
theorem ofDocument_toDocument_settles_iff (labelDoc : LabelDocument)
    (assigneeDoc : AssigneeDocument) :
    (∀ rule, LabelRule.ofDocument labelDoc = .ok rule →
        (LabelRule.ofDocument rule.toDocument = .ok rule
          ↔ ∀ domain ∈ rule.condition.domain, StartsFirm domain)
        ∧ LabelRule.ofDocument rule.toDocument
          = if rule.condition.normalized.isEmpty then .error (.missingCondition rule.id)
            else .ok { rule with condition := rule.condition.normalized })
      ∧ ∀ rule, AssigneeRule.ofDocument assigneeDoc = .ok rule →
        (AssigneeRule.ofDocument rule.toDocument = .ok rule
          ↔ ∀ domain ∈ rule.condition.domain, StartsFirm domain)
        ∧ AssigneeRule.ofDocument rule.toDocument
          = if rule.condition.normalized.isEmpty then .error (.missingCondition rule.id)
            else .ok { rule with condition := rule.condition.normalized } := by
  constructor
  · intro rule h
    have hread := LabelRule.isRead_of_ofDocument h
    exact ⟨hread.settles_iff, hread.ofDocument_toDocument⟩
  · intro rule h
    have hread := AssigneeRule.isRead_of_ofDocument h
    exact ⟨hread.settles_iff, hread.ofDocument_toDocument⟩

/-! ### Two old documents -/

/-- A label rule as it was written before a rule could have several labels, with one more name. -/
def mixedLabelDocument (domain : String) : LabelDocument :=
  { id := "mixed", condition := { domain := some domain }, labelName := some "VIP "
    labelNames := some ["News", " "], assignTo := some (.keyword "ME") }

/-- The rule that is read off it for the normalized domain. -/
def mixedLabelRule (domain : String) : LabelRule :=
  { id := "mixed", condition := { domain := some domain }, labels := .ofList ["News", "VIP"]
    assignTo := some .me, enabled := true, createdAt := .epoch }

/-- An assignee rule that leaves out all that may be left out. -/
def bareAssigneeDocument (domain : String) : AssigneeDocument :=
  { id := "bare", condition := { domain := some domain }, assigneeEmail := " Agent@Desk.io" }

/-- The rule that is read off it for the normalized domain. -/
def bareAssigneeRule (domain : String) : AssigneeRule :=
  { id := "bare", enabled := true, priority := 0, condition := { domain := some domain }
    assigneeEmail := "agent@desk.io", unassignedOnly := true, broadDomainConfirmed := false
    createdAt := .epoch, updatedAt := none }

/-- Carelessly as they are written, the old documents are read as rules that come back. -/
theorem ofDocument_toDocument_settles_vendor :
    LabelRule.ofDocument (mixedLabelDocument " @.Vendor.io") = .ok (mixedLabelRule "vendor.io")
      ∧ LabelRule.ofDocument (mixedLabelRule "vendor.io").toDocument
        = .ok (mixedLabelRule "vendor.io")
      ∧ AssigneeRule.ofDocument (bareAssigneeDocument "@Vendor.io")
        = .ok (bareAssigneeRule "vendor.io")
      ∧ AssigneeRule.ofDocument (bareAssigneeRule "vendor.io").toDocument
        = .ok (bareAssigneeRule "vendor.io") := by
  have hlabel :
      LabelRule.ofDocument (mixedLabelDocument " @.Vendor.io")
        = .ok (mixedLabelRule "vendor.io") := by rfl
  have hassignee :
      AssigneeRule.ofDocument (bareAssigneeDocument "@Vendor.io")
        = .ok (bareAssigneeRule "vendor.io") := by rfl
  obtain ⟨hlabelBack, hassigneeBack⟩ := ofDocument_toDocument_settles_iff
    (mixedLabelDocument " @.Vendor.io") (bareAssigneeDocument "@Vendor.io")
  exact ⟨hlabel, (hlabelBack _ hlabel).1.mpr (by decide), hassignee,
    (hassigneeBack _ hassignee).1.mpr (by decide)⟩

/-- Of several signs before a domain one of each kind is taken off each time: the label rule comes
back for another domain, and of the assignee rule's condition nothing is left. -/
theorem ofDocument_toDocument_not_settled :
    LabelRule.ofDocument (mixedLabelDocument "@@foo.dev") = .ok (mixedLabelRule "@foo.dev")
      ∧ LabelRule.ofDocument (mixedLabelRule "@foo.dev").toDocument
        = .ok (mixedLabelRule "foo.dev")
      ∧ mixedLabelRule "foo.dev" ≠ mixedLabelRule "@foo.dev"
      ∧ AssigneeRule.ofDocument (bareAssigneeDocument "@.@") = .ok (bareAssigneeRule "@")
      ∧ AssigneeRule.ofDocument (bareAssigneeRule "@").toDocument
        = .error (.missingCondition "bare") :=
  ⟨by rfl, by rfl, by decide, by rfl, by rfl⟩

end MailTriage
