import MailTriage.Proofs.Address
import MailTriage.Proofs.Condition
import MailTriage.Rule.Document

/-! # Rules that their documents give back

A rule is *settled* when bringing its document to today's form gives the rule again.  What that takes
is said part by part: the condition is in a normal form that stays, the labels are trimmed and not
empty, and an assignment names an address in normal form.
-/
namespace MailTriage

/-! ### Labels -/

theorem mem_labelSet {names : List String} {name : String} :
    name ∈ labelSet names ↔ (∃ written ∈ names, Text.trim written = name) ∧ name ≠ "" := by
  simp [labelSet, List.mem_filter]

theorem Text.trim_trim (s : String) : trim (trim s) = trim s := by
  rw [← String.toList_inj]
  simp only [toList_trim, trimChars_trimChars]

/-- A set of trimmed names is kept. -/
theorem labelSet_toList_labelSet (names : List String) :
    labelSet (labelSet names).toList = labelSet names := by
  refine TextSet.ext fun name => ?_
  rw [mem_labelSet]
  constructor
  · rintro ⟨⟨written, hwritten, rfl⟩, -⟩
    obtain ⟨⟨first, -, rfl⟩, -⟩ := mem_labelSet.mp (TextSet.mem_def.mpr hwritten)
    rw [Text.trim_trim]
    exact hwritten
  · intro h
    obtain ⟨⟨first, -, rfl⟩, hne⟩ := mem_labelSet.mp h
    exact ⟨⟨_, h, Text.trim_trim first⟩, hne⟩

/-! ### Assignments -/

/-- The assignment names an address in normal form, if it names one. -/
def Assignment.IsNormal : Assignment → Prop
  | .me => True
  | .assignee email => normalizeEmail email = some email

instance : (a : Assignment) → Decidable a.IsNormal
  | .me => isTrue trivial
  | .assignee email => inferInstanceAs (Decidable (normalizeEmail email = some email))

theorem Assignment.resolve_toDocument_iff (id : String) (a : Assignment) :
    a.toDocument.resolve id = .ok (some a) ↔ a.IsNormal := by
  cases a with
  | me => exact iff_of_true rfl trivial
  | assignee email =>
    delta Assignment.toDocument DocumentAssignment.resolve Assignment.IsNormal
    dsimp only
    cases normalizeEmail email <;> simp

/-! ### Rules -/

theorem LabelRule.ofDocument_eq_ok_iff {doc : LabelDocument} {rule : LabelRule} :
    LabelRule.ofDocument doc = .ok rule
      ↔ doc.condition.normalized.isEmpty = false ∧ (labelSet doc.allNames).isEmpty = false
        ∧ ∃ assignTo, doc.assignment = .ok assignTo
          ∧ rule = { id := doc.id, condition := doc.condition.normalized
                     labels := labelSet doc.allNames, assignTo, enabled := doc.enabled
                     createdAt := doc.createdAt.getD .epoch } := by
  rw [LabelRule.ofDocument]
  cases doc.condition.normalized.isEmpty with
  | true => simp
  | false =>
    cases (labelSet doc.allNames).isEmpty with
    | true => simp
    | false => cases doc.assignment <;> simp [eq_comm]

theorem AssigneeRule.ofDocument_eq_ok_iff {doc : AssigneeDocument} {rule : AssigneeRule} :
    AssigneeRule.ofDocument doc = .ok rule
      ↔ doc.condition.normalized.isEmpty = false
        ∧ Text.lower (Text.trim doc.assigneeEmail) ≠ ""
        ∧ rule = { id := doc.id, enabled := doc.enabled, priority := doc.priority
                   condition := doc.condition.normalized
                   assigneeEmail := Text.lower (Text.trim doc.assigneeEmail)
                   unassignedOnly := true
                   broadDomainConfirmed := (doc.safety.map (·.broadDomainConfirmed)).getD false
                   createdAt := doc.createdAt.getD .epoch, updatedAt := doc.updatedAt } := by
  rw [AssigneeRule.ofDocument]
  cases doc.condition.normalized.isEmpty with
  | true => simp
  | false =>
    by_cases hemail : Text.lower (Text.trim doc.assigneeEmail) = ""
    · simp [hemail]
    · simp [hemail, eq_comm]

theorem LabelRule.assignment_toDocument_iff (rule : LabelRule) :
    rule.toDocument.assignment = .ok rule.assignTo ↔ ∀ a ∈ rule.assignTo, a.IsNormal := by
  have h : rule.toDocument.assignment
      = match rule.assignTo with
        | none => .ok none
        | some a => a.toDocument.resolve rule.id := by
    delta LabelDocument.assignment LabelRule.toDocument
    cases rule.assignTo <;> rfl
  rw [h]
  cases rule.assignTo with
  | none => simp
  | some a => simpa using a.resolve_toDocument_iff rule.id

theorem LabelRule.labelSet_allNames_toDocument {rule : LabelRule}
    (h : labelSet rule.labels.toList = rule.labels) :
    labelSet rule.toDocument.allNames = rule.labels := by
  rw [LabelDocument.allNames]
  show labelSet (rule.labels.toList ++ []) = rule.labels
  rw [List.append_nil, h]

/-- **What a label rule's document gives back.**  Of a rule whose labels are a set of trimmed names,
the document gives back the rule exactly when condition and assignment are in a normal form that
stays. -/
theorem LabelRule.ofDocument_toDocument_iff {rule : LabelRule}
    (hcondition : rule.condition.isEmpty = false)
    (hlabels : labelSet rule.labels.toList = rule.labels) (hsome : rule.labels.isEmpty = false) :
    LabelRule.ofDocument rule.toDocument = .ok rule
      ↔ rule.condition.normalized = rule.condition ∧ ∀ a ∈ rule.assignTo, a.IsNormal := by
  rw [LabelRule.ofDocument_eq_ok_iff, labelSet_allNames_toDocument hlabels,
    ← rule.assignment_toDocument_iff]
  constructor
  · rintro ⟨-, -, assignTo, hassign, heq⟩
    have h₁ := congrArg LabelRule.condition heq
    have h₂ := congrArg LabelRule.assignTo heq
    exact ⟨h₁.symm, by rw [h₂]; exact hassign⟩
  · rintro ⟨hnormal, hassign⟩
    refine ⟨?_, hsome, rule.assignTo, hassign, ?_⟩
    · show rule.condition.normalized.isEmpty = false
      rw [hnormal]
      exact hcondition
    · show rule = { rule with condition := rule.condition.normalized }
      rw [hnormal]

/-- **What an assignee rule's document gives back.**  Of a rule that assigns unassigned messages to
an address in small letters, the document gives back the rule exactly when the condition is in a
normal form that stays. -/
theorem AssigneeRule.ofDocument_toDocument_iff {rule : AssigneeRule}
    (hcondition : rule.condition.isEmpty = false)
    (hassignee : Text.lower (Text.trim rule.assigneeEmail) = rule.assigneeEmail)
    (hsome : rule.assigneeEmail ≠ "") (hunassigned : rule.unassignedOnly = true) :
    AssigneeRule.ofDocument rule.toDocument = .ok rule
      ↔ rule.condition.normalized = rule.condition := by
  rw [AssigneeRule.ofDocument_eq_ok_iff]
  constructor
  · rintro ⟨-, -, heq⟩
    exact (congrArg AssigneeRule.condition heq).symm
  · intro hnormal
    refine ⟨?_, ?_, ?_⟩
    · show rule.condition.normalized.isEmpty = false
      rw [hnormal]
      exact hcondition
    · show Text.lower (Text.trim rule.assigneeEmail) ≠ ""
      rw [hassignee]
      exact hsome
    · show rule = { rule with
        condition := rule.condition.normalized
        assigneeEmail := Text.lower (Text.trim rule.assigneeEmail)
        unassignedOnly := true }
      rw [hnormal, hassignee, ← hunassigned]

end MailTriage
