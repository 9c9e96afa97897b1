import Mathlib.Data.List.Sort
import MailTriage.Proofs.Store.Changes
import MailTriage.Proofs.Time.Order

/-! # What should be stored

A rule book says in the plainest way what should be stored: under each id at most one label document
and at most one assignee document.  It takes the same changes as the tables do (`RuleChange.record`)
and says what should be listed (`DocumentMap.Lists`).
-/
namespace MailTriage

/-! ### Documents by their ids -/

/-- Documents by their ids. -/
abbrev DocumentMap (Doc : Type) := String → Option Doc

namespace DocumentMap

variable {Doc Rule : Type}

/-- The documents with another one, or none, under an id. -/
def replaceAt (documents : DocumentMap Doc) (id : String) (doc? : Option Doc) : DocumentMap Doc :=
  fun other => if other = id then doc? else documents other

theorem replaceAt_replaceAt (documents : DocumentMap Doc) (id : String)
    (first second : Option Doc) :
    (documents.replaceAt id first).replaceAt id second = documents.replaceAt id second := by
  funext other
  simp only [replaceAt]
  split <;> rfl

/-- The documents with one more.  Its id must be free. -/
def put (documents : DocumentMap Doc) (name : TableName) (id : String) (doc : Doc) :
    Except RepositoryError (DocumentMap Doc) :=
  match documents id with
  | some _ => .error (.sql (.uniqueViolated name.text "id"))
  | none => .ok (documents.replaceAt id (some doc))

/-- The documents with the one under an id changed or removed.  There must be one. -/
def revise (documents : DocumentMap Doc) (id : String) (change : Doc → Option Doc) :
    Except RepositoryError (DocumentMap Doc) :=
  match documents id with
  | none => .error (.notFound id)
  | some doc => .ok (documents.replaceAt id (change doc))

/-- Every document has a property. -/
def All (documents : DocumentMap Doc) (p : Doc → Prop) : Prop :=
  ∀ id doc, documents id = some doc → p doc

section
variable {documents next : DocumentMap Doc} {p : Doc → Prop} {id : String}

theorem All.replaceAt (h : documents.All p) (id : String) {doc? : Option Doc}
    (hdoc : ∀ doc ∈ doc?, p doc) : (documents.replaceAt id doc?).All p := by
  intro other doc hother
  rw [DocumentMap.replaceAt] at hother
  split at hother
  · exact hdoc doc hother
  · exact h other doc hother

theorem All.put {name : TableName} {doc : Doc} (h : documents.All p) (hdoc : p doc)
    (hput : documents.put name id doc = .ok next) : next.All p := by
  rw [DocumentMap.put] at hput
  split at hput
  · cases hput
  · cases hput
    refine h.replaceAt id fun other hother => ?_
    cases hother
    exact hdoc

theorem All.revise {change : Doc → Option Doc} (h : documents.All p)
    (hchange : ∀ doc, p doc → ∀ changed ∈ change doc, p changed)
    (hrevise : documents.revise id change = .ok next) : next.All p := by
  rw [DocumentMap.revise] at hrevise
  cases hdoc : documents id with
  | none =>
    rw [hdoc] at hrevise
    cases hrevise
  | some doc =>
    rw [hdoc] at hrevise
    cases hrevise
    exact h.replaceAt id (hchange doc (h id doc hdoc))

end

/-- The rules are those of the documents, in order: each document that is a rule gives its rule. -/
structure Lists (documents : DocumentMap Doc) (ruleOf : Doc → Except ShapeError Rule)
    (idOf : Rule → String) (before : Rule → Rule → Prop) (rules : List Rule) : Prop where
  mem_iff : ∀ rule, rule ∈ rules ↔ ∃ doc, documents (idOf rule) = some doc ∧ ruleOf doc = .ok rule
  ordered : rules.Pairwise before

/-- Documents are listed in one way only. -/
theorem Lists.eq {documents : DocumentMap Doc} {ruleOf : Doc → Except ShapeError Rule}
    {idOf : Rule → String} {before : Rule → Rule → Prop} {rules others : List Rule}
    (hasymm : ∀ a b, before a b → ¬ before b a)
    (h : documents.Lists ruleOf idOf before rules)
    (h' : documents.Lists ruleOf idOf before others) : rules = others := by
  have : Std.Asymm before := ⟨hasymm⟩
  exact h.ordered.eq_of_mem_iff h'.ordered fun rule =>
    (h.mem_iff rule).trans (h'.mem_iff rule).symm

/-- A single document lists its rule. -/
theorem lists_single {ruleOf : Doc → Except ShapeError Rule} (idOf : Rule → String)
    (before : Rule → Rule → Prop) {doc : Doc} {rule : Rule} (hrule : ruleOf doc = .ok rule) :
    (replaceAt (fun _ => none) (idOf rule) (some doc)).Lists ruleOf idOf before [rule] where
  mem_iff other := by
    rw [List.mem_singleton]
    constructor
    · rintro rfl
      exact ⟨doc, if_pos rfl, hrule⟩
    · rintro ⟨held, hheld, hother⟩
      rw [replaceAt] at hheld
      split at hheld
      · cases hheld
        exact Except.ok.inj (hother.symm.trans hrule)
      · cases hheld
  ordered := List.pairwise_singleton before rule

end DocumentMap

/-- A label rule is listed before another: by time of creation, then by id. -/
def LabelRule.ListedBefore (a b : LabelRule) : Prop :=
  a.createdAt ≤ b.createdAt ∧ (a.createdAt = b.createdAt → a.id < b.id)

/-- An assignee rule is listed before another: by priority, then by time of creation, then by id. -/
def AssigneeRule.ListedBefore (a b : AssigneeRule) : Prop :=
  a.priority ≤ b.priority ∧ (a.priority = b.priority →
    a.createdAt ≤ b.createdAt ∧ (a.createdAt = b.createdAt → a.id < b.id))

theorem LabelRule.ListedBefore.asymm {a b : LabelRule} (h : a.ListedBefore b) :
    ¬ b.ListedBefore a := by
  intro h'
  have htime := Instant.le_antisymm h.1 h'.1
  exact String.lt_asymm (h.2 htime) (h'.2 htime.symm)

theorem AssigneeRule.ListedBefore.asymm {a b : AssigneeRule} (h : a.ListedBefore b) :
    ¬ b.ListedBefore a := by
  intro h'
  have hpriority := Int64.le_antisymm h.1 h'.1
  have htime := Instant.le_antisymm (h.2 hpriority).1 (h'.2 hpriority.symm).1
  exact String.lt_asymm ((h.2 hpriority).2 htime) ((h'.2 hpriority.symm).2 htime.symm)

/-! ### Rule books -/

/-- What should be stored. -/
structure RuleBook where
  labels : DocumentMap LabelDocument := fun _ => none
  assignees : DocumentMap AssigneeDocument := fun _ => none

/-- The document as it is kept: if it does not say when it was created, then now.  Times are cut off
after the milliseconds. -/
def LabelDocument.kept (now : Instant) (doc : LabelDocument) : LabelDocument :=
  { doc with createdAt := some (doc.createdAt.getD now).truncateToMillis }

/-- The document as it is kept: if it does not say when it was created, then now.  Times are cut off
after the milliseconds. -/
def AssigneeDocument.kept (now : Instant) (doc : AssigneeDocument) : AssigneeDocument :=
  { doc with
    createdAt := some (doc.createdAt.getD now).truncateToMillis
    updatedAt := doc.updatedAt.map (·.truncateToMillis) }

namespace RuleBook

/-- The label rules that the book lists. -/
def ListsLabels (book : RuleBook) (rules : List LabelRule) : Prop :=
  book.labels.Lists LabelRule.ofDocument LabelRule.id LabelRule.ListedBefore rules

/-- The assignee rules that the book lists. -/
def ListsAssignees (book : RuleBook) (rules : List AssigneeRule) : Prop :=
  book.assignees.Lists AssigneeRule.ofDocument AssigneeRule.id AssigneeRule.ListedBefore rules

/-- The book with a label document more. -/
def insertLabel (book : RuleBook) (now : Instant) (doc : LabelDocument) :
    Except RepositoryError RuleBook :=
  (book.labels.put .labelRules doc.id (doc.kept now)).map ({ book with labels := · })

/-- The book with an assignee document more. -/
def insertAssignee (book : RuleBook) (now : Instant) (doc : AssigneeDocument) :
    Except RepositoryError RuleBook :=
  (book.assignees.put .assigneeRules doc.id (doc.kept now)).map ({ book with assignees := · })

/-- The book with a label document changed or removed. -/
def reviseLabel (book : RuleBook) (id : String) (change : LabelDocument → Option LabelDocument) :
    Except RepositoryError RuleBook :=
  (book.labels.revise id change).map ({ book with labels := · })

/-- The book with an assignee document changed or removed. -/
def reviseAssignee (book : RuleBook) (id : String)
    (change : AssigneeDocument → Option AssigneeDocument) : Except RepositoryError RuleBook :=
  (book.assignees.revise id change).map ({ book with assignees := · })

end RuleBook

/-- The book after a change.  Only a switched assignee rule keeps the time of the switch. -/
def RuleChange.record (change : RuleChange) (book : RuleBook) : Except RepositoryError RuleBook :=
  match change with
  | .createLabelRule now id draft => do
    let valid ← draft.validate.mapError .validation
    book.insertLabel now (LabelRule.toDocument
      { id, condition := valid.condition, labels := valid.labels, assignTo := valid.assignTo
        enabled := valid.enabled, createdAt := now.truncateToMillis })
  | .createAssigneeRule now id draft allowed => do
    let valid ← (draft.validate allowed).mapError .validation
    book.insertAssignee now (AssigneeRule.toDocument
      { id, enabled := valid.enabled, priority := valid.priority, condition := valid.condition
        assigneeEmail := valid.assigneeEmail, unassignedOnly := true
        broadDomainConfirmed := valid.broadDomainConfirmed, createdAt := now.truncateToMillis
        updatedAt := none })
  | .insertLabelDocument now doc => book.insertLabel now doc
  | .insertAssigneeDocument now doc => book.insertAssignee now doc
  | .setLabelRuleEnabled _ id enabled => book.reviseLabel id fun doc => some { doc with enabled }
  | .setAssigneeRuleEnabled now id enabled =>
    book.reviseAssignee id fun doc =>
      some { doc with enabled, updatedAt := some now.truncateToMillis }
  | .deleteLabelRule id => book.reviseLabel id fun _ => none
  | .deleteAssigneeRule id => book.reviseAssignee id fun _ => none

/-- The book after some changes, one after another; a change that fails leaves it as it is. -/
def RuleBook.after (book : RuleBook) (changes : List RuleChange) : RuleBook :=
  changes.foldl
    (fun book change =>
      match change.record book with
      | .ok next => next
      | .error _ => book)
    book

/-- The clock and the times in the document of a change lie in years of four digits. -/
def RuleChange.HasOrdinaryTimes : RuleChange → Prop
  | .createLabelRule now _ _ => now.InFourDigitYear
  | .createAssigneeRule now _ _ _ => now.InFourDigitYear
  | .insertLabelDocument now doc => now.InFourDigitYear ∧ doc.HasOrdinaryTimes
  | .insertAssigneeDocument now doc => now.InFourDigitYear ∧ doc.HasOrdinaryTimes
  | .setLabelRuleEnabled now _ _ => now.InFourDigitYear
  | .setAssigneeRuleEnabled now _ _ => now.InFourDigitYear
  | .deleteLabelRule _ => True
  | .deleteAssigneeRule _ => True

/-- Whether a change is about a label rule. -/
def RuleChange.isAboutLabels : RuleChange → Bool
  | .createLabelRule .. | .insertLabelDocument .. | .setLabelRuleEnabled ..
  | .deleteLabelRule _ => true
  | .createAssigneeRule .. | .insertAssigneeDocument .. | .setAssigneeRuleEnabled ..
  | .deleteAssigneeRule _ => false

end MailTriage
