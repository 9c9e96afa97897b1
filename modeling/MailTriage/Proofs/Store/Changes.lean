import MailTriage.Proofs.Store.Rows

/-! # Changes of the stored rules

Everything that changes stored rules is one of the changes here, and a run is any sequence of them.
A change reaches only the rows of its own id: the rows of any other id stay as they are through each
change (`Tables.sameAt_apply`), and so through every run (`Tables.sameAt_after`).
-/
namespace MailTriage

/-- A change of the stored rules, with the clock and the new id where it needs them. -/
inductive RuleChange where
  | createLabelRule (now : Instant) (id : String) (draft : LabelDraft)
  | createAssigneeRule (now : Instant) (id : String) (draft : AssigneeDraft)
      (allowed : List String)
  | insertLabelDocument (now : Instant) (doc : LabelDocument)
  | insertAssigneeDocument (now : Instant) (doc : AssigneeDocument)
  | setLabelRuleEnabled (now : Instant) (id : String) (enabled : Bool)
  | setAssigneeRuleEnabled (now : Instant) (id : String) (enabled : Bool)
  | deleteLabelRule (id : String)
  | deleteAssigneeRule (id : String)

namespace RuleChange

/-- The id of the rule that a change is about. -/
def id : RuleChange → String
  | .createLabelRule _ id _ => id
  | .createAssigneeRule _ id _ _ => id
  | .insertLabelDocument _ doc => doc.id
  | .insertAssigneeDocument _ doc => doc.id
  | .setLabelRuleEnabled _ id _ => id
  | .setAssigneeRuleEnabled _ id _ => id
  | .deleteLabelRule id => id
  | .deleteAssigneeRule id => id

/-- The tables after a change. -/
def apply (change : RuleChange) (tables : Tables) : Except RepositoryError Tables :=
  match change with
  | .createLabelRule now id draft => (tables.createLabelRule now id draft).map (·.2)
  | .createAssigneeRule now id draft allowed =>
    (tables.createAssigneeRule now id draft allowed).map (·.2)
  | .insertLabelDocument now doc => tables.insertLabelDocument now doc
  | .insertAssigneeDocument now doc => tables.insertAssigneeDocument now doc
  | .setLabelRuleEnabled now id enabled => tables.setLabelRuleEnabled now id enabled
  | .setAssigneeRuleEnabled now id enabled => tables.setAssigneeRuleEnabled now id enabled
  | .deleteLabelRule id => tables.deleteLabelRule id
  | .deleteAssigneeRule id => tables.deleteAssigneeRule id

/-- The change is about a rule whose id is not read as a given one. -/
def Spares (change : RuleChange) (id : String) : Prop := readBack change.id ≠ id

end RuleChange

/-- The tables after some changes, one after another; a change that fails leaves them as they
are. -/
def Tables.after (tables : Tables) (changes : List RuleChange) : Tables :=
  changes.foldl
    (fun tables change =>
      match change.apply tables with
      | .ok next => next
      | .error _ => tables)
    tables

/-! ### Changes of a list of rows -/

section
variable {Row : Type} {idOf : Row → Option String} {id own : String}

theorem readsAs_of_id_eq {row : Row} (h : idOf row = some own) (hspare : readBack own ≠ id) :
    readsAs idOf id row = false := by
  have hown : (idOf row).map readBack = some (readBack own) := by
    rw [h]
    rfl
  rw [readsAs_of_map_eq hown]
  exact decide_eq_false hspare

theorem insertRow_eq_ok {name : TableName} {row : Row} {rows added : List Row}
    (h : insertRow name idOf row rows = .ok added) : added = rows ++ [row] := by
  rw [insertRow] at h
  split at h
  · cases h
  · exact (Except.ok.inj h).symm

theorem filter_insertRow {name : TableName} {row : Row} {rows next : List Row}
    (h : insertRow name idOf row rows = .ok next) (hid : idOf row = some own)
    (hspare : readBack own ≠ id) :
    next.filter (readsAs idOf id) = rows.filter (readsAs idOf id) := by
  rw [insertRow_eq_ok h, List.filter_append, List.filter_cons_of_neg, List.filter_nil,
    List.append_nil]
  rw [readsAs_of_id_eq hid hspare]
  exact Bool.false_ne_true

theorem filter_changeRow {change : Row → Except SqlError Row}
    (hkeep : ∀ row changed, change row = .ok changed → idOf changed = idOf row)
    {rows next : List Row} (h : changeRow idOf own change rows = .ok next)
    (hspare : readBack own ≠ id) :
    next.filter (readsAs idOf id) = rows.filter (readsAs idOf id) := by
  induction rows generalizing next with
  | nil => cases h
  | cons row rest ih =>
    rw [changeRow] at h
    split at h
    · next hid =>
      obtain ⟨changed, hchange, rfl⟩ := exists_of_map_eq_ok h
      have hkept := hkeep row changed (eq_ok_of_mapError_eq_ok hchange)
      rw [List.filter_cons_of_neg, List.filter_cons_of_neg]
      · rw [readsAs_of_id_eq hid hspare]
        exact Bool.false_ne_true
      · rw [readsAs_of_id_eq (hkept.trans hid) hspare]
        exact Bool.false_ne_true
    · obtain ⟨more, hrest, rfl⟩ := exists_of_map_eq_ok h
      rw [List.filter_cons, List.filter_cons, ih hrest]

theorem filter_removeRow {rows next : List Row} (h : removeRow idOf own rows = .ok next)
    (hspare : readBack own ≠ id) :
    next.filter (readsAs idOf id) = rows.filter (readsAs idOf id) := by
  induction rows generalizing next with
  | nil => cases h
  | cons row rest ih =>
    rw [removeRow] at h
    split at h
    · next hid =>
      rw [← Except.ok.inj h, List.filter_cons_of_neg]
      rw [readsAs_of_id_eq hid hspare]
      exact Bool.false_ne_true
    · obtain ⟨more, hrest, rfl⟩ := exists_of_map_eq_ok h
      rw [List.filter_cons, List.filter_cons, ih hrest]

end

/-! ### Changes of the tables -/

theorem Table.rows_eq_ok {Row : Type} {name : TableName} {table : Table Row} {rows : List Row}
    (h : table.rows name = .ok rows) : table = some rows := by
  cases table with
  | none => cases h
  | some _ => exact congrArg some (Except.ok.inj h)

theorem LabelRow.id_setEnabled {now : Instant} {enabled : Bool} {row changed : LabelRow}
    (h : row.setEnabled now enabled = .ok changed) : changed.id = row.id := by
  obtain ⟨_, -, h⟩ := exists_of_bind_eq_ok h
  rw [← Except.ok.inj h]

theorem AssigneeRow.id_setEnabled {now : Instant} {enabled : Bool} {row changed : AssigneeRow}
    (h : row.setEnabled now enabled = .ok changed) : changed.id = row.id := by
  obtain ⟨_, -, h⟩ := exists_of_bind_eq_ok h
  rw [← Except.ok.inj h]

namespace Tables

variable {tables next : Tables} {now : Instant} {id own : String} {enabled : Bool}

/-- A change of the rows of the label rules leaves the other tables as they are. -/
theorem exists_labelRows_eq_ok {step : List LabelRow → Except RepositoryError (List LabelRow)}
    (h : (do
      let rows ← (tables.labelRules.rows .labelRules).mapError RepositoryError.sql
      return { tables with labelRules := some (← step rows) }) = .ok next) :
    ∃ rows changed, tables.labelRules = some rows ∧ step rows = .ok changed
      ∧ next = { tables with labelRules := some changed } := by
  obtain ⟨rows, hrows, h⟩ := exists_of_bind_eq_ok h
  obtain ⟨changed, hchanged, h⟩ := exists_of_bind_eq_ok h
  exact ⟨rows, changed, Table.rows_eq_ok (eq_ok_of_mapError_eq_ok hrows), hchanged,
    (Except.ok.inj h).symm⟩

/-- A change of the rows of the assignee rules leaves the other tables as they are. -/
theorem exists_assigneeRows_eq_ok
    {step : List AssigneeRow → Except RepositoryError (List AssigneeRow)}
    (h : (do
      let rows ← (tables.assigneeRules.rows .assigneeRules).mapError RepositoryError.sql
      return { tables with assigneeRules := some (← step rows) }) = .ok next) :
    ∃ rows changed, tables.assigneeRules = some rows ∧ step rows = .ok changed
      ∧ next = { tables with assigneeRules := some changed } := by
  obtain ⟨rows, hrows, h⟩ := exists_of_bind_eq_ok h
  obtain ⟨changed, hchanged, h⟩ := exists_of_bind_eq_ok h
  exact ⟨rows, changed, Table.rows_eq_ok (eq_ok_of_mapError_eq_ok hrows), hchanged,
    (Except.ok.inj h).symm⟩

theorem insertLabelDocument_eq_ok {doc : LabelDocument}
    (h : tables.insertLabelDocument now doc = .ok next) :
    ∃ rows added, tables.labelRules = some rows
      ∧ insertRow .labelRules (·.id) (LabelRow.ofDocument now doc) rows = .ok added
      ∧ next = { tables with labelRules := some added } := by
  obtain ⟨rows, hrows, h⟩ := exists_of_bind_eq_ok (eq_ok_of_mapError_eq_ok h)
  obtain ⟨added, hadded, h⟩ := exists_of_bind_eq_ok h
  exact ⟨rows, added, Table.rows_eq_ok hrows, hadded, (Except.ok.inj h).symm⟩

theorem insertAssigneeDocument_eq_ok {doc : AssigneeDocument}
    (h : tables.insertAssigneeDocument now doc = .ok next) :
    ∃ rows added, tables.assigneeRules = some rows
      ∧ insertRow .assigneeRules (·.id) (AssigneeRow.ofDocument now doc) rows = .ok added
      ∧ next = { tables with assigneeRules := some added } := by
  obtain ⟨rows, hrows, h⟩ := exists_of_bind_eq_ok (eq_ok_of_mapError_eq_ok h)
  obtain ⟨added, hadded, h⟩ := exists_of_bind_eq_ok h
  exact ⟨rows, added, Table.rows_eq_ok hrows, hadded, (Except.ok.inj h).symm⟩

theorem createLabelRule_eq_ok {draft : LabelDraft} {rule : LabelRule}
    (h : tables.createLabelRule now own draft = .ok (rule, next)) :
    ∃ valid, draft.validate = .ok valid
      ∧ rule = { id := own, condition := valid.condition, labels := valid.labels
                 assignTo := valid.assignTo, enabled := valid.enabled
                 createdAt := now.truncateToMillis }
      ∧ tables.insertLabelDocument now rule.toDocument = .ok next := by
  obtain ⟨valid, hvalid, h⟩ := exists_of_bind_eq_ok h
  obtain ⟨stored, hstored, h⟩ := exists_of_bind_eq_ok h
  obtain ⟨rfl, rfl⟩ := Prod.mk.inj (Except.ok.inj h)
  exact ⟨valid, eq_ok_of_mapError_eq_ok hvalid, rfl, hstored⟩

theorem createAssigneeRule_eq_ok {draft : AssigneeDraft} {allowed : List String}
    {rule : AssigneeRule} (h : tables.createAssigneeRule now own draft allowed = .ok (rule, next)) :
    ∃ valid, draft.validate allowed = .ok valid
      ∧ rule = { id := own, enabled := valid.enabled, priority := valid.priority
                 condition := valid.condition, assigneeEmail := valid.assigneeEmail
                 unassignedOnly := true, broadDomainConfirmed := valid.broadDomainConfirmed
                 createdAt := now.truncateToMillis, updatedAt := none }
      ∧ tables.insertAssigneeDocument now rule.toDocument = .ok next := by
  obtain ⟨valid, hvalid, h⟩ := exists_of_bind_eq_ok h
  obtain ⟨stored, hstored, h⟩ := exists_of_bind_eq_ok h
  obtain ⟨rfl, rfl⟩ := Prod.mk.inj (Except.ok.inj h)
  exact ⟨valid, eq_ok_of_mapError_eq_ok hvalid, rfl, hstored⟩

/-- The rows of an id are the same in two states of the tables. -/
def SameAt (id : String) (tables next : Tables) : Prop :=
  next.labelRules.rowsAt (·.id) id = tables.labelRules.rowsAt (·.id) id
    ∧ next.assigneeRules.rowsAt (·.id) id = tables.assigneeRules.rowsAt (·.id) id

theorem sameAt_insertLabelDocument {doc : LabelDocument}
    (h : tables.insertLabelDocument now doc = .ok next) (hspare : readBack doc.id ≠ id) :
    SameAt id tables next := by
  obtain ⟨rows, added, hrows, hadded, rfl⟩ := insertLabelDocument_eq_ok h
  refine ⟨?_, rfl⟩
  rw [hrows]
  exact filter_insertRow hadded rfl hspare

theorem sameAt_insertAssigneeDocument {doc : AssigneeDocument}
    (h : tables.insertAssigneeDocument now doc = .ok next) (hspare : readBack doc.id ≠ id) :
    SameAt id tables next := by
  obtain ⟨rows, added, hrows, hadded, rfl⟩ := insertAssigneeDocument_eq_ok h
  refine ⟨rfl, ?_⟩
  rw [hrows]
  exact filter_insertRow hadded rfl hspare

theorem sameAt_setLabelRuleEnabled (h : tables.setLabelRuleEnabled now own enabled = .ok next)
    (hspare : readBack own ≠ id) : SameAt id tables next := by
  obtain ⟨rows, changed, hrows, hchanged, rfl⟩ := exists_labelRows_eq_ok h
  refine ⟨?_, rfl⟩
  rw [hrows]
  exact filter_changeRow (fun _ _ => LabelRow.id_setEnabled) hchanged hspare

theorem sameAt_setAssigneeRuleEnabled
    (h : tables.setAssigneeRuleEnabled now own enabled = .ok next) (hspare : readBack own ≠ id) :
    SameAt id tables next := by
  obtain ⟨rows, changed, hrows, hchanged, rfl⟩ := exists_assigneeRows_eq_ok h
  refine ⟨rfl, ?_⟩
  rw [hrows]
  exact filter_changeRow (fun _ _ => AssigneeRow.id_setEnabled) hchanged hspare

theorem sameAt_deleteLabelRule (h : tables.deleteLabelRule own = .ok next)
    (hspare : readBack own ≠ id) : SameAt id tables next := by
  obtain ⟨rows, left, hrows, hleft, rfl⟩ := exists_labelRows_eq_ok h
  refine ⟨?_, rfl⟩
  rw [hrows]
  exact filter_removeRow hleft hspare

theorem sameAt_deleteAssigneeRule (h : tables.deleteAssigneeRule own = .ok next)
    (hspare : readBack own ≠ id) : SameAt id tables next := by
  obtain ⟨rows, left, hrows, hleft, rfl⟩ := exists_assigneeRows_eq_ok h
  refine ⟨rfl, ?_⟩
  rw [hrows]
  exact filter_removeRow hleft hspare

/-- **One change** keeps the rows of every id that it spares. -/
theorem sameAt_apply {change : RuleChange} (h : change.apply tables = .ok next)
    (hspare : change.Spares id) : SameAt id tables next := by
  cases change with
  | createLabelRule now own draft =>
    obtain ⟨⟨rule, stored⟩, hcreate, rfl⟩ := exists_of_map_eq_ok h
    obtain ⟨valid, -, hrule, hinsert⟩ := createLabelRule_eq_ok hcreate
    exact sameAt_insertLabelDocument hinsert (by rw [hrule]; exact hspare)
  | createAssigneeRule now own draft allowed =>
    obtain ⟨⟨rule, stored⟩, hcreate, rfl⟩ := exists_of_map_eq_ok h
    obtain ⟨valid, -, hrule, hinsert⟩ := createAssigneeRule_eq_ok hcreate
    exact sameAt_insertAssigneeDocument hinsert (by rw [hrule]; exact hspare)
  | insertLabelDocument now doc => exact sameAt_insertLabelDocument h hspare
  | insertAssigneeDocument now doc => exact sameAt_insertAssigneeDocument h hspare
  | setLabelRuleEnabled now own enabled => exact sameAt_setLabelRuleEnabled h hspare
  | setAssigneeRuleEnabled now own enabled => exact sameAt_setAssigneeRuleEnabled h hspare
  | deleteLabelRule own => exact sameAt_deleteLabelRule h hspare
  | deleteAssigneeRule own => exact sameAt_deleteAssigneeRule h hspare

/-- **A run** keeps the rows of every id that all its changes spare. -/
theorem sameAt_after (tables : Tables) {changes : List RuleChange}
    (hspare : ∀ change ∈ changes, change.Spares id) : SameAt id tables (tables.after changes) := by
  induction changes generalizing tables with
  | nil => exact ⟨rfl, rfl⟩
  | cons change rest ih =>
    have hrest : ∀ change ∈ rest, change.Spares id :=
      fun other hother => hspare other (List.mem_cons_of_mem change hother)
    rw [after, List.foldl_cons]
    cases hchange : change.apply tables with
    | error why => exact ih tables hrest -- a change that fails leaves the tables as they are
    | ok next =>
      have hstep := sameAt_apply hchange (hspare change List.mem_cons_self)
      have hrun := ih next hrest
      exact ⟨hrun.1.trans hstep.1, hrun.2.trans hstep.2⟩

end Tables
end MailTriage
