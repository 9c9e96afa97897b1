import Mathlib.Data.List.Nodup
import MailTriage.Proofs.Rule.Decision
import MailTriage.Proofs.Store.Loading

/-! # Rules by their content

What stored rules decide depends on the documents and not on the order in which they were inserted
(`Store.decides_by_content`), if no two documents of one kind share an id and each says when it was
created.  The rows are the same up to their order, and sorting brings rows of different ids into one
order only (`Tables.loadRules_eq_of_perm`).  What wins is told by the rules that the documents give:
the listing puts them in order, and the decisions keep to that order.
-/
namespace MailTriage

/-! ### Documents of either kind -/

/-- A document of a label rule or of an assignee rule. -/
inductive StoredDocument where
  | label (doc : LabelDocument)
  | assignee (doc : AssigneeDocument)

namespace StoredDocument

/-- Whether it is the document of a label rule, and its id. -/
def key : StoredDocument → Bool × String
  | label doc => (true, doc.id)
  | assignee doc => (false, doc.id)

/-- The document says itself when it was created. -/
def IsDated : StoredDocument → Prop
  | label doc => doc.createdAt.isSome = true
  | assignee doc => doc.createdAt.isSome = true

/-- All times in the document lie in years of four digits. -/
def HasOrdinaryTimes : StoredDocument → Prop
  | label doc => doc.HasOrdinaryTimes
  | assignee doc => doc.HasOrdinaryTimes

end StoredDocument

/-- A document and the time of the clock when it is inserted. -/
structure Insertion where
  now : Instant
  doc : StoredDocument

namespace Insertion

/-- The change that inserts the document. -/
def change (insertion : Insertion) : RuleChange :=
  match insertion.doc with
  | .label doc => .insertLabelDocument insertion.now doc
  | .assignee doc => .insertAssigneeDocument insertion.now doc

/-- The document as it is kept. -/
def kept (insertion : Insertion) : StoredDocument :=
  match insertion.doc with
  | .label doc => .label (doc.kept insertion.now)
  | .assignee doc => .assignee (doc.kept insertion.now)

/-- The row of the document, if it is one of a label rule. -/
def labelRow? (insertion : Insertion) : Option LabelRow :=
  match insertion.doc with
  | .label doc => some (.ofDocument insertion.now doc)
  | .assignee _ => none

/-- The row of the document, if it is one of an assignee rule. -/
def assigneeRow? (insertion : Insertion) : Option AssigneeRow :=
  match insertion.doc with
  | .label _ => none
  | .assignee doc => some (.ofDocument insertion.now doc)

variable {insertion : Insertion}

@[simp] theorem key_kept (insertion : Insertion) : insertion.kept.key = insertion.doc.key := by
  obtain ⟨now, doc⟩ := insertion
  cases doc <;> rfl

theorem key_of_labelRow?_eq_some {row : LabelRow} (h : insertion.labelRow? = some row) :
    ∃ id, insertion.doc.key = (true, id) ∧ row.id = some id := by
  obtain ⟨now, doc⟩ := insertion
  cases doc with
  | label doc =>
    cases h
    exact ⟨doc.id, rfl, rfl⟩
  | assignee doc => cases h

theorem key_of_assigneeRow?_eq_some {row : AssigneeRow} (h : insertion.assigneeRow? = some row) :
    ∃ id, insertion.doc.key = (false, id) ∧ row.id = some id := by
  obtain ⟨now, doc⟩ := insertion
  cases doc with
  | label doc => cases h
  | assignee doc =>
    cases h
    exact ⟨doc.id, rfl, rfl⟩

/-- Where a document says when it was created, the clock does not count. -/
theorem labelRow?_of_isDated (h : insertion.doc.IsDated) (now : Instant) :
    insertion.labelRow? = labelRow? ⟨now, insertion.doc⟩ := by
  obtain ⟨clock, doc⟩ := insertion
  cases doc with
  | label doc =>
    obtain ⟨t, ht⟩ := Option.isSome_iff_exists.mp h
    simp only [labelRow?, LabelRow.ofDocument, ht, Option.getD_some]
  | assignee doc => rfl

theorem assigneeRow?_of_isDated (h : insertion.doc.IsDated) (now : Instant) :
    insertion.assigneeRow? = assigneeRow? ⟨now, insertion.doc⟩ := by
  obtain ⟨clock, doc⟩ := insertion
  cases doc with
  | label doc => rfl
  | assignee doc =>
    obtain ⟨t, ht⟩ := Option.isSome_iff_exists.mp h
    simp only [assigneeRow?, AssigneeRow.ofDocument, ht, Option.getD_some]

theorem hasOrdinaryTimes_kept (hdated : insertion.doc.IsDated)
    (htimes : insertion.doc.HasOrdinaryTimes) : insertion.kept.HasOrdinaryTimes := by
  obtain ⟨now, doc⟩ := insertion
  cases doc with
  | label doc =>
    obtain ⟨t, ht⟩ := Option.isSome_iff_exists.mp hdated
    intro cut hcut
    cases hcut
    rw [ht]
    exact Instant.inFourDigitYear_truncateToMillis.mpr (htimes t ht)
  | assignee doc =>
    obtain ⟨t, ht⟩ := Option.isSome_iff_exists.mp hdated
    refine ⟨fun cut hcut => ?_, inFourDigitYear_of_mem_map htimes.2⟩
    cases hcut
    rw [ht]
    exact Instant.inFourDigitYear_truncateToMillis.mpr (htimes.1 t ht)

end Insertion

/-! ### Rows in any order -/

/-- Rows are sorted in one way only, if the order tells them apart. -/
theorem mergeSort_eq_of_perm {Row : Type} {before : Row → Row → Bool}
    (hsorted : ∀ rows : List Row, (rows.mergeSort before).Pairwise fun a b => before a b = true)
    {rows next : List Row} (h : rows.Perm next)
    (hanti : ∀ a ∈ rows, ∀ b ∈ rows, before a b = true → before b a = true → a = b) :
    rows.mergeSort before = next.mergeSort before := by
  have hperm : (rows.mergeSort before).Perm (next.mergeSort before) :=
    (List.mergeSort_perm rows _).trans (h.trans (List.mergeSort_perm next _).symm)
  exact hperm.eq_of_pairwise (fun a b ha hb =>
    hanti a (List.mem_mergeSort.mp ha) b (h.mem_iff.mpr (List.mem_mergeSort.mp hb)))
    (hsorted rows) (hsorted next)

/-- Rows of different ids are sorted in one way only. -/
theorem LabelRow.mergeSort_eq_of_perm {rows next : List LabelRow} (h : rows.Perm next)
    (hids : (rows.map LabelRow.id).Nodup) :
    rows.mergeSort LabelRow.listedBefore = next.mergeSort LabelRow.listedBefore := by
  refine MailTriage.mergeSort_eq_of_perm pairwise_sorted h fun a ha b hb hab hba => ?_
  rw [listedBefore_iff] at hab hba
  have htime := String.le_antisymm hab.1 hba.1
  exact List.inj_on_of_nodup_map hids ha hb (nullFirst_antisymm (hab.2 htime) (hba.2 htime.symm))

/-- Rows of different ids are sorted in one way only. -/
theorem AssigneeRow.mergeSort_eq_of_perm {rows next : List AssigneeRow} (h : rows.Perm next)
    (hids : (rows.map AssigneeRow.id).Nodup) :
    rows.mergeSort AssigneeRow.listedBefore = next.mergeSort AssigneeRow.listedBefore := by
  refine MailTriage.mergeSort_eq_of_perm pairwise_sorted h fun a ha b hb hab hba => ?_
  rw [listedBefore_iff] at hab hba
  have hpriority := Numeral.le_antisymm hab.1 hba.1
  have htime := String.le_antisymm (hab.2 hpriority).1 (hba.2 hpriority.symm).1
  exact List.inj_on_of_nodup_map hids ha hb
    (nullFirst_antisymm ((hab.2 hpriority).2 htime) ((hba.2 hpriority.symm).2 htime.symm))

namespace Tables

theorem loadRules_eq_of_listings {tables next : Tables}
    (hlabels : tables.listLabelRules = next.listLabelRules)
    (hassignees : tables.listAssigneeRules = next.listAssigneeRules) :
    tables.loadRules = next.loadRules := by
  rw [loadRules, loadRules, hlabels, hassignees]

/-- **Tables that differ in the order of their rows load the same rules**, and skip the same
documents. -/
theorem loadRules_eq_of_perm {tables next : Tables} {labels labels' : List LabelRow}
    {assignees assignees' : List AssigneeRow} (hlabels : tables.labelRules = some labels)
    (hlabels' : next.labelRules = some labels') (hassignees : tables.assigneeRules = some assignees)
    (hassignees' : next.assigneeRules = some assignees') (hperm : labels.Perm labels')
    (hperm' : assignees.Perm assignees') (hids : (labels.map LabelRow.id).Nodup)
    (hids' : (assignees.map AssigneeRow.id).Nodup) : tables.loadRules = next.loadRules := by
  refine loadRules_eq_of_listings ?_ ?_
  · rw [listLabelRules, listLabelRules, hlabels, hlabels']
    exact congrArg (Listing.ofRows LabelRow.rule) (LabelRow.mergeSort_eq_of_perm hperm hids)
  · rw [listAssigneeRules, listAssigneeRules, hassignees, hassignees']
    exact congrArg (Listing.ofRows AssigneeRow.rule) (AssigneeRow.mergeSort_eq_of_perm hperm' hids')

end Tables

/-! ### Tables after insertions -/

theorem insertRow_of_nodup {Row : Type} {idOf : Row → Option String} (name : TableName) {row : Row}
    {rows rest : List Row} (h : ((rows ++ row :: rest).map idOf).Nodup) :
    insertRow name idOf row rows = .ok (rows ++ [row]) := by
  rw [List.map_append, List.map_cons, List.nodup_append] at h
  exact insertRow_of_new fun old hold =>
    h.2.2 (idOf old) (List.mem_map_of_mem hold) (idOf row) List.mem_cons_self

/-- One document after another adds its row, if all ids differ. -/
theorem Tables.after_insertions {tables : Tables} {labels : List LabelRow}
    {assignees : List AssigneeRow} {insertions : List Insertion}
    (hlabels : tables.labelRules = some labels) (hassignees : tables.assigneeRules = some assignees)
    (hids : ((labels ++ insertions.filterMap Insertion.labelRow?).map LabelRow.id).Nodup)
    (hids' : ((assignees ++ insertions.filterMap Insertion.assigneeRow?).map AssigneeRow.id).Nodup) :
    tables.after (insertions.map Insertion.change)
      = { tables with
          labelRules := some (labels ++ insertions.filterMap Insertion.labelRow?)
          assigneeRules := some (assignees ++ insertions.filterMap Insertion.assigneeRow?) } := by
  induction insertions generalizing tables labels assignees with
  | nil =>
    simp only [List.filterMap_nil, List.append_nil, ← hlabels, ← hassignees]
    rfl
  | cons insertion rest ih =>
    obtain ⟨now, doc⟩ := insertion
    cases doc with
    | label doc =>
      have hrow : Insertion.labelRow? ⟨now, .label doc⟩ = some (.ofDocument now doc) := rfl
      have hnone : Insertion.assigneeRow? ⟨now, .label doc⟩ = none := rfl
      rw [List.filterMap_cons_some hrow] at hids ⊢
      rw [List.filterMap_cons_none hnone] at hids' ⊢
      have hstep : (Insertion.change ⟨now, .label doc⟩).apply tables
          = .ok { tables with labelRules := some (labels ++ [LabelRow.ofDocument now doc]) } := by
        show tables.insertLabelDocument now doc = _
        rw [insertLabelDocument, insertLabelRow, hlabels]
        simp only [Table.rows, bind, Except.bind, insertRow_of_nodup .labelRules hids]
        rfl
      rw [List.append_cons] at hids ⊢
      rw [List.map_cons, after, List.foldl_cons, hstep]
      exact ih rfl hassignees hids hids'
    | assignee doc =>
      have hnone : Insertion.labelRow? ⟨now, .assignee doc⟩ = none := rfl
      have hrow : Insertion.assigneeRow? ⟨now, .assignee doc⟩ = some (.ofDocument now doc) := rfl
      rw [List.filterMap_cons_none hnone] at hids ⊢
      rw [List.filterMap_cons_some hrow] at hids' ⊢
      have hstep : (Insertion.change ⟨now, .assignee doc⟩).apply tables
          = .ok { tables with
              assigneeRules := some (assignees ++ [AssigneeRow.ofDocument now doc]) } := by
        show tables.insertAssigneeDocument now doc = _
        rw [insertAssigneeDocument, insertAssigneeRow, hassignees]
        simp only [Table.rows, bind, Except.bind, insertRow_of_nodup .assigneeRules hids']
        rfl
      rw [List.append_cons] at hids' ⊢
      rw [List.map_cons, after, List.foldl_cons, hstep]
      exact ih hlabels rfl hids hids'

theorem Insertion.nodup_labelRows {insertions : List Insertion}
    (h : (insertions.map (·.doc.key)).Nodup) :
    ((insertions.filterMap Insertion.labelRow?).map LabelRow.id).Nodup := by
  refine List.pairwise_map.mpr (List.pairwise_filterMap.mpr ?_)
  refine (List.pairwise_map.mp h).imp fun hkeys row hrow row' hrow' heq => hkeys ?_
  obtain ⟨id, hkey, hid⟩ := key_of_labelRow?_eq_some hrow
  obtain ⟨id', hkey', hid'⟩ := key_of_labelRow?_eq_some hrow'
  rw [hid, hid'] at heq
  rw [hkey, hkey', Option.some_inj.mp heq]

theorem Insertion.nodup_assigneeRows {insertions : List Insertion}
    (h : (insertions.map (·.doc.key)).Nodup) :
    ((insertions.filterMap Insertion.assigneeRow?).map AssigneeRow.id).Nodup := by
  refine List.pairwise_map.mpr (List.pairwise_filterMap.mpr ?_)
  refine (List.pairwise_map.mp h).imp fun hkeys row hrow row' hrow' heq => hkeys ?_
  obtain ⟨id, hkey, hid⟩ := key_of_assigneeRow?_eq_some hrow
  obtain ⟨id', hkey', hid'⟩ := key_of_assigneeRow?_eq_some hrow'
  rw [hid, hid'] at heq
  rw [hkey, hkey', Option.some_inj.mp heq]

/-- A new store after documents of different keys were inserted. -/
theorem Store.after_insertions {insertions : List Insertion}
    (hdistinct : (insertions.map (·.doc.key)).Nodup) :
    fresh.content.after (insertions.map Insertion.change)
      = { fresh.content with
          labelRules := some (insertions.filterMap Insertion.labelRow?)
          assigneeRules := some (insertions.filterMap Insertion.assigneeRow?) } :=
  Tables.after_insertions (show fresh.content.labelRules = some [] from rfl)
    (show fresh.content.assigneeRules = some [] from rfl) (Insertion.nodup_labelRows hdistinct)
    (Insertion.nodup_assigneeRows hdistinct)

/-- The rows of dated documents do not depend on the clock. -/
theorem filterMap_perm_of_isDated {Row : Type} {row? : Insertion → Option Row}
    (hrow : ∀ insertion : Insertion, insertion.doc.IsDated →
      row? insertion = row? ⟨.epoch, insertion.doc⟩)
    {first second : List Insertion} (hperm : (first.map Insertion.doc).Perm (second.map Insertion.doc))
    (hdated : ∀ insertion ∈ first, insertion.doc.IsDated) :
    (first.filterMap row?).Perm (second.filterMap row?) := by
  have hsecond : ∀ insertion ∈ second, insertion.doc.IsDated := by
    intro insertion hmem
    obtain ⟨other, hother, heq⟩ :=
      List.mem_map.mp (hperm.mem_iff.mpr (List.mem_map_of_mem hmem))
    exact heq ▸ hdated other hother
  have hrows : ∀ insertions : List Insertion,
      (∀ insertion ∈ insertions, insertion.doc.IsDated) →
      insertions.filterMap row? = (insertions.map Insertion.doc).filterMap (row? ⟨.epoch, ·⟩) := by
    intro insertions hall
    rw [List.filterMap_map]
    exact List.filterMap_congr fun insertion hmem => hrow insertion (hall insertion hmem)
  rw [hrows first hdated, hrows second hsecond]
  exact hperm.filterMap _

/-- **The order of insertions does not show.** -/
theorem Store.loadRules_eq_of_insertions {first second : List Insertion}
    (hperm : (first.map Insertion.doc).Perm (second.map Insertion.doc))
    (hdistinct : (first.map (·.doc.key)).Nodup)
    (hdated : ∀ insertion ∈ first, insertion.doc.IsDated) :
    (fresh.content.after (first.map Insertion.change)).loadRules
      = (fresh.content.after (second.map Insertion.change)).loadRules := by
  have hkeys : (first.map (·.doc.key)).Perm (second.map (·.doc.key)) := by
    have hmap := hperm.map StoredDocument.key
    rwa [List.map_map, List.map_map] at hmap
  rw [after_insertions hdistinct, after_insertions (hkeys.nodup_iff.mp hdistinct)]
  exact Tables.loadRules_eq_of_perm rfl rfl rfl rfl
    (filterMap_perm_of_isDated (fun _ hdoc => Insertion.labelRow?_of_isDated hdoc .epoch)
      hperm hdated)
    (filterMap_perm_of_isDated (fun _ hdoc => Insertion.assigneeRow?_of_isDated hdoc .epoch)
      hperm hdated)
    (Insertion.nodup_labelRows hdistinct) (Insertion.nodup_assigneeRows hdistinct)

/-! ### The book after insertions -/

/-- The document of a kind and an id. -/
def RuleBook.find? (book : RuleBook) : Bool × String → Option StoredDocument
  | (true, id) => (book.labels id).map .label
  | (false, id) => (book.assignees id).map .assignee

theorem RuleBook.find?_label {book : RuleBook} {id : String} {doc : LabelDocument} :
    book.find? (true, id) = some (.label doc) ↔ book.labels id = some doc := by
  rw [find?, Option.map_eq_some_iff]
  exact ⟨fun ⟨other, hother, heq⟩ => StoredDocument.label.inj heq ▸ hother, fun h => ⟨doc, h, rfl⟩⟩

theorem RuleBook.find?_assignee {book : RuleBook} {id : String} {doc : AssigneeDocument} :
    book.find? (false, id) = some (.assignee doc) ↔ book.assignees id = some doc := by
  rw [find?, Option.map_eq_some_iff]
  exact ⟨fun ⟨other, hother, heq⟩ => StoredDocument.assignee.inj heq ▸ hother,
    fun h => ⟨doc, h, rfl⟩⟩

/-- A document is recorded under its own key, if that is free. -/
theorem RuleBook.exists_record_insertion {book : RuleBook} {insertion : Insertion}
    (hfree : book.find? insertion.doc.key = none) :
    ∃ next, insertion.change.record book = .ok next
      ∧ ∀ key, next.find? key
        = if key = insertion.doc.key then some insertion.kept else book.find? key := by
  obtain ⟨now, doc⟩ := insertion
  cases doc with
  | label doc =>
    have hnone : book.labels doc.id = none := Option.map_eq_none_iff.mp hfree
    refine ⟨{ book with labels := book.labels.replaceAt doc.id (some (doc.kept now)) }, ?_, ?_⟩
    · show book.insertLabel now doc = _
      rw [insertLabel, DocumentMap.put, hnone]
      rfl
    · rintro ⟨kind, id⟩
      cases kind with
      | false => simp [find?, StoredDocument.key]
      | true =>
        by_cases hid : id = doc.id <;>
          simp [find?, StoredDocument.key, DocumentMap.replaceAt, hid, Insertion.kept]
  | assignee doc =>
    have hnone : book.assignees doc.id = none := Option.map_eq_none_iff.mp hfree
    refine ⟨{ book with assignees := book.assignees.replaceAt doc.id (some (doc.kept now)) },
      ?_, ?_⟩
    · show book.insertAssignee now doc = _
      rw [insertAssignee, DocumentMap.put, hnone]
      rfl
    · rintro ⟨kind, id⟩
      cases kind with
      | true => simp [find?, StoredDocument.key]
      | false =>
        by_cases hid : id = doc.id <;>
          simp [find?, StoredDocument.key, DocumentMap.replaceAt, hid, Insertion.kept]

/-- Documents of different keys are all recorded, and nothing else is. -/
theorem RuleBook.find?_after_insertions {book : RuleBook} {insertions : List Insertion}
    (hfree : ∀ insertion ∈ insertions, book.find? insertion.doc.key = none)
    (hdistinct : (insertions.map (·.doc.key)).Nodup) (key : Bool × String)
    (kept : StoredDocument) :
    (book.after (insertions.map Insertion.change)).find? key = some kept
      ↔ book.find? key = some kept
        ∨ ∃ insertion ∈ insertions, insertion.doc.key = key ∧ insertion.kept = kept := by
  induction insertions generalizing book with
  | nil => simp [RuleBook.after]
  | cons insertion rest ih =>
    rw [List.map_cons, List.nodup_cons, List.mem_map] at hdistinct
    obtain ⟨next, hnext, hfind⟩ := exists_record_insertion (hfree insertion List.mem_cons_self)
    have hnextFree : ∀ other ∈ rest, next.find? other.doc.key = none := by
      intro other hother
      rw [hfind, if_neg fun heq => hdistinct.1 ⟨other, hother, heq⟩]
      exact hfree other (List.mem_cons_of_mem insertion hother)
    rw [List.map_cons, RuleBook.after, List.foldl_cons, hnext]
    refine (ih hnextFree hdistinct.2).trans ?_
    rw [hfind]
    by_cases hkey : key = insertion.doc.key
    · subst hkey
      rw [if_pos rfl, hfree insertion List.mem_cons_self]
      constructor
      · rintro (hkept | ⟨other, hother, heq, -⟩)
        · exact .inr ⟨insertion, List.mem_cons_self, rfl, Option.some_inj.mp hkept⟩
        · exact absurd ⟨other, hother, heq⟩ hdistinct.1
      · rintro (hkept | ⟨other, hother, heq, rfl⟩)
        · cases hkept
        · rcases List.mem_cons.mp hother with rfl | hrest
          · exact .inl rfl
          · exact absurd ⟨other, hrest, heq⟩ hdistinct.1
    · rw [if_neg hkey]
      refine or_congr_right ⟨?_, ?_⟩
      · rintro ⟨other, hother, heq, hkept⟩
        exact ⟨other, List.mem_cons_of_mem insertion hother, heq, hkept⟩
      · rintro ⟨other, hother, heq, hkept⟩
        rcases List.mem_cons.mp hother with rfl | hrest
        · exact absurd heq.symm hkey
        · exact ⟨other, hrest, heq, hkept⟩

/-- In a new store the documents that are kept are those that were inserted. -/
theorem RuleBook.find?_after_insertions_iff {insertions : List Insertion}
    (hdistinct : (insertions.map (·.doc.key)).Nodup) (key : Bool × String)
    (kept : StoredDocument) :
    (RuleBook.after {} (insertions.map Insertion.change)).find? key = some kept
      ↔ ∃ insertion ∈ insertions, insertion.doc.key = key ∧ insertion.kept = kept := by
  have hempty : ∀ key, ({} : RuleBook).find? key = none := by
    rintro ⟨kind, id⟩
    cases kind <;> rfl
  rw [find?_after_insertions (fun insertion _ => hempty insertion.doc.key) hdistinct, hempty]
  simp

/-! ### What the rules of the documents decide -/

/-- The assignment that a label rule has for the sender that a text names, if it applies. -/
def LabelRule.assignmentFor? (senderText : String) (rule : LabelRule) : Option Assignment :=
  if rule.enabled && (Sender.parse? senderText).any rule.condition.covers then rule.assignTo
  else none

/-- What an assignee rule comes to for the sender that a text names, if it applies.  Its id is named
as it is listed. -/
def AssigneeRule.resultFor? (senderText : String) (rule : AssigneeRule) :
    Option ResolvedAssignee :=
  if rule.enabled then
    (matchAssigneeRule senderText rule).map fun reason =>
      { ruleId := readBack rule.id, assigneeEmail := rule.assigneeEmail, priority := rule.priority
        reason }
  else none

theorem assignTo_decideLabels_asListed (senderText : String) (rules : List LabelRule) :
    (decideLabels senderText (rules.map LabelRule.asListed)).assignTo
      = rules.findSome? (·.assignmentFor? senderText) := by
  rw [decideLabels_eq]
  cases hsender : Sender.parse? senderText with
  | none =>
    refine (List.findSome?_eq_none_iff.mpr fun rule _ => ?_).symm
    simp [LabelRule.assignmentFor?, hsender]
  | some sender =>
    show ((rules.map LabelRule.asListed).filter (·.applies sender)).findSome? (·.assignTo) = _
    rw [findSome?_filter_eq, List.findSome?_map]
    refine congrArg (List.findSome? · rules) (funext fun rule => ?_)
    rw [LabelRule.assignmentFor?, hsender]
    rfl

theorem resolveAssignee_asListed (senderText : String) {rules : List AssigneeRule}
    (hordered : rules.Pairwise AssigneeRule.ListedBefore) :
    resolveAssignee senderText (rules.map AssigneeRule.asListed)
      = rules.findSome? (·.resultFor? senderText) := by
  have hsorted : evaluationOrder (rules.map AssigneeRule.asListed)
      = rules.map AssigneeRule.asListed := by
    refine evaluationOrder_eq_self (List.pairwise_map.mpr (hordered.imp ?_))
    exact fun hbefore => hbefore.1
  rw [resolveAssignee]
  cases hsender : Sender.parse? senderText with
  | none =>
    refine (List.findSome?_eq_none_iff.mpr fun rule _ => ?_).symm
    simp [AssigneeRule.resultFor?, matchAssigneeRule, hsender]
  | some sender =>
    rw [Option.bind_some, resolveAssigneeFor, hsorted, List.findSome?_map]
    refine congrArg (List.findSome? · rules) (funext fun rule => ?_)
    rw [AssigneeRule.resultFor?, matchAssigneeRule, hsender]
    rfl

/-- The documents that were inserted load as the rules that they give. -/
theorem Store.exists_loaded_of_insertions {insertions : List Insertion}
    (hdistinct : (insertions.map (·.doc.key)).Nodup)
    (hdated : ∀ insertion ∈ insertions, insertion.doc.IsDated)
    (htimes : ∀ insertion ∈ insertions, insertion.doc.HasOrdinaryTimes) :
    ∃ (labelRules : List LabelRule) (assigneeRules : List AssigneeRule),
      (∀ rule, rule ∈ labelRules ↔ ∃ insertion ∈ insertions, ∃ doc,
        insertion.kept = .label doc ∧ LabelRule.ofDocument doc = .ok rule)
      ∧ (∀ rule, rule ∈ assigneeRules ↔ ∃ insertion ∈ insertions, ∃ doc,
        insertion.kept = .assignee doc ∧ AssigneeRule.ofDocument doc = .ok rule)
      ∧ labelRules.Pairwise LabelRule.ListedBefore
      ∧ assigneeRules.Pairwise AssigneeRule.ListedBefore
      ∧ (fresh.content.after (insertions.map Insertion.change)).loadRules.outcome = .ok
        { labelRules := labelRules.map LabelRule.asListed
          assigneeRules := assigneeRules.map AssigneeRule.asListed } := by
  have hfind := RuleBook.find?_after_insertions_iff hdistinct
  have hkept : ∀ key kept,
      (RuleBook.after {} (insertions.map Insertion.change)).find? key = some kept →
      kept.HasOrdinaryTimes := by
    intro key kept hkept
    obtain ⟨insertion, hmem, -, rfl⟩ := (hfind key kept).mp hkept
    exact insertion.hasOrdinaryTimes_kept (hdated insertion hmem) (htimes insertion hmem)
  have hbook : (RuleBook.after {} (insertions.map Insertion.change)).HasOrdinaryTimes :=
    ⟨fun id doc hdoc => hkept (true, id) (.label doc) (RuleBook.find?_label.mpr hdoc),
      fun id doc hdoc => hkept (false, id) (.assignee doc) (RuleBook.find?_assignee.mpr hdoc)⟩
  obtain ⟨labelRules, assigneeRules, hlabels, hassignees, hload⟩ :=
    Tables.Hold.exists_loaded ⟨keep_fresh.after (insertions.map Insertion.change), hbook⟩
  refine ⟨labelRules, assigneeRules, fun rule => ?_, fun rule => ?_, hlabels.ordered,
    hassignees.ordered, hload⟩
  · rw [hlabels.mem_iff]
    constructor
    · rintro ⟨doc, hdoc, hrule⟩
      obtain ⟨insertion, hmem, -, hkept⟩ := (hfind _ _).mp (RuleBook.find?_label.mpr hdoc)
      exact ⟨insertion, hmem, doc, hkept, hrule⟩
    · rintro ⟨insertion, hmem, doc, hkept, hrule⟩
      refine ⟨doc, RuleBook.find?_label.mp ((hfind _ _).mpr ⟨insertion, hmem, ?_, hkept⟩), hrule⟩
      obtain ⟨-, -, _, -, rfl⟩ := LabelRule.ofDocument_eq_ok_iff.mp hrule
      rw [← insertion.key_kept, hkept]
      rfl
  · rw [hassignees.mem_iff]
    constructor
    · rintro ⟨doc, hdoc, hrule⟩
      obtain ⟨insertion, hmem, -, hkept⟩ := (hfind _ _).mp (RuleBook.find?_assignee.mpr hdoc)
      exact ⟨insertion, hmem, doc, hkept, hrule⟩
    · rintro ⟨insertion, hmem, doc, hkept, hrule⟩
      refine ⟨doc, RuleBook.find?_assignee.mp ((hfind _ _).mpr ⟨insertion, hmem, ?_, hkept⟩),
        hrule⟩
      obtain ⟨-, -, rfl⟩ := AssigneeRule.ofDocument_eq_ok_iff.mp hrule
      rw [← insertion.key_kept, hkept]
      rfl

/-- **Decisions depend on the documents alone.**  Documents of different ids that say when they were
created load as the same rules in whatever order they were inserted.  If their times lie in years of
four digits, the assignee is that of the least rule that applies, by priority, time of creation and
id, and the assignment of a label rule that of the least one that applies and has any, by time of
creation and id. -/
theorem Store.decides_by_content {first second : List Insertion}
    (hperm : (first.map Insertion.doc).Perm (second.map Insertion.doc))
    (hdistinct : (first.map (·.doc.key)).Nodup)
    (hdated : ∀ insertion ∈ first, insertion.doc.IsDated) :
    (fresh.content.after (first.map Insertion.change)).loadRules
        = (fresh.content.after (second.map Insertion.change)).loadRules
      ∧ ((∀ insertion ∈ first, insertion.doc.HasOrdinaryTimes) →
        ∃ (labelRules : List LabelRule) (assigneeRules : List AssigneeRule),
          (∀ rule, rule ∈ labelRules ↔ ∃ insertion ∈ first, ∃ doc,
            insertion.kept = .label doc ∧ LabelRule.ofDocument doc = .ok rule)
          ∧ (∀ rule, rule ∈ assigneeRules ↔ ∃ insertion ∈ first, ∃ doc,
            insertion.kept = .assignee doc ∧ AssigneeRule.ofDocument doc = .ok rule)
          ∧ (fresh.content.after (first.map Insertion.change)).loadRules.outcome = .ok
            { labelRules := labelRules.map LabelRule.asListed
              assigneeRules := assigneeRules.map AssigneeRule.asListed }
          ∧ ∀ senderText,
            TakenFromLeast AssigneeRule.ListedBefore (·.resultFor? senderText) assigneeRules
              (resolveAssignee senderText (assigneeRules.map AssigneeRule.asListed))
            ∧ TakenFromLeast LabelRule.ListedBefore (·.assignmentFor? senderText) labelRules
              (decideLabels senderText (labelRules.map LabelRule.asListed)).assignTo) := by
  refine ⟨loadRules_eq_of_insertions hperm hdistinct hdated, fun htimes => ?_⟩
  obtain ⟨labelRules, assigneeRules, hlabels, hassignees, hlabelsOrder, hassigneesOrder, hload⟩ :=
    exists_loaded_of_insertions hdistinct hdated htimes
  refine ⟨labelRules, assigneeRules, hlabels, hassignees, hload, fun senderText => ⟨?_, ?_⟩⟩
  · rw [resolveAssignee_asListed senderText hassigneesOrder]
    exact takenFromLeast_findSome? (fun _ _ => AssigneeRule.ListedBefore.asymm) _ hassigneesOrder
  · rw [assignTo_decideLabels_asListed]
    exact takenFromLeast_findSome? (fun _ _ => LabelRule.ListedBefore.asymm) _ hlabelsOrder

/-! ### Two documents -/

/-- An assignee document for the senders of one domain. -/
def agentDocument (id : String) (priority : Int64) : AssigneeDocument :=
  { id, priority, condition := { domain := some "vendor.io" }, assigneeEmail := "agent@support.io"
    createdAt := some .epoch }

/-- The rule of the document. -/
def agentRule (id : String) (priority : Int64) : AssigneeRule :=
  { id, enabled := true, priority, condition := { domain := some "vendor.io" }
    assigneeEmail := "agent@support.io", unassignedOnly := true, broadDomainConfirmed := false
    createdAt := .epoch, updatedAt := none }

theorem ofDocument_agentDocument (id : String) (priority : Int64) :
    AssigneeRule.ofDocument ((agentDocument id priority).kept .epoch)
      = .ok (agentRule id priority) := by
  have hepoch : Instant.epoch.truncateToMillis = .epoch := Instant.eq_of_second_nano rfl rfl
  have hkept : (agentDocument id priority).kept .epoch = agentDocument id priority := by
    rw [AssigneeDocument.kept]
    show ({ agentDocument id priority with
      createdAt := some Instant.epoch.truncateToMillis } : AssigneeDocument) = _
    rw [hepoch]
    rfl
  have hcondition : (Condition.mk none (some "vendor.io")).normalized
      = { domain := some "vendor.io" } := by decide
  have hemail : Text.lower (Text.trim "agent@support.io") = "agent@support.io" := by decide
  rw [hkept]
  refine AssigneeRule.ofDocument_eq_ok_iff.mpr ⟨?_, ?_, ?_⟩
  · show (Condition.mk none (some "vendor.io")).normalized.isEmpty = false
    rw [hcondition]
    rfl
  · show Text.lower (Text.trim "agent@support.io") ≠ ""
    rw [hemail]
    decide
  · simp only [agentDocument, agentRule, hcondition, hemail]
    rfl

theorem hasOrdinaryTimes_agentDocument (id : String) (priority : Int64) :
    (agentDocument id priority).HasOrdinaryTimes := by
  have hepoch : Instant.epoch.InFourDigitYear := by decide
  refine ⟨fun t ht => ?_, fun t ht => ?_⟩
  · cases ht
    exact hepoch
  · cases ht

/-- Two documents of which the second has the smaller priority. -/
def agentInsertions : List Insertion :=
  [⟨.epoch, .assignee (agentDocument "1" 5)⟩, ⟨.epoch, .assignee (agentDocument "2" 1)⟩]

theorem mem_kept_agentInsertions {doc : AssigneeDocument} {rule : AssigneeRule}
    {insertion : Insertion} (hmem : insertion ∈ agentInsertions)
    (hkept : insertion.kept = .assignee doc) (hrule : AssigneeRule.ofDocument doc = .ok rule) :
    rule = agentRule "1" 5 ∨ rule = agentRule "2" 1 := by
  simp only [agentInsertions, List.mem_cons, List.not_mem_nil, or_false] at hmem
  rcases hmem with rfl | rfl
  · cases hkept
    rw [ofDocument_agentDocument] at hrule
    exact .inl (Except.ok.inj hrule).symm
  · cases hkept
    rw [ofDocument_agentDocument] at hrule
    exact .inr (Except.ok.inj hrule).symm

theorem resultFor?_agentRule (priority : Int64) :
    (agentRule "2" priority).resultFor? "ann@vendor.io"
      = some { ruleId := "2", assigneeEmail := "agent@support.io", priority
               reason := .domain } := by
  have hsender : Sender.parse? "ann@vendor.io"
      = some { email := "ann@vendor.io", domain := "vendor.io" } := by decide
  have hreason : Condition.reason? { domain := some "vendor.io" }
      { email := "ann@vendor.io", domain := "vendor.io" } = some .domain := by decide
  have hid : readBack "2" = "2" := by decide
  rw [AssigneeRule.resultFor?, matchAssigneeRule, hsender, Option.bind_some]
  simp only [agentRule, hreason, hid]
  rfl

/-- Whichever of the two documents comes first, the one with the smaller priority wins. -/
theorem Store.decides_by_content_agents :
    (fresh.content.after (agentInsertions.map Insertion.change)).loadRules
        = (fresh.content.after (agentInsertions.reverse.map Insertion.change)).loadRules
      ∧ ∃ rules, (fresh.content.after (agentInsertions.map Insertion.change)).loadRules.outcome
          = .ok rules
        ∧ resolveAssignee "ann@vendor.io" rules.assigneeRules
          = some { ruleId := "2", assigneeEmail := "agent@support.io", priority := 1
                   reason := .domain } := by
  have hdistinct : (agentInsertions.map (·.doc.key)).Nodup := by decide
  have hdated : ∀ insertion ∈ agentInsertions, insertion.doc.IsDated := by
    intro insertion hmem
    simp only [agentInsertions, List.mem_cons, List.not_mem_nil, or_false] at hmem
    rcases hmem with rfl | rfl <;> rfl
  have htimes : ∀ insertion ∈ agentInsertions, insertion.doc.HasOrdinaryTimes := by
    intro insertion hmem
    simp only [agentInsertions, List.mem_cons, List.not_mem_nil, or_false] at hmem
    rcases hmem with rfl | rfl <;> exact hasOrdinaryTimes_agentDocument _ _
  have hperm : (agentInsertions.map Insertion.doc).Perm
      (agentInsertions.reverse.map Insertion.doc) := (List.reverse_perm _).symm.map Insertion.doc
  obtain ⟨hsame, hdecides⟩ := decides_by_content hperm hdistinct hdated
  obtain ⟨labelRules, assigneeRules, -, hassignees, hload, htaken⟩ := hdecides htimes
  refine ⟨hsame, _, hload, ((htaken "ann@vendor.io").1.2 _).mpr
    ⟨agentRule "2" 1, ?_, resultFor?_agentRule 1, ?_⟩⟩
  · exact (hassignees _).mpr ⟨⟨.epoch, .assignee (agentDocument "2" 1)⟩, by simp [agentInsertions],
      _, rfl, ofDocument_agentDocument "2" 1⟩
  · intro other hother _
    obtain ⟨insertion, hmem, doc, hkept, hrule⟩ := (hassignees other).mp hother
    rcases mem_kept_agentInsertions hmem hkept hrule with rfl | rfl
    · exact .inr ⟨by decide, by decide⟩
    · exact .inl rfl

end MailTriage
