import MailTriage.Proofs.Store.Changes

/-! # Rules that are created and listed

Creating a rule stores its document, and listing brings the document to today's form once more.  So
a rule that was created is listed as it was returned exactly when its document gives it back: when
normalizing its condition left a domain that starts with no `@`, `.` or blank, and, for a label rule,
when the assignment names an address in normal form (`Tables.created_rule_listed_iff`).
-/
namespace MailTriage

/-- Normalizing the condition once leaves nothing to normalize. -/
def Condition.SettlesAtOnce (c : Condition) : Prop :=
  ∀ domain ∈ c.normalized.domain, StartsFirm domain

instance (c : Condition) : Decidable c.SettlesAtOnce :=
  Option.decidableForallMem c.normalized.domain

/-! ### The row of a new rule -/

section
variable {tables next : Tables} {now : Instant} {id : String}

theorem filter_insertRow_self {Row : Type} {idOf : Row → Option String} {name : TableName}
    {row : Row} {rows next : List Row} (h : insertRow name idOf row rows = .ok next)
    (hid : (idOf row).map readBack = some id) (hfresh : rows.filter (readsAs idOf id) = []) :
    next.filter (readsAs idOf id) = [row] := by
  rw [insertRow_eq_ok h, List.filter_append, hfresh, List.nil_append, List.filter_cons_of_pos,
    List.filter_nil]
  rw [readsAs_of_map_eq hid]
  exact decide_eq_true rfl

theorem Tables.rowsAt_insertLabelDocument {doc : LabelDocument}
    (h : tables.insertLabelDocument now doc = .ok next) (hid : readBack doc.id = id)
    (hfresh : tables.labelRules.rowsAt (·.id) id = []) :
    next.labelRules.rowsAt (·.id) id = [LabelRow.ofDocument now doc] := by
  obtain ⟨rows, added, hrows, hadded, rfl⟩ := insertLabelDocument_eq_ok h
  rw [hrows] at hfresh
  exact filter_insertRow_self hadded (congrArg some hid) hfresh

theorem Tables.rowsAt_insertAssigneeDocument {doc : AssigneeDocument}
    (h : tables.insertAssigneeDocument now doc = .ok next) (hid : readBack doc.id = id)
    (hfresh : tables.assigneeRules.rowsAt (·.id) id = []) :
    next.assigneeRules.rowsAt (·.id) id = [AssigneeRow.ofDocument now doc] := by
  obtain ⟨rows, added, hrows, hadded, rfl⟩ := insertAssigneeDocument_eq_ok h
  rw [hrows] at hfresh
  exact filter_insertRow_self hadded (congrArg some hid) hfresh

/-- The row of a rule's own document keeps the document, if the rule was created now. -/
theorem LabelRow.keeps_toDocument {rule : LabelRule}
    (hcreated : rule.createdAt = now.truncateToMillis) :
    (LabelRow.ofDocument now rule.toDocument).Keeps rule.toDocument := by
  have hkeeps := keeps_ofDocument now rule.toDocument
  have hcut : some (rule.toDocument.createdAt.getD now).truncateToMillis
      = rule.toDocument.createdAt := by
    show some rule.createdAt.truncateToMillis = some rule.createdAt
    rw [hcreated, Instant.truncateToMillis_truncateToMillis]
  rwa [hcut] at hkeeps

theorem AssigneeRow.keeps_toDocument {rule : AssigneeRule}
    (hcreated : rule.createdAt = now.truncateToMillis) (hupdated : rule.updatedAt = none) :
    (AssigneeRow.ofDocument now rule.toDocument).Keeps rule.toDocument := by
  have hkeeps := keeps_ofDocument now rule.toDocument
  have hcut : some (rule.toDocument.createdAt.getD now).truncateToMillis
      = rule.toDocument.createdAt := by
    show some rule.createdAt.truncateToMillis = some rule.createdAt
    rw [hcreated, Instant.truncateToMillis_truncateToMillis]
  have hnever : rule.toDocument.updatedAt.map (·.truncateToMillis)
      = rule.toDocument.updatedAt := by
    show rule.updatedAt.map _ = rule.updatedAt
    rw [hupdated]
    rfl
  rwa [hcut, hnever] at hkeeps

theorem inFourDigitYear_createdAt_iff {createdAt : Instant}
    (hcreated : createdAt = now.truncateToMillis) :
    createdAt.InFourDigitYear ↔ now.InFourDigitYear := by
  rw [hcreated, Instant.inFourDigitYear_truncateToMillis]

/-- The row of a rule's own document gives what the document gives back. -/
theorem LabelRule.rule_ofDocument_toDocument {rule : LabelRule} (hnow : now.InFourDigitYear)
    (hid : readBack rule.id = rule.id) (hcreated : rule.createdAt = now.truncateToMillis) :
    (LabelRow.ofDocument now rule.toDocument).rule
      = (LabelRule.ofDocument rule.toDocument).mapError .shape := by
  have htimes := LabelRule.hasOrdinaryTimes_toDocument
    ((inFourDigitYear_createdAt_iff hcreated).mpr hnow)
  have hdoc : ({ rule.toDocument with id := readBack rule.id } : LabelDocument)
      = rule.toDocument := by
    rw [hid]
    rfl
  rw [(LabelRow.keeps_toDocument hcreated).rule_eq htimes]
  exact congrArg (fun doc => (LabelRule.ofDocument doc).mapError RepositoryError.shape) hdoc

theorem AssigneeRule.rule_ofDocument_toDocument {rule : AssigneeRule}
    (hnow : now.InFourDigitYear) (hid : readBack rule.id = rule.id)
    (hcreated : rule.createdAt = now.truncateToMillis) (hupdated : rule.updatedAt = none) :
    (AssigneeRow.ofDocument now rule.toDocument).rule
      = (AssigneeRule.ofDocument rule.toDocument).mapError .shape := by
  have htimes := AssigneeRule.hasOrdinaryTimes_toDocument
    ((inFourDigitYear_createdAt_iff hcreated).mpr hnow) (by simp [hupdated])
  have hdoc : ({ rule.toDocument with id := readBack rule.id } : AssigneeDocument)
      = rule.toDocument := by
    rw [hid]
    rfl
  rw [(AssigneeRow.keeps_toDocument hcreated hupdated).rule_eq htimes]
  exact congrArg (fun doc => (AssigneeRule.ofDocument doc).mapError RepositoryError.shape) hdoc

end

/-! ### Listings after a creation -/

theorem mem_toList_toOption {ε α : Type} {given : Except ε α} {a : α} :
    a ∈ given.toOption.toList ↔ given = .ok a := by
  cases given with
  | error why => exact iff_of_false List.not_mem_nil nofun
  | ok b => simp [Except.toOption, eq_comm]

theorem toList_toOption_eq_singleton_iff {ε α : Type} {given : Except ε α} {a : α} :
    given.toOption.toList = [a] ↔ given = .ok a := by
  cases given with
  | error why => exact iff_of_false nofun nofun
  | ok b => simp [Except.toOption]

/-- If a single row has an id, then what is listed under the id is what that row gives. -/
theorem filter_eq_of_single {Row α : Type} {rule : Row → Except RepositoryError α} {row : Row}
    {given : Except ShapeError α} {listed : List α} {p : α → Bool}
    (h : (listed.filter p).Perm ([row].filterMap fun row => (rule row).toOption))
    (hrow : rule row = given.mapError .shape) : listed.filter p = given.toOption.toList := by
  cases given with
  | error why =>
    rw [List.filterMap_cons_none (by rw [hrow]; rfl), List.filterMap_nil] at h
    exact List.perm_nil.mp h
  | ok b =>
    rw [List.filterMap_cons_some (by rw [hrow]; rfl), List.filterMap_nil] at h
    exact List.perm_singleton.mp h

theorem Tables.filter_listLabelRules {tables : Tables} {rules : List LabelRule} (id : String)
    (h : tables.listLabelRules.outcome = .ok rules) :
    (rules.filter (·.id = id)).Perm
      ((tables.labelRules.rowsAt (·.id) id).filterMap fun row => row.rule.toOption) :=
  Listing.filter_ofTable (fun _ _ hrow => LabelRow.readsAs_of_rule hrow id) h

theorem Tables.filter_listAssigneeRules {tables : Tables} {rules : List AssigneeRule} (id : String)
    (h : tables.listAssigneeRules.outcome = .ok rules) :
    (rules.filter (·.id = id)).Perm
      ((tables.assigneeRules.rowsAt (·.id) id).filterMap fun row => row.rule.toOption) :=
  Listing.filter_ofTable (fun _ _ hrow => AssigneeRow.readsAs_of_rule hrow id) h

section
variable {tables next : Tables} {now : Instant} {id : String} {later : List RuleChange}

/-- After a label rule was created, what is listed under its id is what its document gives back. -/
theorem Tables.filter_created_label_rule {draft : LabelDraft} {rule : LabelRule}
    {rules : List LabelRule} (hnow : now.InFourDigitYear) (hid : readBack id = id)
    (hfresh : tables.labelRules.rowsAt (·.id) id = [])
    (hcreate : tables.createLabelRule now id draft = .ok (rule, next))
    (hlater : ∀ change ∈ later, change.Spares id)
    (hlist : (next.after later).listLabelRules.outcome = .ok rules) :
    rules.filter (·.id = id) = (LabelRule.ofDocument rule.toDocument).toOption.toList := by
  obtain ⟨valid, -, hrule, hinsert⟩ := createLabelRule_eq_ok hcreate
  have hrows : (next.after later).labelRules.rowsAt (·.id) id
      = [LabelRow.ofDocument now rule.toDocument] := by
    rw [(sameAt_after next hlater).1]
    exact rowsAt_insertLabelDocument hinsert (by rw [hrule]; exact hid) hfresh
  have hlisted := filter_listLabelRules id hlist
  rw [hrows] at hlisted
  exact filter_eq_of_single hlisted (LabelRule.rule_ofDocument_toDocument hnow
    (by rw [hrule]; exact hid) (by rw [hrule]))

/-- After an assignee rule was created, what is listed under its id is what its document gives
back. -/
theorem Tables.filter_created_assignee_rule {draft : AssigneeDraft} {allowed : List String}
    {rule : AssigneeRule} {rules : List AssigneeRule} (hnow : now.InFourDigitYear)
    (hid : readBack id = id) (hfresh : tables.assigneeRules.rowsAt (·.id) id = [])
    (hcreate : tables.createAssigneeRule now id draft allowed = .ok (rule, next))
    (hlater : ∀ change ∈ later, change.Spares id)
    (hlist : (next.after later).listAssigneeRules.outcome = .ok rules) :
    rules.filter (·.id = id) = (AssigneeRule.ofDocument rule.toDocument).toOption.toList := by
  obtain ⟨valid, -, hrule, hinsert⟩ := createAssigneeRule_eq_ok hcreate
  have hrows : (next.after later).assigneeRules.rowsAt (·.id) id
      = [AssigneeRow.ofDocument now rule.toDocument] := by
    rw [(sameAt_after next hlater).2]
    exact rowsAt_insertAssigneeDocument hinsert (by rw [hrule]; exact hid) hfresh
  have hlisted := filter_listAssigneeRules id hlist
  rw [hrows] at hlisted
  exact filter_eq_of_single hlisted (AssigneeRule.rule_ofDocument_toDocument hnow
    (by rw [hrule]; exact hid) (by rw [hrule]) (by rw [hrule]))

/-- The document of a label rule that is created gives the rule back exactly for these drafts. -/
theorem Tables.ofDocument_created_label_rule_iff {draft : LabelDraft} {rule : LabelRule}
    (hcreate : tables.createLabelRule now id draft = .ok (rule, next)) :
    LabelRule.ofDocument rule.toDocument = .ok rule
      ↔ draft.condition.SettlesAtOnce ∧ ∀ a ∈ draft.assignTo, a.IsNormal := by
  obtain ⟨valid, hvalid, rfl, -⟩ := createLabelRule_eq_ok hcreate
  obtain ⟨hcondition, hlabels, rfl⟩ := LabelDraft.validate_eq_ok hvalid
  obtain ⟨-, hempty, -⟩ := Condition.validate_eq_ok_iff.mp hcondition
  rw [LabelRule.ofDocument_toDocument_iff hempty (labelSet_toList_labelSet _) hlabels]
  exact and_congr_left fun _ => draft.condition.normalized_normalized_iff

/-- The document of an assignee rule that is created gives the rule back exactly for these
drafts. -/
theorem Tables.ofDocument_created_assignee_rule_iff {draft : AssigneeDraft}
    {allowed : List String} {rule : AssigneeRule}
    (hcreate : tables.createAssigneeRule now id draft allowed = .ok (rule, next)) :
    AssigneeRule.ofDocument rule.toDocument = .ok rule ↔ draft.condition.SettlesAtOnce := by
  obtain ⟨valid, hvalid, hrule, -⟩ := createAssigneeRule_eq_ok hcreate
  obtain ⟨assignee, hparse, -, hcondition, -, rfl⟩ := AssigneeDraft.validate_eq_ok hvalid
  obtain ⟨-, hempty, -⟩ := Condition.validate_eq_ok_iff.mp hcondition
  have hemail : rule.assigneeEmail = assignee.email := by rw [hrule]
  have hnormal : rule.condition = draft.condition.normalized := by rw [hrule]
  rw [AssigneeRule.ofDocument_toDocument_iff (by rw [hnormal]; exact hempty)
    (by rw [hemail]; exact Sender.lower_trim_email hparse)
    (by rw [hemail]; exact Sender.email_ne_empty hparse) (by rw [hrule]), hnormal]
  exact draft.condition.normalized_normalized_iff

end

/-- **A rule that was created is listed exactly once and as it was returned** if and only if its
document gives it back.  The clock stands in a year of four digits, no stored row has the new id, and
later changes are about other rules. -/
theorem Tables.created_rule_listed_iff (tables : Tables) {now : Instant} {id : String}
    {later : List RuleChange} (hnow : now.InFourDigitYear) (hid : readBack id = id)
    (hlater : ∀ change ∈ later, change.Spares id) :
    (∀ (draft : LabelDraft) (rule : LabelRule) (next : Tables) (rules : List LabelRule),
      tables.labelRules.rowsAt (·.id) id = [] →
      tables.createLabelRule now id draft = .ok (rule, next) →
      (next.after later).listLabelRules.outcome = .ok rules →
      (rules.filter (·.id = id) = [rule]
        ↔ draft.condition.SettlesAtOnce ∧ ∀ a ∈ draft.assignTo, a.IsNormal))
    ∧ ∀ (draft : AssigneeDraft) (allowed : List String) (rule : AssigneeRule) (next : Tables)
      (rules : List AssigneeRule),
      tables.assigneeRules.rowsAt (·.id) id = [] →
      tables.createAssigneeRule now id draft allowed = .ok (rule, next) →
      (next.after later).listAssigneeRules.outcome = .ok rules →
      (rules.filter (·.id = id) = [rule] ↔ draft.condition.SettlesAtOnce) := by
  refine ⟨fun draft rule next rules hfresh hcreate hlist => ?_,
    fun draft allowed rule next rules hfresh hcreate hlist => ?_⟩
  · rw [filter_created_label_rule hnow hid hfresh hcreate hlater hlist,
      toList_toOption_eq_singleton_iff]
    exact ofDocument_created_label_rule_iff hcreate
  · rw [filter_created_assignee_rule hnow hid hfresh hcreate hlater hlist,
      toList_toOption_eq_singleton_iff]
    exact ofDocument_created_assignee_rule_iff hcreate

/-! ### A single rule -/

/-- The tables of a new store. -/
def Tables.unused : Tables :=
  { labelRules := some [], assigneeRules := some [], messages := some [], auditLog := some [] }

theorem Listing.outcome_ofTable_nil {Row α : Type} {name : TableName} {before : Row → Row → Bool}
    {rule : Row → Except RepositoryError α} :
    (Listing.ofTable name before rule (some [])).outcome = .ok [] := by
  show (Listing.ofRows rule ([].mergeSort before)).outcome = _
  rw [List.mergeSort_nil]
  rfl

theorem Listing.outcome_ofTable_single {Row α : Type} {name : TableName}
    {before : Row → Row → Bool} {rule : Row → Except RepositoryError α} {row : Row}
    {given : Except ShapeError α} (hrow : rule row = given.mapError .shape) :
    (Listing.ofTable name before rule (some [row])).outcome = .ok given.toOption.toList := by
  show (Listing.ofRows rule ([row].mergeSort before)).outcome = _
  rw [List.mergeSort_singleton, Listing.ofRows, hrow]
  cases given <;> rfl

/-- A label rule for the senders of one domain. -/
def vendorDraft (assignTo : Assignment) : LabelDraft :=
  { condition := { domain := some "vendor.io" }, labels := .singleton "VIP"
    assignTo := some assignTo, enabled := true }

/-- The rule that is created from the draft. -/
def vendorRule (assignTo : Assignment) : LabelRule :=
  { id := "1", condition := { domain := some "vendor.io" }, labels := .singleton "VIP"
    assignTo := some assignTo, enabled := true, createdAt := .epoch }

/-- The tables of a store in which only this rule was created. -/
def vendorTables (assignTo : Assignment) : Tables :=
  { Tables.unused with
    labelRules := some [LabelRow.ofDocument .epoch (vendorRule assignTo).toDocument] }

theorem listLabelRules_vendorTables (assignTo : Assignment) :
    (vendorTables assignTo).listLabelRules.outcome
      = .ok (LabelRule.ofDocument (vendorRule assignTo).toDocument).toOption.toList :=
  Listing.outcome_ofTable_single
    (LabelRule.rule_ofDocument_toDocument (by decide) (show readBack "1" = "1" by decide) rfl)

/-- An assignee rule for the senders of a domain, without a confirmation. -/
def unconfirmedDraft (domain : String) : AssigneeDraft :=
  { enabled := true, priority := 0, condition := { domain := some domain }
    assigneeEmail := "agent@support.io", broadDomainConfirmed := false }

/-- The rule that is created from the draft. -/
def unconfirmedRule (domain : String) : AssigneeRule :=
  { id := "1", enabled := true, priority := 0, condition := { domain := some domain }
    assigneeEmail := "agent@support.io", unassignedOnly := true, broadDomainConfirmed := false
    createdAt := .epoch, updatedAt := none }

/-- The tables of a store in which only an assignee rule was created. -/
def Tables.single (now : Instant) (rule : AssigneeRule) : Tables :=
  { unused with assigneeRules := some [AssigneeRow.ofDocument now rule.toDocument] }

theorem Tables.listAssigneeRules_single (rule : AssigneeRule) {now : Instant}
    (hnow : now.InFourDigitYear) (hid : readBack rule.id = rule.id)
    (hcreated : rule.createdAt = now.truncateToMillis) (hupdated : rule.updatedAt = none) :
    (single now rule).listAssigneeRules.outcome
      = .ok (AssigneeRule.ofDocument rule.toDocument).toOption.toList :=
  Listing.outcome_ofTable_single
    (AssigneeRule.rule_ofDocument_toDocument hnow hid hcreated hupdated)

/-- An assignment to the person who applies the rule is listed as it was returned, and so is an
assignee rule for a domain in normal form. -/
theorem Tables.created_rule_listed_me :
    (unused.createLabelRule .epoch "1" (vendorDraft .me) = .ok (vendorRule .me, vendorTables .me)
      ∧ (vendorTables .me).listLabelRules.outcome = .ok [vendorRule .me]
      ∧ [vendorRule .me].filter (·.id = "1") = [vendorRule .me])
    ∧ unused.createAssigneeRule .epoch "1" (unconfirmedDraft "vendor.io") []
        = .ok (unconfirmedRule "vendor.io", single .epoch (unconfirmedRule "vendor.io"))
      ∧ (single .epoch (unconfirmedRule "vendor.io")).listAssigneeRules.outcome
        = .ok [unconfirmedRule "vendor.io"]
      ∧ [unconfirmedRule "vendor.io"].filter (·.id = "1") = [unconfirmedRule "vendor.io"] := by
  have hnow : Instant.epoch.InFourDigitYear := by decide
  have hid : readBack "1" = "1" := by decide
  have hlater : ∀ change ∈ ([] : List RuleChange), change.Spares "1" :=
    fun _ hmem => absurd hmem List.not_mem_nil
  obtain ⟨hlabel, hassignee⟩ := created_rule_listed_iff unused hnow hid hlater
  refine ⟨?_, ?_⟩
  · have hcreate : unused.createLabelRule .epoch "1" (vendorDraft .me)
        = .ok (vendorRule .me, vendorTables .me) := rfl
    have hgiven : LabelRule.ofDocument (vendorRule .me).toDocument = .ok (vendorRule .me) := rfl
    have hlist : (vendorTables .me).listLabelRules.outcome = .ok [vendorRule .me] := by
      rw [listLabelRules_vendorTables, hgiven]
      rfl
    exact ⟨hcreate, hlist, (hlabel _ _ _ _ rfl hcreate hlist).mpr ⟨by decide, by decide⟩⟩
  · have hcreate : unused.createAssigneeRule .epoch "1" (unconfirmedDraft "vendor.io") []
        = .ok (unconfirmedRule "vendor.io", single .epoch (unconfirmedRule "vendor.io")) := rfl
    have hgiven : AssigneeRule.ofDocument (unconfirmedRule "vendor.io").toDocument
        = .ok (unconfirmedRule "vendor.io") := rfl
    have hlist : (single .epoch (unconfirmedRule "vendor.io")).listAssigneeRules.outcome
        = .ok [unconfirmedRule "vendor.io"] := by
      rw [listAssigneeRules_single (unconfirmedRule "vendor.io") hnow hid rfl rfl, hgiven]
      rfl
    exact ⟨hcreate, hlist, (hassignee _ _ _ _ _ rfl hcreate hlist).mpr (by decide)⟩

/-- **A rule that was created and is not listed.**  Its assignment names no address. -/
theorem Tables.created_rule_not_listed :
    unused.createLabelRule .epoch "1" (vendorDraft (.assignee "nobody"))
        = .ok (vendorRule (.assignee "nobody"), vendorTables (.assignee "nobody"))
      ∧ (vendorTables (.assignee "nobody")).listLabelRules.outcome = .ok [] := by
  have hgiven : LabelRule.ofDocument (vendorRule (.assignee "nobody")).toDocument
      = .error (.invalidAssignment "1" "nobody") := rfl
  refine ⟨rfl, ?_⟩
  rw [listLabelRules_vendorTables, hgiven]
  rfl

end MailTriage
