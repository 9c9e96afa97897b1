import MailTriage.Proofs.Store.Keeping

/-! # The store keeps a rule book

Whatever sequence of changes a new store goes through, it fails where the rule book fails, and lists
what the rule book lists, in the same order (`Store.keeps_ruleBook`).  This rests on what the tables
hold: they keep the documents of the book, and while all times lie in years of four digits, what they
keep can be listed (`Tables.Hold`).  Only ids are listed otherwise than they were given, cut at their
first null character.
-/
namespace MailTriage

/-! ### Listed rules -/

/-- The rule as it is listed: its id ends at its first null character. -/
def LabelRule.asListed (rule : LabelRule) : LabelRule := { rule with id := readBack rule.id }

/-- The rule as it is listed: its id ends at its first null character. -/
def AssigneeRule.asListed (rule : AssigneeRule) : AssigneeRule :=
  { rule with id := readBack rule.id }

/-- What an assignment resolves to does not depend on the id of its rule, which is only named where
it does not resolve. -/
theorem DocumentAssignment.toOption_resolve (a : DocumentAssignment) (id other : String) :
    (a.resolve id).toOption = (a.resolve other).toOption := by
  cases a with
  | keyword word =>
    rw [resolve, resolve]
    split
    · rfl
    · split <;> rfl
  | target email =>
    rw [resolve, resolve]
    split <;> rfl

theorem LabelRule.toOption_ofDocument_readBack (doc : LabelDocument) :
    (LabelRule.ofDocument { doc with id := readBack doc.id }).toOption
      = (LabelRule.ofDocument doc).toOption.map LabelRule.asListed := by
  have hassign : ({ doc with id := readBack doc.id } : LabelDocument).assignment.toOption
      = doc.assignment.toOption := by
    rw [LabelDocument.assignment, LabelDocument.assignment]
    cases doc.assignTo with
    | none => rfl
    | some a => exact a.toOption_resolve _ _
  have hnames : ({ doc with id := readBack doc.id } : LabelDocument).allNames = doc.allNames := rfl
  rw [LabelRule.ofDocument, LabelRule.ofDocument]
  simp only [hnames]
  split
  · rfl
  · split
    · rfl
    · cases hcut : ({ doc with id := readBack doc.id } : LabelDocument).assignment <;>
        cases hwhole : doc.assignment <;> rw [hcut, hwhole] at hassign <;> cases hassign <;> rfl

theorem AssigneeRule.toOption_ofDocument_readBack (doc : AssigneeDocument) :
    (AssigneeRule.ofDocument { doc with id := readBack doc.id }).toOption
      = (AssigneeRule.ofDocument doc).toOption.map AssigneeRule.asListed := by
  rw [AssigneeRule.ofDocument, AssigneeRule.ofDocument]
  dsimp only
  split
  · rfl
  · split <;> rfl

/-! ### The order of rows and of rules -/

section
variable {column column' : String} {time time' : Option Instant}

theorem KeepsTime.le_iff (h : KeepsTime column time) (h' : KeepsTime column' time')
    (htime : ∀ t ∈ time, t.InFourDigitYear) (htime' : ∀ t ∈ time', t.InFourDigitYear) :
    column ≤ column' ↔ time.getD .epoch ≤ time'.getD .epoch := by
  obtain ⟨t, rfl, rfl⟩ := h
  obtain ⟨t', rfl, rfl⟩ := h'
  exact Timestamp.writeMillis_le_writeMillis_iff
    (Instant.inFourDigitYear_truncateToMillis.mp (htime _ rfl))
    (Instant.inFourDigitYear_truncateToMillis.mp (htime' _ rfl))

theorem KeepsTime.eq_iff (h : KeepsTime column time) (h' : KeepsTime column' time')
    (htime : ∀ t ∈ time, t.InFourDigitYear) (htime' : ∀ t ∈ time', t.InFourDigitYear) :
    column = column' ↔ time.getD .epoch = time'.getD .epoch := by
  obtain ⟨t, rfl, rfl⟩ := h
  obtain ⟨t', rfl, rfl⟩ := h'
  exact Timestamp.writeMillis_inj
    (Instant.inFourDigitYear_truncateToMillis.mp (htime _ rfl))
    (Instant.inFourDigitYear_truncateToMillis.mp (htime' _ rfl))

/-- Timestamps and ids put rows in the order of the times and ids of their rules. -/
theorem KeepsTime.thenId {id id' : String} (h : KeepsTime column time)
    (h' : KeepsTime column' time') (htime : ∀ t ∈ time, t.InFourDigitYear)
    (htime' : ∀ t ∈ time', t.InFourDigitYear) (hne : id ≠ id')
    (hbefore : column ≤ column' ∧ (column = column' → nullFirst (some id) (some id') = true)) :
    time.getD .epoch ≤ time'.getD .epoch
      ∧ (time.getD .epoch = time'.getD .epoch → id < id') := by
  rw [← h.le_iff h' htime htime', ← h.eq_iff h' htime htime']
  -- rows of equal timestamps are in order by their ids, and these differ
  refine ⟨hbefore.1, fun heq => (lt_iff_le_of_ne hne).mpr ?_⟩
  exact of_decide_eq_true (hbefore.2 heq)

end

theorem LabelRow.Keeps.listedBefore {a b : LabelRow} {doc doc' : LabelDocument}
    {rule rule' : LabelRule} (h : a.Keeps doc ∧ doc.HasOrdinaryTimes)
    (h' : b.Keeps doc' ∧ doc'.HasOrdinaryTimes) (hne : doc.id ≠ doc'.id)
    (hbefore : a.listedBefore b = true) (hrule : LabelRule.ofDocument doc = .ok rule)
    (hrule' : LabelRule.ofDocument doc' = .ok rule') : rule.ListedBefore rule' := by
  rw [listedBefore_iff, ThenBy, h.1.id, h'.1.id] at hbefore
  obtain ⟨-, -, _, -, rfl⟩ := LabelRule.ofDocument_eq_ok_iff.mp hrule
  obtain ⟨-, -, _, -, rfl⟩ := LabelRule.ofDocument_eq_ok_iff.mp hrule'
  exact h.1.createdAt.thenId h'.1.createdAt h.2 h'.2 hne hbefore

theorem AssigneeRow.Keeps.listedBefore {a b : AssigneeRow} {doc doc' : AssigneeDocument}
    {rule rule' : AssigneeRule} (h : a.Keeps doc ∧ doc.HasOrdinaryTimes)
    (h' : b.Keeps doc' ∧ doc'.HasOrdinaryTimes) (hne : doc.id ≠ doc'.id)
    (hbefore : a.listedBefore b = true) (hrule : AssigneeRule.ofDocument doc = .ok rule)
    (hrule' : AssigneeRule.ofDocument doc' = .ok rule') : rule.ListedBefore rule' := by
  rw [listedBefore_iff, ThenBy, ThenBy, h.1.id, h'.1.id, h.1.priority, h'.1.priority] at hbefore
  obtain ⟨-, -, rfl⟩ := AssigneeRule.ofDocument_eq_ok_iff.mp hrule
  obtain ⟨-, -, rfl⟩ := AssigneeRule.ofDocument_eq_ok_iff.mp hrule'
  refine ⟨Int64.le_iff_toInt_le.mpr (of_decide_eq_true hbefore.1), fun heq => ?_⟩
  have heq : doc.priority = doc'.priority := heq
  exact h.1.createdAt.thenId h'.1.createdAt h.2.1 h'.2.1 hne (hbefore.2 (by rw [heq]))

/-! ### Tables that hold a book -/

/-- The tables hold a book: they keep its documents, and every time in these can be read back. -/
structure Tables.Hold (tables : Tables) (book : RuleBook) : Prop extends tables.Keep book where
  times : book.HasOrdinaryTimes

namespace Tables.Hold

variable {tables : Tables} {book : RuleBook}

/-- **One change** comes to the same for the tables and for the book that they hold. -/
theorem apply (h : tables.Hold book) {change : RuleChange} (htimes : change.HasOrdinaryTimes) :
    SameOutcome Tables.Hold (change.apply tables) (change.record book) :=
  (h.toKeep.apply change).strengthen fun _ _ hrecord hkeep =>
    ⟨hkeep, h.times.record htimes hrecord⟩

/-- **A run** leaves tables that hold the book, if they held it at its start. -/
theorem after (h : tables.Hold book) {changes : List RuleChange}
    (htimes : ∀ change ∈ changes, change.HasOrdinaryTimes) :
    (tables.after changes).Hold (book.after changes) :=
  ⟨h.toKeep.after changes, h.times.after htimes⟩

end Tables.Hold

theorem Store.hold_fresh : Store.fresh.content.Hold {} :=
  ⟨keep_fresh, RuleBook.hasOrdinaryTimes_empty⟩

/-! ### What a change does not reach -/

/-- **A change reaches one table only**: that of its own kind of rules. -/
theorem Tables.eq_of_apply {tables next : Tables} {change : RuleChange}
    (h : change.apply tables = .ok next) :
    next = if change.isAboutLabels then { tables with labelRules := next.labelRules }
      else { tables with assigneeRules := next.assigneeRules } := by
  cases change with
  | createLabelRule now id draft =>
    obtain ⟨⟨rule, stored⟩, hcreate, rfl⟩ := exists_of_map_eq_ok h
    obtain ⟨-, -, -, hinsert⟩ := createLabelRule_eq_ok hcreate
    obtain ⟨-, -, -, -, rfl⟩ := insertLabelDocument_eq_ok hinsert
    rfl
  | createAssigneeRule now id draft allowed =>
    obtain ⟨⟨rule, stored⟩, hcreate, rfl⟩ := exists_of_map_eq_ok h
    obtain ⟨-, -, -, hinsert⟩ := createAssigneeRule_eq_ok hcreate
    obtain ⟨-, -, -, -, rfl⟩ := insertAssigneeDocument_eq_ok hinsert
    rfl
  | insertLabelDocument now doc =>
    obtain ⟨-, -, -, -, rfl⟩ := insertLabelDocument_eq_ok h
    rfl
  | insertAssigneeDocument now doc =>
    obtain ⟨-, -, -, -, rfl⟩ := insertAssigneeDocument_eq_ok h
    rfl
  | setLabelRuleEnabled now id enabled =>
    obtain ⟨-, -, -, -, rfl⟩ := exists_labelRows_eq_ok h
    rfl
  | setAssigneeRuleEnabled now id enabled =>
    obtain ⟨-, -, -, -, rfl⟩ := exists_assigneeRows_eq_ok h
    rfl
  | deleteLabelRule id =>
    obtain ⟨-, -, -, -, rfl⟩ := exists_labelRows_eq_ok h
    rfl
  | deleteAssigneeRule id =>
    obtain ⟨-, -, -, -, rfl⟩ := exists_assigneeRows_eq_ok h
    rfl

/-! ### Listings of the book -/

section
variable {tables : Tables} {book : RuleBook}

theorem Tables.Keep.exists_labels (h : tables.Keep book)
    (htimes : book.labels.All LabelDocument.HasOrdinaryTimes) :
    ∃ rules, book.ListsLabels rules
      ∧ tables.listLabelRules.outcome = .ok (rules.map LabelRule.asListed) := by
  obtain ⟨rows, hrows, hstores⟩ := h.labels
  rw [listLabelRules, hrows]
  refine (hstores.restrict htimes).lists .labelRules (fun row doc hkeeps => ?_)
    (fun doc rule hrule => ?_) (LabelRow.pairwise_sorted rows)
    fun _ _ _ _ _ _ => LabelRow.Keeps.listedBefore
  · exact ⟨_, hkeeps.1.rule_eq hkeeps.2, LabelRule.toOption_ofDocument_readBack doc⟩
  · obtain ⟨-, -, _, -, rfl⟩ := LabelRule.ofDocument_eq_ok_iff.mp hrule
    rfl

theorem Tables.Keep.exists_assignees (h : tables.Keep book)
    (htimes : book.assignees.All AssigneeDocument.HasOrdinaryTimes) :
    ∃ rules, book.ListsAssignees rules
      ∧ tables.listAssigneeRules.outcome = .ok (rules.map AssigneeRule.asListed) := by
  obtain ⟨rows, hrows, hstores⟩ := h.assignees
  rw [listAssigneeRules, hrows]
  refine (hstores.restrict htimes).lists .assigneeRules (fun row doc hkeeps => ?_)
    (fun doc rule hrule => ?_) (AssigneeRow.pairwise_sorted rows)
    fun _ _ _ _ _ _ => AssigneeRow.Keeps.listedBefore
  · exact ⟨_, hkeeps.1.rule_eq hkeeps.2, AssigneeRule.toOption_ofDocument_readBack doc⟩
  · obtain ⟨-, -, rfl⟩ := AssigneeRule.ofDocument_eq_ok_iff.mp hrule
    rfl

theorem Tables.Hold.exists_labels (h : tables.Hold book) :
    ∃ rules, book.ListsLabels rules
      ∧ tables.listLabelRules.outcome = .ok (rules.map LabelRule.asListed) :=
  h.toKeep.exists_labels h.times.labels

theorem Tables.Hold.exists_assignees (h : tables.Hold book) :
    ∃ rules, book.ListsAssignees rules
      ∧ tables.listAssigneeRules.outcome = .ok (rules.map AssigneeRule.asListed) :=
  h.toKeep.exists_assignees h.times.assignees

end

theorem LabelRule.asListed_eq_self_iff {rule : LabelRule} :
    rule.asListed = rule ↔ '\x00' ∉ rule.id.toList := by
  rw [← readBack_eq_self_iff]
  constructor
  · exact congrArg LabelRule.id
  · intro h
    rw [asListed, h]

theorem AssigneeRule.asListed_eq_self_iff {rule : AssigneeRule} :
    rule.asListed = rule ↔ '\x00' ∉ rule.id.toList := by
  rw [← readBack_eq_self_iff]
  constructor
  · exact congrArg AssigneeRule.id
  · intro h
    rw [asListed, h]

/-- A listing shows the rules that should be listed, which are determined, each with its id as it is
read back.  So it shows them as they are exactly when none of their ids holds a null character. -/
def Shows {Rule : Type} (idOf : Rule → String) (asListed : Rule → Rule)
    (outcome : Except RepositoryError (List Rule)) (lists : List Rule → Prop) : Prop :=
  ∃ rules, lists rules ∧ (∀ others, lists others → others = rules)
    ∧ outcome = .ok (rules.map asListed)
    ∧ (outcome = .ok rules ↔ ∀ rule ∈ rules, '\x00' ∉ (idOf rule).toList)

theorem shows_of_lists {Rule : Type} {idOf : Rule → String} {asListed : Rule → Rule}
    {outcome : Except RepositoryError (List Rule)} {lists : List Rule → Prop} {rules : List Rule}
    (hself : ∀ rule, asListed rule = rule ↔ '\x00' ∉ (idOf rule).toList) (hlists : lists rules)
    (hunique : ∀ others, lists others → others = rules)
    (houtcome : outcome = .ok (rules.map asListed)) : Shows idOf asListed outcome lists := by
  refine ⟨rules, hlists, hunique, houtcome, ?_⟩
  rw [houtcome]
  constructor
  · intro h rule hrule
    have hmap := List.map_inj_left.mp ((Except.ok.inj h).trans (List.map_id rules).symm)
    exact (hself rule).mp (hmap rule hrule)
  · intro h
    have hmap := List.map_inj_left.mpr fun rule hrule => (hself rule).mpr (h rule hrule)
    exact congrArg Except.ok (hmap.trans (List.map_id rules))

/-- **A new store keeps its rule book** through every history of changes: it refuses the next change
where the book does and for the same reason, a change of one kind of rules reaches nothing else, and
the listings show what the book lists. -/
theorem Store.keeps_ruleBook {history : List RuleChange}
    (htimes : ∀ change ∈ history, change.HasOrdinaryTimes) :
    (∀ change : RuleChange, change.HasOrdinaryTimes → ∀ why,
      change.apply (fresh.content.after history) = .error why
        ↔ change.record (RuleBook.after {} history) = .error why)
    ∧ (∀ (change : RuleChange) (next : Tables),
      change.apply (fresh.content.after history) = .ok next →
      next = if change.isAboutLabels
        then { fresh.content.after history with labelRules := next.labelRules }
        else { fresh.content.after history with assigneeRules := next.assigneeRules })
    ∧ Shows LabelRule.id LabelRule.asListed (fresh.content.after history).listLabelRules.outcome
        (RuleBook.after {} history).ListsLabels
    ∧ Shows AssigneeRule.id AssigneeRule.asListed
        (fresh.content.after history).listAssigneeRules.outcome
        (RuleBook.after {} history).ListsAssignees := by
  have hhold := hold_fresh.after htimes
  refine ⟨fun change hchange why => (hhold.apply hchange).error_iff,
    fun change next => Tables.eq_of_apply, ?_, ?_⟩
  · obtain ⟨rules, hrules, houtcome⟩ := hhold.exists_labels
    exact shows_of_lists (fun _ => LabelRule.asListed_eq_self_iff) hrules
      (fun others hothers => hothers.eq (fun _ _ => LabelRule.ListedBefore.asymm) hrules) houtcome
  · obtain ⟨rules, hrules, houtcome⟩ := hhold.exists_assignees
    exact shows_of_lists (fun _ => AssigneeRule.asListed_eq_self_iff) hrules
      (fun others hothers => hothers.eq (fun _ _ => AssigneeRule.ListedBefore.asymm) hrules)
      houtcome

/-! ### A single document -/

/-- A label document for the senders of one domain. -/
def vipDocument (id : String) : LabelDocument :=
  { id, condition := { domain := some "vendor.io" }, labelName := some "VIP" }

/-- The rule of the document. -/
def vipRule (id : String) (enabled : Bool) : LabelRule :=
  { id, condition := { domain := some "vendor.io" }, labels := .singleton "VIP", assignTo := none
    enabled, createdAt := .epoch }

theorem ofDocument_vipDocument (id : String) (enabled : Bool) :
    LabelRule.ofDocument { (vipDocument id).kept .epoch with enabled }
      = .ok (vipRule id enabled) := by
  have hepoch : Instant.epoch.truncateToMillis = .epoch := Instant.eq_of_second_nano rfl rfl
  have hkept : (vipDocument id).kept .epoch
      = { vipDocument id with createdAt := some .epoch } := by
    rw [LabelDocument.kept, ← hepoch]
    rfl
  rw [hkept]
  rfl

theorem hasOrdinaryTimes_insert_vipDocument (id : String) :
    (RuleChange.insertLabelDocument .epoch (vipDocument id)).HasOrdinaryTimes := by
  refine ⟨by decide, fun t ht => ?_⟩
  cases ht

/-- The document is stored once: a second one is refused, and the rule is listed as it was switched
last. -/
theorem Store.keeps_ruleBook_vip :
    (RuleChange.insertLabelDocument .epoch (vipDocument "1")).apply
        (fresh.content.after [.insertLabelDocument .epoch (vipDocument "1"),
          .setLabelRuleEnabled .epoch "1" false])
        = .error (.sql (.uniqueViolated "label_rules" "id"))
      ∧ (fresh.content.after [.insertLabelDocument .epoch (vipDocument "1"),
          .setLabelRuleEnabled .epoch "1" false]).listLabelRules.outcome
        = .ok [vipRule "1" false] := by
  have htimes : ∀ change ∈ [RuleChange.insertLabelDocument .epoch (vipDocument "1"),
      .setLabelRuleEnabled .epoch "1" false], change.HasOrdinaryTimes := by
    intro change hchange
    simp only [List.mem_cons, List.not_mem_nil, or_false] at hchange
    rcases hchange with rfl | rfl
    · exact hasOrdinaryTimes_insert_vipDocument "1"
    · show Instant.epoch.InFourDigitYear
      decide
  have hlists : (RuleBook.after {} [.insertLabelDocument .epoch (vipDocument "1"),
      .setLabelRuleEnabled .epoch "1" false]).ListsLabels [vipRule "1" false] := by
    -- in the book the switched document takes the place of the one that was stored
    have hsingle := DocumentMap.lists_single LabelRule.id LabelRule.ListedBefore
      (ofDocument_vipDocument "1" false)
    rwa [← DocumentMap.replaceAt_replaceAt _ _ (some ((vipDocument "1").kept .epoch))] at hsingle
  obtain ⟨hfails, -, ⟨rules, -, hunique, -, hwhole⟩, -⟩ := keeps_ruleBook htimes
  refine ⟨(hfails _ (hasOrdinaryTimes_insert_vipDocument "1") _).mpr rfl, ?_⟩
  obtain rfl := hunique _ hlists
  refine hwhole.mpr fun rule hrule => ?_
  rw [List.mem_singleton.mp hrule]
  decide

/-- **A rule that is listed under another id than its own.**  Under the id it is listed with, it
cannot be switched off. -/
theorem Store.listed_under_shortened_id :
    (RuleBook.after {} [.insertLabelDocument .epoch (vipDocument "z\x00end")]).ListsLabels
        [vipRule "z\x00end" true]
      ∧ (fresh.content.after
          [.insertLabelDocument .epoch (vipDocument "z\x00end")]).listLabelRules.outcome
        = .ok [vipRule "z" true]
      ∧ (fresh.content.after
          [.insertLabelDocument .epoch (vipDocument "z\x00end")]).setLabelRuleEnabled .epoch "z"
          false
        = .error (.notFound "z") := by
  have htimes : ∀ change ∈ [RuleChange.insertLabelDocument .epoch (vipDocument "z\x00end")],
      change.HasOrdinaryTimes := by
    intro change hchange
    rw [List.mem_singleton.mp hchange]
    exact hasOrdinaryTimes_insert_vipDocument "z\x00end"
  have hhold := hold_fresh.after htimes
  have hlists : (RuleBook.after {}
      [.insertLabelDocument .epoch (vipDocument "z\x00end")]).ListsLabels
        [vipRule "z\x00end" true] :=
    DocumentMap.lists_single LabelRule.id _ (ofDocument_vipDocument "z\x00end" true)
  obtain ⟨rules, hrules, houtcome⟩ := hhold.exists_labels
  obtain rfl := hrules.eq (fun _ _ => LabelRule.ListedBefore.asymm) hlists
  refine ⟨hlists, houtcome.trans ?_, ?_⟩
  · have hid : readBack "z\x00end" = "z" := by decide
    rw [List.map_singleton, LabelRule.asListed]
    show Except.ok [vipRule (readBack "z\x00end") true] = _
    rw [hid]
  · exact (hhold.setLabelRuleEnabled .epoch "z" false).error_iff.mpr rfl

end MailTriage
