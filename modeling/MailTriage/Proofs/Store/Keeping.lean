import MailTriage.Proofs.Store.Keyed
import MailTriage.Store.Migration

/-! # Tables that keep a book

The tables keep the documents of a rule book, row by row (`Tables.Keep`).  One change comes to the
same for the tables and for the book that they keep (`Tables.Keep.apply`), whatever the clock shows
and whatever times a document has, so a run leaves tables that keep the book (`Tables.Keep.after`).
Whether the rows can be read again is another matter: that takes times in years of four digits, which
a run keeps to as well (`RuleBook.HasOrdinaryTimes.after`).
-/
namespace MailTriage

theorem bind_pure_eq_map {ε α β : Type} (x : Except ε α) (f : α → β) :
    (x >>= fun a => pure (f a)) = x.map f := by
  cases x <;> rfl

theorem mapError_bind {ε ε' α β : Type} (x : Except ε α) (f : α → Except ε β) (g : ε → ε') :
    (x >>= f).mapError g = x.mapError g >>= fun a => (f a).mapError g := by
  cases x <;> rfl

/-! ### Step and run -/

/-- The tables keep the documents of the book. -/
structure Tables.Keep (tables : Tables) (book : RuleBook) : Prop where
  labels : ∃ rows, tables.labelRules = some rows
    ∧ Stores LabelRow.id LabelDocument.id LabelRow.Keeps rows book.labels
  assignees : ∃ rows, tables.assigneeRules = some rows
    ∧ Stores AssigneeRow.id AssigneeDocument.id AssigneeRow.Keeps rows book.assignees

namespace Tables.Keep

variable {tables : Tables} {book : RuleBook}

theorem withLabels (h : tables.Keep book)
    {step : List LabelRow → Except RepositoryError (List LabelRow)}
    {recorded : Except RepositoryError (DocumentMap LabelDocument)}
    (hsame : ∀ rows, Stores LabelRow.id LabelDocument.id LabelRow.Keeps rows book.labels →
      SameOutcome (Stores LabelRow.id LabelDocument.id LabelRow.Keeps) (step rows) recorded) :
    SameOutcome Tables.Keep
      (do
        let rows ← (tables.labelRules.rows .labelRules).mapError .sql
        return { tables with labelRules := some (← step rows) })
      (recorded.map ({ book with labels := · })) := by
  obtain ⟨rows, hrows, hstores⟩ := h.labels
  rw [hrows]
  show SameOutcome _ (step rows >>= fun next => pure { tables with labelRules := some next }) _
  rw [bind_pure_eq_map]
  exact (hsame rows hstores).map fun next _ hnext => ⟨⟨next, rfl, hnext⟩, h.assignees⟩

theorem withAssignees (h : tables.Keep book)
    {step : List AssigneeRow → Except RepositoryError (List AssigneeRow)}
    {recorded : Except RepositoryError (DocumentMap AssigneeDocument)}
    (hsame : ∀ rows, Stores AssigneeRow.id AssigneeDocument.id AssigneeRow.Keeps rows
        book.assignees →
      SameOutcome (Stores AssigneeRow.id AssigneeDocument.id AssigneeRow.Keeps) (step rows)
        recorded) :
    SameOutcome Tables.Keep
      (do
        let rows ← (tables.assigneeRules.rows .assigneeRules).mapError .sql
        return { tables with assigneeRules := some (← step rows) })
      (recorded.map ({ book with assignees := · })) := by
  obtain ⟨rows, hrows, hstores⟩ := h.assignees
  rw [hrows]
  show SameOutcome _ (step rows >>= fun next => pure { tables with assigneeRules := some next }) _
  rw [bind_pure_eq_map]
  exact (hsame rows hstores).map fun next _ hnext => ⟨h.labels, ⟨next, rfl, hnext⟩⟩

theorem insertLabel (h : tables.Keep book) (now : Instant) (doc : LabelDocument) :
    SameOutcome Tables.Keep (tables.insertLabelDocument now doc) (book.insertLabel now doc) := by
  have hkeeps := LabelRow.keeps_ofDocument now doc
  rw [insertLabelDocument, insertLabelRow]
  simp only [mapError_bind]
  exact h.withLabels fun _ hstores => hstores.insertRow .labelRules hkeeps

theorem insertAssignee (h : tables.Keep book) (now : Instant) (doc : AssigneeDocument) :
    SameOutcome Tables.Keep (tables.insertAssigneeDocument now doc)
      (book.insertAssignee now doc) := by
  have hkeeps := AssigneeRow.keeps_ofDocument now doc
  rw [insertAssigneeDocument, insertAssigneeRow]
  simp only [mapError_bind]
  exact h.withAssignees fun _ hstores => hstores.insertRow .assigneeRules hkeeps

theorem setLabelRuleEnabled (h : tables.Keep book) (now : Instant) (id : String)
    (enabled : Bool) :
    SameOutcome Tables.Keep (tables.setLabelRuleEnabled now id enabled)
      (book.reviseLabel id fun doc => some { doc with enabled }) :=
  h.withLabels fun _ hstores => hstores.changeRow id (LabelRow.setEnabled now enabled)
    (fun doc => { doc with enabled }) (fun _ => rfl) fun _ _ hkeeps => hkeeps.setEnabled now enabled

theorem setAssigneeRuleEnabled (h : tables.Keep book) (now : Instant) (id : String)
    (enabled : Bool) :
    SameOutcome Tables.Keep (tables.setAssigneeRuleEnabled now id enabled)
      (book.reviseAssignee id fun doc =>
        some { doc with enabled, updatedAt := some now.truncateToMillis }) :=
  h.withAssignees fun _ hstores => hstores.changeRow id (AssigneeRow.setEnabled now enabled)
    (fun doc => { doc with enabled, updatedAt := some now.truncateToMillis }) (fun _ => rfl)
    fun _ _ hkeeps => hkeeps.setEnabled now enabled

theorem deleteLabelRule (h : tables.Keep book) (id : String) :
    SameOutcome Tables.Keep (tables.deleteLabelRule id) (book.reviseLabel id fun _ => none) :=
  h.withLabels fun _ hstores => hstores.removeRow id

theorem deleteAssigneeRule (h : tables.Keep book) (id : String) :
    SameOutcome Tables.Keep (tables.deleteAssigneeRule id)
      (book.reviseAssignee id fun _ => none) :=
  h.withAssignees fun _ hstores => hstores.removeRow id

/-- **One change** comes to the same for the tables and for the book that they keep. -/
theorem apply (h : tables.Keep book) (change : RuleChange) :
    SameOutcome Tables.Keep (change.apply tables) (change.record book) := by
  cases change with
  | createLabelRule now id draft =>
    show SameOutcome _ ((tables.createLabelRule now id draft).map (·.2)) _
    rw [createLabelRule, RuleChange.record]
    cases draft.validate with
    | error why => exact .error _
    | ok valid => exact SameOutcome.map_snd _ (h.insertLabel now _)
  | createAssigneeRule now id draft allowed =>
    show SameOutcome _ ((tables.createAssigneeRule now id draft allowed).map (·.2)) _
    rw [createAssigneeRule, RuleChange.record]
    cases draft.validate allowed with
    | error why => exact .error _
    | ok valid => exact SameOutcome.map_snd _ (h.insertAssignee now _)
  | insertLabelDocument now doc => exact h.insertLabel now doc
  | insertAssigneeDocument now doc => exact h.insertAssignee now doc
  | setLabelRuleEnabled now id enabled => exact h.setLabelRuleEnabled now id enabled
  | setAssigneeRuleEnabled now id enabled => exact h.setAssigneeRuleEnabled now id enabled
  | deleteLabelRule id => exact h.deleteLabelRule id
  | deleteAssigneeRule id => exact h.deleteAssigneeRule id

/-- **A run** leaves tables that keep the book, if they kept it at its start. -/
theorem after (h : tables.Keep book) (changes : List RuleChange) :
    (tables.after changes).Keep (book.after changes) := by
  induction changes generalizing tables book with
  | nil => exact h
  | cons change rest ih =>
    have hstep := h.apply change
    rw [Tables.after, RuleBook.after, List.foldl_cons, List.foldl_cons]
    -- where the change fails, it fails for both, and both stay as they are
    generalize change.apply tables = applied at hstep ⊢
    generalize change.record book = recorded at hstep ⊢
    cases hstep with
    | ok hnext => exact ih hnext
    | error why => exact ih h

end Tables.Keep

theorem Store.keep_fresh : Store.fresh.content.Keep {} where
  labels := ⟨[], rfl, .nil fun _ _ h => h.id⟩
  assignees := ⟨[], rfl, .nil fun _ _ h => h.id⟩

/-! ### Times that can be read back -/

/-- All times in the documents of the book lie in years of four digits. -/
structure RuleBook.HasOrdinaryTimes (book : RuleBook) : Prop where
  labels : book.labels.All LabelDocument.HasOrdinaryTimes
  assignees : book.assignees.All AssigneeDocument.HasOrdinaryTimes

theorem LabelDocument.hasOrdinaryTimes_kept {now : Instant} (hnow : now.InFourDigitYear)
    {doc : LabelDocument} (hdoc : doc.HasOrdinaryTimes) : (doc.kept now).HasOrdinaryTimes :=
  inFourDigitYear_of_mem_cut hnow hdoc

theorem AssigneeDocument.hasOrdinaryTimes_kept {now : Instant} (hnow : now.InFourDigitYear)
    {doc : AssigneeDocument} (hdoc : doc.HasOrdinaryTimes) : (doc.kept now).HasOrdinaryTimes :=
  ⟨inFourDigitYear_of_mem_cut hnow hdoc.1, inFourDigitYear_of_mem_map hdoc.2⟩

namespace RuleBook.HasOrdinaryTimes

variable {book next : RuleBook} {now : Instant}

theorem insertLabel (h : book.HasOrdinaryTimes) (hnow : now.InFourDigitYear)
    {doc : LabelDocument} (hdoc : doc.HasOrdinaryTimes)
    (hinsert : book.insertLabel now doc = .ok next) : next.HasOrdinaryTimes := by
  obtain ⟨labels, hput, rfl⟩ := exists_of_map_eq_ok hinsert
  exact ⟨h.labels.put (LabelDocument.hasOrdinaryTimes_kept hnow hdoc) hput, h.assignees⟩

theorem insertAssignee (h : book.HasOrdinaryTimes) (hnow : now.InFourDigitYear)
    {doc : AssigneeDocument} (hdoc : doc.HasOrdinaryTimes)
    (hinsert : book.insertAssignee now doc = .ok next) : next.HasOrdinaryTimes := by
  obtain ⟨assignees, hput, rfl⟩ := exists_of_map_eq_ok hinsert
  exact ⟨h.labels, h.assignees.put (AssigneeDocument.hasOrdinaryTimes_kept hnow hdoc) hput⟩

theorem reviseLabel {id : String} {change : LabelDocument → Option LabelDocument}
    (h : book.HasOrdinaryTimes)
    (hchange : ∀ doc, doc.HasOrdinaryTimes → ∀ changed ∈ change doc, changed.HasOrdinaryTimes)
    (hrevise : book.reviseLabel id change = .ok next) : next.HasOrdinaryTimes := by
  obtain ⟨labels, hlabels, rfl⟩ := exists_of_map_eq_ok hrevise
  exact ⟨h.labels.revise hchange hlabels, h.assignees⟩

theorem reviseAssignee {id : String} {change : AssigneeDocument → Option AssigneeDocument}
    (h : book.HasOrdinaryTimes)
    (hchange : ∀ doc, doc.HasOrdinaryTimes → ∀ changed ∈ change doc, changed.HasOrdinaryTimes)
    (hrevise : book.reviseAssignee id change = .ok next) : next.HasOrdinaryTimes := by
  obtain ⟨assignees, hassignees, rfl⟩ := exists_of_map_eq_ok hrevise
  exact ⟨h.labels, h.assignees.revise hchange hassignees⟩

/-- **One change** keeps to years of four digits, if its own times lie there. -/
theorem record (h : book.HasOrdinaryTimes) {change : RuleChange}
    (htimes : change.HasOrdinaryTimes) (hrecord : change.record book = .ok next) :
    next.HasOrdinaryTimes := by
  cases change with
  | createLabelRule now id draft =>
    obtain ⟨valid, -, hinsert⟩ := exists_of_bind_eq_ok hrecord
    refine h.insertLabel htimes (LabelRule.hasOrdinaryTimes_toDocument ?_) hinsert
    exact Instant.inFourDigitYear_truncateToMillis.mpr htimes
  | createAssigneeRule now id draft allowed =>
    obtain ⟨valid, -, hinsert⟩ := exists_of_bind_eq_ok hrecord
    refine h.insertAssignee htimes (AssigneeRule.hasOrdinaryTimes_toDocument ?_ fun t ht => ?_)
      hinsert
    · exact Instant.inFourDigitYear_truncateToMillis.mpr htimes
    · cases ht -- a new rule was never updated
  | insertLabelDocument now doc => exact h.insertLabel htimes.1 htimes.2 hrecord
  | insertAssigneeDocument now doc => exact h.insertAssignee htimes.1 htimes.2 hrecord
  | setLabelRuleEnabled now id enabled =>
    refine h.reviseLabel (fun doc hdoc changed hchanged => ?_) hrecord
    cases hchanged
    exact hdoc
  | setAssigneeRuleEnabled now id enabled =>
    refine h.reviseAssignee (fun doc hdoc changed hchanged => ?_) hrecord
    cases hchanged
    refine ⟨hdoc.1, fun t ht => ?_⟩
    cases ht
    exact Instant.inFourDigitYear_truncateToMillis.mpr htimes
  | deleteLabelRule id =>
    refine h.reviseLabel (fun doc hdoc changed hchanged => ?_) hrecord
    cases hchanged -- nothing is left of the document
  | deleteAssigneeRule id =>
    refine h.reviseAssignee (fun doc hdoc changed hchanged => ?_) hrecord
    cases hchanged

/-- **A run** keeps to years of four digits, if the times of its changes lie there. -/
theorem after (h : book.HasOrdinaryTimes) {changes : List RuleChange}
    (htimes : ∀ change ∈ changes, change.HasOrdinaryTimes) :
    (book.after changes).HasOrdinaryTimes := by
  induction changes generalizing book with
  | nil => exact h
  | cons change rest ih =>
    have hrest : ∀ other ∈ rest, other.HasOrdinaryTimes :=
      fun other hother => htimes other (List.mem_cons_of_mem change hother)
    rw [RuleBook.after, List.foldl_cons]
    cases hrecord : change.record book with
    | ok next => exact ih (h.record (htimes change List.mem_cons_self) hrecord) hrest
    | error why => exact ih h hrest

end RuleBook.HasOrdinaryTimes

theorem RuleBook.hasOrdinaryTimes_empty : ({} : RuleBook).HasOrdinaryTimes where
  labels _ _ h := nomatch h
  assignees _ _ h := nomatch h

end MailTriage
