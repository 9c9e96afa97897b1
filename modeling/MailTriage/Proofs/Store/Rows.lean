import MailTriage.Proofs.Json.Relaxed
import MailTriage.Proofs.Rule.Document
import MailTriage.Proofs.Rule.DocumentFormat
import MailTriage.Proofs.Rule.Draft
import MailTriage.Store.Rules

/-! # Rows and listings

The row of a document keeps the document, with its times cut off after the milliseconds
(`LabelRow.keeps_ofDocument`, `AssigneeRow.keeps_ofDocument`), and it still does after it was
switched on or off (`LabelRow.Keeps.setEnabled`, `AssigneeRow.Keeps.setEnabled`).  A row that keeps a
document gives the document's rule, if the times of the document lie in years of four digits
(`LabelRow.Keeps.rule_eq`, `AssigneeRow.Keeps.rule_eq`); if not, it gives nothing at all, as its
columns are read by the strict reader of timestamps (`LabelRow.Keeps.rule_eq_error`,
`AssigneeRow.Keeps.rule_eq_error`).  And a listing holds, under each id, what the rows with that id
give (`Listing.filter_ofTable`): sorting and skipping keep the rest apart.
-/
namespace MailTriage

/-! ### Stored texts -/

theorem readBack_of_not_mem {text : String} (h : '\x00' ∉ text.toList) : readBack text = text := by
  have htake : text.toList.takeWhile (· ≠ '\x00') = text.toList := by
    have hall : ∀ c ∈ text.toList, decide (c ≠ '\x00') = true :=
      fun c hc => decide_eq_true fun heq => h (heq ▸ hc)
    have happend : (text.toList ++ []).takeWhile (· ≠ '\x00') = _ :=
      List.takeWhile_append_of_pos hall
    rwa [List.append_nil, List.takeWhile_nil, List.append_nil] at happend
  rw [readBack, htake, String.ofList_toList]

theorem nul_not_mem_readBack (text : String) : '\x00' ∉ (readBack text).toList := by
  intro hmem
  rw [readBack, String.toList_ofList] at hmem
  have hall := List.all_takeWhile (p := (· ≠ '\x00')) (l := text.toList)
  exact absurd rfl (of_decide_eq_true (List.all_eq_true.mp hall _ hmem))

/-- A stored text is read back whole exactly when it holds no null character. -/
theorem readBack_eq_self_iff {text : String} : readBack text = text ↔ '\x00' ∉ text.toList := by
  refine ⟨fun h => ?_, readBack_of_not_mem⟩
  rw [← h]
  exact nul_not_mem_readBack text

theorem map_readBack_eq_self_iff {text? : Option String} :
    text?.map readBack = text? ↔ ∀ text ∈ text?, '\x00' ∉ text.toList := by
  cases text? with
  | none => simp
  | some text => simp [readBack_eq_self_iff]

theorem readBack_writeMillis (t : Instant) :
    readBack (Timestamp.writeMillis t) = Timestamp.writeMillis t := by
  refine readBack_of_not_mem ?_
  rw [Timestamp.writeMillis, String.toList_ofList]
  exact Timestamp.nul_not_mem_chars .millis t

theorem readBack_compact (json : Json) : readBack json.compact = json.compact :=
  readBack_of_not_mem fun hmem => nomatch Json.isShown_of_mem_compact hmem

/-! ### Rows of documents -/

/-- A column keeps a time, as far as the milliseconds go. -/
def KeepsTime (column : String) (time : Option Instant) : Prop :=
  ∃ t, column = Timestamp.writeMillis t ∧ time = some t.truncateToMillis

/-- A row keeps a document.  The text in it may know another time of creation than the row does,
which then counts. -/
structure LabelRow.Keeps (row : LabelRow) (doc : LabelDocument) : Prop where
  id : row.id = some doc.id
  enabled : row.enabled = flag doc.enabled
  createdAt : KeepsTime row.createdAt doc.createdAt
  text : ∃ written : LabelDocument, row.ruleJson = written.write
    ∧ doc = { written with createdAt := doc.createdAt }

/-- A row keeps a document.  The text in it may know other times than the row does, which then
count. -/
structure AssigneeRow.Keeps (row : AssigneeRow) (doc : AssigneeDocument) : Prop where
  id : row.id = some doc.id
  priority : row.priority = .whole doc.priority.toInt
  enabled : row.enabled = flag doc.enabled
  createdAt : KeepsTime row.createdAt doc.createdAt
  updatedAt : ∃ t? : Option Instant, row.updatedAt = t?.map Timestamp.writeMillis
    ∧ doc.updatedAt = t?.map (·.truncateToMillis)
  text : ∃ written : AssigneeDocument, row.ruleJson = written.write
    ∧ doc = { written with createdAt := doc.createdAt, updatedAt := doc.updatedAt }

theorem readStoredTime_writeMillis (t : Instant) :
    readStoredTime (Timestamp.writeMillis t)
      = if t.InFourDigitYear then .ok t.truncateToMillis else .error (.timestamp .invalid) := by
  rw [readStoredTime, readBack_writeMillis]
  split
  · next h =>
    rw [Timestamp.read_writeMillis h]
    rfl
  · next h =>
    rw [Timestamp.read_writeMillis_of_not h]
    rfl

theorem KeepsTime.read {column : String} {time : Option Instant} (h : KeepsTime column time)
    (htime : ∀ t ∈ time, t.InFourDigitYear) :
    ∃ t, time = some t ∧ readStoredTime column = .ok t := by
  obtain ⟨t, rfl, rfl⟩ := h
  refine ⟨t.truncateToMillis, rfl, ?_⟩
  rw [readStoredTime_writeMillis, if_pos]
  exact Instant.inFourDigitYear_truncateToMillis.mp (htime _ rfl)

theorem KeepsTime.read_eq_error {column : String} {time : Option Instant}
    (h : KeepsTime column time) (htime : ¬ ∀ t ∈ time, t.InFourDigitYear) :
    readStoredTime column = .error (.timestamp .invalid) := by
  obtain ⟨t, rfl, rfl⟩ := h
  rw [readStoredTime_writeMillis, if_neg]
  refine fun ht => htime fun other hother => ?_
  cases hother
  exact Instant.inFourDigitYear_truncateToMillis.mpr ht

theorem readStoredTime?_writeMillis (t? : Option Instant) :
    readStoredTime? (t?.map Timestamp.writeMillis)
      = if ∀ t ∈ t?.map (·.truncateToMillis), t.InFourDigitYear
        then .ok (t?.map (·.truncateToMillis)) else .error (.timestamp .invalid) := by
  cases t? with
  | none => rfl
  | some t =>
    show (readStoredTime (Timestamp.writeMillis t)).map some = _
    rw [readStoredTime_writeMillis]
    by_cases h : t.InFourDigitYear
    · rw [if_pos h, if_pos (by simpa [Instant.inFourDigitYear_truncateToMillis] using h)]
      rfl
    · rw [if_neg h, if_neg (by simpa [Instant.inFourDigitYear_truncateToMillis] using h)]
      rfl

theorem flag_ne_zero (b : Bool) : decide ((if b then 1 else 0 : Int) ≠ 0) = b := by
  cases b <;> rfl

/-- What a row that keeps a document gives depends on its time column. -/
theorem LabelRow.Keeps.rule_eq_bind {row : LabelRow} {doc : LabelDocument} (h : row.Keeps doc) :
    row.rule = readStoredTime row.createdAt >>= fun createdAt =>
      (LabelRule.ofDocument { doc with id := readBack doc.id, createdAt := some createdAt }).mapError
        .shape := by
  obtain ⟨hid, henabled, -, written, htext, hdoc⟩ := h
  have hread : (LabelDocument.read written.encode.compact).mapError RepositoryError.json
      = .ok written :=
    congrArg (·.mapError RepositoryError.json) (LabelDocument.read_write written)
  rw [LabelRow.rule, hid, henabled, htext]
  simp only [requireText, flag, requireNumber, bind, Except.bind, LabelDocument.write,
    readBack_compact, hread, flag_ne_zero]
  rw [hdoc]

/-- What a row that keeps a document gives depends on its time columns. -/
theorem AssigneeRow.Keeps.rule_eq_bind {row : AssigneeRow} {doc : AssigneeDocument}
    (h : row.Keeps doc) :
    row.rule = readStoredTime row.createdAt >>= fun createdAt =>
      readStoredTime? row.updatedAt >>= fun updatedAt =>
        (AssigneeRule.ofDocument { doc with
          id := readBack doc.id, createdAt := some createdAt, updatedAt }).mapError .shape := by
  obtain ⟨hid, hpriority, henabled, -, -, written, htext, hdoc⟩ := h
  have hread : (AssigneeDocument.read written.encode.compact).mapError RepositoryError.json
      = .ok written :=
    congrArg (·.mapError RepositoryError.json) (AssigneeDocument.read_write written)
  rw [AssigneeRow.rule, hid, hpriority, henabled, htext]
  simp only [requireText, flag, requireNumber, bind, Except.bind, AssigneeDocument.write,
    readBack_compact, Int64.ofInt_toInt, hread, flag_ne_zero]
  rw [hdoc]

/-- **A row that keeps a document gives its rule.** -/
theorem LabelRow.Keeps.rule_eq {row : LabelRow} {doc : LabelDocument} (h : row.Keeps doc)
    (htimes : doc.HasOrdinaryTimes) :
    row.rule
      = (LabelRule.ofDocument { doc with id := readBack doc.id }).mapError .shape := by
  obtain ⟨t, htime, hread⟩ := h.createdAt.read htimes
  rw [h.rule_eq_bind, hread, htime]
  rfl

/-- A row whose document has a time in any other year cannot be read. -/
theorem LabelRow.Keeps.rule_eq_error {row : LabelRow} {doc : LabelDocument} (h : row.Keeps doc)
    (htimes : ¬ doc.HasOrdinaryTimes) : row.rule = .error (.timestamp .invalid) := by
  rw [h.rule_eq_bind, h.createdAt.read_eq_error htimes]
  rfl

/-- **A row that keeps a document gives its rule.** -/
theorem AssigneeRow.Keeps.rule_eq {row : AssigneeRow} {doc : AssigneeDocument}
    (h : row.Keeps doc) (htimes : doc.HasOrdinaryTimes) :
    row.rule
      = (AssigneeRule.ofDocument { doc with id := readBack doc.id }).mapError .shape := by
  obtain ⟨t, htime, hread⟩ := h.createdAt.read htimes.1
  obtain ⟨t?, hupdated, htime?⟩ := h.updatedAt
  rw [h.rule_eq_bind, hread, hupdated, readStoredTime?_writeMillis, ← htime?, if_pos htimes.2,
    htime]
  rfl

/-- A row whose document has a time in any other year cannot be read. -/
theorem AssigneeRow.Keeps.rule_eq_error {row : AssigneeRow} {doc : AssigneeDocument}
    (h : row.Keeps doc) (htimes : ¬ doc.HasOrdinaryTimes) :
    row.rule = .error (.timestamp .invalid) := by
  obtain ⟨t?, hupdated, htime?⟩ := h.updatedAt
  rw [h.rule_eq_bind]
  by_cases hcreated : ∀ t ∈ doc.createdAt, t.InFourDigitYear
  · obtain ⟨t, -, hread⟩ := h.createdAt.read hcreated
    rw [hread, hupdated, readStoredTime?_writeMillis, ← htime?,
      if_neg fun hother => htimes ⟨hcreated, hother⟩]
    rfl
  · rw [h.createdAt.read_eq_error hcreated]
    rfl

theorem LabelRow.keeps_ofDocument (now : Instant) (doc : LabelDocument) :
    (LabelRow.ofDocument now doc).Keeps
      { doc with createdAt := some (doc.createdAt.getD now).truncateToMillis } where
  id := rfl
  enabled := rfl
  createdAt := ⟨_, rfl, rfl⟩
  text := ⟨doc, rfl, rfl⟩

theorem AssigneeRow.keeps_ofDocument (now : Instant) (doc : AssigneeDocument) :
    (AssigneeRow.ofDocument now doc).Keeps
      { doc with
        createdAt := some (doc.createdAt.getD now).truncateToMillis
        updatedAt := doc.updatedAt.map (·.truncateToMillis) } where
  id := rfl
  priority := rfl
  enabled := rfl
  createdAt := ⟨_, rfl, rfl⟩
  updatedAt := ⟨doc.updatedAt, rfl, rfl⟩
  text := ⟨doc, rfl, rfl⟩

/-- A time that is cut off is one of the document's, or the clock's if there is none. -/
theorem inFourDigitYear_of_mem_cut {now : Instant} (hnow : now.InFourDigitYear)
    {t? : Option Instant} (h : ∀ t ∈ t?, t.InFourDigitYear) :
    ∀ t ∈ some (t?.getD now).truncateToMillis, t.InFourDigitYear := by
  intro t ht
  cases ht
  refine Instant.inFourDigitYear_truncateToMillis.mpr ?_
  cases t? with
  | none => exact hnow
  | some t => exact h t rfl

theorem inFourDigitYear_of_mem_map {t? : Option Instant} (h : ∀ t ∈ t?, t.InFourDigitYear) :
    ∀ t ∈ t?.map (·.truncateToMillis), t.InFourDigitYear := by
  intro t ht
  obtain ⟨u, hu, rfl⟩ := Option.map_eq_some_iff.mp ht
  exact Instant.inFourDigitYear_truncateToMillis.mpr (h u hu)

/-! ### Rows switched on or off -/

theorem setEnabledInText_compact {json : Json} (hplain : json.isPlain = true)
    (hproper : json.isProper 0 = true) (enabled : Bool) :
    setEnabledInText json.compact enabled
      = .ok (json.set "enabled" (.bool enabled)).compact := by
  rw [setEnabledInText, readBack_compact, Json.Relaxed.read?_compact hplain hproper]

theorem LabelRow.Keeps.setEnabled {row : LabelRow} {doc : LabelDocument} (h : row.Keeps doc)
    (now : Instant) (enabled : Bool) :
    ∃ changed, row.setEnabled now enabled = .ok changed
      ∧ changed.Keeps { doc with enabled } := by
  obtain ⟨hid, -, hcreated, written, htext, hdoc⟩ := h
  have hset : setEnabledInText row.ruleJson enabled
      = .ok ({ written with enabled } : LabelDocument).write := by
    rw [htext, LabelDocument.write,
      setEnabledInText_compact written.isPlain_encode written.isProper_encode,
      written.set_enabled_encode]
    rfl
  rw [LabelRow.setEnabled, hset]
  exact ⟨_, rfl, hid, rfl, hcreated, { written with enabled }, rfl,
    congrArg (fun d : LabelDocument => { d with enabled }) hdoc⟩

theorem AssigneeRow.Keeps.setEnabled {row : AssigneeRow} {doc : AssigneeDocument}
    (h : row.Keeps doc) (now : Instant) (enabled : Bool) :
    ∃ changed, row.setEnabled now enabled = .ok changed
      ∧ changed.Keeps { doc with enabled, updatedAt := some now.truncateToMillis } := by
  obtain ⟨hid, hpriority, -, hcreated, -, written, htext, hdoc⟩ := h
  have hset : setEnabledInText row.ruleJson enabled
      = .ok ({ written with enabled } : AssigneeDocument).write := by
    rw [htext, AssigneeDocument.write,
      setEnabledInText_compact written.isPlain_encode written.isProper_encode,
      written.set_enabled_encode]
    rfl
  rw [AssigneeRow.setEnabled, hset]
  exact ⟨_, rfl, hid, hpriority, rfl, hcreated, ⟨some now, rfl, rfl⟩, { written with enabled }, rfl,
    congrArg (fun d : AssigneeDocument =>
      { d with enabled, updatedAt := some now.truncateToMillis }) hdoc⟩

/-! ### Rows with an id -/

/-- Whether the id of a row reads back as a given one. -/
def readsAs {Row : Type} (idOf : Row → Option String) (id : String) (row : Row) : Bool :=
  (idOf row).map readBack = some id

/-- The rows of a table whose id reads back as a given one. -/
def Table.rowsAt {Row : Type} (idOf : Row → Option String) (id : String) (table : Table Row) :
    List Row := (table.getD []).filter (readsAs idOf id)

theorem insertRow_of_new {Row : Type} {name : TableName} {idOf : Row → Option String} {row : Row}
    {rows : List Row} (h : ∀ old ∈ rows, idOf old ≠ idOf row) :
    insertRow name idOf row rows = .ok (rows ++ [row]) := by
  have hnew : (rows.any fun other => idOf other == idOf row) = false :=
    List.any_eq_false.mpr fun old hold hsame => h old hold (eq_of_beq hsame)
  rw [insertRow, hnew, Bool.and_false]
  rfl

theorem readsAs_of_map_eq {Row : Type} {idOf : Row → Option String} {row : Row} {own : String}
    (h : (idOf row).map readBack = some own) (id : String) :
    readsAs idOf id row = decide (own = id) := by
  rw [readsAs, h]
  simp

theorem readBack_of_requireText_eq_ok {text? : Option String} {text : String}
    (h : requireText text? = .ok text) : text?.map readBack = some text := by
  cases text? with
  | none => cases h
  | some written => exact congrArg some (Except.ok.inj h)

theorem LabelRow.readsAs_of_rule {row : LabelRow} {rule : LabelRule} (h : row.rule = .ok rule)
    (id : String) : readsAs (·.id) id row = decide (rule.id = id) := by
  obtain ⟨own, hown, h⟩ := exists_of_bind_eq_ok h
  obtain ⟨enabled, -, h⟩ := exists_of_bind_eq_ok h
  obtain ⟨doc, -, h⟩ := exists_of_bind_eq_ok h
  obtain ⟨createdAt, -, h⟩ := exists_of_bind_eq_ok h
  obtain ⟨-, -, _, -, rfl⟩ := LabelRule.ofDocument_eq_ok_iff.mp (eq_ok_of_mapError_eq_ok h)
  exact readsAs_of_map_eq (readBack_of_requireText_eq_ok hown) id

theorem AssigneeRow.readsAs_of_rule {row : AssigneeRow} {rule : AssigneeRule}
    (h : row.rule = .ok rule) (id : String) : readsAs (·.id) id row = decide (rule.id = id) := by
  obtain ⟨own, hown, h⟩ := exists_of_bind_eq_ok h
  obtain ⟨priority, -, h⟩ := exists_of_bind_eq_ok h
  obtain ⟨enabled, -, h⟩ := exists_of_bind_eq_ok h
  obtain ⟨doc, -, h⟩ := exists_of_bind_eq_ok h
  obtain ⟨createdAt, -, h⟩ := exists_of_bind_eq_ok h
  obtain ⟨updatedAt, -, h⟩ := exists_of_bind_eq_ok h
  obtain ⟨-, -, rfl⟩ := AssigneeRule.ofDocument_eq_ok_iff.mp (eq_ok_of_mapError_eq_ok h)
  exact readsAs_of_map_eq (readBack_of_requireText_eq_ok hown) id

/-! ### Listings -/

section
variable {Row α : Type} {name : TableName} {before : Row → Row → Bool}
  {rule : Row → Except RepositoryError α}

theorem Listing.eq_filterMap_of_ofRows {rows : List Row} {listed : List α}
    (h : (Listing.ofRows rule rows).outcome = .ok listed) :
    listed = rows.filterMap fun row => (rule row).toOption := by
  induction rows generalizing listed with
  | nil => exact (Except.ok.inj h).symm
  | cons row rest ih =>
    rw [Listing.ofRows] at h
    cases hrule : rule row with
    | ok a =>
      simp only [hrule] at h
      obtain ⟨more, hrest, rfl⟩ := exists_of_map_eq_ok h
      rw [List.filterMap_cons_some (by rw [hrule]; rfl), ← ih hrest]
    | error why =>
      rw [List.filterMap_cons_none (by rw [hrule]; rfl)]
      simp only [hrule] at h
      cases why with
      | shape why => exact ih h
      | _ => cases h

/-- **A listing holds under an id what the rows with that id give.** -/
theorem Listing.filter_ofTable {idOf : Row → Option String} {idIn : α → String} {id : String}
    (hid : ∀ row a, rule row = .ok a → readsAs idOf id row = decide (idIn a = id))
    {table : Table Row} {listed : List α}
    (h : (Listing.ofTable name before rule table).outcome = .ok listed) :
    (listed.filter (idIn · = id)).Perm
      ((table.rowsAt idOf id).filterMap fun row => (rule row).toOption) := by
  cases table with
  | none => cases h
  | some rows =>
    obtain rfl := Listing.eq_filterMap_of_ofRows h
    rw [List.filter_filterMap, Table.rowsAt, Option.getD_some, List.filterMap_filter]
    have hstep : (fun row => (rule row).toOption.filter (idIn · = id))
        = fun row => if readsAs idOf id row = true then (rule row).toOption else none := by
      funext row
      cases hrule : rule row with
      | error why => simp [Except.toOption]
      | ok a =>
        rw [hid row a hrule]
        by_cases ha : idIn a = id <;> simp [Except.toOption, ha]
    rw [hstep]
    exact (List.mergeSort_perm rows before).filterMap _

end

end MailTriage
