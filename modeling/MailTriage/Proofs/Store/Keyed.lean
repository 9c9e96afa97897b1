import MailTriage.Proofs.Store.Book
import MailTriage.Proofs.Store.Listing

/-! # Rows that hold documents

A table of rows with different ids holds the documents of a map (`Stores`).  Each change of the rows
comes to the same as the change of the documents (`Stores.insertRow`, `Stores.changeRow`,
`Stores.removeRow`), and what the rows give in their order is the listing of the documents
(`Stores.lists`), unless one of them cannot be read at all (`Stores.outcome_eq_error`).  All this is
the same for both kinds of rules.
-/
namespace MailTriage

/-! ### Computations that come to the same -/

/-- Two computations come to the same: they fail for the same reason, or what they give is
related. -/
inductive SameOutcome {ε α β : Type} (R : α → β → Prop) : Except ε α → Except ε β → Prop
  | ok {a : α} {b : β} (h : R a b) : SameOutcome R (.ok a) (.ok b)
  | error (why : ε) : SameOutcome R (.error why) (.error why)

namespace SameOutcome

variable {ε α β α' β' : Type} {R : α → β → Prop} {x : Except ε α} {y : Except ε β}

theorem map {S : α' → β' → Prop} {f : α → α'} {g : β → β'} (h : SameOutcome R x y)
    (hmap : ∀ a b, R a b → S (f a) (g b)) : SameOutcome S (x.map f) (y.map g) := by
  cases h with
  | ok hab => exact .ok (hmap _ _ hab)
  | error why => exact .error why

/-- What is given beside the value does not count. -/
theorem map_snd (c : α') (h : SameOutcome R x y) :
    SameOutcome R ((x >>= fun a => pure (c, a)).map (·.2)) y := by
  cases h with
  | ok hab => exact .ok hab
  | error why => exact .error why

/-- What is given may be known to be more closely related, for instance by what is known of one of
the computations. -/
theorem strengthen {S : α → β → Prop} (h : SameOutcome R x y)
    (hS : ∀ a b, y = .ok b → R a b → S a b) : SameOutcome S x y := by
  cases h with
  | ok hab => exact .ok (hS _ _ rfl hab)
  | error why => exact .error why

theorem exists_ok_iff (h : SameOutcome R x y) : (∃ a, x = .ok a) ↔ ∃ b, y = .ok b := by
  cases h with
  | ok hab => exact iff_of_true ⟨_, rfl⟩ ⟨_, rfl⟩
  | error why => exact iff_of_false nofun nofun

theorem error_iff (h : SameOutcome R x y) {why : ε} : x = .error why ↔ y = .error why := by
  cases h with
  | ok hab => exact iff_of_false nofun nofun
  | error why => simp

end SameOutcome

theorem eq_ok_of_toOption_eq_some {ε α : Type} {x : Except ε α} {a : α}
    (h : x.toOption = some a) : x = .ok a := by
  cases x with
  | error why => cases h
  | ok b => exact congrArg Except.ok (Option.some_inj.mp h)

/-! ### Rows and their documents -/

section
variable {Row Doc : Type} {idOf : Row → Option String} {docId : Doc → String}
  {Holds : Row → Doc → Prop} {rows next : List Row} {documents : DocumentMap Doc} {row : Row}
  {doc : Doc} {id : String}

/-- The rows hold the documents: each row holds one of them, each document has its row, and no two
rows have the same id. -/
structure Stores (idOf : Row → Option String) (docId : Doc → String) (Holds : Row → Doc → Prop)
    (rows : List Row) (documents : DocumentMap Doc) : Prop where
  nodup : (rows.map idOf).Nodup
  key : ∀ row doc, Holds row doc → idOf row = some (docId doc)
  sound : ∀ row ∈ rows, ∃ doc, documents (docId doc) = some doc ∧ Holds row doc
  complete : ∀ id doc, documents id = some doc → ∃ row ∈ rows, idOf row = some id

/-- The rule of the document that a row holds. -/
def documentRule? {Rule : Type} (idOf : Row → Option String) (documents : DocumentMap Doc)
    (ruleOf : Doc → Except ShapeError Rule) (row : Row) : Option Rule :=
  ((idOf row).bind documents).bind fun doc => (ruleOf doc).toOption

/-- The rows of all other ids. -/
def othersOf (idOf : Row → Option String) (id : String) (rows : List Row) : List Row :=
  rows.filter (idOf · ≠ some id)

theorem othersOf_eq_self (h : ∀ row ∈ rows, idOf row ≠ some id) : othersOf idOf id rows = rows :=
  List.filter_eq_self.mpr fun row hrow => decide_eq_true (h row hrow)

theorem mem_othersOf : row ∈ othersOf idOf id rows ↔ row ∈ rows ∧ idOf row ≠ some id := by
  rw [othersOf, List.mem_filter, decide_eq_true_eq]

theorem removeRow_of_ne (h : ∀ row ∈ rows, idOf row ≠ some id) :
    removeRow idOf id rows = .error (.notFound id) := by
  induction rows with
  | nil => rfl
  | cons row rest ih =>
    rw [removeRow, if_neg (h row List.mem_cons_self),
      ih fun other hother => h other (List.mem_cons_of_mem row hother)]
    rfl

theorem changeRow_of_ne {change : Row → Except SqlError Row}
    (h : ∀ row ∈ rows, idOf row ≠ some id) :
    changeRow idOf id change rows = .error (.notFound id) := by
  induction rows with
  | nil => rfl
  | cons row rest ih =>
    rw [changeRow, if_neg (h row List.mem_cons_self),
      ih fun other hother => h other (List.mem_cons_of_mem row hother)]
    rfl

theorem othersOf_cons_self {rest : List Row} (hnodup : ((row :: rest).map idOf).Nodup)
    (hid : idOf row = some id) : othersOf idOf id (row :: rest) = rest := by
  rw [List.map_cons, List.nodup_cons, List.mem_map] at hnodup
  rw [othersOf, List.filter_cons_of_neg (by simpa using hid)]
  exact othersOf_eq_self fun other hother heq => hnodup.1 ⟨other, hother, heq.trans hid.symm⟩

theorem othersOf_cons_of_ne {rest : List Row} (hne : idOf row ≠ some id) :
    othersOf idOf id (row :: rest) = row :: othersOf idOf id rest :=
  List.filter_cons_of_pos (decide_eq_true hne)

theorem ne_of_nodup_cons {first : Row} {rest : List Row}
    (hnodup : ((first :: rest).map idOf).Nodup) (hrow : row ∈ rest) (hid : idOf row = some id) :
    idOf first ≠ some id := by
  rw [List.map_cons, List.nodup_cons, List.mem_map] at hnodup
  exact fun hfirst => hnodup.1 ⟨row, hrow, hid.trans hfirst.symm⟩

theorem removeRow_eq_ok (hnodup : (rows.map idOf).Nodup) (hrow : row ∈ rows)
    (hid : idOf row = some id) : removeRow idOf id rows = .ok (othersOf idOf id rows) := by
  induction rows with
  | nil => cases hrow
  | cons first rest ih =>
    rcases List.mem_cons.mp hrow with rfl | hrest
    · rw [removeRow, if_pos hid, othersOf_cons_self hnodup hid]
    · have hne := ne_of_nodup_cons hnodup hrest hid
      rw [removeRow, if_neg hne, ih (List.nodup_cons.mp hnodup).2 hrest, othersOf_cons_of_ne hne]
      rfl

theorem exists_perm_of_changeRow {change : Row → Except SqlError Row} {changed : Row}
    (hnodup : (rows.map idOf).Nodup) (hrow : row ∈ rows) (hid : idOf row = some id)
    (hchange : change row = .ok changed) :
    ∃ next, changeRow idOf id change rows = .ok next
      ∧ next.Perm (changed :: othersOf idOf id rows) := by
  induction rows with
  | nil => cases hrow
  | cons first rest ih =>
    rcases List.mem_cons.mp hrow with rfl | hrest
    · rw [changeRow, if_pos hid, hchange, othersOf_cons_self hnodup hid]
      exact ⟨changed :: rest, rfl, .refl _⟩
    · have hne := ne_of_nodup_cons hnodup hrest hid
      obtain ⟨next, hnext, hperm⟩ := ih (List.nodup_cons.mp hnodup).2 hrest
      rw [changeRow, if_neg hne, hnext, othersOf_cons_of_ne hne]
      exact ⟨first :: next, rfl, (hperm.cons first).trans (.swap _ _ _)⟩

namespace Stores

theorem nil (hkey : ∀ row doc, Holds row doc → idOf row = some (docId doc)) :
    Stores idOf docId Holds [] fun _ => none where
  nodup := .nil
  key := hkey
  sound _ hrow := absurd hrow List.not_mem_nil
  complete _ doc hdoc := absurd hdoc.symm (Option.some_ne_none doc)

variable (h : Stores idOf docId Holds rows documents)

include h

theorem exists_row (hdoc : documents id = some doc) :
    ∃ row ∈ rows, idOf row = some id ∧ docId doc = id ∧ Holds row doc := by
  obtain ⟨row, hrow, hid⟩ := h.complete id doc hdoc
  obtain ⟨held, hheld, hholds⟩ := h.sound row hrow
  obtain rfl : docId held = id := Option.some_inj.mp ((h.key row held hholds).symm.trans hid)
  obtain rfl : held = doc := Option.some_inj.mp (hheld.symm.trans hdoc)
  exact ⟨row, hrow, hid, rfl, hholds⟩

theorem ne_of_none (hnone : documents id = none) : ∀ row ∈ rows, idOf row ≠ some id := by
  intro row hrow hid
  obtain ⟨held, hheld, hholds⟩ := h.sound row hrow
  obtain rfl : docId held = id := Option.some_inj.mp ((h.key row held hholds).symm.trans hid)
  rw [hnone] at hheld
  cases hheld

theorem perm (hperm : rows.Perm next) : Stores idOf docId Holds next documents where
  nodup := (hperm.map idOf).nodup_iff.mp h.nodup
  key := h.key
  sound row hrow := h.sound row (hperm.mem_iff.mpr hrow)
  complete id doc hdoc :=
    let ⟨row, hrow, hid⟩ := h.complete id doc hdoc
    ⟨row, hperm.mem_iff.mp hrow, hid⟩

/-- What holds of all documents can be told of each row. -/
theorem restrict {Also : Doc → Prop} (halso : ∀ id doc, documents id = some doc → Also doc) :
    Stores idOf docId (fun row doc => Holds row doc ∧ Also doc) rows documents where
  nodup := h.nodup
  key row doc hholds := h.key row doc hholds.1
  sound row hrow :=
    let ⟨doc, hdoc, hholds⟩ := h.sound row hrow
    ⟨doc, hdoc, hholds, halso (docId doc) doc hdoc⟩
  complete := h.complete

theorem without (id : String) :
    Stores idOf docId Holds (othersOf idOf id rows) (documents.replaceAt id none) where
  nodup := h.nodup.sublist (List.filter_sublist.map idOf)
  key := h.key
  sound row hrow := by
    obtain ⟨hmem, hne⟩ := mem_othersOf.mp hrow
    obtain ⟨doc, hdoc, hholds⟩ := h.sound row hmem
    refine ⟨doc, ?_, hholds⟩
    rw [DocumentMap.replaceAt, if_neg, hdoc]
    intro heq
    exact hne (heq ▸ h.key row doc hholds)
  complete other doc hdoc := by
    rw [DocumentMap.replaceAt] at hdoc
    split at hdoc
    · cases hdoc
    · next hne =>
      obtain ⟨row, hrow, hid⟩ := h.complete other doc hdoc
      exact ⟨row, mem_othersOf.mpr ⟨hrow, fun heq => hne (Option.some_inj.mp (hid.symm.trans heq))⟩,
        hid⟩

theorem cons (hnone : documents (docId doc) = none) (hholds : Holds row doc) :
    Stores idOf docId Holds (row :: rows) (documents.replaceAt (docId doc) (some doc)) where
  nodup := by
    rw [List.map_cons, List.nodup_cons, List.mem_map, h.key row doc hholds]
    exact ⟨fun ⟨other, hother, heq⟩ => h.ne_of_none hnone other hother heq, h.nodup⟩
  key := h.key
  sound other hother := by
    rcases List.mem_cons.mp hother with rfl | hother
    · exact ⟨doc, if_pos rfl, hholds⟩
    · obtain ⟨held, hheld, hholds⟩ := h.sound other hother
      refine ⟨held, ?_, hholds⟩
      rw [DocumentMap.replaceAt, if_neg, hheld]
      intro heq
      rw [heq, hnone] at hheld
      cases hheld
  complete id held hheld := by
    rw [DocumentMap.replaceAt] at hheld
    split at hheld
    · next heq => exact ⟨row, List.mem_cons_self, heq ▸ h.key row doc hholds⟩
    · obtain ⟨other, hother, hid⟩ := h.complete id held hheld
      exact ⟨other, List.mem_cons_of_mem row hother, hid⟩

/-! ### One change of the rows -/

theorem insertRow (name : TableName) (hholds : Holds row doc) :
    SameOutcome (Stores idOf docId Holds) ((insertRow name idOf row rows).mapError .sql)
      (documents.put name (docId doc) doc) := by
  rw [DocumentMap.put]
  cases hdoc : documents (docId doc) with
  | some held =>
    rw [MailTriage.insertRow, h.key row doc hholds]
    -- the id is taken by the row of the document that is stored under it
    obtain ⟨other, hother, hid, -⟩ := h.exists_row hdoc
    have htaken : rows.any (fun other => idOf other == some (docId doc)) = true :=
      List.any_eq_true.mpr ⟨other, hother, beq_iff_eq.mpr hid⟩
    simp only [htaken, Option.isSome_some, Bool.and_self, if_true]
    exact .error _
  | none =>
    have hnew : ∀ other ∈ rows, idOf other ≠ idOf row := by
      rw [h.key row doc hholds]
      exact h.ne_of_none hdoc
    rw [insertRow_of_new hnew]
    exact .ok ((h.cons hdoc hholds).perm (List.perm_append_singleton row rows).symm)

theorem removeRow (id : String) :
    SameOutcome (Stores idOf docId Holds) (removeRow idOf id rows)
      (documents.revise id fun _ => none) := by
  rw [DocumentMap.revise]
  cases hdoc : documents id with
  | none =>
    rw [removeRow_of_ne (h.ne_of_none hdoc)]
    exact .error _
  | some doc =>
    obtain ⟨row, hrow, hid, -⟩ := h.exists_row hdoc
    rw [removeRow_eq_ok h.nodup hrow hid]
    exact .ok (h.without id)

theorem changeRow (id : String) (change : Row → Except SqlError Row) (revision : Doc → Doc)
    (hid : ∀ doc, docId (revision doc) = docId doc)
    (hchange : ∀ row doc, Holds row doc →
      ∃ changed, change row = .ok changed ∧ Holds changed (revision doc)) :
    SameOutcome (Stores idOf docId Holds) (changeRow idOf id change rows)
      (documents.revise id fun doc => some (revision doc)) := by
  rw [DocumentMap.revise]
  cases hdoc : documents id with
  | none =>
    rw [changeRow_of_ne (h.ne_of_none hdoc)]
    exact .error _
  | some doc =>
    obtain ⟨row, hrow, hrowid, rfl, hholds⟩ := h.exists_row hdoc
    obtain ⟨changed, hchanged, hholds⟩ := hchange row doc hholds
    obtain ⟨next, hnext, hperm⟩ := exists_perm_of_changeRow h.nodup hrow hrowid hchanged
    rw [hnext]
    -- the old row is taken away and the changed one comes in its place
    have hfree : documents.replaceAt (docId doc) none (docId (revision doc)) = none := by
      rw [hid]
      exact if_pos rfl
    have hstores := (h.without (docId doc)).cons hfree hholds
    rw [hid, DocumentMap.replaceAt_replaceAt] at hstores
    exact .ok (hstores.perm hperm.symm)

/-! ### Listings -/

section
variable {Rule : Type} {ruleOf : Doc → Except ShapeError Rule} {ruleId : Rule → String}
  {rule : Rule}

theorem documentRule?_eq (hrow : row ∈ rows) :
    ∃ doc, documents (docId doc) = some doc ∧ Holds row doc
      ∧ documentRule? idOf documents ruleOf row = (ruleOf doc).toOption := by
  obtain ⟨doc, hdoc, hholds⟩ := h.sound row hrow
  refine ⟨doc, hdoc, hholds, ?_⟩
  rw [documentRule?, h.key row doc hholds, Option.bind_some, hdoc, Option.bind_some]

theorem mem_filterMap_documentRule?_iff (hid : ∀ doc rule, ruleOf doc = .ok rule →
    ruleId rule = docId doc) :
    rule ∈ rows.filterMap (documentRule? idOf documents ruleOf)
      ↔ ∃ doc, documents (ruleId rule) = some doc ∧ ruleOf doc = .ok rule := by
  rw [List.mem_filterMap]
  constructor
  · rintro ⟨row, hrow, heq⟩
    obtain ⟨doc, hdoc, -, hrule⟩ := h.documentRule?_eq hrow
    have hok := eq_ok_of_toOption_eq_some (hrule.symm.trans heq)
    exact ⟨doc, by rw [hid doc rule hok]; exact hdoc, hok⟩
  · rintro ⟨doc, hdoc, hok⟩
    obtain ⟨row, hrow, hrowid, -⟩ := h.exists_row hdoc
    refine ⟨row, hrow, ?_⟩
    rw [documentRule?, hrowid, Option.bind_some, hdoc, Option.bind_some, hok]
    rfl

/-- Rows of different ids in their order give rules in the order of the rules. -/
theorem pairwise_filterMap_documentRule? {before : Row → Row → Prop}
    {listedBefore : Rule → Rule → Prop} (hsorted : rows.Pairwise before)
    (hbefore : ∀ a b doc doc' rule rule', Holds a doc → Holds b doc' → docId doc ≠ docId doc' →
      before a b → ruleOf doc = .ok rule → ruleOf doc' = .ok rule' → listedBefore rule rule') :
    (rows.filterMap (documentRule? idOf documents ruleOf)).Pairwise listedBefore := by
  have hnodup : rows.Pairwise fun a b => idOf a ≠ idOf b := List.pairwise_map.mp h.nodup
  refine List.pairwise_filterMap.mpr ((hsorted.and hnodup).imp_of_mem ?_)
  rintro a b ha hb ⟨hab, hne⟩ rule hrule rule' hrule'
  obtain ⟨doc, -, hholds, heq⟩ := h.documentRule?_eq ha
  obtain ⟨doc', -, hholds', heq'⟩ := h.documentRule?_eq hb
  rw [h.key a doc hholds, h.key b doc' hholds'] at hne
  exact hbefore a b doc doc' rule rule' hholds hholds' (fun hid => hne (congrArg some hid)) hab
    (eq_ok_of_toOption_eq_some (heq.symm.trans hrule))
    (eq_ok_of_toOption_eq_some (heq'.symm.trans hrule'))

/-- **The listing of the rows is that of the documents**, if each row gives the rule of its document
up to some change of it, and the rows' order is that of the rules. -/
theorem lists {before : Row → Row → Bool} {ruleAt : Row → Except RepositoryError Rule}
    {cut : Rule → Rule} {listedBefore : Rule → Rule → Prop} (name : TableName)
    (hgiven : ∀ row doc, Holds row doc → ∃ given : Except ShapeError Rule,
      ruleAt row = given.mapError .shape ∧ given.toOption = (ruleOf doc).toOption.map cut)
    (hid : ∀ doc rule, ruleOf doc = .ok rule → ruleId rule = docId doc)
    (hsorted : (rows.mergeSort before).Pairwise fun a b => before a b = true)
    (hbefore : ∀ a b doc doc' rule rule', Holds a doc → Holds b doc' → docId doc ≠ docId doc' →
      before a b = true → ruleOf doc = .ok rule → ruleOf doc' = .ok rule' →
      listedBefore rule rule') :
    ∃ rules, documents.Lists ruleOf ruleId listedBefore rules
      ∧ (Listing.ofTable name before ruleAt (some rows)).outcome = .ok (rules.map cut) := by
  have hstores := h.perm (List.mergeSort_perm rows before).symm
  refine ⟨(rows.mergeSort before).filterMap (documentRule? idOf documents ruleOf),
    ⟨fun rule => hstores.mem_filterMap_documentRule?_iff hid,
      hstores.pairwise_filterMap_documentRule? hsorted hbefore⟩, ?_⟩
  -- what is changed in the rules is changed row by row
  rw [List.map_filterMap]
  refine Listing.outcome_ofTable fun row hrow => ?_
  obtain ⟨doc, -, hholds, hrule⟩ := h.documentRule?_eq hrow
  rw [hrule]
  exact hgiven row doc hholds

/-- **The listing of the rows fails** if the row of one document cannot be read: which rows these are
is told by the documents. -/
theorem outcome_eq_error {before : Row → Row → Bool} {ruleAt : Row → Except RepositoryError Rule}
    {Readable : Doc → Prop} {why : RepositoryError} (name : TableName)
    (hgiven : ∀ row doc, Holds row doc → Readable doc →
      ∃ given : Except ShapeError Rule, ruleAt row = given.mapError .shape)
    (hfails : ∀ row doc, Holds row doc → ¬ Readable doc → ruleAt row = .error why)
    (hwhy : ∀ shape, why ≠ .shape shape) (hbad : ¬ documents.All Readable) :
    (Listing.ofTable name before ruleAt (some rows)).outcome = .error why := by
  refine Listing.outcome_ofTable_eq_error (fun row hrow => ?_) ?_ hwhy
  · obtain ⟨doc, -, hholds⟩ := h.sound row hrow
    by_cases hreadable : Readable doc
    · exact .inr (hgiven row doc hholds hreadable)
    · exact .inl (hfails row doc hholds hreadable)
  · simp only [DocumentMap.All, Classical.not_forall] at hbad
    obtain ⟨id, doc, hdoc, hreadable⟩ := hbad
    obtain ⟨row, hrow, -, -, hholds⟩ := h.exists_row hdoc
    exact ⟨row, hrow, hfails row doc hholds hreadable⟩

end

end Stores

end

end MailTriage
