import MailTriage.Proofs.Store.Changes

/-! # Documents in the store

A document is stored as a text.  The text has every field, with null for one that is empty, while a
reader takes a field that is missing for one that is null (`LabelDocument.decode_abridged`,
`AssigneeDocument.decode_abridged`) and has two forms of an assignment to tell apart.  All the same
a document comes back as it was, whatever it says: from its text, and from the row that it is
inserted as, though a text in a row ends where its first null character stands
(`documents_readBack`).
-/
namespace MailTriage

/-! ### Texts in rows -/

theorem LabelRow.read_ofDocument (now : Instant) (doc : LabelDocument) :
    LabelDocument.read (readBack (LabelRow.ofDocument now doc).ruleJson) = .ok doc := by
  show LabelDocument.read (readBack doc.encode.compact) = .ok doc
  rw [readBack_compact]
  exact doc.read_write

theorem AssigneeRow.read_ofDocument (now : Instant) (doc : AssigneeDocument) :
    AssigneeDocument.read (readBack (AssigneeRow.ofDocument now doc).ruleJson) = .ok doc := by
  show AssigneeDocument.read (readBack doc.encode.compact) = .ok doc
  rw [readBack_compact]
  exact doc.read_write

/-! ### Fields that are left out -/

namespace Json

/-- Some members were left out that are null. -/
def Abridges (members members' : List (String × Json)) : Prop :=
  ∃ keep : String × Json → Bool,
    members' = members.filter keep ∧ ∀ m ∈ members, keep m = false → m.2 = .null

section
variable {members members' : List (String × Json)}

theorem Abridges.nodup (h : Abridges members members') (hnodup : (members.map (·.1)).Nodup) :
    (members'.map (·.1)).Nodup := by
  obtain ⟨keep, rfl, -⟩ := h
  exact hnodup.sublist (List.filter_sublist.map _)

theorem mem_valuesAt {name : String} {v : Json} :
    v ∈ valuesAt name members ↔ (name, v) ∈ members := by
  simp [valuesAt]

/-- If no name comes twice, what stands under a name is the one value there. -/
theorem valuesAt_of_mem (hnodup : (members.map (·.1)).Nodup) {name : String} {v : Json}
    (h : (name, v) ∈ members) : valuesAt name members = [v] := by
  have hv := mem_valuesAt.mpr h
  have hlength : (valuesAt name members).length ≤ 1 := length_valuesAt_le_one hnodup
  match hvalues : valuesAt name members with
  | [] => exact absurd (hvalues ▸ hv) List.not_mem_nil
  | [w] =>
    rw [hvalues] at hv
    rw [List.mem_singleton.mp hv]
  | _ :: _ :: _ =>
    rw [hvalues] at hlength
    exact absurd hlength (by simp)

/-- A field reads the same without its null, if null is read as what an absent field has. -/
theorem Abridges.field_eq {α : Type} (h : Abridges members members')
    (hnodup : (members.map (·.1)).Nodup) {name : String} {absent : α} {decoder : Decoder α}
    (hnull : (name, Json.null) ∈ members → decoder .null = .ok absent) :
    field (fun n => (valuesAt n members').head?) name absent decoder
      = field (fun n => (valuesAt n members).head?) name absent decoder := by
  have hnodup' := h.nodup hnodup
  obtain ⟨keep, rfl, hkeep⟩ := h
  rw [field, field]
  by_cases hname : ∃ v, (name, v) ∈ members
  · obtain ⟨v, hv⟩ := hname
    rw [valuesAt_of_mem hnodup hv]
    cases hkept : keep (name, v) with
    | true => rw [valuesAt_of_mem hnodup' (List.mem_filter.mpr ⟨hv, hkept⟩)]
    | false =>
      obtain rfl : v = .null := hkeep _ hv hkept
      have hgone : valuesAt name (members.filter keep) = [] := by
        refine List.eq_nil_iff_forall_not_mem.mpr fun w hw => ?_
        obtain ⟨hw, hkept'⟩ := List.mem_filter.mp (mem_valuesAt.mp hw)
        have hsame : w ∈ [Json.null] := valuesAt_of_mem hnodup hv ▸ mem_valuesAt.mpr hw
        rw [List.mem_singleton.mp hsame, hkept] at hkept'
        cases hkept'
      rw [hgone]
      exact (hnull hv).symm
  · have hnone : ∀ some : List (String × Json), some ⊆ members → valuesAt name some = [] :=
      fun some hsome => List.eq_nil_iff_forall_not_mem.mpr fun v hv =>
        hname ⟨v, hsome (mem_valuesAt.mp hv)⟩
    rw [hnone _ (List.filter_subset_self _), hnone _ (List.Subset.refl _)]

theorem Abridges.field_nullable {α : Type} (h : Abridges members members')
    (hnodup : (members.map (·.1)).Nodup) (name : String) (decoder : Decoder α) :
    field (fun n => (valuesAt n members').head?) name none (nullable decoder)
      = field (fun n => (valuesAt n members).head?) name none (nullable decoder) :=
  h.field_eq hnodup fun _ => rfl

theorem Abridges.field_of_not_mem {α : Type} (h : Abridges members members')
    (hnodup : (members.map (·.1)).Nodup) {name : String} (hkept : (name, Json.null) ∉ members)
    (absent : α) (decoder : Decoder α) :
    field (fun n => (valuesAt n members').head?) name absent decoder
      = field (fun n => (valuesAt n members).head?) name absent decoder :=
  h.field_eq hnodup fun hnull => absurd hnull hkept

end
end Json

/-- A label document without some of its nulls says the same. -/
theorem LabelDocument.decode_abridged (doc : LabelDocument)
    {members members' : List (String × Json)} (hencode : doc.encode = .object members)
    (h : Json.Abridges members members') : LabelDocument.decode (.object members') = .ok doc := by
  have hnodup : (members.map (·.1)).Nodup := by
    cases hencode
    show (["id", "match", "labelName", "labelNames", "assignTo", "enabled", "createdAt"]
      : List String).Nodup
    decide
  have hkept : ∀ name ∈ ["id", "match", "enabled"], (name, Json.null) ∉ members := by
    cases hencode
    simp [Condition.encode]
  have hdecode := doc.decode_encode
  rw [hencode, decode, Json.record_object _ hnodup] at hdecode
  rw [decode, Json.record_object _ (h.nodup hnodup)]
  simp only [bind, Except.bind] at hdecode ⊢
  rwa [h.field_of_not_mem hnodup (hkept "id" (by decide)),
    h.field_of_not_mem hnodup (hkept "match" (by decide)),
    h.field_nullable hnodup "labelName",
    h.field_nullable hnodup "labelNames",
    h.field_nullable hnodup "assignTo",
    h.field_of_not_mem hnodup (hkept "enabled" (by decide)),
    h.field_nullable hnodup "createdAt"]

/-- An assignee document without some of its nulls says the same. -/
theorem AssigneeDocument.decode_abridged (doc : AssigneeDocument)
    {members members' : List (String × Json)} (hencode : doc.encode = .object members)
    (h : Json.Abridges members members') :
    AssigneeDocument.decode (.object members') = .ok doc := by
  have hnodup : (members.map (·.1)).Nodup := by
    cases hencode
    show (["id", "enabled", "priority", "match", "assigneeEmail", "when", "safety", "createdAt",
      "updatedAt"] : List String).Nodup
    decide
  have hkept : ∀ name ∈ ["id", "enabled", "priority", "match", "assigneeEmail"],
      (name, Json.null) ∉ members := by
    cases hencode
    simp [Condition.encode]
  have hdecode := doc.decode_encode
  rw [hencode, decode, Json.record_object _ hnodup] at hdecode
  rw [decode, Json.record_object _ (h.nodup hnodup)]
  simp only [bind, Except.bind] at hdecode ⊢
  rwa [h.field_of_not_mem hnodup (hkept "id" (by decide)),
    h.field_of_not_mem hnodup (hkept "enabled" (by decide)),
    h.field_of_not_mem hnodup (hkept "priority" (by decide)),
    h.field_of_not_mem hnodup (hkept "match" (by decide)),
    h.field_of_not_mem hnodup (hkept "assigneeEmail" (by decide)),
    h.field_nullable hnodup "when",
    h.field_nullable hnodup "safety",
    h.field_nullable hnodup "createdAt",
    h.field_nullable hnodup "updatedAt"]

/-! ### Documents that are inserted -/

/-- **Documents come back as they were.**  Whatever a document says, its text reads back as the
document, and so does the text in the row that is added when it is inserted. -/
theorem documents_readBack :
    (∀ doc : LabelDocument, LabelDocument.read doc.write = .ok doc)
    ∧ (∀ doc : AssigneeDocument, AssigneeDocument.read doc.write = .ok doc)
    ∧ (∀ (tables next : Tables) (now : Instant) (doc : LabelDocument),
      tables.insertLabelDocument now doc = .ok next →
      ∃ rows row, tables.labelRules = some rows ∧ next.labelRules = some (rows ++ [row])
        ∧ LabelDocument.read (readBack row.ruleJson) = .ok doc)
    ∧ ∀ (tables next : Tables) (now : Instant) (doc : AssigneeDocument),
      tables.insertAssigneeDocument now doc = .ok next →
      ∃ rows row, tables.assigneeRules = some rows ∧ next.assigneeRules = some (rows ++ [row])
        ∧ AssigneeDocument.read (readBack row.ruleJson) = .ok doc := by
  refine ⟨LabelDocument.read_write, AssigneeDocument.read_write,
    fun tables next now doc h => ?_, fun tables next now doc h => ?_⟩
  · obtain ⟨rows, added, hrows, hadded, rfl⟩ := Tables.insertLabelDocument_eq_ok h
    exact ⟨rows, _, hrows, congrArg some (insertRow_eq_ok hadded), LabelRow.read_ofDocument now doc⟩
  · obtain ⟨rows, added, hrows, hadded, rfl⟩ := Tables.insertAssigneeDocument_eq_ok h
    exact ⟨rows, _, hrows, congrArg some (insertRow_eq_ok hadded),
      AssigneeRow.read_ofDocument now doc⟩

/-- An old document with an empty list of names and a blank assignment, and one with the least
priority, come back from the rows that they are inserted as. -/
theorem documents_readBack_old :
    let label : LabelDocument :=
      { id := "old", condition := { domain := some "@Vendor.io" }, labelName := some "\x00VIP "
        labelNames := some [], assignTo := some (.keyword " "), createdAt := some .epoch }
    let assignee : AssigneeDocument :=
      { id := "least", enabled := false, priority := Int64.minValue, timing := some {}
        safety := some { broadDomainConfirmed := true }, updatedAt := some .epoch }
    let tables : Tables := { labelRules := some [], assigneeRules := some [] }
    (∃ next row, tables.insertLabelDocument .epoch label = .ok next ∧ next.labelRules = some [row]
      ∧ LabelDocument.read (readBack row.ruleJson) = .ok label)
    ∧ ∃ next row, tables.insertAssigneeDocument .epoch assignee = .ok next
      ∧ next.assigneeRules = some [row]
      ∧ AssigneeDocument.read (readBack row.ruleJson) = .ok assignee := by
  intro label assignee tables
  obtain ⟨-, -, hlabels, hassignees⟩ := documents_readBack
  have hlabel : tables.insertLabelDocument .epoch label
      = .ok { tables with labelRules := some [.ofDocument .epoch label] } := by rfl
  have hassignee : tables.insertAssigneeDocument .epoch assignee
      = .ok { tables with assigneeRules := some [.ofDocument .epoch assignee] } := by rfl
  obtain ⟨rows, row, hrows, hadded, hread⟩ := hlabels _ _ _ _ hlabel
  obtain ⟨rows', row', hrows', hadded', hread'⟩ := hassignees _ _ _ _ hassignee
  cases hrows
  cases hrows'
  exact ⟨⟨_, row, hlabel, hadded, hread⟩, ⟨_, row', hassignee, hadded', hread'⟩⟩

end MailTriage
