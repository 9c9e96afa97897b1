import MailTriage.Proofs.Json.Compact
import MailTriage.Proofs.Json.Record
import MailTriage.Rule.DocumentFormat

/-! # Stored documents read back

A document that is written as JSON reads back as it was (`LabelDocument.read_write`,
`AssigneeDocument.read_write`): the fields come back one by one, each by its own decoder.  The text of
a document holds no control character, so nothing of it is lost where a stored text ends at its first
null character.  A rule is switched on or off in the text of its document, which changes nothing else
in it (`LabelDocument.set_enabled_encode`, `AssigneeDocument.set_enabled_encode`).
-/
namespace MailTriage

/-! ### Parts of documents -/

theorem Condition.decode_encode (c : Condition) : Condition.decode c.encode = .ok c := by
  rw [Condition.decode, Condition.encode, Json.record_object]
  · simp [bind, Except.bind, Json.field, Json.valuesAt, Json.nullable_ofText?, pure, Except.pure]
  · show (["fromEmail", "fromDomain"] : List String).Nodup
    decide

theorem DocumentAssignment.decode_encode (a : DocumentAssignment) :
    DocumentAssignment.decode a.encode = .ok a := by
  cases a <;> rfl

theorem AssignmentTiming.decode_encode (timing : AssignmentTiming) :
    AssignmentTiming.decode timing.encode = .ok timing := by
  obtain ⟨unassignedOnly⟩ := timing
  cases unassignedOnly <;> rfl

theorem SafetyConfirmation.decode_encode (safety : SafetyConfirmation) :
    SafetyConfirmation.decode safety.encode = .ok safety := rfl

/-- An optional part reads back, if the part does and is not written as null. -/
theorem nullable_encode? {α : Type} (encode : α → Json) {decode : Json.Decoder α}
    (hnull : ∀ a, encode a ≠ .null) (h : ∀ a, decode (encode a) = .ok a) (a? : Option α) :
    Json.nullable decode (encode? encode a?) = .ok a? := by
  cases a? with
  | none => rfl
  | some a =>
    rw [encode?, Json.nullable_of_ne_null (hnull a), h a]
    rfl

/-! ### Whole documents -/

/-- The times of a document lie in years of four digits. -/
def LabelDocument.HasOrdinaryTimes (doc : LabelDocument) : Prop :=
  ∀ t ∈ doc.createdAt, t.InFourDigitYear

/-- The times of a document lie in years of four digits. -/
def AssigneeDocument.HasOrdinaryTimes (doc : AssigneeDocument) : Prop :=
  (∀ t ∈ doc.createdAt, t.InFourDigitYear) ∧ ∀ t ∈ doc.updatedAt, t.InFourDigitYear

theorem LabelRule.hasOrdinaryTimes_toDocument {rule : LabelRule}
    (h : rule.createdAt.InFourDigitYear) : rule.toDocument.HasOrdinaryTimes := by
  intro t ht
  cases ht
  exact h

theorem AssigneeRule.hasOrdinaryTimes_toDocument {rule : AssigneeRule}
    (h : rule.createdAt.InFourDigitYear) (hupdated : ∀ t ∈ rule.updatedAt, t.InFourDigitYear) :
    rule.toDocument.HasOrdinaryTimes := by
  refine ⟨fun t ht => ?_, hupdated⟩
  cases ht
  exact h

theorem LabelDocument.decode_encode (doc : LabelDocument) :
    LabelDocument.decode doc.encode = .ok doc := by
  have hassign := nullable_encode? DocumentAssignment.encode
    (fun a => by cases a <;> exact Json.noConfusion) DocumentAssignment.decode_encode doc.assignTo
  have hnames := nullable_encode? Json.ofTexts (fun _ => Json.noConfusion)
    Json.decodeList_ofTexts doc.labelNames
  have htime := Json.nullable_ofInstant? doc.createdAt
  rw [LabelDocument.decode, LabelDocument.encode, Json.record_object]
  · simp [bind, Except.bind, Json.field, Json.valuesAt, Json.decodeText, Json.decodeBool,
      Condition.decode_encode, Json.nullable_ofText?, hnames, hassign, htime, pure, Except.pure]
  · show (["id", "match", "labelName", "labelNames", "assignTo", "enabled", "createdAt"]
      : List String).Nodup
    decide

theorem AssigneeDocument.decode_encode (doc : AssigneeDocument) :
    AssigneeDocument.decode doc.encode = .ok doc := by
  have htiming := nullable_encode? AssignmentTiming.encode
    (fun _ => Json.noConfusion) AssignmentTiming.decode_encode doc.timing
  have hsafety := nullable_encode? SafetyConfirmation.encode
    (fun _ => Json.noConfusion) SafetyConfirmation.decode_encode doc.safety
  have hcreated := Json.nullable_ofInstant? doc.createdAt
  have hupdated := Json.nullable_ofInstant? doc.updatedAt
  rw [AssigneeDocument.decode, AssigneeDocument.encode, Json.record_object]
  · simp [bind, Except.bind, Json.field, Json.valuesAt, Json.decodeText, Json.decodeBool,
      Json.decodeInt64_toInt, Condition.decode_encode, htiming, hsafety, hcreated, hupdated, pure,
      Except.pure]
  · show (["id", "enabled", "priority", "match", "assigneeEmail", "when", "safety", "createdAt",
      "updatedAt"] : List String).Nodup
    decide

/-! ### Texts of documents -/

theorem Json.isPlain_ofText? (text : Option String) : (Json.ofText? text).isPlain = true := by
  cases text <;> rfl

theorem Json.isPlain_ofTexts (texts : List String) : (Json.ofTexts texts).isPlain = true := by
  rw [Json.ofTexts, Json.isPlain]
  induction texts with
  | nil => rfl
  | cons s rest ih =>
    rw [List.map_cons, Json.arePlain, ih]
    rfl

theorem Json.isPlain_ofInstant? (t? : Option Instant) : (Json.ofInstant? t?).isPlain = true := by
  cases t? <;> rfl

theorem Condition.isPlain_encode (c : Condition) : c.encode.isPlain = true := by
  simp [Condition.encode, Json.isPlain, Json.havePlain, Json.isPlain_ofText?]

theorem isPlain_encode? {α : Type} {encode : α → Json} (h : ∀ a, (encode a).isPlain = true)
    (a? : Option α) : (encode? encode a?).isPlain = true := by
  cases a? with
  | none => rfl
  | some a => exact h a

theorem LabelDocument.isPlain_encode (doc : LabelDocument) : doc.encode.isPlain = true := by
  have hassign : (encode? DocumentAssignment.encode doc.assignTo).isPlain = true :=
    isPlain_encode? (fun a => by cases a <;> rfl) doc.assignTo
  simp [LabelDocument.encode, Json.isPlain, Json.havePlain, Json.isPlain_ofText?,
    Condition.isPlain_encode, isPlain_encode? Json.isPlain_ofTexts, hassign,
    Json.isPlain_ofInstant?]

theorem AssigneeDocument.isPlain_encode (doc : AssigneeDocument) :
    doc.encode.isPlain = true := by
  have htiming : (encode? AssignmentTiming.encode doc.timing).isPlain = true :=
    isPlain_encode? (fun timing => by obtain ⟨_ | _⟩ := timing <;> rfl) doc.timing
  have hsafety : (encode? SafetyConfirmation.encode doc.safety).isPlain = true :=
    isPlain_encode? (fun _ => rfl) doc.safety
  have hpriority : (Json.integer doc.priority.toInt).isPlain = true := by
    have h₁ := doc.priority.le_toInt
    have h₂ := doc.priority.toInt_lt
    rw [Json.isPlain, decide_eq_true_eq]
    omega
  rw [AssigneeDocument.encode, Json.isPlain]
  simp only [Json.havePlain, Condition.isPlain_encode, htiming, hsafety, hpriority,
    Json.isPlain_ofInstant?]
  rfl

/-- **A label document reads back as it was written.** -/
theorem LabelDocument.read_write (doc : LabelDocument) :
    LabelDocument.read doc.write = .ok doc := by
  rw [LabelDocument.read, readDocument, LabelDocument.write,
    Json.readUnder_compact_of_isPlain doc.isPlain_encode]
  simp only
  rw [LabelDocument.decode_encode]

/-- **An assignee document reads back as it was written.** -/
theorem AssigneeDocument.read_write (doc : AssigneeDocument) :
    AssigneeDocument.read doc.write = .ok doc := by
  rw [AssigneeDocument.read, readDocument, AssigneeDocument.write,
    Json.readUnder_compact_of_isPlain doc.isPlain_encode]
  simp only
  rw [AssigneeDocument.decode_encode]

/-! ### Documents switched on or off -/

theorem Json.isProper_ofText? (depth : Nat) (text : Option String) :
    (Json.ofText? text).isProper depth = true := by
  cases text <;> rfl

theorem Json.isProper_ofInstant? (depth : Nat) (t? : Option Instant) :
    (Json.ofInstant? t?).isProper depth = true := by
  cases t? <;> rfl

theorem Json.areProper_map_text (depth : Nat) (texts : List String) :
    Json.areProper depth (texts.map .text) = true := by
  induction texts with
  | nil => rfl
  | cons s rest ih =>
    rw [List.map_cons, Json.areProper, ih]
    rfl

theorem isProper_encode? {α : Type} {encode : α → Json} {depth : Nat}
    (h : ∀ a, (encode a).isProper depth = true) (a? : Option α) :
    (encode? encode a?).isProper depth = true := by
  cases a? with
  | none => rfl
  | some a => exact h a

theorem Condition.isProper_encode (c : Condition) : c.encode.isProper 1 = true := by
  simp [Condition.encode, Json.isProper, Json.haveProper, Json.isProper_ofText?, Json.depthLimit]

theorem LabelDocument.isProper_encode (doc : LabelDocument) : doc.encode.isProper 0 = true := by
  have hnames : (encode? Json.ofTexts doc.labelNames).isProper 1 = true := by
    refine isProper_encode? (fun texts => ?_) doc.labelNames
    simp [Json.ofTexts, Json.isProper, Json.areProper_map_text, Json.depthLimit]
  have hassign : (encode? DocumentAssignment.encode doc.assignTo).isProper 1 = true :=
    isProper_encode? (fun a => by cases a <;> rfl) doc.assignTo
  simp [LabelDocument.encode, Json.isProper, Json.haveProper, Json.isProper_ofText?,
    Condition.isProper_encode, hnames, hassign, Json.isProper_ofInstant?, Json.depthLimit]

theorem AssigneeDocument.isProper_encode (doc : AssigneeDocument) :
    doc.encode.isProper 0 = true := by
  have htiming : (encode? AssignmentTiming.encode doc.timing).isProper 1 = true :=
    isProper_encode? (fun timing => by obtain ⟨_ | _⟩ := timing <;> rfl) doc.timing
  have hsafety : (encode? SafetyConfirmation.encode doc.safety).isProper 1 = true :=
    isProper_encode? (fun _ => rfl) doc.safety
  simp [AssigneeDocument.encode, Json.isProper, Json.haveProper, Condition.isProper_encode,
    htiming, hsafety, Json.isProper_ofInstant?, Json.depthLimit]

theorem LabelDocument.set_enabled_encode (doc : LabelDocument) (enabled : Bool) :
    doc.encode.set "enabled" (.bool enabled) = ({ doc with enabled } : LabelDocument).encode := by
  simp [LabelDocument.encode, Json.set, Json.setMember]

theorem AssigneeDocument.set_enabled_encode (doc : AssigneeDocument) (enabled : Bool) :
    doc.encode.set "enabled" (.bool enabled)
      = ({ doc with enabled } : AssigneeDocument).encode := by
  simp [AssigneeDocument.encode, Json.set, Json.setMember]

end MailTriage
