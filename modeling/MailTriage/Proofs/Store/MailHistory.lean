import Mathlib.Data.List.Basic
import MailTriage.Mailbox.Memory
import MailTriage.Proofs.Json.Data
import MailTriage.Proofs.Rule.Draft
import MailTriage.Proofs.Store.Rows
import MailTriage.Proofs.Time.Order
import MailTriage.Store.Audit
import MailTriage.Store.Messages
import MailTriage.Store.Migration

/-! # The mail in a store

The audit log and the messages of a store after a history of entries and messages.  With an id of
its own for each of them no change fails and none replaces another, so the tables hold one row for
each, in the order of the history (`Tables.HoldMail.after`).  From these rows the store answers: for
the sender of a message in normal form (`Tables.HoldMail.senderOf`), and for the entries since an
instant with all entries whose times are not before it as far as the milliseconds go
(`Tables.HoldMail.exists_entriesSince`), unless the metadata of one of them cannot be read
(`Tables.HoldMail.exists_entriesSince_eq_error`).
-/
namespace MailTriage

/-! ### Histories -/

/-- What changes the mail in a store. -/
inductive MailChange where
  /-- An entry of the audit log is appended under an id. -/
  | record (id : String) (entry : AuditEntry)
  /-- A message is stored now. -/
  | receive (now : Instant) (message : IncomingMessage)

namespace MailChange

/-- The tables after a change. -/
def apply (change : MailChange) (tables : Tables) : Except StoreError Tables :=
  match change with
  | .record id entry => tables.appendAudit id entry
  | .receive now message => tables.upsertMessage now message

/-- The entry that a change records, with its id. -/
def recorded? : MailChange → Option (String × AuditEntry)
  | .record id entry => some (id, entry)
  | .receive .. => none

/-- The message that a change stores, with the time. -/
def received? : MailChange → Option (Instant × IncomingMessage)
  | .record .. => none
  | .receive now message => some (now, message)

end MailChange

/-- The tables after some changes, one after another; a change that fails leaves them as they
are. -/
def Tables.afterMail (tables : Tables) (changes : List MailChange) : Tables :=
  changes.foldl
    (fun tables change =>
      match change.apply tables with
      | .ok next => next
      | .error _ => tables)
    tables

/-- Entries and messages as they come in, each under an id of its own, with the times of the entries
in years of four digits. -/
structure MailHistory where
  changes : List MailChange
  recorded_nodup : ((changes.filterMap (·.recorded?)).map (·.1)).Nodup
  received_nodup : ((changes.filterMap (·.received?)).map (·.2.id)).Nodup
  inFourDigitYear : ∀ record ∈ changes.filterMap (·.recorded?),
    record.2.timestamp.InFourDigitYear

/-! ### The rows of a history -/

namespace Tables

/-- The tables hold some entries and messages, and no others. -/
structure HoldMail (tables : Tables) (recorded : List (String × AuditEntry))
    (received : List (Instant × IncomingMessage)) : Prop where
  auditLog : tables.auditLog = some (recorded.map fun record => .ofEntry record.1 record.2)
  messages : tables.messages = some (received.map fun receipt => .ofIncoming receipt.1 receipt.2)

end Tables

theorem storeMessage_of_new {row : MessageRow} {rows : List MessageRow}
    (h : ∀ old ∈ rows, old.id ≠ row.id) : storeMessage row rows = rows ++ [row] := by
  induction rows with
  | nil => rfl
  | cons old rest ih =>
    rw [storeMessage, if_neg (h old List.mem_cons_self),
      ih fun other hother => h other (List.mem_cons_of_mem old hother)]
    rfl

/-- What comes after some items is not among them. -/
theorem not_mem_of_nodup_map {α β : Type} {f : α → β} {former later : List α} {x : α}
    (h : ((former ++ [x] ++ later).map f).Nodup) : f x ∉ former.map f := by
  intro hmem
  rw [List.map_append, List.map_append] at h
  have hformer := (List.nodup_append.mp (List.nodup_append.mp h).1).2.2
  exact hformer _ hmem _ (List.mem_singleton_self _) rfl

namespace Tables.HoldMail

variable {tables : Tables} {recorded : List (String × AuditEntry)}
  {received : List (Instant × IncomingMessage)}

theorem record (h : tables.HoldMail recorded received) {id : String} (hid : id ∉ recorded.map (·.1))
    (entry : AuditEntry) :
    ∃ next, (MailChange.record id entry).apply tables = .ok next
      ∧ next.HoldMail (recorded ++ [(id, entry)]) received := by
  have hnew : ∀ old ∈ recorded.map (fun record => AuditRow.ofEntry record.1 record.2),
      old.id ≠ (AuditRow.ofEntry id entry).id := by
    intro old hold hsame
    obtain ⟨record, hrecord, rfl⟩ := List.mem_map.mp hold
    have hsame : record.1 = id := Option.some_inj.mp hsame
    exact hid (hsame ▸ List.mem_map_of_mem hrecord)
  have hinsert : insertRow .auditLog (·.id) (AuditRow.ofEntry id entry)
      (recorded.map fun record => .ofEntry record.1 record.2)
      = .ok (recorded.map (fun record => .ofEntry record.1 record.2) ++ [.ofEntry id entry]) :=
    insertRow_of_new hnew
  refine ⟨{ tables with
    auditLog := some (recorded.map (fun record => .ofEntry record.1 record.2)
      ++ [.ofEntry id entry]) }, ?_, ?_⟩
  · rw [MailChange.apply, appendAudit, insertAuditRow, h.auditLog]
    simp only [Table.rows, bind, Except.bind, hinsert]
    rfl
  · exact ⟨by rw [List.map_append]; rfl, h.messages⟩

theorem receive (h : tables.HoldMail recorded received) (now : Instant) {message : IncomingMessage}
    (hid : message.id ∉ received.map (·.2.id)) :
    ∃ next, (MailChange.receive now message).apply tables = .ok next
      ∧ next.HoldMail recorded (received ++ [(now, message)]) := by
  have hnew : ∀ old ∈ received.map (fun receipt => MessageRow.ofIncoming receipt.1 receipt.2),
      old.id ≠ (MessageRow.ofIncoming now message).id := by
    intro old hold hsame
    obtain ⟨receipt, hreceipt, rfl⟩ := List.mem_map.mp hold
    have hsame : receipt.2.id = message.id := Option.some_inj.mp hsame
    exact hid (hsame ▸ List.mem_map_of_mem hreceipt)
  refine ⟨{ tables with
    messages := some (received.map (fun receipt => .ofIncoming receipt.1 receipt.2)
      ++ [.ofIncoming now message]) }, ?_, ?_⟩
  · rw [MailChange.apply, upsertMessage, h.messages]
    simp only [Table.rows, storeMessage_of_new hnew]
  · exact ⟨h.auditLog, by rw [List.map_append]; rfl⟩

/-- **The tables hold what a history tells.** -/
theorem after (h : tables.HoldMail recorded received) {changes : List MailChange}
    (hrecorded : ((recorded ++ changes.filterMap (·.recorded?)).map (·.1)).Nodup)
    (hreceived : ((received ++ changes.filterMap (·.received?)).map (·.2.id)).Nodup) :
    (tables.afterMail changes).HoldMail (recorded ++ changes.filterMap (·.recorded?))
      (received ++ changes.filterMap (·.received?)) := by
  induction changes generalizing tables recorded received with
  | nil =>
    rw [List.filterMap_nil, List.filterMap_nil, List.append_nil, List.append_nil]
    exact h
  | cons change rest ih =>
    rw [afterMail, List.foldl_cons]
    cases change with
    | record id entry =>
      have hsplit : recorded ++ (MailChange.record id entry :: rest).filterMap (·.recorded?)
          = (recorded ++ [(id, entry)]) ++ rest.filterMap (·.recorded?) := by
        rw [List.append_assoc]
        rfl
      rw [hsplit] at hrecorded ⊢
      obtain ⟨next, hnext, hhold⟩ := h.record (not_mem_of_nodup_map hrecorded) entry
      rw [hnext]
      exact ih hhold hrecorded hreceived
    | receive now message =>
      have hsplit : received ++ (MailChange.receive now message :: rest).filterMap (·.received?)
          = (received ++ [(now, message)]) ++ rest.filterMap (·.received?) := by
        rw [List.append_assoc]
        rfl
      rw [hsplit] at hreceived ⊢
      obtain ⟨next, hnext, hhold⟩ := h.receive now (not_mem_of_nodup_map hreceived)
      rw [hnext]
      exact ih hhold hrecorded hreceived

end Tables.HoldMail

/-! ### Senders -/

/-- The message as a mailbox in memory keeps it. -/
def IncomingMessage.message (incoming : IncomingMessage) : Message :=
  { id := incoming.id, sender := incoming.sender, labels := incoming.labels
    assignee := incoming.assignee }

/-- The message with its sender as it is read back: in normal form, and up to its first null
character. -/
def Message.kept (message : Message) : Message :=
  { message with sender := (message.sender.bind normalizeEmail).map readBack }

/-- The store knows the senders that a mailbox in memory knows of the kept messages. -/
theorem Tables.HoldMail.senderOf {tables : Tables} {recorded : List (String × AuditEntry)}
    {received : List (Instant × IncomingMessage)} (h : tables.HoldMail recorded received) :
    tables.toMailbox.senderOf = (MemoryMailbox.toMailbox
      { messages := received.map fun receipt => receipt.2.message.kept }).senderOf := by
  funext id
  show Tables.senderOf tables id = MemoryMailbox.senderOf
    { messages := received.map fun receipt => receipt.2.message.kept } id
  rw [Tables.senderOf, MemoryMailbox.senderOf, h.messages, if_neg List.not_mem_nil]
  simp only [Table.rows, List.find?_map, Function.comp_def, MessageRow.ofIncoming, Message.kept,
    IncomingMessage.message, Option.some_beq_some]
  cases received.find? fun receipt => receipt.2.id == id <;> rfl

/-! ### Entries -/

/-- The metadata of an entry as they are read back. -/
def AuditEntry.metadataBack (entry : AuditEntry) : Except StoreError (Option Json) :=
  readMetadata (entry.metadata.map Json.compact)

/-- The metadata of an entry can be read back. -/
def AuditEntry.IsReadable (entry : AuditEntry) : Prop :=
  ∃ metadata, entry.metadataBack = .ok metadata

/-- The entry as it is read back: its time cut off after the milliseconds, its texts at their first
null characters. -/
def AuditEntry.kept (entry : AuditEntry) : AuditEntry where
  timestamp := entry.timestamp.truncateToMillis
  actor := readBack entry.actor
  action := readBack entry.action
  messageId := readBack entry.messageId
  label := entry.label.map readBack
  metadata := entry.metadataBack.toOption.join

/-- The texts of an entry are read back as they are: they hold no null character.  In the metadata
null characters are escaped. -/
structure AuditEntry.KeepsTexts (entry : AuditEntry) : Prop where
  actor : '\x00' ∉ entry.actor.toList
  action : '\x00' ∉ entry.action.toList
  messageId : '\x00' ∉ entry.messageId.toList
  label : ∀ label ∈ entry.label, '\x00' ∉ label.toList

theorem AuditRow.createdAt_ofEntry (id : String) (entry : AuditEntry) :
    (ofEntry id entry).createdAt = Timestamp.writeMillis entry.timestamp := rfl

/-- The row of an entry gives the entry as far as it is kept, if its metadata can be read. -/
theorem AuditRow.entry_ofEntry (id : String) {entry : AuditEntry}
    (h : entry.timestamp.InFourDigitYear) :
    (AuditRow.ofEntry id entry).entry = entry.metadataBack.map fun _ => entry.kept := by
  rw [AuditRow.entry, AuditEntry.kept]
  simp only [ofEntry, readBack_writeMillis, Timestamp.read_writeMillis h]
  rw [show readMetadata (entry.metadata.map Json.compact) = entry.metadataBack from rfl]
  cases entry.metadataBack <;> rfl

/-- What fails to be read back is a JSON text. -/
theorem AuditEntry.isReadable_or (entry : AuditEntry) :
    entry.IsReadable ∨ ∃ why, entry.metadataBack = .error (.json why) := by
  rw [IsReadable, metadataBack]
  cases entry.metadata with
  | none => exact .inl ⟨none, rfl⟩
  | some json =>
    rw [Option.map_some, readMetadata]
    cases Json.readData .quick (readBack json.compact) with
    | error why => exact .inr ⟨why, rfl⟩
    | ok back => exact .inl ⟨some back, rfl⟩

/-- Metadata that are read back are data with the same wording. -/
theorem AuditEntry.metadataBack_eq_ok {entry : AuditEntry} {metadata : Option Json}
    (h : entry.metadataBack = .ok metadata) :
    ∃ forms : Option Json, forms.map Json.wording = entry.metadata.map Json.wording
      ∧ metadata = forms.map (Json.settledBy .quick) := by
  rw [metadataBack] at h
  cases hmetadata : entry.metadata with
  | none =>
    rw [hmetadata] at h
    cases h
    exact ⟨none, rfl, rfl⟩
  | some json =>
    rw [hmetadata, Option.map_some, readMetadata, readBack_compact] at h
    cases hread : Json.readData .quick json.compact with
    | error why =>
      simp only [hread] at h
      cases h
    | ok back =>
      simp only [hread] at h
      cases h
      obtain ⟨form, hwording, rfl⟩ := Json.exists_wording_of_readData hread
      exact ⟨some form, congrArg some hwording, rfl⟩

/-- Metadata that are data and are not nested too deeply are read again. -/
theorem AuditEntry.metadataBack_of_isData {entry : AuditEntry}
    (h : ∀ json ∈ entry.metadata, json.isData = true ∧ json.isProper 0 = true) :
    entry.metadataBack = .ok (entry.metadata.map (Json.reread .quick)) := by
  rw [metadataBack]
  cases hmetadata : entry.metadata with
  | none => rfl
  | some json =>
    obtain ⟨hdata, hproper⟩ := h json hmetadata
    rw [Option.map_some, readMetadata, readBack_compact,
      Json.readData_compact_of_isData hdata hproper]
    rfl

/-- The time of the entry is not before an instant, as far as the milliseconds go. -/
def AuditEntry.IsListed (since : Instant) (entry : AuditEntry) : Prop :=
  since.truncateToMillis ≤ entry.timestamp.truncateToMillis

instance (since : Instant) (entry : AuditEntry) : Decidable (entry.IsListed since) :=
  inferInstanceAs (Decidable (_ ≤ _))

section
variable {α β ε : Type} {f : α → Except ε β} {l : List α}

theorem mapM_eq_ok_filterMap (h : ∀ a ∈ l, ∃ b, f a = .ok b) :
    l.mapM f = .ok (l.filterMap fun a => (f a).toOption) := by
  induction l with
  | nil => rfl
  | cons a rest ih =>
    obtain ⟨b, hb⟩ := h a List.mem_cons_self
    rw [List.mapM_cons, hb, ih fun a ha => h a (List.mem_cons_of_mem _ ha),
      List.filterMap_cons_some (b := b) (by rw [hb]; rfl)]
    rfl

theorem mapM_eq_ok_map {g : α → β} (h : ∀ a ∈ l, f a = .ok (g a)) : l.mapM f = .ok (l.map g) := by
  rw [mapM_eq_ok_filterMap fun a ha => ⟨g a, h a ha⟩, ← List.filterMap_eq_map]
  refine congrArg _ (List.filterMap_congr fun a ha => ?_)
  rw [h a ha]
  rfl

theorem exists_mapM_eq_error (h : ∃ a ∈ l, ∃ why, f a = .error why) :
    ∃ a ∈ l, ∃ why, f a = .error why ∧ l.mapM f = .error why := by
  induction l with
  | nil => exact absurd h (by simp)
  | cons a rest ih =>
    cases hfirst : f a with
    | error why =>
      refine ⟨a, List.mem_cons_self, why, hfirst, ?_⟩
      rw [List.mapM_cons, hfirst]
      rfl
    | ok b =>
      obtain ⟨c, hc, why, hwhy⟩ := h
      have hlater : c ∈ rest := (List.mem_cons.mp hc).resolve_left fun heq => by
        rw [heq, hfirst] at hwhy
        cases hwhy
      obtain ⟨d, hd, why, hwhy, hrest⟩ := ih ⟨c, hlater, why, hwhy⟩
      refine ⟨d, List.mem_cons_of_mem _ hd, why, hwhy, ?_⟩
      rw [List.mapM_cons, hfirst, hrest]
      rfl

end

/-- The recorded entries that a listing since an instant has, in its order: both go by the texts of
the rows. -/
def listedSince (since : Instant) (recorded : List (String × AuditEntry)) :
    List (String × AuditEntry) :=
  (recorded.filter fun record =>
      Timestamp.writeMillis since ≤ Timestamp.writeMillis record.2.timestamp).mergeSort
    fun a b => (AuditRow.ofEntry a.1 a.2).listedBefore (.ofEntry b.1 b.2)

section
variable {since now : Instant} {recorded : List (String × AuditEntry)}

theorem listedSince_perm (since : Instant) (recorded : List (String × AuditEntry)) :
    (listedSince since recorded).Perm (recorded.filter fun record =>
      Timestamp.writeMillis since ≤ Timestamp.writeMillis record.2.timestamp) :=
  List.mergeSort_perm _ _

theorem mem_listedSince {record : String × AuditEntry} :
    record ∈ listedSince since recorded ↔ record ∈ recorded
      ∧ Timestamp.writeMillis since ≤ Timestamp.writeMillis record.2.timestamp := by
  rw [(listedSince_perm since recorded).mem_iff, List.mem_filter, decide_eq_true_eq]

/-- Since an instant that is not after the years of four digits, the texts say what the times do. -/
theorem listedSince_perm_of_le (hyears : ∀ record ∈ recorded, record.2.timestamp.InFourDigitYear)
    (hsince : since ≤ now) (hnow : now.InFourDigitYear) :
    (listedSince since recorded).Perm (recorded.filter fun record => record.2.IsListed since) := by
  refine (listedSince_perm since recorded).trans (List.Perm.of_eq (List.filter_congr ?_))
  intro record hrecord
  rw [decide_eq_decide, AuditEntry.IsListed,
    Timestamp.writeMillis_le_iff_of_le hsince hnow (hyears record hrecord)]

end

namespace Tables

variable {tables : Tables} {row : AuditRow} {since : Instant}

/-- The rows that a listing goes through, in the order of the table. -/
def rowsSince (tables : Tables) (since : Instant) : List AuditRow :=
  (tables.auditLog.getD []).filter fun row => Timestamp.writeMillis since ≤ row.createdAt

theorem mem_rowsSince :
    row ∈ tables.rowsSince since
      ↔ row ∈ tables.auditLog.getD [] ∧ Timestamp.writeMillis since ≤ row.createdAt := by
  rw [rowsSince, List.mem_filter, decide_eq_true_eq]

theorem entriesSince_eq_mapM {rows : List AuditRow} (h : tables.auditLog = some rows)
    (since : Instant) :
    tables.entriesSince since
      = ((tables.rowsSince since).mergeSort AuditRow.listedBefore).mapM AuditRow.entry := by
  rw [entriesSince, rowsSince, h]
  rfl

end Tables

namespace Tables.HoldMail

variable {tables : Tables} {recorded : List (String × AuditEntry)}
  {received : List (Instant × IncomingMessage)} {since now : Instant}

/-- With a history in the tables these are the rows of the entries since an instant. -/
theorem entriesSince_eq_mapM (h : tables.HoldMail recorded received) (since : Instant) :
    tables.entriesSince since = (listedSince since recorded).mapM fun record =>
      (AuditRow.ofEntry record.1 record.2).entry := by
  have hsame : ((fun row => decide (Timestamp.writeMillis since ≤ row.createdAt))
        ∘ fun record : String × AuditEntry => AuditRow.ofEntry record.1 record.2)
      = fun record => decide (Timestamp.writeMillis since
          ≤ Timestamp.writeMillis record.2.timestamp) := by
    funext record
    rw [Function.comp, decide_eq_decide, AuditRow.createdAt_ofEntry]
  have hrows : ((recorded.map fun record => AuditRow.ofEntry record.1 record.2).filter fun row =>
        Timestamp.writeMillis since ≤ row.createdAt).mergeSort AuditRow.listedBefore
      = (listedSince since recorded).map fun record => AuditRow.ofEntry record.1 record.2 := by
    rw [listedSince, List.map_mergeSort (s := AuditRow.listedBefore) fun _ _ _ _ => rfl,
      List.filter_map, hsame]
  rw [Tables.entriesSince_eq_mapM h.auditLog, rowsSince, h.auditLog, Option.getD_some, hrows,
    List.mapM_map, Function.comp_def]

/-- A listing has its entries as they are kept, if all of them can be read. -/
theorem entriesSince_eq_ok (h : tables.HoldMail recorded received)
    (hyears : ∀ record ∈ recorded, record.2.timestamp.InFourDigitYear)
    (hreadable : ∀ record ∈ listedSince since recorded, record.2.IsReadable) :
    tables.entriesSince since
      = .ok ((listedSince since recorded).map fun record => record.2.kept) := by
  rw [h.entriesSince_eq_mapM, mapM_eq_ok_map fun record hrecord => ?_]
  obtain ⟨metadata, hmetadata⟩ := hreadable record hrecord
  rw [AuditRow.entry_ofEntry record.1 (hyears record (mem_listedSince.mp hrecord).1), hmetadata]
  rfl

/-- One entry of a listing that cannot be read makes it fail. -/
theorem entriesSince_eq_error (h : tables.HoldMail recorded received)
    (hyears : ∀ record ∈ recorded, record.2.timestamp.InFourDigitYear)
    (hunreadable : ∃ record ∈ listedSince since recorded, ¬ record.2.IsReadable) :
    ∃ why, tables.entriesSince since = .error (.json why) := by
  have hentry : ∀ record ∈ listedSince since recorded,
      (AuditRow.ofEntry record.1 record.2).entry
        = record.2.metadataBack.map fun _ => record.2.kept := fun record hrecord =>
    AuditRow.entry_ofEntry record.1 (hyears record (mem_listedSince.mp hrecord).1)
  obtain ⟨record, hrecord, hunreadable⟩ := hunreadable
  obtain ⟨what, hwhat⟩ := record.2.isReadable_or.resolve_left hunreadable
  have hfails : (AuditRow.ofEntry record.1 record.2).entry = .error (.json what) := by
    rw [hentry record hrecord, hwhat]
    rfl
  -- the listing may stop at another entry, which fails for the same reason
  obtain ⟨other, hother, why, hwhy, hmapM⟩ :=
    exists_mapM_eq_error (f := fun record : String × AuditEntry =>
      (AuditRow.ofEntry record.1 record.2).entry) ⟨record, hrecord, _, hfails⟩
  rw [hentry other hother] at hwhy
  rcases other.2.isReadable_or with ⟨metadata, hback⟩ | ⟨what, hback⟩
  · rw [hback] at hwhy
    cases hwhy
  · rw [hback] at hwhy
    cases hwhy
    exact ⟨what, (h.entriesSince_eq_mapM since).trans hmapM⟩

/-- **A listing has every entry since an instant as it is kept**, if all of them can be read. -/
theorem exists_entriesSince (h : tables.HoldMail recorded received)
    (hyears : ∀ record ∈ recorded, record.2.timestamp.InFourDigitYear) (hsince : since ≤ now)
    (hnow : now.InFourDigitYear)
    (hreadable : ∀ record ∈ recorded, record.2.IsListed since → record.2.IsReadable) :
    ∃ listed, tables.entriesSince since = .ok listed
      ∧ listed.Perm ((recorded.filter fun record => record.2.IsListed since).map
        fun record => record.2.kept) := by
  have hperm := listedSince_perm_of_le hyears hsince hnow
  refine ⟨_, h.entriesSince_eq_ok hyears fun record hrecord => ?_, hperm.map _⟩
  obtain ⟨hmem, hlisted⟩ := List.mem_filter.mp (hperm.mem_iff.mp hrecord)
  exact hreadable record hmem (of_decide_eq_true hlisted)

/-- **One entry that cannot be read makes the listing fail.** -/
theorem exists_entriesSince_eq_error (h : tables.HoldMail recorded received)
    (hyears : ∀ record ∈ recorded, record.2.timestamp.InFourDigitYear) (hsince : since ≤ now)
    (hnow : now.InFourDigitYear)
    (hunreadable : ¬ ∀ record ∈ recorded, record.2.IsListed since → record.2.IsReadable) :
    ∃ why, tables.entriesSince since = .error (.json why) := by
  simp only [Classical.not_forall] at hunreadable
  obtain ⟨record, hrecord, hlisted, hunreadable⟩ := hunreadable
  refine h.entriesSince_eq_error hyears ⟨record, ?_, hunreadable⟩
  exact (listedSince_perm_of_le hyears hsince hnow).mem_iff.mpr
    (List.mem_filter.mpr ⟨hrecord, decide_eq_true hlisted⟩)

end Tables.HoldMail

theorem Store.holdMail_fresh : Store.fresh.content.HoldMail [] [] := ⟨rfl, rfl⟩

namespace MailHistory

/-- The entries of a history with their ids. -/
def recorded (history : MailHistory) : List (String × AuditEntry) :=
  history.changes.filterMap (·.recorded?)

/-- The messages of a history with the times they were stored at. -/
def received (history : MailHistory) : List (Instant × IncomingMessage) :=
  history.changes.filterMap (·.received?)

/-- The tables of a new store after a history. -/
def tables (history : MailHistory) : Tables := Store.fresh.content.afterMail history.changes

theorem holdMail (history : MailHistory) :
    history.tables.HoldMail history.recorded history.received :=
  Store.holdMail_fresh.after history.recorded_nodup history.received_nodup

end MailHistory

end MailTriage
