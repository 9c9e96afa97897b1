import MailTriage.Proofs.Store.MailHistory

/-! # The mailbox of a store

What the stored messages answer after any history of entries and messages, failed changes among
them.  For the sender of a message the store answers with the message stored last under the id
(`Tables.senderOf_afterMail`): storing a message replaces its row and no other, and an entry of the
audit log leaves all messages as they are (`MailChange.senderOf_apply`).  A sample has never more
messages than were wanted (`Tables.length_le_of_sampleMessages`), as the limit of a query is cut off
at the largest signed number and so is never negative, which would be no limit at all.
-/
namespace MailTriage

/-! ### Senders -/

/-- The message that some changes store last under an id. -/
def lastReceived? (id : String) : List MailChange → Option IncomingMessage
  | [] => none
  | change :: rest =>
    lastReceived? id rest <|> (change.received?.map (·.2)).filter (·.id = id)

theorem find?_storeMessage_self {row : MessageRow} {id : String} (hid : row.id = some id)
    (rows : List MessageRow) :
    ∃ createdAt, (storeMessage row rows).find? (fun old => old.id == some id)
      = some { row with createdAt } := by
  induction rows with
  | nil => exact ⟨row.createdAt, by rw [storeMessage, List.find?_cons_of_pos (by simp [hid])]⟩
  | cons old rest ih =>
    rw [storeMessage]
    by_cases hold : old.id = row.id
    · exact ⟨old.createdAt, by rw [if_pos hold, List.find?_cons_of_pos (by simp [hid])]⟩
    · rw [if_neg hold, List.find?_cons_of_neg (by rw [← hid]; simpa using hold)]
      exact ih

theorem find?_storeMessage_of_ne {row : MessageRow} {id : String} (hid : row.id ≠ some id)
    (rows : List MessageRow) :
    (storeMessage row rows).find? (fun old => old.id == some id)
      = rows.find? fun old => old.id == some id := by
  induction rows with
  | nil => rw [storeMessage, List.find?_cons_of_neg (by simpa using hid)]
  | cons old rest ih =>
    rw [storeMessage]
    by_cases hold : old.id = row.id
    · rw [if_pos hold, List.find?_cons_of_neg (by simpa using hid),
        List.find?_cons_of_neg (by rw [hold]; simpa using hid)]
    · rw [if_neg hold, List.find?_cons, List.find?_cons, ih]

section
variable {tables next : Tables} {id : String}

theorem Tables.senderOf_eq_of_messages {rows : List MessageRow} (h : tables.messages = some rows) :
    tables.senderOf id
      = .ok (((rows.find? fun row => row.id == some id).bind (·.sender)).map readBack) := by
  rw [senderOf, h]
  rfl

/-- Appending an entry keeps all messages. -/
theorem Tables.messages_appendAudit {entry : AuditEntry}
    (h : tables.appendAudit id entry = .ok next) : next.messages = tables.messages := by
  rw [appendAudit] at h
  split at h
  · cases h
  · next hinsert =>
    obtain ⟨rows, -, hrows⟩ := exists_of_bind_eq_ok hinsert
    obtain ⟨rows', -, hrows'⟩ := exists_of_bind_eq_ok hrows
    cases h
    rw [← Except.ok.inj hrows']

theorem Tables.messages_upsertMessage {now : Instant} {message : IncomingMessage}
    (h : tables.upsertMessage now message = .ok next) :
    ∃ rows, tables.messages = some rows
      ∧ next.messages = some (storeMessage (.ofIncoming now message) rows) := by
  rw [upsertMessage] at h
  cases hrows : tables.messages with
  | none =>
    rw [hrows] at h
    cases h
  | some rows =>
    rw [hrows] at h
    cases h
    exact ⟨rows, rfl, rfl⟩

/-- **A change shows only under its id**, where the store answers with the sender as it is kept. -/
theorem MailChange.senderOf_apply {change : MailChange} (h : change.apply tables = .ok next)
    (id : String) :
    next.senderOf id = ((change.received?.map (·.2)).filter (·.id = id)).elim (tables.senderOf id)
      fun message => .ok message.message.kept.sender := by
  cases change with
  | record entryId entry =>
    rw [Tables.senderOf, Tables.messages_appendAudit h]
    rfl
  | receive now message =>
    obtain ⟨rows, hrows, hnext⟩ := Tables.messages_upsertMessage h
    rw [Tables.senderOf_eq_of_messages hnext, Tables.senderOf_eq_of_messages hrows]
    simp only [received?, Option.map_some]
    by_cases hid : message.id = id
    · obtain ⟨createdAt, hfind⟩ := find?_storeMessage_self
        (show (MessageRow.ofIncoming now message).id = some id from congrArg some hid) rows
      rw [hfind, Option.filter_some, if_pos (by simpa using hid)]
      rfl
    · have hne : (MessageRow.ofIncoming now message).id ≠ some id :=
        fun heq => hid (Option.some_inj.mp heq)
      rw [find?_storeMessage_of_ne hne, Option.filter_some, if_neg (by simpa using hid)]
      rfl

theorem MailChange.isSome_messages_apply {change : MailChange} (h : change.apply tables = .ok next)
    (hmessages : tables.messages.isSome = true) : next.messages.isSome = true := by
  cases change with
  | record entryId entry => rwa [Tables.messages_appendAudit h]
  | receive now message =>
    obtain ⟨rows, -, hnext⟩ := Tables.messages_upsertMessage h
    rw [hnext]
    rfl

/-- With a table for messages a change can fail only if it stores none. -/
theorem MailChange.received?_of_error {change : MailChange} {why : StoreError}
    (h : change.apply tables = .error why) (hmessages : tables.messages.isSome = true) :
    change.received? = none := by
  cases change with
  | record entryId entry => rfl
  | receive now message =>
    obtain ⟨rows, hrows⟩ := Option.isSome_iff_exists.mp hmessages
    rw [apply, Tables.upsertMessage, hrows] at h
    cases h

end

/-- **The store knows the sender of the message stored last under an id**, as it is kept; an id
under which none was stored it knows as before. -/
theorem Tables.senderOf_afterMail {tables : Tables} (hmessages : tables.messages.isSome = true)
    (changes : List MailChange) (id : String) :
    (tables.afterMail changes).senderOf id = (lastReceived? id changes).elim (tables.senderOf id)
      fun message => .ok message.message.kept.sender := by
  induction changes generalizing tables with
  | nil => rfl
  | cons change rest ih =>
    rw [afterMail, List.foldl_cons, lastReceived?]
    cases happly : change.apply tables with
    | ok next =>
      refine (ih (change.isSome_messages_apply happly hmessages)).trans ?_
      cases lastReceived? id rest with
      | some message => rfl
      | none => exact change.senderOf_apply happly id
    | error why =>
      refine (ih hmessages).trans ?_
      rw [change.received?_of_error happly hmessages]
      cases lastReceived? id rest <;> rfl

/-! ### Samples -/

/-- The limit of a query for so many rows is never negative, so it lets as many rows through as it can
say. -/
theorem limitRows_rowLimit (size : Nat) (rows : List MessageRow) :
    limitRows (rowLimit size) rows = rows.take (min size (2 ^ 63 - 1)) := by
  have hlimit : ¬ rowLimit size < 0
      ∧ (rowLimit size).toNatClampNeg = min size (2 ^ 63 - 1) := by
    unfold rowLimit
    split
    · next h =>
      rw [Int64.lt_iff_toInt_lt, Int64.toInt_ofNat_of_lt h, Int64.toNatClampNeg_ofNat_of_lt h]
      exact ⟨Int.not_lt.mpr (Int.natCast_nonneg size), by omega⟩
    · next h =>
      refine ⟨by decide, ?_⟩
      rw [Nat.min_eq_right (by omega)]
      decide
  rw [limitRows, if_neg hlimit.1, hlimit.2]

theorem length_limitRows_le (size : Nat) (rows : List MessageRow) :
    (limitRows (rowLimit size) rows).length ≤ size := by
  rw [limitRows_rowLimit, List.length_take]
  exact Nat.le_trans (Nat.min_le_left _ _) (Nat.min_le_left _ _)

theorem length_eq_of_mapM_eq_ok {α β ε : Type} {f : α → Except ε β} {l : List α} {l' : List β}
    (h : l.mapM f = .ok l') : l'.length = l.length := by
  induction l generalizing l' with
  | nil =>
    cases h
    rfl
  | cons a rest ih =>
    rw [List.mapM_cons] at h
    obtain ⟨b, -, h⟩ := exists_of_bind_eq_ok h
    obtain ⟨rest', hrest, h⟩ := exists_of_bind_eq_ok h
    cases h
    rw [List.length_cons, List.length_cons, ih hrest]

/-- A sample of a store has at most as many messages as were wanted. -/
theorem Tables.length_le_of_sampleMessages {tables : Tables} {size : Nat} {audience : Audience}
    {messages : List Message} (h : tables.sampleMessages size audience = .ok messages) :
    messages.length ≤ size := by
  rw [sampleMessages] at h
  split at h
  · cases h
  · rw [length_eq_of_mapM_eq_ok h]
    exact length_limitRows_le size _

end MailTriage
