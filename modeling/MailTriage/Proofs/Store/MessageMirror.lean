import MailTriage.Proofs.Json.Texts
import MailTriage.Proofs.Rule.InForce
import MailTriage.Proofs.Store.Listing
import MailTriage.Proofs.Store.Mailbox

/-! # Messages as a map

The stored messages are a map from ids to the messages stored last, and a sample is the start of the
list of them that has the ones received last first (`Store.mirrors_messages`).  What is read back of
their texts ends at a null character, so the map shows what was stored exactly if no id, sender or
assignee of a live message holds one.

A stored message replaces the row of its id in place (`HeldMessage.store`), so that no two rows share
one; after that only the order of a sample matters, not the one of the rows.
-/
namespace MailTriage

/-! ### What is kept of a message -/

/-- The message as it is stored: with its sender in normal form. -/
def IncomingMessage.stored (incoming : IncomingMessage) : Message :=
  { incoming.message with sender := incoming.sender.bind normalizeEmail }

/-- The message with its texts up to their first null characters. -/
def Message.shortened (message : Message) : Message :=
  { message with
    id := readBack message.id
    sender := message.sender.map readBack
    assignee := message.assignee.map readBack }

/-- The texts of a message are read back as they are: they hold no null character.  In the labels
null characters are escaped. -/
structure Message.KeepsTexts (message : Message) : Prop where
  id : '\x00' ∉ message.id.toList
  sender : ∀ sender ∈ message.sender, '\x00' ∉ sender.toList
  assignee : ∀ assignee ∈ message.assignee, '\x00' ∉ assignee.toList

theorem Message.shortened_eq_self_iff {message : Message} :
    message.shortened = message ↔ message.KeepsTexts := by
  constructor
  · intro h
    exact
      { id := readBack_eq_self_iff.mp (congrArg Message.id h)
        sender := map_readBack_eq_self_iff.mp (congrArg Message.sender h)
        assignee := map_readBack_eq_self_iff.mp (congrArg Message.assignee h) }
  · rintro ⟨hid, hsender, hassignee⟩
    rw [shortened, readBack_eq_self_iff.mpr hid, map_readBack_eq_self_iff.mpr hsender,
      map_readBack_eq_self_iff.mpr hassignee]

/-! ### Rows that replace each other -/

/-- A message in its row, with the time at which it was stored and the one that its id was stored at
first. -/
structure HeldMessage where
  createdAt : String
  storedAt : Instant
  message : IncomingMessage

namespace HeldMessage

/-- The row that holds a message. -/
def row (held : HeldMessage) : MessageRow :=
  { MessageRow.ofIncoming held.storedAt held.message with createdAt := held.createdAt }

/-- The held messages with a message stored: in the place of its id, or in a new one. -/
def store (now : Instant) (message : IncomingMessage) : List HeldMessage → List HeldMessage
  | [] => [{ createdAt := Timestamp.writeMillis now, storedAt := now, message }]
  | old :: rest =>
    if old.message.id = message.id then
      { createdAt := old.createdAt, storedAt := now, message } :: rest
    else old :: store now message rest

variable {now : Instant} {message m : IncomingMessage} {held : List HeldMessage}

theorem storeMessage_map_row (now : Instant) (message : IncomingMessage) (held : List HeldMessage) :
    storeMessage (.ofIncoming now message) (held.map row) = (store now message held).map row := by
  induction held with
  | nil => rfl
  | cons old rest ih =>
    rw [List.map_cons, storeMessage, store]
    have hid : old.row.id = (MessageRow.ofIncoming now message).id
        ↔ old.message.id = message.id := Option.some_inj
    by_cases hold : old.message.id = message.id
    · rw [if_pos (hid.mpr hold), if_pos hold]
      rfl
    · rw [if_neg (fun h => hold (hid.mp h)), if_neg hold, ih]
      rfl

theorem map_id_store (now : Instant) (message : IncomingMessage) (held : List HeldMessage) :
    (store now message held).map (·.message.id)
      = if message.id ∈ held.map (·.message.id) then held.map (·.message.id)
        else held.map (·.message.id) ++ [message.id] := by
  induction held with
  | nil => rfl
  | cons old rest ih =>
    rw [store]
    by_cases hold : old.message.id = message.id
    · rw [if_pos hold, if_pos (by simp [hold]), List.map_cons, List.map_cons, hold]
    · rw [if_neg hold, List.map_cons, List.map_cons, ih]
      by_cases hmem : message.id ∈ rest.map (·.message.id)
      · rw [if_pos hmem, if_pos (List.mem_cons_of_mem _ hmem)]
      · rw [if_neg hmem, if_neg (List.not_mem_cons_of_ne_of_not_mem (Ne.symm hold) hmem),
          List.cons_append]

theorem nodup_store (h : (held.map (·.message.id)).Nodup) :
    ((store now message held).map (·.message.id)).Nodup := by
  rw [map_id_store]
  split
  · exact h
  · next hnew =>
    refine List.nodup_append.mpr ⟨h, List.pairwise_singleton _ _, ?_⟩
    rintro a ha b hb rfl
    exact hnew (List.mem_singleton.mp hb ▸ ha)

/-- After a message is stored, its id holds it and every other id holds what it held. -/
theorem mem_store (h : (held.map (·.message.id)).Nodup) :
    m ∈ (store now message held).map (·.message)
      ↔ if message.id = m.id then message = m else m ∈ held.map (·.message) := by
  induction held with
  | nil =>
    rw [store, List.map_singleton, List.mem_singleton]
    split
    · exact eq_comm
    · next hne => exact iff_of_false (fun heq => hne (heq ▸ rfl)) List.not_mem_nil
  | cons old rest ih =>
    rw [List.map_cons, List.nodup_cons] at h
    have hrest : m.id = old.message.id → m ∉ rest.map (·.message) := by
      intro hid hmem
      obtain ⟨other, hother, rfl⟩ := List.mem_map.mp hmem
      exact h.1 (hid ▸ List.mem_map_of_mem hother)
    rw [store]
    by_cases hold : old.message.id = message.id
    · rw [if_pos hold, List.map_cons, List.mem_cons]
      split
      · next hid =>
        rw [or_iff_left (hrest (hold.trans hid).symm)]
        exact eq_comm
      · next hne =>
        have hnew : m ≠ message := fun heq => hne (congrArg IncomingMessage.id heq).symm
        have hold' : m ≠ old.message := fun heq => hne (hold.symm.trans (heq ▸ rfl))
        rw [or_iff_right hnew, List.map_cons, List.mem_cons, or_iff_right hold']
    · rw [if_neg hold, List.map_cons, List.mem_cons, ih h.2]
      split
      · next hid => exact or_iff_right fun heq => hold (by rw [hid, heq])
      · rw [List.map_cons, List.mem_cons]

end HeldMessage

namespace Tables

/-- The tables hold some messages and no others, each under an id of its own. -/
structure HoldMessages (tables : Tables) (held : List HeldMessage) : Prop where
  rows : tables.messages = some (held.map HeldMessage.row)
  nodup : (held.map (·.message.id)).Nodup

variable {tables next : Tables} {held : List HeldMessage}

/-- **One change stores what it receives** and leaves all other messages. -/
theorem HoldMessages.apply (h : tables.HoldMessages held) {change : MailChange}
    (happly : change.apply tables = .ok next) :
    ∃ held' : List HeldMessage, next.HoldMessages held' ∧ ∀ m, m ∈ held'.map (·.message)
      ↔ ((change.received?.map (·.2)).filter (·.id = m.id)).elim (m ∈ held.map (·.message))
        (· = m) := by
  cases change with
  | record id entry =>
    refine ⟨held, ⟨?_, h.nodup⟩, fun m => Iff.rfl⟩
    rw [messages_appendAudit happly, h.rows]
  | receive now message =>
    obtain ⟨rows, hrows, hnext⟩ := messages_upsertMessage happly
    rw [h.rows, Option.some_inj] at hrows
    refine ⟨HeldMessage.store now message held, ⟨?_, HeldMessage.nodup_store h.nodup⟩,
      fun m => ?_⟩
    · rw [hnext, ← hrows, HeldMessage.storeMessage_map_row]
    · rw [HeldMessage.mem_store h.nodup]
      simp only [MailChange.received?, Option.map_some, Option.filter_some]
      by_cases hid : message.id = m.id
      · rw [if_pos hid, if_pos (by simpa using hid)]
        rfl
      · rw [if_neg hid, if_neg (by simpa using hid)]
        rfl

/-- **The tables hold the messages stored last under their ids.** -/
theorem HoldMessages.after (h : tables.HoldMessages held) (changes : List MailChange) :
    ∃ held' : List HeldMessage, (tables.afterMail changes).HoldMessages held'
      ∧ ∀ m, m ∈ held'.map (·.message)
        ↔ (lastReceived? m.id changes).elim (m ∈ held.map (·.message)) (· = m) := by
  induction changes generalizing tables held with
  | nil => exact ⟨held, h, fun m => Iff.rfl⟩
  | cons change rest ih =>
    rw [afterMail, List.foldl_cons]
    cases happly : change.apply tables with
    | ok next =>
      obtain ⟨held', hheld', hmem'⟩ := h.apply happly
      obtain ⟨last, hlast, hmem⟩ := ih hheld'
      refine ⟨last, hlast, fun m => (hmem m).trans ?_⟩
      rw [lastReceived?]
      cases lastReceived? m.id rest with
      | some later => rfl
      | none => exact hmem' m
    | error why =>
      have hnone := change.received?_of_error happly (by rw [h.rows]; rfl)
      obtain ⟨last, hlast, hmem⟩ := ih h
      refine ⟨last, hlast, fun m => (hmem m).trans ?_⟩
      rw [lastReceived?, hnone]
      cases lastReceived? m.id rest <;> rfl

end Tables

/-! ### The order of a sample -/

theorem MessageRow.sampledBefore_iff {a b : MessageRow} :
    a.sampledBefore b = true
      ↔ ThenBy (fun s t => t ≤ s) MessageRow.receivedAt (fun a b => nullFirst a.id b.id = true)
        a b := by
  rw [sampledBefore, ThenBy]
  split
  · next h => simp [h, lt_iff_le_of_ne (Ne.symm h)]
  · next h => simp [Decidable.not_not.mp h]

theorem MessageRow.sampledBefore_trans (a b c : MessageRow) (h : a.sampledBefore b = true)
    (h' : b.sampledBefore c = true) : a.sampledBefore c = true := by
  rw [sampledBefore_iff] at h h' ⊢
  exact h.trans (fun hxy hyz => String.le_trans hyz hxy)
    (fun hxy hyx => String.le_antisymm hyx hxy) nullFirst_trans h'

theorem MessageRow.sampledBefore_total (a b : MessageRow) :
    (a.sampledBefore b || b.sampledBefore a) = true := by
  rw [Bool.or_eq_true, sampledBefore_iff, sampledBefore_iff]
  exact ThenBy.total (fun s t => String.le_total t s) (nullFirst_total a.id b.id)

/-- A message comes before another in samples: it was received later, as far as the milliseconds go,
or at the same time, and its id is smaller. -/
def IncomingMessage.SampledBefore : IncomingMessage → IncomingMessage → Prop :=
  ThenBy (fun s t : Instant => t ≤ s) (·.receivedAt.truncateToMillis) (fun a b => a.id < b.id)

namespace HeldMessage

variable {a b : HeldMessage} {held : List HeldMessage}

/-- Rows are in the order of their messages. -/
theorem sampledBefore_of_row (ha : a.message.receivedAt.InFourDigitYear)
    (hb : b.message.receivedAt.InFourDigitYear) (hid : a.message.id ≠ b.message.id)
    (h : a.row.sampledBefore b.row = true) : a.message.SampledBefore b.message := by
  obtain ⟨htime, hnull⟩ := MessageRow.sampledBefore_iff.mp h
  refine ⟨(Timestamp.writeMillis_le_writeMillis_iff hb ha).mp htime, fun hsame => ?_⟩
  have hle : a.message.id ≤ b.message.id :=
    of_decide_eq_true (hnull ((Timestamp.writeMillis_inj ha hb).mpr hsame))
  exact (lt_iff_le_of_ne hid).mpr hle

/-- The held messages in the order of samples. -/
def sampleOrder (held : List HeldMessage) : List HeldMessage :=
  held.mergeSort fun a b => a.row.sampledBefore b.row

theorem mem_sampleOrder : a ∈ sampleOrder held ↔ a ∈ held := List.mem_mergeSort

theorem pairwise_sampleOrder (hnodup : (held.map (·.message.id)).Nodup)
    (hyears : ∀ a ∈ held, a.message.receivedAt.InFourDigitYear) :
    ((sampleOrder held).map (·.message)).Pairwise IncomingMessage.SampledBefore := by
  have hids : (sampleOrder held).Pairwise fun a b => a.message.id ≠ b.message.id := by
    have hperm : ((sampleOrder held).map (·.message.id)).Perm (held.map (·.message.id)) :=
      (List.mergeSort_perm _ _).map _
    exact List.pairwise_map.mp (hperm.nodup_iff.mpr hnodup)
  have hsorted : (sampleOrder held).Pairwise fun a b => a.row.sampledBefore b.row = true :=
    List.pairwise_mergeSort (fun a b c => MessageRow.sampledBefore_trans a.row b.row c.row)
      (fun a b => MessageRow.sampledBefore_total a.row b.row) held
  refine List.pairwise_map.mpr ((hids.and hsorted).imp_of_mem fun ha hb h => ?_)
  exact sampledBefore_of_row (hyears _ (mem_sampleOrder.mp ha)) (hyears _ (mem_sampleOrder.mp hb))
    h.1 h.2

theorem mergeSort_map_row (held : List HeldMessage) :
    (held.map row).mergeSort MessageRow.sampledBefore = (sampleOrder held).map row :=
  (List.map_mergeSort (f := row) (s := MessageRow.sampledBefore) fun _ _ _ _ => rfl).symm

/-- A row gives its message, with its texts up to their first null characters. -/
theorem message_row (held : HeldMessage) :
    held.row.message = .ok held.message.stored.shortened := by
  have hlabels : readLabels held.row.labelsJson = .ok held.message.labels := by
    rw [readLabels]
    show (Json.readTexts (readBack (Json.ofTexts held.message.labels).compact)).mapError _ = _
    rw [readBack_compact, Json.readTexts_ofTexts]
    rfl
  unfold MessageRow.message
  rw [hlabels]
  rfl

theorem hasRow_row (audience : Audience) (held : HeldMessage) :
    audience.hasRow held.row = audience.has held.message.stored := by
  cases audience <;> rfl

end HeldMessage

/-! ### Samples -/

namespace Tables

variable {tables : Tables} {held : List HeldMessage}

/-- A sample is the start of the held messages of the audience in the order of samples. -/
theorem HoldMessages.sampleMessages (h : tables.HoldMessages held) (size : Nat)
    (audience : Audience) :
    tables.sampleMessages size audience
      = .ok (((((HeldMessage.sampleOrder held).map (·.message.stored)).filter audience.has).take
          (min size (2 ^ 63 - 1))).map Message.shortened) := by
  have hrows : ((held.map HeldMessage.row).filter audience.hasRow).mergeSort
        MessageRow.sampledBefore
      = ((HeldMessage.sampleOrder held).filter fun a => audience.has a.message.stored).map
        HeldMessage.row := by
    rw [← filter_mergeSort MessageRow.sampledBefore_trans MessageRow.sampledBefore_total,
      HeldMessage.mergeSort_map_row, List.filter_map]
    refine congrArg _ (List.filter_congr fun a _ => ?_)
    exact a.hasRow_row audience
  rw [Tables.sampleMessages, h.rows]
  simp only [Table.rows]
  rw [hrows, limitRows_rowLimit, ← List.map_take, List.mapM_map,
    mapM_eq_ok_map (g := fun a => a.message.stored.shortened) fun a _ => a.message_row,
    List.filter_map, ← List.map_take, List.map_map]
  rfl

/-- A sample is the start of the live messages, as far as a limit can say and texts are read back. -/
def SamplesFrom (tables : Tables) (live : List IncomingMessage) : Prop :=
  ∀ size audience, tables.sampleMessages size audience
    = .ok ((((live.map (·.stored)).filter audience.has).take (min size (2 ^ 63 - 1))).map
        Message.shortened)

/-- The answers about messages are those of a list of live messages in the order of samples. -/
structure Mirrors (tables : Tables) (live : List IncomingMessage) : Prop where
  sample : ∀ size < 2 ^ 64, ∀ audience,
    tables.sampleMessages size audience
      = .ok (((live.map (·.stored)).filter audience.has).take size)
  known : ∀ m ∈ live, tables.senderOf m.id = .ok m.stored.sender
  unknown : ∀ id, (∀ m ∈ live, m.id ≠ id) → tables.senderOf id = .ok none

theorem SamplesFrom.sample_eq {live : List IncomingMessage} (h : tables.SamplesFrom live)
    (htexts : ∀ m ∈ live, m.stored.KeepsTexts) (hlength : live.length < 2 ^ 63) (size : Nat)
    (audience : Audience) :
    tables.sampleMessages size audience
      = .ok (((live.map (·.stored)).filter audience.has).take size) := by
  have hle : ((live.map (·.stored)).filter audience.has).length ≤ 2 ^ 63 - 1 := by
    have hfilter := List.length_filter_le audience.has (live.map (·.stored))
    rw [List.length_map] at hfilter
    omega
  have hsame : ∀ message ∈ ((live.map (·.stored)).filter audience.has).take size,
      message.shortened = id message := by
    intro message hmessage
    have hmem := (List.mem_filter.mp (List.mem_of_mem_take hmessage)).1
    obtain ⟨m, hm, rfl⟩ := List.mem_map.mp hmem
    exact Message.shortened_eq_self_iff.mpr (htexts m hm)
  rw [h size audience, ← List.take_take, List.take_of_length_le hle, List.map_congr_left hsame,
    List.map_id]

/-- A sample of everything shows what is read back of each live message, and how many of them a limit
can count. -/
theorem Mirrors.keeps {live : List IncomingMessage} (h : tables.Mirrors live)
    (hsample : tables.SamplesFrom live) :
    (∀ m ∈ live, m.stored.KeepsTexts) ∧ live.length < 2 ^ 63 := by
  have hall := (hsample (2 ^ 64 - 1) .everyone).symm.trans
    (h.sample (2 ^ 64 - 1) (by decide) .everyone)
  have hall := Except.ok.inj hall
  rw [show (live.map (·.stored)).filter (Audience.has .everyone) = live.map (·.stored) from
    List.filter_eq_self.mpr fun _ _ => rfl] at hall
  have hlength : live.length < 2 ^ 63 := by
    have hcount := congrArg List.length hall
    simp only [List.length_map, List.length_take] at hcount
    omega
  rw [List.take_of_length_le (by rw [List.length_map]; omega),
    List.take_of_length_le (by rw [List.length_map]; omega)] at hall
  refine ⟨fun m hm => Message.shortened_eq_self_iff.mp ?_, hlength⟩
  rw [← List.map_id (live.map (·.stored)), List.map_map] at hall
  exact List.map_inj_left.mp hall m.stored (List.mem_map_of_mem hm)

end Tables

/-- A message that is stored last under an id comes in with one of the changes. -/
theorem received?_of_lastReceived? {id : String} {changes : List MailChange} {m : IncomingMessage}
    (h : lastReceived? id changes = some m) :
    m.id = id ∧ ∃ change ∈ changes, (change.received?.map (·.2)) = some m := by
  induction changes with
  | nil => cases h
  | cons change rest ih =>
    rw [lastReceived?, Option.orElse_eq_orElse, Option.orElse_eq_or, Option.or_eq_some_iff] at h
    rcases h with h | ⟨-, h⟩
    · obtain ⟨hid, later, hlater, hreceived⟩ := ih h
      exact ⟨hid, later, List.mem_cons_of_mem _ hlater, hreceived⟩
    · obtain ⟨hreceived, hid⟩ := Option.filter_eq_some_iff.mp h
      exact ⟨of_decide_eq_true hid, change, List.mem_cons_self, hreceived⟩

theorem Store.holdMessages_fresh : Store.fresh.content.HoldMessages [] := ⟨rfl, List.nodup_nil⟩

/-- The times at which the messages of a history were received lie in years of four digits. -/
def ReceivedInFourDigitYears (changes : List MailChange) : Prop :=
  ∀ change ∈ changes, ∀ m ∈ change.received?.map (·.2), m.receivedAt.InFourDigitYear

section
variable {changes : List MailChange} {live : List IncomingMessage}

theorem Store.senderOf_of_lastReceived? {m : IncomingMessage}
    (h : lastReceived? m.id changes = some m) :
    (Store.fresh.content.afterMail changes).senderOf m.id
      = .ok (m.stored.sender.map readBack) := by
  rw [Tables.senderOf_afterMail rfl, h]
  rfl

/-- An id under which no message is live is unknown. -/
theorem Store.senderOf_of_not_live (hlive : ∀ m, m ∈ live ↔ lastReceived? m.id changes = some m)
    {id : String} (hid : ∀ m ∈ live, m.id ≠ id) :
    (Store.fresh.content.afterMail changes).senderOf id = .ok none := by
  have hnone : lastReceived? id changes = none := by
    refine Option.eq_none_iff_forall_ne_some.mpr fun m hm => ?_
    obtain ⟨rfl, -⟩ := received?_of_lastReceived? hm
    exact hid m ((hlive m).mpr hm) rfl
  rw [Tables.senderOf_afterMail rfl, hnone]
  rfl

/-- The live messages of a history in the order of samples. -/
theorem Store.exists_live (hyears : ReceivedInFourDigitYears changes) :
    ∃ live : List IncomingMessage,
      (∀ m, m ∈ live ↔ lastReceived? m.id changes = some m)
      ∧ live.Pairwise IncomingMessage.SampledBefore
      ∧ (Store.fresh.content.afterMail changes).SamplesFrom live := by
  obtain ⟨held, hheld, hmem⟩ := Store.holdMessages_fresh.after changes
  have hlast : ∀ m, m ∈ held.map (·.message) ↔ lastReceived? m.id changes = some m := by
    intro m
    rw [hmem m]
    cases lastReceived? m.id changes with
    | none => simp
    | some last => simp
  refine ⟨(HeldMessage.sampleOrder held).map (·.message), fun m => ?_, ?_, fun size audience => ?_⟩
  · rw [← hlast m, List.mem_map, List.mem_map]
    exact exists_congr fun a => and_congr_left fun _ => HeldMessage.mem_sampleOrder
  · refine HeldMessage.pairwise_sampleOrder hheld.nodup fun a ha => ?_
    obtain ⟨-, change, hchange, hreceived⟩ :=
      received?_of_lastReceived? ((hlast a.message).mp (List.mem_map_of_mem ha))
    exact hyears change hchange a.message hreceived
  · rw [hheld.sampleMessages size audience, List.map_map]
    rfl

/-- **The stored messages are a map.**  There is a list of the messages stored last under their ids,
in the order of samples, and a sample is its start, with the texts up to their first null characters.
So the answers are those of the map exactly if no live message has a null character in its id, its
sender or its assignee, and there are no more of them than a limit can say. -/
theorem Store.mirrors_messages (changes : List MailChange)
    (hyears : ReceivedInFourDigitYears changes) :
    ∃ live : List IncomingMessage,
      (∀ m, m ∈ live ↔ lastReceived? m.id changes = some m)
      ∧ live.Pairwise IncomingMessage.SampledBefore
      ∧ (Store.fresh.content.afterMail changes).SamplesFrom live
      ∧ ((Store.fresh.content.afterMail changes).Mirrors live
        ↔ (∀ m ∈ live, m.stored.KeepsTexts) ∧ live.length < 2 ^ 63) := by
  obtain ⟨live, hlive, hsorted, hsample⟩ := Store.exists_live hyears
  refine ⟨live, hlive, hsorted, hsample, fun h => h.keeps hsample, fun ⟨htexts, hlength⟩ => ?_⟩
  exact
    { sample := fun size _ audience => hsample.sample_eq htexts hlength size audience
      known := fun m hm => by
        rw [Store.senderOf_of_lastReceived? ((hlive m).mp hm),
          map_readBack_eq_self_iff.mpr (htexts m hm).sender]
      unknown := fun id hid => Store.senderOf_of_not_live hlive hid }

end

/-- A message that is stored again without a sender or an assignee. -/
def clearedMessage (sender assignee : Option String) : IncomingMessage :=
  { id := "m1", sender, labels := ["VIP"], assignee, receivedAt := .epoch }

/-- Storing a message again replaces all of it, and nobody owns it any more. -/
theorem Store.mirrors_messages_cleared :
    (Store.fresh.content.afterMail
        [.receive .epoch (clearedMessage (some "Ann <Ann@desk.io>") (some "bob@desk.io")),
          .receive .epoch (clearedMessage none none)]).sampleMessages 7 .unassigned
      = .ok [{ id := "m1", sender := none, labels := ["VIP"], assignee := none }] := by
  have hyears : ReceivedInFourDigitYears
      [.receive .epoch (clearedMessage (some "Ann <Ann@desk.io>") (some "bob@desk.io")),
        .receive .epoch (clearedMessage none none)] := by
    intro change hchange m hm
    have hepoch : Instant.epoch.InFourDigitYear := by decide
    rcases List.mem_cons.mp hchange with rfl | hchange
    · cases hm
      exact hepoch
    · obtain rfl := List.mem_singleton.mp hchange
      cases hm
      exact hepoch
  obtain ⟨live, hlive, hsorted, -, hmirrors⟩ := Store.mirrors_messages _ hyears
  -- the second message is the only live one
  have honly : ∀ m ∈ live, m = clearedMessage none none := by
    intro m hm
    have hlast := (hlive m).mp hm
    obtain ⟨-, change, hchange, hreceived⟩ := received?_of_lastReceived? hlast
    have hid : m.id = "m1" := by
      rcases List.mem_cons.mp hchange with rfl | hchange
      · cases hreceived
        rfl
      · obtain rfl := List.mem_singleton.mp hchange
        cases hreceived
        rfl
    rw [hid] at hlast
    exact (Option.some_inj.mp hlast).symm
  have hone : live = [clearedMessage none none] := by
    have hmem : clearedMessage none none ∈ live := (hlive _).mpr rfl
    cases live with
    | nil => cases hmem
    | cons first rest =>
      obtain rfl := honly first List.mem_cons_self
      cases rest with
      | nil => rfl
      | cons second rest =>
        obtain rfl := honly second (List.mem_cons_of_mem _ List.mem_cons_self)
        have hbefore := (List.pairwise_cons.mp hsorted).1 _ List.mem_cons_self
        exact absurd (hbefore.2 rfl) (String.lt_irrefl _)
  subst hone
  refine (hmirrors.mpr ⟨fun m hm => ?_, by decide⟩).sample 7 (by decide) .unassigned
  obtain rfl := List.mem_singleton.mp hm
  exact { id := by decide, sender := nofun, assignee := nofun }

/-- **A message is not given back.**  With a null character in its id it is sampled under another
id. -/
theorem Store.not_mirrored_shortened :
    ∃ next, Store.fresh.content.upsertMessage .epoch
        { clearedMessage none none with id := "z\x00end" } = .ok next
      ∧ next.sampleMessages 1 .everyone
        = .ok [{ id := "z", sender := none, labels := ["VIP"], assignee := none }] := by
  obtain ⟨next, happly⟩ : ∃ next, Store.fresh.content.upsertMessage .epoch
      { clearedMessage none none with id := "z\x00end" } = .ok next := ⟨_, rfl⟩
  have hheld : next.HoldMessages [{
      createdAt := Timestamp.writeMillis .epoch
      storedAt := .epoch
      message := { clearedMessage none none with id := "z\x00end" } }] := by
    cases happly
    exact ⟨rfl, List.pairwise_singleton _ _⟩
  refine ⟨next, happly, ?_⟩
  rw [hheld.sampleMessages, HeldMessage.sampleOrder, List.mergeSort_singleton]
  rfl

end MailTriage
