import MailTriage.Inspection.Explanation
import MailTriage.Proofs.Inspection.Conflict
import MailTriage.Proofs.Store.MailMining
import MailTriage.Proofs.Store.Mailbox

/-! # Looking senders up

An explanation should say of a message whose sender is looked up what it says when it is told the
sender that the message was stored with.  It takes nothing from a text but the sender that the text
names, so it does if the text found names the same sender as the one told
(`explainsAsTold_iff_of_senderOf`).  A mailbox in memory finds the text itself.  A store finds the
normal form of the address, as far as it is read back: that names the same sender unless it has a
null character (`Message.keepsSender_iff`).
-/
namespace MailTriage

/-! ### Explanations of what is found -/

/-- Looking the sender of a message up, a mailbox leads to the explanation that a text leads to when
it is told as the sender. -/
structure ExplainsAsTold (mailbox : Mailbox) (id text : String) (rules : RuleSet) : Prop where
  fromEmail : (explainMessage mailbox id none rules).fromEmail
    = (explainMessage mailbox id (some text) rules).fromEmail
  labelRules : (explainMessage mailbox id none rules).labelRules
    = (explainMessage mailbox id (some text) rules).labelRules
  assigneeRules : (explainMessage mailbox id none rules).assigneeRules
    = (explainMessage mailbox id (some text) rules).assigneeRules
  outcome : (explainMessage mailbox id none rules).outcome
    = (explainMessage mailbox id (some text) rules).outcome
  /-- A text that is no address may lead to a warning of its own. -/
  warnings : (Sender.parse? text).isSome = true → (explainMessage mailbox id none rules).warnings
    = (explainMessage mailbox id (some text) rules).warnings

/-- The sender that a source names. -/
def SenderSource.sender (source : SenderSource) : Option Sender :=
  source.senderText.bind Sender.parse?

section
variable (mailbox : Mailbox) (id : String) (told : Option String) (rules : RuleSet)

theorem fromEmail_explainMessage : (explainMessage mailbox id told rules).fromEmail
    = (SenderSource.find mailbox id told).sender.map (·.email) := rfl

theorem labelRules_explainMessage : (explainMessage mailbox id told rules).labelRules
    = labelTraces (SenderSource.find mailbox id told).sender false rules.labelRules := rfl

theorem assigneeRules_explainMessage : (explainMessage mailbox id told rules).assigneeRules
    = assigneeTraces (SenderSource.find mailbox id told).sender false
      (evaluationOrder rules.assigneeRules) := rfl

theorem outcome_explainMessage : (explainMessage mailbox id told rules).outcome
    = explainedOutcome (SenderSource.find mailbox id told).sender rules := rfl

theorem warnings_explainMessage : (explainMessage mailbox id told rules).warnings
    = (explain id (SenderSource.find mailbox id told).senderText rules).warnings
      ++ (SenderSource.find mailbox id told).warning.toList := rfl

end

section
variable {mailbox : Mailbox} {id text : String} {rules : RuleSet} {found : Option String}

theorem SenderSource.sender_find_told :
    (SenderSource.find mailbox id (some text)).sender = Sender.parse? text := by
  rw [sender, find, Option.bind_some]

theorem SenderSource.sender_find (h : mailbox.senderOf id = .ok found) :
    (SenderSource.find mailbox id none).sender = found.bind Sender.parse? := by
  rw [sender, find, h]
  cases found <;> rfl

/-- A text that names a sender leaves no warning, told or found. -/
theorem warnings_eq_nil {told : Option String}
    (hsource : SenderSource.find mailbox id told = ⟨some text, none⟩) {s : Sender}
    (hs : Sender.parse? text = some s) : (explainMessage mailbox id told rules).warnings = [] := by
  have hexplain : (explain id (some text) rules).warnings = [] := by
    have hsender : (some text).bind Sender.parse? = some s := (Option.bind_some ..).trans hs
    unfold explain
    rw [hsender]
  rw [warnings_explainMessage, hsource, hexplain]
  rfl

/-- **What is found decides**: the explanations agree if the text found names the sender that the
text told names. -/
theorem explainsAsTold_iff_of_senderOf (h : mailbox.senderOf id = .ok found) :
    ExplainsAsTold mailbox id text rules ↔ found.bind Sender.parse? = Sender.parse? text := by
  have hfound := SenderSource.sender_find h
  constructor
  · intro hagree
    -- the address alone tells the sender, as the domain is read off it
    have hemail := hagree.fromEmail
    rw [fromEmail_explainMessage, fromEmail_explainMessage, hfound,
      SenderSource.sender_find_told] at hemail
    cases hnamed : found.bind Sender.parse? with
    | none =>
      rw [hnamed, Option.map_none] at hemail
      exact (Option.map_eq_none_iff.mp hemail.symm).symm
    | some s =>
      rw [hnamed, Option.map_some] at hemail
      obtain ⟨s', hs', hsame⟩ := Option.map_eq_some_iff.mp hemail.symm
      obtain ⟨text', -, hs⟩ := Option.bind_eq_some_iff.mp hnamed
      rw [hs', Sender.eq_of_email hs hs' hsame.symm]
  · intro hparse
    have hsame : (SenderSource.find mailbox id none).sender
        = (SenderSource.find mailbox id (some text)).sender :=
      hfound.trans (hparse.trans SenderSource.sender_find_told.symm)
    refine ⟨?_, ?_, ?_, ?_, fun haddress => ?_⟩
    · rw [fromEmail_explainMessage, fromEmail_explainMessage, hsame]
    · rw [labelRules_explainMessage, labelRules_explainMessage, hsame]
    · rw [assigneeRules_explainMessage, assigneeRules_explainMessage, hsame]
    · rw [outcome_explainMessage, outcome_explainMessage, hsame]
    · obtain ⟨s, hs⟩ := Option.isSome_iff_exists.mp haddress
      obtain ⟨text', rfl, hs'⟩ := Option.bind_eq_some_iff.mp (hparse.trans hs)
      -- so the text found is an address, too, and neither of them leaves a warning
      have hsource : SenderSource.find mailbox id none = ⟨some text', none⟩ := by
        rw [SenderSource.find, h]
      have htold : SenderSource.find mailbox id (some text) = ⟨some text, none⟩ := by
        rw [SenderSource.find]
      rw [warnings_eq_nil hsource hs', warnings_eq_nil htold hs]

end

/-! ### Mailboxes in memory -/

namespace MemoryMailbox

/-- The mailbox with some messages more, pushed one after another. -/
def pushAll (box : MemoryMailbox) (messages : List Message) : MemoryMailbox :=
  messages.foldl push box

theorem pushAll_eq (box : MemoryMailbox) (messages : List Message) :
    box.pushAll messages = { box with messages := box.messages ++ messages } := by
  induction messages generalizing box with
  | nil =>
    rw [List.append_nil]
    rfl
  | cons message rest ih =>
    rw [pushAll, List.foldl_cons]
    refine (ih (box.push message)).trans ?_
    rw [push, List.append_assoc]
    rfl

/-- The sender that a mailbox in memory knows is that of the first message with the id. -/
theorem senderOf_pushAll {box : MemoryMailbox} {earlier : List Message} {message : Message}
    (hfirst : ∀ other ∈ box.messages ++ earlier, other.id ≠ message.id)
    (htold : message.id ∉ box.untold) (later : List Message) :
    (box.pushAll (earlier ++ message :: later)).senderOf message.id = .ok message.sender := by
  have hnone : (box.messages ++ earlier).find? (fun other => other.id == message.id) = none :=
    List.find?_eq_none.mpr fun other hother => by simpa using hfirst other hother
  rw [pushAll_eq, senderOf, if_neg htold, ← List.append_assoc, List.find?_append, hnone,
    Option.none_or, List.find?_cons_of_pos (by simp), Option.bind_some]

end MemoryMailbox

/-! ### Senders that are kept -/

/-- **A sender is kept** if and only if what is read back of it names the sender. -/
theorem Message.keepsSender_iff {message : Message} :
    message.KeepsSender
      ↔ message.kept.sender.bind Sender.parse? = message.sender.bind Sender.parse? := by
  refine ⟨fun h => h.bind_parse?, fun h email hemail hnull => ?_⟩
  obtain ⟨text, hsender, hnormal⟩ := Option.bind_eq_some_iff.mp hemail
  obtain ⟨hform, domain, hdomain⟩ := normalizeEmail_eq_some hnormal
  have hparse : Sender.parse? text = some ⟨email, domain⟩ :=
    Sender.parse?_eq_some_iff.mpr ⟨hnormal, hdomain⟩
  rw [show message.kept.sender = some (readBack email) by rw [kept, hemail]; rfl, hsender,
    Option.bind_some, Option.bind_some, hparse] at h
  -- then the part before the null character has the whole address for its normal form
  have hwhole : normalizeEmail (readBack email) = some email := (Sender.parse?_eq_some_iff.mp h).1
  rw [normalizeEmail] at hwhole
  split at hwhole
  · have hsmallBack : ∀ c ∈ (readBack email).toList, Text.isSmall c = true := by
      intro c hc
      rw [readBack, String.toList_ofList] at hc
      exact hform.small c ((List.takeWhile_prefix _).mem hc)
    rw [← Option.some_inj.mp hwhole, String.toList_ofList] at hnull
    exact nul_not_mem_readBack email (Address.mem_of_mem_normalizeChars hsmallBack hnull)
  · cases hwhole

/-! ### Stores and mailboxes in memory -/

/-- **Looking the sender up is being told it.**  Over a mailbox in memory an explanation agrees with
the one for the sender of the message that was pushed first under the id.  Over a store it agrees
with the one for the sender of the message that was stored last under the id exactly if the normal
form of that sender is read back, that is, if there is no null character in it. -/
theorem lookup_explainsAsTold_iff (id text : String) (rules : RuleSet) :
    (∀ (box : MemoryMailbox) (earlier : List Message) (message : Message) (later : List Message),
      (∀ other ∈ box.messages ++ earlier, other.id ≠ id) → id ∉ box.untold →
      message.id = id → message.sender = some text →
      ExplainsAsTold (box.pushAll (earlier ++ message :: later)).toMailbox id text rules)
    ∧ ∀ (tables : Tables) (changes : List MailChange) (message : IncomingMessage),
      tables.messages.isSome = true → lastReceived? id changes = some message →
      message.sender = some text →
      (ExplainsAsTold (tables.afterMail changes).toMailbox id text rules
        ↔ message.message.KeepsSender) := by
  constructor
  · rintro box earlier message later hfirst htold rfl hsender
    refine (explainsAsTold_iff_of_senderOf
      (MemoryMailbox.senderOf_pushAll hfirst htold later)).mpr ?_
    rw [hsender, Option.bind_some]
  · intro tables changes message hmessages hlast hsender
    have hfound : (tables.afterMail changes).senderOf id = .ok message.message.kept.sender := by
      rw [Tables.senderOf_afterMail hmessages, hlast]
      rfl
    rw [explainsAsTold_iff_of_senderOf hfound, Message.keepsSender_iff,
      show message.message.sender = some text from hsender, Option.bind_some]

/-- A message from a person with a display name. -/
theorem lookup_explainsAsTold_iff_vendor :
    let message : IncomingMessage :=
      { id := "1", sender := some "Ann <Ann@vendor.io>", labels := [], assignee := none
        receivedAt := .epoch }
    let rules : RuleSet := { labelRules := [vendorLabelRule "1" "VIP"] }
    ExplainsAsTold (MemoryMailbox.pushAll {} [message.message]).toMailbox "1"
        "Ann <Ann@vendor.io>" rules
      ∧ ExplainsAsTold (Store.fresh.content.afterMail [.receive .epoch message]).toMailbox "1"
        "Ann <Ann@vendor.io>" rules := by
  intro message rules
  have hnormal : normalizeEmail "Ann <Ann@vendor.io>" = some "ann@vendor.io" := by decide
  have hkeeps : message.message.KeepsSender := by
    intro email hemail
    obtain rfl : "ann@vendor.io" = email := Option.some_inj.mp (hnormal.symm.trans hemail)
    decide
  obtain ⟨hmemory, hstore⟩ := lookup_explainsAsTold_iff "1" "Ann <Ann@vendor.io>" rules
  exact ⟨hmemory {} [] message.message [] nofun List.not_mem_nil rfl rfl,
    (hstore Store.fresh.content [.receive .epoch message] message rfl rfl rfl).mpr hkeeps⟩

/-- **A shortened sender.**  The store reads an address back up to its null character.  What is left
of this one is no address, so no rule covers it; told the sender, the explanation shows that the
rule for its domain is applied. -/
theorem not_explainsAsTold_shortened :
    let message : IncomingMessage :=
      { id := "1", sender := some "ann\x00x@vendor.io", labels := [], assignee := none
        receivedAt := .epoch }
    let rules : RuleSet := { labelRules := [vendorLabelRule "1" "VIP"] }
    let mailbox := (Store.fresh.content.afterMail [.receive .epoch message]).toMailbox
    (explainMessage mailbox "1" (some "ann\x00x@vendor.io") rules).labelRules.map (·.applied)
        = [true]
      ∧ (explainMessage mailbox "1" none rules).labelRules.map (·.applied) = [false]
      ∧ (explainMessage mailbox "1" none rules).warnings = [.invalidSender "ann"]
      ∧ ¬ ExplainsAsTold mailbox "1" "ann\x00x@vendor.io" rules := by
  intro message rules mailbox
  have htold : (explainMessage mailbox "1" (some "ann\x00x@vendor.io") rules).labelRules.map
      (·.applied) = [true] := by decide
  have hfound : (explainMessage mailbox "1" none rules).labelRules.map (·.applied) = [false] := by
    decide
  refine ⟨htold, hfound, by decide, fun hagree => ?_⟩
  rw [hagree.labelRules, htold] at hfound
  cases hfound

end MailTriage
