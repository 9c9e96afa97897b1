import MailTriage.Store.Error

/-! # Messages and the audit log

What the analyses ask about the world outside the rules: for a sample of the messages, for the
sender of one message (`Mailbox`), and for what people have done with messages (`AuditLog`).  Each
question may fail.  An analysis takes the answers as a function, so it gives the same result over
every store that answers alike.
-/
namespace MailTriage

/-- A message as far as rules look at it. -/
structure Message where
  id : String
  sender : Option String
  labels : List String
  assignee : Option String
deriving DecidableEq, Repr, Inhabited

/-- Which messages a sample is drawn from. -/
inductive Audience where
  | everyone
  /-- Only messages that nobody owns. -/
  | unassigned
deriving DecidableEq, Repr

/-- Whether a message belongs to an audience. -/
def Audience.has : Audience → Message → Bool
  | .everyone, _ => true
  | .unassigned, message => message.assignee.isNone

/-- What is asked about messages. -/
structure Mailbox where
  /-- Up to so many messages of an audience. -/
  sample : Nat → Audience → Except StoreError (List Message)
  /-- The sender of the message with some id, if it is known. -/
  senderOf : String → Except StoreError (Option String)

/-- One thing that somebody did with a message. -/
structure AuditEntry where
  timestamp : Instant
  actor : String
  action : String
  messageId : String
  label : Option String
  metadata : Option Json

namespace AuditEntry

/-- The action of muting a message. -/
def mute : String := "mute"

/-- The action of giving a message to somebody. -/
def assign : String := "assign"

/-- The action of taking a message over. -/
def takeover : String := "takeover"

/-- The action of putting a label on a message. -/
def labelApply : String := "label_apply"

end AuditEntry

/-- What is asked about the past. -/
structure AuditLog where
  /-- What happened at or after an instant; older entries may be among the answer. -/
  entriesSince : Instant → Except StoreError (List AuditEntry)

/-- The first text that the metadata has under one of some names, in the order of the names. -/
def AuditEntry.metadataText? (entry : AuditEntry) (names : List String) : Option String :=
  match entry.metadata with
  | some (.object members) =>
    names.findSome? fun name =>
      match Json.get? name members with
      | some (.text s) => some s
      | _ => none
  | _ => none

end MailTriage
