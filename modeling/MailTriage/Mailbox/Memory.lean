import MailTriage.Mailbox

/-! # A mailbox and an audit log in memory

Both answer from a list.  They can be told to leave some questions unanswered, and they count the
questions they were asked.
-/
namespace MailTriage

/-- Messages in memory. -/
structure MemoryMailbox where
  messages : List Message := []
  /-- The audiences that no sample is drawn from. -/
  unsampled : List Audience := []
  /-- The messages whose sender is not told. -/
  untold : List String := []
  /-- How many samples were asked for. -/
  sampleCalls : Nat := 0
  /-- How many senders were asked for. -/
  lookupCalls : Nat := 0
deriving Inhabited

namespace MemoryMailbox

/-- The answer to a question for a sample. -/
def sample (box : MemoryMailbox) (size : Nat) (audience : Audience) :
    Except StoreError (List Message) :=
  if audience ∈ box.unsampled then .error (.unavailable .sampling)
  else .ok ((box.messages.filter audience.has).take size)

/-- The answer to a question for a sender: that of the first message with the id. -/
def senderOf (box : MemoryMailbox) (id : String) : Except StoreError (Option String) :=
  if id ∈ box.untold then .error (.unavailable (.lookup id))
  else .ok ((box.messages.find? (·.id == id)).bind (·.sender))

/-- The answers of a mailbox in memory. -/
def toMailbox (box : MemoryMailbox) : Mailbox := { sample := box.sample, senderOf := box.senderOf }

/-- The mailbox with one message more. -/
def push (box : MemoryMailbox) (message : Message) : MemoryMailbox :=
  { box with messages := box.messages ++ [message] }

/-- The mailbox that draws no more samples from an audience. -/
def failSampling (box : MemoryMailbox) (audience : Audience) : MemoryMailbox :=
  { box with unsampled := audience :: box.unsampled }

/-- The mailbox that does not tell the sender of a message any more. -/
def failLookup (box : MemoryMailbox) (id : String) : MemoryMailbox :=
  { box with untold := id :: box.untold }

/-- The mailbox after some questions. -/
def counted (box : MemoryMailbox) (samples lookups : Nat) : MemoryMailbox :=
  { box with
    sampleCalls := box.sampleCalls + samples
    lookupCalls := box.lookupCalls + lookups }

end MemoryMailbox

/-- An audit log in memory. -/
structure MemoryAuditLog where
  entries : List AuditEntry := []
  offline : Bool := false
  /-- How many times it was asked. -/
  listCalls : Nat := 0
deriving Inhabited

namespace MemoryAuditLog

/-- The answer of an audit log in memory: all entries, however old. -/
def entriesSince (log : MemoryAuditLog) (_since : Instant) : Except StoreError (List AuditEntry) :=
  if log.offline then .error (.unavailable .auditLog) else .ok log.entries

/-- The answers of an audit log in memory. -/
def toAuditLog (log : MemoryAuditLog) : AuditLog := { entriesSince := log.entriesSince }

/-- The log with one entry more. -/
def record (log : MemoryAuditLog) (entry : AuditEntry) : MemoryAuditLog :=
  { log with entries := log.entries ++ [entry] }

/-- The log after one more question. -/
def counted (log : MemoryAuditLog) : MemoryAuditLog := { log with listCalls := log.listCalls + 1 }

end MemoryAuditLog
end MailTriage
