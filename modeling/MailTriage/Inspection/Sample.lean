import MailTriage.Mailbox
import MailTriage.Rule

/-! # Samples

An inspection looks at two samples of the mailbox: label rules are tried on all messages, assignee
rules on those that nobody owns.  A sample that could not be drawn leaves its own findings out and
nothing else.
-/
namespace MailTriage

/-- A sample: how many messages were drawn, and the senders among them that are addresses. -/
structure SampleDraw where
  size : Nat
  senders : List Sender
deriving DecidableEq, Repr

namespace SampleDraw

/-- The sample of some messages. -/
def ofMessages (messages : List Message) : SampleDraw where
  size := messages.length
  senders := messages.filterMap fun message => message.sender.bind Sender.parse?

/-- How many of the senders a condition covers. -/
def hits (draw : SampleDraw) (c : Condition) : Nat := draw.senders.countP c.covers

end SampleDraw

/-- The two samples of an inspection. -/
structure Samples where
  everyone : Except StoreError SampleDraw
  unassigned : Except StoreError SampleDraw

namespace Samples

/-- Draws both samples. -/
def draw (mailbox : Mailbox) (size : Nat) : Samples where
  everyone := (mailbox.sample size .everyone).map .ofMessages
  unassigned := (mailbox.sample size .unassigned).map .ofMessages

/-- The sample that label rules are tried on. -/
def forLabels (s : Samples) : Option SampleDraw := s.everyone.toOption

/-- The sample that assignee rules are tried on. -/
def forAssignees (s : Samples) : Option SampleDraw := s.unassigned.toOption

end Samples

/-- How many messages each sample had; nothing for a sample that could not be drawn. -/
structure SampleCoverage where
  labelSampleSize : Option Nat
  assigneeSampleSize : Option Nat
deriving DecidableEq, Repr

/-- How many messages the samples had. -/
def Samples.coverage (s : Samples) : SampleCoverage where
  labelSampleSize := s.forLabels.map (·.size)
  assigneeSampleSize := s.forAssignees.map (·.size)

/-- The two families of rules. -/
inductive RuleKind where
  | label
  | assignee
deriving DecidableEq, Repr

end MailTriage
