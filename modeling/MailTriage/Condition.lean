import MailTriage.Address

/-! # Conditions on the sender

A condition names an address, a domain, both or neither, as somebody wrote them.  It is brought to
normal form before it is compared, so `@Vendor.io` covers the same senders as `vendor.io`.  An
address that fits takes precedence over a domain that fits.
-/
namespace MailTriage

/-- What a rule demands of the sender. -/
structure Condition where
  email : Option String := none
  domain : Option String := none
deriving DecidableEq, Repr, Inhabited

/-- Through which field a condition covers a sender. -/
inductive MatchReason where
  | email
  | domain
deriving DecidableEq, Repr

namespace Condition

/-- Whether the condition names nothing. -/
def isEmpty (c : Condition) : Bool := c.email.isNone && c.domain.isNone

/-- The text unless it is empty. -/
def nonempty? (s : String) : Option String := if s = "" then none else some s

/-- The condition in normal form: a trimmed address in small letters and a domain in its normal
form, each dropped when nothing is left of it. -/
def normalized (c : Condition) : Condition where
  email := c.email.bind fun email => nonempty? (Text.lower (Text.trim email))
  domain := c.domain.bind fun domain => nonempty? (normalizeDomain domain)

/-- The condition in words, as it was written. -/
def describe (c : Condition) : String :=
  match c.email, c.domain with
  | some email, some domain => "fromEmail=" ++ email ++ " | fromDomain=" ++ domain
  | some email, none => "fromEmail=" ++ email
  | none, some domain => "fromDomain=" ++ domain
  | none, none => "(no condition)"

/-- Why the condition covers a sender, if it does. -/
def reason? (c : Condition) (sender : Sender) : Option MatchReason :=
  if c.normalized.email = some sender.email then some .email
  else if c.normalized.domain = some sender.domain then some .domain
  else none

/-- Whether the condition covers a sender. -/
def covers (c : Condition) (sender : Sender) : Bool := (c.reason? sender).isSome

end Condition
end MailTriage
