import MailTriage.Text.Lower
import MailTriage.Text.Split

/-! # Sender addresses and domains

A mail header names its sender as `user@domain` or as `Name <user@domain>`.  `normalizeEmail` brings
both to one form, trimmed and in small letters, and refuses a text without a domain; `Sender.parse?`
gives the address together with its domain.  Every comparison of senders is made on that form.

A domain may be written with a leading `@` or `.`, in any letter case; `normalizeDomain` gives the
form that is compared.  A domain is *broad* when a rule on it would catch mail from people who have
nothing to do with each other: it belongs to a public mail provider, or it is a single label right
under one of the open suffixes, where one name usually covers a whole company and its partners.
-/
namespace MailTriage

/-! ### Addresses -/

namespace Address

/-- The characters between the last `<` and the last `>`, when they stand in that order; otherwise
all of them. -/
def unwrapChars (cs : List Char) : List Char :=
  match Text.cutLast '>' cs with
  | none => cs
  | some (before, after) =>
    if '<' ∈ after then cs
    else match Text.cutLast '<' before with
      | none => cs
      | some (_, inside) => inside

/-- What follows the last `@`, unless that is nothing. -/
def domainChars? (cs : List Char) : Option (List Char) :=
  match Text.cutLast '@' cs with
  | none | some (_, []) => none
  | some (_, domain) => some domain

/-- Trimmed, freed of a display name, trimmed again and in small letters. -/
def normalizeChars (cs : List Char) : List Char :=
  Text.lowerChars (Text.trimChars (unwrapChars (Text.trimChars cs)))

end Address

/-- The domain of an address: what follows its last `@`, unless that is nothing. -/
def extractDomain (email : String) : Option String :=
  (Address.domainChars? email.toList).map String.ofList

/-- The normal form of an address, `none` for a text that has no domain. -/
def normalizeEmail (text : String) : Option String :=
  let email := String.ofList (Address.normalizeChars text.toList)
  if (extractDomain email).isSome then some email else none

/-- A sender address in normal form together with its domain. -/
structure Sender where
  email : String
  domain : String
deriving DecidableEq, Repr

/-- Reads a sender off a header text; `none` when the text is not an address. -/
def Sender.parse? (text : String) : Option Sender := do
  let email ← normalizeEmail text
  let domain ← extractDomain email
  return { email, domain }

/-! ### Domains -/

/-- The normal form of a domain: trimmed, in small letters, without one leading `@` and then one
leading `.`. -/
def normalizeDomain (text : String) : String :=
  String.ofList
    (Text.stripStart '.' (Text.stripStart '@' (Text.lowerChars (Text.trimChars text.toList))))

/-- Providers whose domains carry mail from everybody. -/
def publicProviders : List String :=
  ["gmail.com", "googlemail.com", "yahoo.com", "yahoo.co.jp", "ymail.com", "hotmail.com",
    "hotmail.co.jp", "outlook.com", "outlook.jp", "live.com", "live.jp", "msn.com", "icloud.com",
    "me.com", "mac.com", "aol.com", "protonmail.com", "proton.me", "gmx.com", "mail.com",
    "docomo.ne.jp", "ezweb.ne.jp", "au.com", "softbank.ne.jp", "i.softbank.jp"]

/-- Suffixes under which anyone may register a name. -/
def openSuffixes : List String := [".com", ".net", ".org", ".co.jp", ".ne.jp"]

/-- Whether a domain is a single label, not empty, followed by an open suffix. -/
def isApex (domain : String) : Bool :=
  let label := domain.toList.takeWhile (· ≠ '.')
  let suffix := domain.toList.dropWhile (· ≠ '.')
  !label.isEmpty && openSuffixes.any fun s => s.toList == suffix

/-- Whether a rule on this domain would catch mail from unrelated senders. -/
def isBroadDomain (text : String) : Bool :=
  let domain := normalizeDomain text
  publicProviders.contains domain || isApex domain

end MailTriage
