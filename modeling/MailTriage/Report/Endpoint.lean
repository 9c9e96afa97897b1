/-! # Endpoints for traces

Which texts name an endpoint: an address without a path (`host:4318`), a path alone, or a scheme, an
address and perhaps a path, each part made of the characters that it may have.
-/
namespace MailTriage.Endpoint

/-- Whether a character is a letter or a digit of ASCII. -/
def isAlphanumeric (c : Char) : Bool := c.isAlphanum

/-- Whether a character may stand in an address. -/
def isAddressChar (c : Char) : Bool :=
  isAlphanumeric c || "!$&'()*+,-.:;=@[]_~%".toList.contains c

/-- Whether a character ends an address. -/
def endsAddress (c : Char) : Bool := c = '/' || c = '?' || c = '#'

/-- What was seen of an address: the colons since the user or the brackets ended, and whether a
percent sign came since then. -/
structure AddressScan where
  colons : Nat := 0
  opened : Bool := false
  closed : Bool := false
  percent : Bool := false

/-- So many colons fit into an address between brackets with a number behind. -/
def maxColons : Nat := 8

/-- The scan after one character more, if the address may go on with it. -/
def AddressScan.step? (scan : AddressScan) (c : Char) : Option AddressScan :=
  if !isAddressChar c then none
  else if c = ':' then
    if maxColons ≤ scan.colons then none else some { scan with colons := scan.colons + 1 }
  else if c = '[' then
    if scan.percent || scan.opened then none else some { scan with opened := true }
  else if c = ']' then
    if !scan.opened || scan.closed then none
    else some { scan with closed := true, colons := 0, percent := false }
  else if c = '@' then some { scan with colons := 0, percent := false }
  else if c = '%' then some { scan with percent := true }
  else some scan

/-- Whether characters are a well-formed address: a host, perhaps with a user in front and one
number behind, and no percent sign but in the user and between brackets. -/
def isAddress (address : List Char) : Bool :=
  match address.foldlM AddressScan.step? {} with
  | none => false
  | some scan =>
    scan.opened == scan.closed && scan.colons ≤ 1 && !scan.percent && address.getLast? ≠ some '@'

/-- Whether a character may stand in a path. -/
def isPathChar (c : Char) : Bool :=
  let n := c.toNat
  n = 0x21 || n = 0x22 || (0x24 ≤ n && n ≤ 0x3B) || n = 0x3D || (0x40 ≤ n && n ≤ 0x5F)
    || (0x61 ≤ n && n ≠ 0x7F)

/-- Whether a character may stand in a query. -/
def isQueryChar (c : Char) : Bool :=
  let n := c.toNat
  n = 0x21 || (0x24 ≤ n && n ≤ 0x3B) || n = 0x3D || (0x3F ≤ n && n ≠ 0x7F)

/-- Whether characters are a well-formed path, perhaps with a query; a fragment is not looked at. -/
def isPath (cs : List Char) : Bool :=
  let cs := cs.takeWhile (· ≠ '#')
  (cs.takeWhile (· ≠ '?')).all isPathChar && ((cs.dropWhile (· ≠ '?')).drop 1).all isQueryChar

/-- Whether a character may stand in a scheme. -/
def isSchemeChar (c : Char) : Bool := isAlphanumeric c || c = '+' || c = '-' || c = '.' || c = '~'

/-- What follows the scheme and `://`, if the characters start so. -/
def afterScheme? (cs : List Char) : Option (List Char) :=
  match cs.dropWhile isSchemeChar with
  | ':' :: '/' :: '/' :: rest => some rest
  | _ => none

/-- The longest scheme. -/
def maxScheme : Nat := 64

/-- The length in bytes of the longest endpoint. -/
def maxLength : Nat := 65534

/-- Whether a text names an endpoint. -/
def isWellFormed (text : String) : Bool :=
  let cs := text.toList
  if maxLength < text.utf8ByteSize || cs.isEmpty then false
  else if cs = ['*'] || cs.head? = some '/' then isPath cs
  else match afterScheme? cs with
    | none => isAddress cs
    | some rest =>
      let address := rest.takeWhile fun c => !endsAddress c
      (cs.takeWhile isSchemeChar).length ≤ maxScheme && !address.isEmpty && isAddress address
        && isPath (rest.dropWhile fun c => !endsAddress c)

end MailTriage.Endpoint
