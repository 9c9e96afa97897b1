import MailTriage.Text.Digits

/-! # File addresses

The place of a file as an address: `file:`, perhaps an authority after two slashes, the path, and
after a question mark options with their values; a fragment at the end does not count.  A percent
sign with two hexadecimal digits stands for a byte, and a null byte ends the part that it is in.
-/
namespace MailTriage

/-- What a file address says. -/
structure FileUri where
  path : String
  options : List (String × String)
deriving DecidableEq, Repr

namespace FileUri

/-- The bytes of a part of an address, up to a null byte. -/
def decodeBytes : List Char → List UInt8
  | '%' :: a :: b :: rest =>
    match Text.hexValue a, Text.hexValue b with
    | some x, some y =>
      if 16 * x + y = 0 then [] else UInt8.ofNat (16 * x + y) :: decodeBytes rest
    | _, _ => '%'.toUInt8 :: decodeBytes (a :: b :: rest)
  | c :: rest => (String.singleton c).toUTF8.toList ++ decodeBytes rest
  | [] => []

/-- The text of a part of an address.  Bytes that are no text are taken one by one. -/
def decode (part : List Char) : String :=
  let bytes := decodeBytes part
  match String.fromUTF8? ⟨bytes.toArray⟩ with
  | some text => text
  | none => String.ofList (bytes.map fun b => Char.ofNat b.toNat)

/-- The options between ampersands.  One without a name is not looked at. -/
def readOptions (cs : List Char) : List (String × String) :=
  ((String.ofList cs).splitOn "&").filterMap fun part =>
    let name := decode (part.toList.takeWhile (· ≠ '='))
    let value := decode ((part.toList.dropWhile (· ≠ '=')).drop 1)
    if name = "" then none else some (name, value)

/-- What follows the authority, which has to be this machine. -/
def afterAuthority? : List Char → Option (List Char)
  | '/' :: '/' :: rest =>
    let authority := String.ofList (rest.takeWhile (· ≠ '/'))
    if authority = "" || authority = "localhost" then some (rest.dropWhile (· ≠ '/')) else none
  | cs => some cs

/-- How a file address starts. -/
def scheme : String := "file:"

/-- Reads what follows the scheme of a file address. -/
def read? (cs : List Char) : Option FileUri := do
  let cs := (← afterAuthority? cs).takeWhile (· ≠ '#')
  return {
    path := decode (cs.takeWhile (· ≠ '?'))
    options := readOptions ((cs.dropWhile (· ≠ '?')).drop 1) }

/-- The value of an option, the first one if there are more. -/
def option? (uri : FileUri) (name : String) : Option String :=
  (uri.options.find? (·.1 == name)).map (·.2)

end FileUri
end MailTriage
