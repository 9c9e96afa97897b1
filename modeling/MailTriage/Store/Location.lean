import MailTriage.Store.FileUri

/-! # Where a store is

A store is a file, or it is remote, or it is kept in memory only.  A file is named by its path or by
a file address with options.  A remote store needs a token; a file can be opened when it is not a
directory and lies in one, and when it is there if it is not to be created.
-/
namespace MailTriage

/-- How the file of a store is opened. -/
inductive FileMode where
  /-- Only to be read. -/
  | reading
  /-- To be read and changed. -/
  | changing
  /-- To be read and changed, and created if it is not there. -/
  | creating
  /-- Not at all: the store is kept in memory. -/
  | memory
deriving DecidableEq, Repr

/-- The place of a file. -/
structure FilePlace where
  path : String
  mode : FileMode := .creating
  /-- Whether nobody changes the file, ourselves included. -/
  frozen : Bool := false
deriving DecidableEq, Repr

/-- Where a store is. -/
inductive Location where
  | remote (address : String)
  | file (place : FilePlace)
  | memory
  /-- What was said does not name a place. -/
  | nowhere
deriving DecidableEq, Repr

/-- Why a store cannot be opened. -/
inductive OpenError where
  | missingToken
  /-- The file cannot be opened, or the remote store cannot be reached. -/
  | unreachable
deriving DecidableEq, Repr

/-- What is said when a store cannot be opened. -/
def OpenError.message : OpenError → String
  | .missingToken => "missing required LIBSQL_AUTH_TOKEN for remote database"
  | .unreachable => "failed to open connection"

/-! ### Options of a file address -/

namespace FileMode

/-- The mode of some name. -/
def ofName? : String → Option FileMode
  | "ro" => some .reading
  | "rw" => some .changing
  | "rwc" => some .creating
  | "memory" => some .memory
  | _ => none

/-- What a mode asks for. -/
def demand : FileMode → Nat
  | .memory => 0
  | .reading => 1
  | .changing => 2
  | .creating => 6

/-- What may be asked for after a mode. -/
def allowance : FileMode → Nat
  | .memory => 128
  | mode => mode.demand

/-- The mode after one that was given before, if it does not ask for more than that one allows. -/
def next? (before mode : FileMode) : Option FileMode :=
  if before.allowance < mode.demand then none else some mode

end FileMode

namespace FileUri

/-- How caches may be shared. -/
def cacheNames : List String := ["shared", "private"]

/-- The mode after an option, if the option makes sense. -/
def readOption? (mode : FileMode) : String × String → Option FileMode
  | ("mode", name) => (FileMode.ofName? name).bind mode.next?
  | ("cache", name) => if name ∈ cacheNames then some mode else none
  | _ => some mode

/-- The ways of keeping files that are known. -/
def systemNames : List String := ["unix", "unix-dotfile", "unix-excl", "unix-none"]

/-- The way of keeping files that keeps them in memory. -/
def memorySystem : String := "memdb"

/-- Whether the value of an option means yes. -/
def isYes (value : String) : Bool :=
  match value.toList with
  | [] => false
  | c :: rest =>
    if Text.isDigit c then
      Text.valueOfDigits 0 ((c :: rest).takeWhile Text.isDigit) % 256 ≠ 0
    else String.ofList ((c :: rest).map Char.toLower) ∈ ["on", "yes", "true", "full", "extra"]

end FileUri

namespace Location

/-! ### Places by name -/

/-- How the address of a remote store starts. -/
def remoteSchemes : List String := ["libsql://", "http://", "https://"]

/-- How a text starts that is neither the address of a remote store nor a path. -/
def otherSchemes : List String := ["libsql:", "http:", "https:"]

/-- The place of a file, or the memory if the path is empty or names it. -/
def ofPlace (place : FilePlace) : Location :=
  if place.path = "" || place.path = ":memory:" || place.mode = .memory then .memory
  else .file place

/-- The place that a file address names. -/
def ofUri (uri : FileUri) : Location :=
  match uri.options.foldlM FileUri.readOption? .creating with
  | none => .nowhere
  | some mode =>
    let system := ((uri.options.reverse.find? (·.1 == "vfs")).map (·.2)).getD "unix"
    if system = FileUri.memorySystem then .memory
    else if system ∉ FileUri.systemNames then .nowhere
    else ofPlace { path := uri.path, mode, frozen := (uri.option? "immutable").any FileUri.isYes }

/-- The place that a text names. -/
def ofText (text : String) : Location :=
  let starts (schemes : List String) : Bool :=
    schemes.any fun scheme => scheme.toList.isPrefixOf text.toList
  if starts remoteSchemes then .remote text
  else if starts otherSchemes then .nowhere
  else match FileUri.scheme.toList.isPrefixOf? text.toList with
    | none => ofPlace { path := text }
    | some rest =>
      match FileUri.read? rest with
      | none => .nowhere
      | some uri => ofUri uri

/-! ### Paths -/

/-- The names of a path after one name more; a step up takes the last name away. -/
def stepAlong (names : List String) (name : String) : List String :=
  if name = "" || name = "." then names else if name = ".." then names.drop 1 else name :: names

/-- The names along a path; the last one comes first. -/
def namesAlong (path : String) : List String := (path.splitOn "/").foldl stepAlong []

/-- The path through some names, of which the last one comes first. -/
def pathThrough (absolute : Bool) (backward : List String) : String :=
  let path := "/".intercalate backward.reverse
  if absolute then "/" ++ path else if path = "" then "." else path

/-- Whether a path starts at the root. -/
def isAbsolute (path : String) : Bool := path.toList.head? = some '/'

/-- A path without detours. -/
def direct (path : String) : String := pathThrough (isAbsolute path) (namesAlong path)

/-- The directory that the file at a path lies in. -/
def parent (path : String) : String := pathThrough (isAbsolute path) ((namesAlong path).drop 1)

/-- The length in bytes of the longest name. -/
def maxName : Nat := 255

/-- The length in bytes of the longest path of a store. -/
def maxPath : Nat := 504

/-- The length in bytes of what is added to a path for a file beside it. -/
def besideLength : Nat := 8

/-- Whether no name along a path is too long, detours included, nor the path without them. -/
def hasFittingNames (path : String) : Bool :=
  ((path.splitOn "/").all fun name => name.utf8ByteSize ≤ maxName)
    && (direct path).utf8ByteSize ≤ maxPath

/-- Whether a store at a path can be changed: there must be room for the name of a file beside
it. -/
def hasRoomBeside (path : String) : Bool :=
  ((namesAlong path).headD "").utf8ByteSize + besideLength ≤ maxName

/-! ### Opening -/

/-- Whether what is stored at a place is kept until it is opened again. -/
def isKept : Location → Bool
  | .memory => false
  | _ => true

/-- Opens a store, given the token, if there is one, and which paths are those of directories and
of files. -/
def check (token : Option String) (isDirectory isFile : String → Bool) :
    Location → Except OpenError Unit
  | .remote _ =>
    if (token.getD "") = "" then .error .missingToken else .error .unreachable
  | .nowhere => .error .unreachable
  | .memory => .ok ()
  | .file place =>
    let path := direct place.path
    if !hasFittingNames place.path || isDirectory path || !isDirectory (parent place.path)
        || (place.mode ≠ .creating && !isFile path) then
      .error .unreachable
    else .ok ()

end Location
end MailTriage
