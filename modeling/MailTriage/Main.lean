import MailTriage.Report.Command
import MailTriage.Store.Snapshot
import Std.Time.DateTime.Timestamp

/-! # The program

Reads the configuration named by `CONFIG_PATH`, opens the store, runs the report command with the
arguments of the program, and prints what the run came to: the report on the standard output, the
log and the name of an error on the error output.  The store is kept as a snapshot.
-/
namespace MailTriage

/-- The text of a file, if it can be read. -/
def readFile? (path : String) : IO (Option String) := do
  try
    return some (← IO.FS.readFile path)
  catch _ =>
    return none

/-- Whether there is a directory at a path: only then it has an entry for itself. -/
def isDirectory (path : String) : IO Bool := do
  try
    discard (IO.FS.Handle.mk (path ++ "/.") .read)
    return true
  catch _ =>
    return false

/-- The instant that the clock shows. -/
def clock : IO Instant := do
  let stamp ← Std.Time.Timestamp.now
  let nanos := stamp.toNanosecondsSinceUnixEpoch.toInt
  return (Instant.of? (nanos / 1000000000) (nanos % 1000000000).toNat).getD .epoch

/-- Whether there is a file at a path. -/
def isFile (path : String) : IO Bool := do
  return (← readFile? path).isSome && !(← isDirectory path)

/-- What the file at a path holds: the snapshot of a store, or something else. -/
def readContent (path : String) : IO FileContent := do
  match ← readFile? path with
  | none | some "" => return .nothing
  | some text =>
    match Snapshot.read? text with
    | some store => return .store store
    | none => return .foreign

/-- Opens the store at a location. -/
def openStore (location : Location) : IO (Except OpenError OpenedStore) := do
  let path := match location with
    | .file place => place.path
    | _ => "."
  let directories ← [Location.direct path, Location.parent path].filterM isDirectory
  let files ← [Location.direct path].filterM isFile
  match location.check (← IO.getEnv "LIBSQL_AUTH_TOKEN") directories.contains files.contains with
  | .error why => return .error why
  | .ok () => return .ok (location.opened (← readContent path))

/-- Keeps the store at a location that can be changed. -/
def keepStore (location : Location) (opened : OpenedStore) (store : Store) : IO Unit :=
  match location, opened with
  | .file place, .changeable _ => IO.FS.writeFile place.path (Snapshot.write store)
  | _, _ => pure ()

/-- Whether the environment asks for compressed traces. -/
def wantsCompression : IO Bool := do
  return (← Run.compressionVariables.filterMapM fun name => IO.getEnv name) ≠ []

/-- Prints the output of a run and gives the exit code. -/
def printOutput (run : Run) : IO UInt32 := do
  match run.output with
  | .ok text =>
    (← IO.getStdout).putStr text
    return 0
  | .error why =>
    (← IO.getStderr).putStrLn ("Error: " ++ why.name)
    return 1

/-- Runs the program with its arguments. -/
def runProgram (arguments : List String) : IO UInt32 := do
  let path := (← IO.getEnv "CONFIG_PATH").getD "config.json"
  match ← (Config.load (fun name => IO.getEnv name) (← readFile? path)).run with
  | .error why => printOutput { output := .error (.config why) }
  | .ok config =>
    let location := Location.ofText config.database
    let opened ← openStore location
    let run := Run.start config (← wantsCompression) opened (← clock) arguments
    match opened, run.store with
    | .ok opened, some store => keepStore location opened store
    | _, _ => pure ()
    for line in run.logLines config do
      (← IO.getStderr).putStrLn line.compact
    printOutput run

end MailTriage

/-- The entry point. -/
def main (arguments : List String) : IO UInt32 := MailTriage.runProgram arguments
