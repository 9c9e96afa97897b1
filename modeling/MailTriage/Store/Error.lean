import MailTriage.Json.Reader
import MailTriage.Time.Timestamp

/-! # What can go wrong in a store

Failures of the tables, and failures to answer a question about messages or the audit log.
-/
namespace MailTriage

/-- Why a statement on the tables failed. -/
inductive SqlError where
  /-- A row with this key is there already. -/
  | uniqueViolated (table column : String)
  /-- A column that must have a value got none. -/
  | notNullViolated (table column : String)
  | noSuchTable (table : String)
  | tableExists (table : String)
  | noSuchColumn (table column : String)
  /-- A whole number was wanted where a row has a text. -/
  | datatypeMismatch
  /-- A stored document is not JSON. -/
  | malformedJson
  /-- A text was wanted where a row has none. -/
  | nullValue
  /-- The file holds something else than a store. -/
  | notAStore
  /-- A file beside that of the store cannot be opened. -/
  | cannotOpen
  /-- The file may only be read. -/
  | readOnly
deriving DecidableEq, Repr

/-- What the tables say about a failure. -/
def SqlError.detail : SqlError → String
  | .uniqueViolated table column => "UNIQUE constraint failed: " ++ table ++ "." ++ column
  | .notNullViolated table column => "NOT NULL constraint failed: " ++ table ++ "." ++ column
  | .noSuchTable table => "no such table: " ++ table
  | .tableExists table => "table " ++ table ++ " already exists"
  | .noSuchColumn table column => "table " ++ table ++ " has no column named " ++ column
  | .datatypeMismatch => "datatype mismatch"
  | .malformedJson => "malformed JSON"
  | .nullValue => "Null value"
  | .notAStore => "file is not a database"
  | .cannotOpen => "unable to open database file"
  | .readOnly => "attempt to write a readonly database"

/-- What is said about a failed statement. -/
def SqlError.message : SqlError → String
  | .nullValue => SqlError.nullValue.detail
  | why => "SQLite failure: \x60" ++ why.detail ++ "\x60"

/-- What a store was told not to answer. -/
inductive Outage where
  | sampling
  | lookup (messageId : String)
  | auditLog
deriving DecidableEq, Repr

/-- What is said about an outage. -/
def Outage.message : Outage → String
  | .sampling => "sampling disabled"
  | .lookup messageId => "lookup disabled for " ++ messageId
  | .auditLog => "audit log offline"

/-- Why a question about messages or the audit log was not answered. -/
inductive StoreError where
  | sql (why : SqlError)
  | json (why : Json.ReadError)
  | timestamp (why : Timestamp.ReadError)
  | unavailable (what : Outage)
deriving DecidableEq, Repr

/-- What is said about a question that was not answered. -/
def StoreError.message : StoreError → String
  | .sql why => "sql error: " ++ why.message
  | .json why => "json error: " ++ why.message
  | .timestamp why => "datetime parse error: " ++ why.message
  | .unavailable what => "store unavailable: " ++ what.message

end MailTriage
