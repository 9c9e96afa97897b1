import MailTriage.Store.Tables

/-! # Migrations

A migration brings the content of a store to a newer version.  A ledger names the migrations that
were applied; `applyPending` applies those that it does not name, in order.  Each migration takes
effect together with its entry in the ledger or not at all, so a run that stops at a failing
migration can be taken up again.
-/
namespace MailTriage

/-- A step to a newer version. -/
structure Migration (α : Type) where
  version : String
  apply : α → Except SqlError α

/-- A content with the ledger of the migrations that it has seen; before the first run there is no
ledger. -/
structure Ledgered (α : Type) where
  content : α
  ledger : Option (List String) := none

/-- Why a store is not of the newest version. -/
inductive MigrationError where
  /-- The ledger can be neither read nor created. -/
  | ledger (why : SqlError)
  /-- A migration failed. -/
  | apply (version : String) (why : SqlError)
deriving DecidableEq, Repr

/-- What is said about a store that is not of the newest version. -/
def MigrationError.message : MigrationError → String
  | .ledger why => "migration ledger error: " ++ why.message
  | .apply version why => "migration " ++ version ++ " failed: " ++ why.message

namespace Ledgered

variable {α : Type}

/-- The versions that the ledger names. -/
def versions (store : Ledgered α) : List String := store.ledger.getD []

/-- The store with a ledger. -/
def opened (store : Ledgered α) : Ledgered α := { store with ledger := some store.versions }

/-- Whether the ledger names a migration. -/
def hasApplied (store : Ledgered α) (migration : Migration α) : Bool :=
  store.versions.contains migration.version

/-- Applies a migration and enters it into the ledger. -/
def applyOne (store : Ledgered α) (migration : Migration α) : Except SqlError (Ledgered α) := do
  let content ← migration.apply store.content
  if store.hasApplied migration then throw (.uniqueViolated "schema_migrations" "version")
  return { content, ledger := some (store.versions ++ [migration.version]) }

/-- Applies migrations one after another until one fails.  Gives the store that is left and how many
were applied. -/
def applyEach (store : Ledgered α) (applied : Nat) :
    List (Migration α) → Ledgered α × Except MigrationError Nat
  | [] => (store, .ok applied)
  | migration :: rest =>
    match store.applyOne migration with
    | .error why => (store, .error (.apply migration.version why))
    | .ok next => applyEach next (applied + 1) rest

/-- Applies the migrations that the ledger does not name. -/
def applyPending (store : Ledgered α) (migrations : List (Migration α)) :
    Ledgered α × Except MigrationError Nat :=
  store.opened.applyEach 0 (migrations.filter fun migration => !store.hasApplied migration)

end Ledgered

/-- The migrations of the store. -/
def schema : List (Migration Tables) := [{ version := "001_triage", apply := Tables.create }]

/-- The store: its tables and the ledger of migrations. -/
abbrev Store := Ledgered Tables

namespace Store

/-- The store before its first migration. -/
def empty : Store := { content := {} }

/-- Brings a store to the newest version. -/
def migrate (store : Store) : Store × Except MigrationError Nat := store.applyPending schema

/-- Finds a store that may only be read to be of the newest version already. -/
def checkVersion (store : Store) : Except MigrationError Unit :=
  if store.ledger.isNone then .error (.ledger .readOnly)
  else match schema.find? fun migration => !store.hasApplied migration with
    | some migration => .error (.apply migration.version .readOnly)
    | none => .ok ()

/-- A new store of the newest version. -/
def fresh : Store := empty.migrate.1

/-- The store with other tables. -/
def withTables (store : Store) (tables : Tables) : Store := { store with content := tables }

/-- The table of some name. -/
def findTable (name : String) : Except SqlError TableName :=
  match TableName.all.find? fun table => table.text == name with
  | some table => .ok table
  | none => .error (.noSuchTable name)

/-- Removes the table of some name; the ledger is a table, too. -/
def dropTable (store : Store) (name : String) : Except SqlError Store :=
  if name = "schema_migrations" && store.ledger.isSome then .ok { store with ledger := none }
  else do
    return store.withTables (← store.content.drop (← findTable name))

/-- Inserts a row into the table of some name. -/
def insertRow (store : Store) (name : String) (cells : Cells) : Except SqlError Store := do
  return store.withTables (← store.content.insertCells (← findTable name) cells)

end Store
end MailTriage
