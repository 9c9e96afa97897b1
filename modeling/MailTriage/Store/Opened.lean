import MailTriage.Store.Location
import MailTriage.Store.Migration

/-! # Opened stores

Opening a place gives a store that can be changed, one that may only be read, or nothing that can be
used.  Which one it is depends on the place and on what its file holds (`FilePlace.opened`), and it
shows when the store is brought to the newest version (`OpenedStore.upgrade`).
-/
namespace MailTriage

/-- What the file of a store holds. -/
inductive FileContent where
  /-- Nothing yet. -/
  | nothing
  | store (store : Store)
  /-- Something else. -/
  | foreign

/-- A store that was opened. -/
inductive OpenedStore where
  | changeable (store : Store)
  | readable (store : Store)
  /-- The first statement fails. -/
  | unusable (why : SqlError)

/-- What opening a file with some content gives. -/
def FilePlace.opened (place : FilePlace) (content : FileContent) : OpenedStore :=
  let isReadOnly := place.mode = .reading || place.frozen
  match content with
  | .foreign => .unusable .notAStore
  | .store store => if isReadOnly then .readable store else .changeable store
  | .nothing =>
    if isReadOnly then .readable .empty
    else if Location.hasRoomBeside place.path then .changeable .empty
    else .unusable .cannotOpen

/-- Opens a place, of which the file has some content. -/
def Location.opened : Location → FileContent → OpenedStore
  | .file place, content => place.opened content
  | _, _ => .changeable .empty

/-- What an upgrade came to. -/
structure Upgrade where
  /-- How many migrations were applied. -/
  outcome : Except MigrationError Nat
  /-- The store as the upgrade found it. -/
  before : Store
  /-- The store as the upgrade left it. -/
  after : Store

/-- Brings a store to the newest version. -/
def OpenedStore.upgrade : OpenedStore → Upgrade
  | .changeable store =>
    let (after, outcome) := store.migrate
    { outcome, before := store, after }
  | .readable store =>
    { outcome := store.checkVersion.map fun () => 0, before := store, after := store }
  | .unusable why => { outcome := .error (.ledger why), before := .empty, after := .empty }

end MailTriage
