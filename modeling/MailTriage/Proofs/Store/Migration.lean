import MailTriage.Store.Migration

/-! # Upgrades that stop and are taken up again

A migration runs in a transaction of its own, statement by statement, and a transaction that is
dropped leaves what was committed before it, however far its statements had come.  So a migration
takes effect together with its entry in the ledger or not at all (`transact_eq`).

What ties the ledger to the content is `advanced`: the content is what some migrations made of a
former one, and the ledger names them besides those that it named before.  One migration that is not
in the ledger takes a store from one such state to the next (`applyOne_of_new`), so a run through
the pending ones is in such a state wherever it stops (`applyEach_append`).

The pending migrations of that state are those of the former one without the ones that were applied
since (`pending_advanced`).  Hence a run that stopped goes on, the next time, exactly where a run
from the start would be after the same migrations (`applyPending_advanced`), whatever has become of
the rest of the list in the meantime.
-/
namespace MailTriage

/-- What some migrations make of a content, one after another, unless one of them fails. -/
def Migration.applyAll {α : Type} (migrations : List (Migration α)) (content : α) :
    Except SqlError α :=
  migrations.foldlM (fun content migration => migration.apply content) content

theorem Migration.applyAll_cons {α : Type} (migration : Migration α) (rest : List (Migration α))
    (content : α) :
    applyAll (migration :: rest) content = (migration.apply content).bind (applyAll rest) :=
  List.foldlM_cons ..

/-- Either all migrations succeed, or some do and then one fails. -/
theorem Migration.applyAll_cases {α : Type} (migrations : List (Migration α)) (content : α) :
    (∃ last, applyAll migrations content = .ok last)
      ∨ ∃ front failing back left why, migrations = front ++ failing :: back
        ∧ applyAll front content = .ok left ∧ failing.apply left = .error why := by
  induction migrations generalizing content with
  | nil => exact .inl ⟨content, rfl⟩
  | cons migration rest ih =>
    cases h : migration.apply content with
    | error why => exact .inr ⟨[], migration, rest, content, why, rfl, rfl, h⟩
    | ok next =>
      have hcons : ∀ front, applyAll (migration :: front) content = applyAll front next := by
        intro front
        rw [applyAll_cons, h]
        rfl
      obtain ⟨last, hlast⟩ | ⟨front, failing, back, left, why, rfl, hleft, hwhy⟩ := ih next
      · exact .inl ⟨last, (hcons rest).trans hlast⟩
      · exact .inr ⟨migration :: front, failing, back, left, why, rfl, (hcons front).trans hleft,
          hwhy⟩

/-! ### Transactions -/

/-- A transaction on a store. -/
structure Transaction (α : Type) where
  /-- The store as it was when the transaction began. -/
  committed : Ledgered α
  /-- What the statements since have made of it. -/
  current : Ledgered α

namespace Transaction

variable {α : Type}

/-- A transaction that begins. -/
def start (store : Ledgered α) : Transaction α := { committed := store, current := store }

/-- The transaction when its statements have made something of the content. -/
def having (transaction : Transaction α) (content : α) : Transaction α :=
  { transaction with current := { transaction.current with content } }

@[simp] theorem current_start (store : Ledgered α) : (start store).current = store := rfl

@[simp] theorem versions_having (transaction : Transaction α) (content : α) :
    (transaction.having content).current.versions = transaction.current.versions := rfl

/-- Runs statements on the content, one after another, unless one of them fails. -/
def execute (transaction : Transaction α) :
    List (α → Except SqlError α) → Transaction α × Except SqlError Unit
  | [] => (transaction, .ok ())
  | statement :: rest =>
    match statement transaction.current.content with
    | .error why => (transaction, .error why)
    | .ok content => execute (transaction.having content) rest

/-- Enters a version into the ledger, in which each may stand once. -/
def enter (transaction : Transaction α) (version : String) :
    Transaction α × Except SqlError Unit :=
  if version ∈ transaction.current.versions then
    (transaction, .error (.uniqueViolated "schema_migrations" "version"))
  else
    ({ transaction with current := { transaction.current with
        ledger := some (transaction.current.versions ++ [version]) } }, .ok ())

/-- The store after a transaction: its statements are committed together, or they are dropped. -/
def finish : Transaction α × Except SqlError Unit → Ledgered α × Except SqlError Unit
  | (transaction, .ok ()) => (transaction.current, .ok ())
  | (transaction, .error why) => (transaction.committed, .error why)

end Transaction

/-- The migration to some version by some statements. -/
def Migration.ofStatements {α : Type} (version : String)
    (statements : List (α → Except SqlError α)) : Migration α where
  version
  apply content := statements.foldlM (fun content statement => statement content) content

@[simp] theorem Migration.version_ofStatements {α : Type} (version : String)
    (statements : List (α → Except SqlError α)) :
    (ofStatements version statements).version = version := rfl

namespace Ledgered

variable {α : Type} (store : Ledgered α)

/-- Runs the statements of a migration and enters its version into the ledger, in one
transaction. -/
def transact (version : String) (statements : List (α → Except SqlError α)) :
    Ledgered α × Except SqlError Unit :=
  Transaction.finish <| match (Transaction.start store).execute statements with
    | (transaction, .ok ()) => transaction.enter version
    | (transaction, .error why) => (transaction, .error why)

/-- The migrations that the ledger does not name. -/
def pending (migrations : List (Migration α)) : List (Migration α) :=
  migrations.filter fun migration => !store.hasApplied migration

/-- The store with another content, and with some migrations in its ledger besides those that are
there. -/
def advanced (content : α) (front : List (Migration α)) : Ledgered α :=
  { content, ledger := some (store.versions ++ front.map (·.version)) }

variable {store}

/-! ### The ledger -/

theorem hasApplied_iff {migration : Migration α} :
    store.hasApplied migration = true ↔ migration.version ∈ store.versions :=
  List.contains_iff_mem

theorem mem_pending {migration : Migration α} {migrations : List (Migration α)} :
    migration ∈ store.pending migrations
      ↔ migration ∈ migrations ∧ migration.version ∉ store.versions := by
  rw [pending, List.mem_filter, Bool.not_eq_true', ← Bool.not_eq_true, hasApplied_iff]

theorem pending_append (front back : List (Migration α)) :
    store.pending (front ++ back) = store.pending front ++ store.pending back :=
  List.filter_append ..

@[simp] theorem versions_advanced (content : α) (front : List (Migration α)) :
    (store.advanced content front).versions = store.versions ++ front.map (·.version) := rfl

theorem advanced_nil : store.advanced store.content [] = store.opened := by
  rw [advanced, List.map_nil, List.append_nil, opened]

theorem advanced_cons (content next : α) (migration : Migration α) (rest : List (Migration α)) :
    store.advanced content (migration :: rest)
      = (store.advanced next [migration]).advanced content rest := by
  rw [advanced, advanced, versions_advanced, List.append_assoc]
  rfl

/-- What was applied is not pending any more, and all else is as it was. -/
theorem pending_advanced {front rest : List (Migration α)} (content : α)
    (hdistinct : ((front ++ rest).map (·.version)).Nodup) :
    (store.advanced content (store.pending front)).pending (front ++ rest) = store.pending rest := by
  rw [List.map_append, List.nodup_append] at hdistinct
  obtain ⟨-, -, hapart⟩ := hdistinct
  have hversions : ∀ version, version ∈ (store.advanced content (store.pending front)).versions
      ↔ version ∈ store.versions
        ∨ ∃ migration ∈ store.pending front, migration.version = version := by
    intro version
    rw [versions_advanced, List.mem_append, List.mem_map]
  have hfront : (store.advanced content (store.pending front)).pending front = [] := by
    refine List.eq_nil_iff_forall_not_mem.mpr fun migration hmem => ?_
    obtain ⟨hmem, hnot⟩ := mem_pending.mp hmem
    rw [hversions, not_or] at hnot
    exact hnot.2 ⟨migration, mem_pending.mpr ⟨hmem, hnot.1⟩, rfl⟩
  have hrest : (store.advanced content (store.pending front)).pending rest = store.pending rest := by
    refine List.filter_congr fun migration hmem => ?_
    have hother : ¬ ∃ other ∈ store.pending front, other.version = migration.version := by
      rintro ⟨other, hother, hsame⟩
      exact hapart _ (List.mem_map_of_mem (mem_pending.mp hother).1) _
        (List.mem_map_of_mem hmem) hsame
    rw [Bool.not_inj_iff, Bool.eq_iff_iff, hasApplied_iff, hasApplied_iff, hversions,
      or_iff_left hother]
  rw [pending_append, hfront, hrest, List.nil_append]

/-! ### One migration -/

theorem applyOne_eq (migration : Migration α) :
    store.applyOne migration = (migration.apply store.content).bind fun content =>
      if migration.version ∈ store.versions then
        .error (.uniqueViolated "schema_migrations" "version")
      else .ok (store.advanced content [migration]) := by
  rw [applyOne]
  cases migration.apply store.content with
  | error why => rfl
  | ok content =>
    by_cases hthere : migration.version ∈ store.versions
    · have happlied : store.hasApplied migration = true := hasApplied_iff.mpr hthere
      simp only [happlied, if_pos hthere]
      rfl
    · have hnew : store.hasApplied migration = false := by
        rwa [← Bool.not_eq_true, hasApplied_iff]
      simp only [hnew, if_neg hthere]
      rfl

/-- Statements leave the committed store alone and change nothing but the content, also when one of
them fails. -/
theorem execute_cases (statements : List (α → Except SqlError α)) (transaction : Transaction α) :
    (∃ last, statements.foldlM (fun content statement => statement content)
          transaction.current.content = .ok last
        ∧ transaction.execute statements = (transaction.having last, .ok ()))
      ∨ ∃ why halfway, statements.foldlM (fun content statement => statement content)
          transaction.current.content = .error why
        ∧ transaction.execute statements = (transaction.having halfway, .error why) := by
  induction statements generalizing transaction with
  | nil => exact .inl ⟨transaction.current.content, rfl, rfl⟩
  | cons statement rest ih =>
    rw [Transaction.execute, List.foldlM_cons]
    cases hstatement : statement transaction.current.content with
    | error why => exact .inr ⟨why, transaction.current.content, rfl, rfl⟩
    | ok next => exact ih (transaction.having next)

/-- **A migration takes effect as a whole or not at all.** -/
theorem transact_eq (version : String) (statements : List (α → Except SqlError α)) :
    store.transact version statements
      = match store.applyOne (.ofStatements version statements) with
        | .ok next => (next, .ok ())
        | .error why => (store, .error why) := by
  rw [transact, applyOne_eq]
  obtain ⟨last, hlast, hexecute⟩ | ⟨why, halfway, hwhy, hexecute⟩ :=
    execute_cases statements (Transaction.start store)
  · have happly : (Migration.ofStatements version statements).apply store.content = .ok last :=
      hlast
    rw [hexecute, happly]
    simp only [Transaction.enter, Transaction.versions_having, Transaction.current_start,
      Migration.version_ofStatements, Except.bind]
    by_cases hthere : version ∈ store.versions
    · simp only [hthere, if_true]
      rfl
    · simp only [hthere, if_false]
      rfl
  · have happly : (Migration.ofStatements version statements).apply store.content = .error why :=
      hwhy
    rw [hexecute, happly]
    rfl

/-- A migration that is not in the ledger changes the content and the ledger together, or nothing
at all. -/
theorem applyOne_of_new {migration : Migration α} (h : migration.version ∉ store.versions) :
    store.applyOne migration
      = (migration.apply store.content).map fun content => store.advanced content [migration] := by
  rw [applyOne_eq]
  simp only [if_neg h]
  cases migration.apply store.content with
  | error why => rfl
  | ok content => rfl

/-! ### A run -/

/-- The number of migrations that were applied before a run is only added to its own. -/
theorem applyEach_eq_zero (applied : Nat) (migrations : List (Migration α)) :
    store.applyEach applied migrations
      = ((store.applyEach 0 migrations).1,
          (store.applyEach 0 migrations).2.map (applied + ·)) := by
  induction migrations generalizing store applied with
  | nil => rfl
  | cons migration rest ih =>
    rw [applyEach, applyEach]
    cases store.applyOne migration with
    | error why => rfl
    | ok next =>
      simp only
      rw [@ih next (applied + 1), @ih next (0 + 1)]
      cases (next.applyEach 0 rest).2 with
      | error why => rfl
      | ok more => simp only [Except.map, Nat.zero_add, Nat.add_assoc]

/-- A run through migrations that succeed comes to the state that they lead to, and goes on from
there. -/
theorem applyEach_append {front : List (Migration α)} {content : α}
    (hfront : Migration.applyAll front store.content = .ok content)
    (hdistinct : (front.map (·.version)).Nodup)
    (hnew : ∀ migration ∈ front, migration.version ∉ store.versions)
    (applied : Nat) (rest : List (Migration α)) :
    store.opened.applyEach applied (front ++ rest)
      = (store.advanced content front).applyEach (applied + front.length) rest := by
  induction front generalizing store applied with
  | nil =>
    obtain rfl := Except.ok.inj hfront
    rw [advanced_nil]
    rfl
  | cons migration front ih =>
    rw [List.map_cons, List.nodup_cons] at hdistinct
    rw [Migration.applyAll_cons] at hfront
    cases happly : migration.apply store.content with
    | error why => rw [happly] at hfront; cases hfront
    | ok next =>
      rw [happly] at hfront
      have hone : store.opened.applyOne migration = .ok (store.advanced next [migration]) := by
        have hunseen : migration.version ∉ store.opened.versions :=
          hnew migration List.mem_cons_self
        exact (applyOne_of_new hunseen).trans (congrArg (Except.map _) happly)
      -- the step has put its own version into the ledger, which no later migration has
      have hlater : ∀ later ∈ front, later.version ∉ (store.advanced next [migration]).versions := by
        intro later hmem
        rw [versions_advanced, List.mem_append, not_or]
        refine ⟨hnew later (List.mem_cons_of_mem migration hmem), fun hsame => hdistinct.1 ?_⟩
        have hsame : later.version = migration.version := List.mem_singleton.mp hsame
        exact List.mem_map.mpr ⟨later, hmem, hsame⟩
      rw [List.cons_append, applyEach, hone, advanced_cons content next]
      have hrest := @ih (store.advanced next [migration]) hfront hdistinct.2 hlater (applied + 1)
      rw [Nat.add_assoc, Nat.add_comm 1, ← List.length_cons] at hrest
      exact hrest

theorem nodup_pending {migrations : List (Migration α)}
    (hdistinct : (migrations.map (·.version)).Nodup) :
    ((store.pending migrations).map (·.version)).Nodup :=
  hdistinct.sublist (List.filter_sublist.map _)

/-- A run through a list comes to the state after any front of it that succeeds. -/
theorem applyPending_append {front rest : List (Migration α)} {content : α}
    (hfront : Migration.applyAll (store.pending front) store.content = .ok content)
    (hdistinct : ((front ++ rest).map (·.version)).Nodup) :
    store.applyPending (front ++ rest)
      = (store.advanced content (store.pending front)).applyEach (store.pending front).length
          (store.pending rest) := by
  have hpending : store.applyPending (front ++ rest)
      = store.opened.applyEach 0 (store.pending front ++ store.pending rest) :=
    congrArg (store.opened.applyEach 0) (pending_append front rest)
  rw [List.map_append, List.nodup_append] at hdistinct
  rw [hpending, applyEach_append hfront (nodup_pending hdistinct.1)
    (fun migration hmem => (mem_pending.mp hmem).2), Nat.zero_add]

/-- **A run that is taken up again goes on where it stopped**: it ends like a run from the start, and
counts what it applied itself. -/
theorem applyPending_advanced {front rest : List (Migration α)} {content : α}
    (hfront : Migration.applyAll (store.pending front) store.content = .ok content)
    (hdistinct : ((front ++ rest).map (·.version)).Nodup) :
    store.applyPending (front ++ rest)
      = (((store.advanced content (store.pending front)).applyPending (front ++ rest)).1,
          ((store.advanced content (store.pending front)).applyPending (front ++ rest)).2.map
            ((store.pending front).length + ·)) := by
  have hagain : (store.advanced content (store.pending front)).applyPending (front ++ rest)
      = (store.advanced content (store.pending front)).applyEach 0 (store.pending rest) :=
    congrArg ((store.advanced content (store.pending front)).applyEach 0)
      (pending_advanced content hdistinct)
  rw [applyPending_append hfront hdistinct, hagain]
  exact applyEach_eq_zero _ _

/-! ### The whole upgrade -/

variable (store)

/-- An upgrade that applied every pending migration, and what it left. -/
structure Completes (migrations : List (Migration α))
    (left : Ledgered α × Except MigrationError Nat) : Prop where
  content : Migration.applyAll (store.pending migrations) store.content = .ok left.1.content
  ledger : left.1.ledger = some (store.versions ++ (store.pending migrations).map (·.version))
  outcome : left.2 = .ok (store.pending migrations).length
  /-- Another upgrade has nothing to do. -/
  again : left.1.applyPending migrations = (left.1, .ok 0)

/-- An upgrade that stopped at a migration that failed, and what it left. -/
structure StopsAt (front : List (Migration α)) (failing : Migration α) (back : List (Migration α))
    (left : Ledgered α × Except MigrationError Nat) : Prop where
  pending : failing.version ∉ store.versions
  /-- Only the pending migrations before it have changed the content. -/
  content : Migration.applyAll (store.pending front) store.content = .ok left.1.content
  /-- And only they are in the ledger besides the former ones. -/
  ledger : left.1.ledger = some (store.versions ++ (store.pending front).map (·.version))
  outcome : ∃ why, failing.apply left.1.content = .error why
    ∧ left.2 = .error (.apply failing.version why)
  /-- However far its statements came, nothing of them is left. -/
  rolledBack : ∀ statements, failing = .ofStatements failing.version statements →
    ∃ why, left.1.transact failing.version statements = (left.1, .error why)
  /-- With the migration mended, another upgrade ends like one from the start. -/
  resumes : ∀ mended : Migration α, mended.version = failing.version →
    store.applyPending (front ++ mended :: back)
      = ((left.1.applyPending (front ++ mended :: back)).1,
          (left.1.applyPending (front ++ mended :: back)).2.map ((store.pending front).length + ·))

variable {store}

theorem completes {migrations : List (Migration α)} {last : α}
    (hdistinct : (migrations.map (·.version)).Nodup)
    (hlast : Migration.applyAll (store.pending migrations) store.content = .ok last) :
    store.Completes migrations (store.applyPending migrations) := by
  rw [← List.append_nil migrations] at hdistinct
  have hleft := applyPending_append hlast hdistinct
  have hagain : (store.advanced last (store.pending migrations)).pending (migrations ++ []) = [] :=
    pending_advanced last hdistinct
  rw [List.append_nil] at hleft hagain
  rw [hleft]
  refine ⟨hlast, rfl, rfl, ?_⟩
  exact congrArg ((store.advanced last (store.pending migrations)).applyEach 0) hagain

theorem stopsAt {front back : List (Migration α)} {failing : Migration α} {content : α}
    {why : SqlError} (hdistinct : ((front ++ failing :: back).map (·.version)).Nodup)
    (hpending : failing.version ∉ store.versions)
    (hfront : Migration.applyAll (store.pending front) store.content = .ok content)
    (hwhy : failing.apply content = .error why) :
    store.StopsAt front failing back (store.applyPending (front ++ failing :: back)) := by
  have hnext : store.pending (failing :: back) = failing :: store.pending back :=
    List.filter_cons_of_pos (by simpa [hasApplied] using hpending)
  have hnew : failing.version ∉ (store.advanced content (store.pending front)).versions := by
    rw [versions_advanced, List.mem_append, not_or]
    refine ⟨hpending, fun hmem => ?_⟩
    obtain ⟨other, hother, hsame⟩ := List.mem_map.mp hmem
    rw [List.map_append, List.nodup_append] at hdistinct
    exact hdistinct.2.2 _ (List.mem_map_of_mem (mem_pending.mp hother).1) _
      List.mem_cons_self hsame
  have hone : (store.advanced content (store.pending front)).applyOne failing = .error why :=
    (applyOne_of_new hnew).trans (congrArg (Except.map _) hwhy)
  have hleft : store.applyPending (front ++ failing :: back)
      = (store.advanced content (store.pending front), .error (.apply failing.version why)) := by
    rw [applyPending_append hfront hdistinct, hnext, applyEach, hone]
  rw [hleft]
  refine ⟨hpending, hfront, rfl, ⟨why, hwhy, rfl⟩, fun statements hsame => ⟨why, ?_⟩,
    fun mended hversion => applyPending_advanced hfront ?_⟩
  · rw [transact_eq, ← hsame, hone]
  · rw [List.map_append, List.map_cons] at hdistinct ⊢
    rwa [hversion]

/-- **Upgrades are atomic, can be taken up again, and apply each migration once.**  Without pending
migrations nothing is changed, but for a ledger that was not there. -/
theorem applyPending_resumable (store : Ledgered α) {migrations : List (Migration α)}
    (hdistinct : (migrations.map (·.version)).Nodup) :
    (store.Completes migrations (store.applyPending migrations)
      ∨ ∃ front failing back, migrations = front ++ failing :: back
        ∧ store.StopsAt front failing back (store.applyPending migrations))
    ∧ (store.pending migrations = [] → store.applyPending migrations
        = ({ content := store.content, ledger := some (store.ledger.getD []) }, .ok 0)) := by
  constructor
  · obtain ⟨last, hlast⟩ | ⟨done, failing, later, content, why, hpending, hdone, hwhy⟩ :=
      Migration.applyAll_cases (store.pending migrations) store.content
    · exact .inl (completes hdistinct hlast)
    · obtain ⟨front, rest, rfl, rfl, hrest⟩ := List.filter_eq_append_iff.mp hpending
      obtain ⟨skipped, back, rfl, hskipped, hnew, -⟩ := List.filter_eq_cons_iff.mp hrest
      -- what the ledger names between the two is passed over
      have hfront : store.pending (front ++ skipped) = store.pending front := by
        rw [pending_append, pending, pending, List.filter_eq_nil_iff.mpr hskipped, List.append_nil]
      rw [← List.append_assoc] at hdistinct ⊢
      refine .inr ⟨front ++ skipped, failing, back, rfl, stopsAt hdistinct ?_ ?_ hwhy⟩
      · exact (mem_pending.mp (List.mem_filter.mpr ⟨List.mem_singleton_self failing, hnew⟩)).2
      · rwa [hfront]
  · intro hnone
    rw [applyPending, show migrations.filter _ = [] from hnone]
    rfl

/-- The migrations of the store, and one that drops a table and then fails. -/
def brokenSchema : List (Migration Tables) :=
  schema ++ [.ofStatements "002_broken"
    [fun tables => tables.drop .auditLog, fun _ => .error (.noSuchTable "half_done")]]

/-- The empty store gets its tables and keeps all of them when the second migration fails; with its
tables in the ledger there is nothing left to do. -/
theorem applyPending_resumable_broken :
    (brokenSchema.map (·.version)).Nodup
      ∧ Store.empty.applyPending brokenSchema
        = (Store.fresh, .error (.apply "002_broken" (.noSuchTable "half_done")))
      ∧ (∃ front failing back, brokenSchema = front ++ failing :: back
        ∧ Store.empty.StopsAt front failing back (Store.empty.applyPending brokenSchema))
      ∧ Store.fresh.applyPending schema = (Store.fresh, .ok 0) := by
  have hdistinct : (brokenSchema.map (·.version)).Nodup := by decide
  have hleft : Store.empty.applyPending brokenSchema
      = (Store.fresh, .error (.apply "002_broken" (.noSuchTable "half_done"))) := rfl
  refine ⟨hdistinct, hleft, ?_, (applyPending_resumable Store.fresh (by decide)).2 rfl⟩
  refine (applyPending_resumable Store.empty hdistinct).1.resolve_left fun h => ?_
  have houtcome := h.outcome
  rw [hleft] at houtcome
  cases houtcome

end Ledgered
end MailTriage
