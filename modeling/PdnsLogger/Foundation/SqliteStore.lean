import Mathlib.Data.List.Basic

namespace PdnsLogger
namespace Foundation

universe u

/-!
# A transactional table behind one connection

SQLite as a client program sees it through `sqlite3_open_v2`, `sqlite3_exec`
and `sqlite3_close`: the rows that are committed, the rows of the open
transaction, and the state of the connection handle.  A transaction belongs to
an open connection and its pending rows belong to the transaction, so that
neither can be present without the other.

The rules are the documented ones.  `BEGIN` fails inside a transaction and
`COMMIT` outside one; an `INSERT` outside a transaction is committed at once;
closing a connection rolls its transaction back.  Any statement may also fail
for a reason of its own, with the transaction left open or rolled back.

`discarded` collects the rows that rollbacks have removed.  It has no
counterpart in SQLite and is never read.
-/

/-- The statements that matter for transactions. -/
inductive SqlCommand (Row : Type u) where
  | createTable
  | createIndex
  | begin
  | commit
  | insert (row : Row)
  deriving DecidableEq

/-- What SQLite's environment lets a statement do. -/
inductive ExecAnswer where
  | succeeds
  | fails
  | failsRollingBack
  deriving DecidableEq, Repr

/-- The result of `sqlite3_open_v2`.  A failure still leaves a handle unless
there was no memory for one. -/
inductive OpenAnswer where
  | opened
  | failed
  | outOfMemory
  deriving DecidableEq, Repr

/-- A connection handle.  An open connection may have a transaction, which is
the list of its pending rows. -/
inductive SqliteHandle (Row : Type u) where
  | null
  | failed
  | closed
  | opened (transaction : Option (List Row))
  deriving DecidableEq

/-- The table and the connection to it. -/
structure SqliteStore (Row : Type u) where
  handle : SqliteHandle Row
  committed : List Row
  discarded : List Row
  deriving DecidableEq

namespace SqliteStore

variable {Row : Type u}

def pending (store : SqliteStore Row) : List Row :=
  match store.handle with
  | .opened (some rows) => rows
  | _ => []

/-- The negation of `sqlite3_get_autocommit`. -/
def inTransaction (store : SqliteStore Row) : Bool :=
  match store.handle with
  | .opened (some _) => true
  | _ => false

/-- The connection can execute statements. -/
def isOpen (store : SqliteStore Row) : Bool :=
  match store.handle with
  | .opened _ => true
  | _ => false

/-- End the transaction of an open connection and forget its rows. -/
def rollback (store : SqliteStore Row) : SqliteStore Row :=
  match store.handle with
  | .opened (some rows) =>
      { store with handle := .opened none, discarded := store.discarded ++ rows }
  | _ => store

/-- `sqlite3_exec`: whether it succeeded, and the new state. -/
def exec (answer : ExecAnswer) (command : SqlCommand Row) (store : SqliteStore Row) :
    Bool × SqliteStore Row :=
  match store.handle, answer with
  | .opened transaction, .succeeds =>
      match command, transaction with
      | .begin, none => (true, { store with handle := .opened (some []) })
      | .begin, some _ => (false, store)
      | .commit, none => (false, store)
      | .commit, some rows =>
          (true, { store with handle := .opened none, committed := store.committed ++ rows })
      | .insert row, none => (true, { store with committed := store.committed ++ [row] })
      | .insert row, some rows => (true, { store with handle := .opened (some (rows ++ [row])) })
      | .createTable, _ => (true, store)
      | .createIndex, _ => (true, store)
  | .opened _, .fails => (false, store)
  | .opened _, .failsRollingBack => (false, store.rollback)
  | _, _ => (false, store)

/-- `sqlite3_open_v2`. -/
def connect (answer : OpenAnswer) (store : SqliteStore Row) : SqliteStore Row :=
  match answer with
  | .opened => { store with handle := .opened none }
  | .failed => { store with handle := .failed }
  | .outOfMemory => { store with handle := .null }

/-- `sqlite3_close`.  The null handle is accepted and stays null. -/
def close (store : SqliteStore Row) : SqliteStore Row :=
  match store.handle with
  | .null => store
  | _ => { store.rollback with handle := .closed }

/-! ## What each call can change -/

/-- A statement neither opens nor closes the connection, and succeeds only on
an open one. -/
theorem exec_isOpen (answer : ExecAnswer) (command : SqlCommand Row) (store : SqliteStore Row) :
    (store.exec answer command).2.isOpen = store.isOpen ∧
      ((store.exec answer command).1 = true -> store.isOpen = true) := by
  rcases store with ⟨handle, committed, discarded⟩
  cases handle with
  | opened transaction =>
      cases answer with
      | succeeds => cases transaction <;> cases command <;> exact ⟨rfl, fun _ => rfl⟩
      | fails => exact ⟨rfl, fun _ => rfl⟩
      | failsRollingBack => cases transaction <;> exact ⟨rfl, fun _ => rfl⟩
  | null => exact ⟨rfl, fun impossible => nomatch impossible⟩
  | failed => exact ⟨rfl, fun impossible => nomatch impossible⟩
  | closed => exact ⟨rfl, fun impossible => nomatch impossible⟩

theorem exec_begin {store : SqliteStore Row} (idle : store.handle = .opened none) :
    store.exec .succeeds .begin = (true, { store with handle := .opened (some []) }) := by
  simp only [exec, idle]

theorem exec_commit {store : SqliteStore Row} {rows : List Row}
    (busy : store.handle = .opened (some rows)) :
    store.exec .succeeds .commit =
      (true, { store with handle := .opened none, committed := store.committed ++ rows }) := by
  simp only [exec, busy]

/-- A transaction is open exactly when the connection holds its rows. -/
theorem inTransaction_iff (store : SqliteStore Row) :
    store.inTransaction = true ↔ Exists fun rows => store.handle = .opened (some rows) := by
  rcases store with ⟨_ | _ | _ | ⟨_ | rows⟩, committed, discarded⟩ <;> simp [inTransaction]

theorem isOpen_iff (store : SqliteStore Row) :
    store.isOpen = true ↔ Exists fun transaction => store.handle = .opened transaction := by
  rcases store with ⟨_ | _ | _ | transaction, committed, discarded⟩ <;> simp [isOpen]

def add (row : Row) (store : SqliteStore Row) : SqliteStore Row :=
  match store.handle with
  | .opened (some rows) => { store with handle := .opened (some (rows ++ [row])) }
  | _ => { store with committed := store.committed ++ [row] }

theorem exec_insert_cases (answer : ExecAnswer) (row : Row) (store : SqliteStore Row) :
    (store.exec answer (.insert row) = (true, store.add row) ∧ store.isOpen = true ∧
      answer = .succeeds) ∨
    (store.exec answer (.insert row) = (false, store.rollback) ∧ answer = .failsRollingBack) ∨
    (store.exec answer (.insert row) = (false, store) ∧ answer ≠ .failsRollingBack) := by
  rcases store with ⟨_ | _ | _ | ⟨_ | rows⟩, committed, discarded⟩ <;>
    cases answer <;> simp [exec, add, rollback, isOpen]

theorem exec_inTransaction_of_ne_begin {command : SqlCommand Row} (other : command ≠ .begin)
    (answer : ExecAnswer) {store : SqliteStore Row} (outside : store.inTransaction = false) :
    (store.exec answer command).2.inTransaction = false := by
  rcases store with ⟨_ | _ | _ | ⟨_ | rows⟩, committed, discarded⟩ <;>
    cases answer <;> cases command <;> simp_all [exec, inTransaction, rollback]

theorem pending_of_not_inTransaction {store : SqliteStore Row}
    (outside : store.inTransaction = false) : store.pending = [] := by
  rcases store with ⟨_ | _ | _ | ⟨_ | rows⟩, committed, discarded⟩
  · rfl
  · rfl
  · rfl
  · rfl
  · cases outside

@[simp] theorem inTransaction_rollback (store : SqliteStore Row) :
    store.rollback.inTransaction = false := by
  rcases store with ⟨_ | _ | _ | ⟨_ | rows⟩, committed, discarded⟩ <;> rfl

@[simp] theorem pending_rollback (store : SqliteStore Row) : store.rollback.pending = [] :=
  pending_of_not_inTransaction store.inTransaction_rollback

@[simp] theorem committed_rollback (store : SqliteStore Row) :
    store.rollback.committed = store.committed := by
  rcases store with ⟨_ | _ | _ | ⟨_ | rows⟩, committed, discarded⟩ <;> rfl

@[simp] theorem discarded_rollback (store : SqliteStore Row) :
    store.rollback.discarded = store.discarded ++ store.pending := by
  rcases store with ⟨_ | _ | _ | ⟨_ | rows⟩, committed, discarded⟩ <;> simp [rollback, pending]

@[simp] theorem inTransaction_close (store : SqliteStore Row) :
    store.close.inTransaction = false := by
  rcases store with ⟨_ | _ | _ | ⟨_ | rows⟩, committed, discarded⟩ <;> rfl

@[simp] theorem isOpen_close (store : SqliteStore Row) : store.close.isOpen = false := by
  rcases store with ⟨_ | _ | _ | ⟨_ | rows⟩, committed, discarded⟩ <;> rfl

@[simp] theorem pending_close (store : SqliteStore Row) : store.close.pending = [] :=
  pending_of_not_inTransaction store.inTransaction_close

@[simp] theorem committed_close (store : SqliteStore Row) :
    store.close.committed = store.committed := by
  rcases store with ⟨_ | _ | _ | ⟨_ | rows⟩, committed, discarded⟩ <;> rfl

@[simp] theorem discarded_close (store : SqliteStore Row) :
    store.close.discarded = store.discarded ++ store.pending := by
  rcases store with ⟨_ | _ | _ | ⟨_ | rows⟩, committed, discarded⟩ <;>
    simp [close, rollback, pending]

@[simp] theorem inTransaction_connect (answer : OpenAnswer) (store : SqliteStore Row) :
    (store.connect answer).inTransaction = false := by
  cases answer <;> rfl

@[simp] theorem pending_connect (answer : OpenAnswer) (store : SqliteStore Row) :
    (store.connect answer).pending = [] :=
  pending_of_not_inTransaction (store.inTransaction_connect answer)

@[simp] theorem inTransaction_add (row : Row) (store : SqliteStore Row) :
    (store.add row).inTransaction = store.inTransaction := by
  rcases store with ⟨_ | _ | _ | ⟨_ | rows⟩, committed, discarded⟩ <;> rfl

@[simp] theorem discarded_add (row : Row) (store : SqliteStore Row) :
    (store.add row).discarded = store.discarded := by
  rcases store with ⟨_ | _ | _ | ⟨_ | rows⟩, committed, discarded⟩ <;> rfl

theorem committed_append_pending_add (row : Row) (store : SqliteStore Row) :
    (store.add row).committed ++ (store.add row).pending =
      store.committed ++ store.pending ++ [row] := by
  rcases store with ⟨_ | _ | _ | ⟨_ | rows⟩, committed, discarded⟩ <;> simp [add, pending]

theorem pending_add_of_inTransaction (row : Row) {store : SqliteStore Row}
    (inside : store.inTransaction = true) : (store.add row).pending = store.pending ++ [row] := by
  rcases store.inTransaction_iff.mp inside with ⟨rows, handle⟩
  simp only [add, pending, handle]

end SqliteStore

end Foundation
end PdnsLogger
