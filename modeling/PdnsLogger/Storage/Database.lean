import PdnsLogger.Foundation.SqliteStore
import PdnsLogger.Program.Basic

namespace PdnsLogger
namespace Storage

open Foundation Program

/-!
# Batched transactions

`db_exec` counts every statement it issues, and after fifty it calls
`db_flush`, which commits the open transaction and begins the next one.  Both
of these statements go through `db_exec` again and move the same counter.  The
counter is never reset by `db_open`, and a failed statement moves it without a
flush, so a flush may start at any count of fifty or more and in the middle of
`db_open`.

The recursion is modelled with an explicit depth.  `dbExecWithin_eq_some`
shows that depth two is always enough, whatever the counter and whatever
SQLite answers; `dbExec` is the resulting total function, and `dbExec_eq`
gives back the recursive equation of the source.
-/

variable {Row : Type}

/-- The option `autocommit` and the answers of `sqlite3_exec`, by the number of
calls made before. -/
structure Settings (Row : Type) where
  autocommit : Bool
  answers : Nat -> SqlCommand Row -> ExecAnswer

/-- Only inserts fail for reasons of their own; the other statements fail only
when the rules of transactions make them. -/
def Reliable (env : Settings Row) : Prop :=
  forall calls command, (forall row, command ≠ .insert row) ->
    env.answers calls command = .succeeds

/-- A database that accepts every statement the rules allow. -/
def obliging (autocommit : Bool) : Settings Row :=
  ⟨autocommit, fun _ _ => .succeeds⟩

theorem reliable_obliging (autocommit : Bool) : Reliable (obliging autocommit : Settings Row) := by
  intro calls command _
  rfl

/-- The static variables `db` and `counter`, the number of `sqlite3_exec` calls,
and each statement issued with whether it was issued inside a transaction. -/
structure Database (Row : Type) where
  store : SqliteStore Row
  counter : Int
  calls : Nat
  issued : List (SqlCommand Row × Bool)

/-! ## `db_exec` and `db_flush` -/

/-- The first half of `db_exec`: move the counter and issue the statement. -/
def Database.attempt (env : Settings Row) (sql : SqlCommand Row) (db : Database Row) :
    Bool × Database Row :=
  let result := db.store.exec (env.answers db.calls sql) sql
  (result.1, ⟨result.2, db.counter + 1, db.calls + 1,
    db.issued ++ [(sql, db.store.inTransaction)]⟩)

/-- The body of `db_flush`, for any way of executing a statement. -/
def dbFlushWith (env : Settings Row)
    (exec : SqlCommand Row -> Database Row -> Option (PdnsStatus × Database Row))
    (db : Database Row) : Option (Database Row) :=
  if env.autocommit then some db
  else do
    let db ← if db.store.inTransaction then (exec .commit db).map Prod.snd else some db
    (exec .begin db).map Prod.snd

/-- `db_exec`, with at most the given number of nested calls. -/
def dbExecWithin (env : Settings Row) :
    Nat -> SqlCommand Row -> Database Row -> Option (PdnsStatus × Database Row)
  | 0, _, _ => none
  | depth + 1, sql, db =>
      let attempted := db.attempt env sql
      if attempted.1 = false then some (.no, attempted.2)
      else if 50 ≤ attempted.2.counter then
        (dbFlushWith env (dbExecWithin env depth) { attempted.2 with counter := 0 }).map
          fun flushed => (.ok, flushed)
      else some (.ok, attempted.2)

/-- The effect of `db_flush` when neither of its statements reaches fifty. -/
def Database.flushed (env : Settings Row) (db : Database Row) : Database Row :=
  if env.autocommit then db
  else if db.store.inTransaction then ((db.attempt env .commit).2.attempt env .begin).2
  else (db.attempt env .begin).2

def Database.executed (env : Settings Row) (sql : SqlCommand Row) (db : Database Row) :
    PdnsStatus × Database Row :=
  let attempted := db.attempt env sql
  if attempted.1 = false then (.no, attempted.2)
  else if 50 ≤ attempted.2.counter then (.ok, { attempted.2 with counter := 0 }.flushed env)
  else (.ok, attempted.2)

/-- Below forty-nine a statement does not flush. -/
theorem dbExecWithin_quiet (env : Settings Row) (depth : Nat) (sql : SqlCommand Row)
    (db : Database Row) (low : db.counter < 49) :
    (dbExecWithin env (depth + 1) sql db).map Prod.snd = some (db.attempt env sql).2 := by
  have below : ¬ 50 ≤ (db.attempt env sql).2.counter := by
    change ¬ 50 ≤ db.counter + 1
    omega
  by_cases failed : (db.attempt env sql).1 = false
  · simp only [dbExecWithin, if_pos failed, Option.map_some]
  · simp only [dbExecWithin, if_neg failed, if_neg below, Option.map_some]

theorem dbFlushWith_quiet (env : Settings Row) (depth : Nat) (db : Database Row)
    (low : db.counter < 48) :
    dbFlushWith env (dbExecWithin env (depth + 1)) db = some (db.flushed env) := by
  unfold dbFlushWith Database.flushed
  by_cases automatic : env.autocommit = true
  · rw [if_pos automatic, if_pos automatic]
  · rw [if_neg automatic, if_neg automatic]
    by_cases inside : db.store.inTransaction = true
    · have still : (db.attempt env .commit).2.counter < 49 := by
        change db.counter + 1 < 49
        omega
      rw [if_pos inside, if_pos inside, dbExecWithin_quiet env depth .commit db (by omega)]
      exact dbExecWithin_quiet env depth .begin _ still
    · rw [if_neg inside, if_neg inside]
      exact dbExecWithin_quiet env depth .begin db (by omega)

/-- The mutual recursion ends after one nested flush: the counter is zero when
it starts, and its two statements cannot bring it back to fifty. -/
theorem dbExecWithin_eq_some (env : Settings Row) (depth : Nat) (sql : SqlCommand Row)
    (db : Database Row) : dbExecWithin env (depth + 2) sql db = some (db.executed env sql) := by
  rw [dbExecWithin, Database.executed]
  by_cases failed : (db.attempt env sql).1 = false
  · simp only [if_pos failed]
  · by_cases due : 50 ≤ (db.attempt env sql).2.counter
    · have low : (0 : Int) < 48 := by decide
      simp only [if_neg failed, if_pos due]
      rw [dbFlushWith_quiet env depth _ low, Option.map_some]
    · simp only [if_neg failed, if_neg due]

def dbExec (env : Settings Row) (sql : SqlCommand Row) (db : Database Row) :
    PdnsStatus × Database Row :=
  (dbExecWithin env 2 sql db).get (by rw [dbExecWithin_eq_some env 0]; rfl)

theorem dbExec_eq_executed (env : Settings Row) (sql : SqlCommand Row) (db : Database Row) :
    dbExec env sql db = db.executed env sql := by
  simp only [dbExec, dbExecWithin_eq_some env 0, Option.get_some]

def dbFlush (env : Settings Row) (db : Database Row) : Database Row :=
  if env.autocommit then db
  else
    let db := if db.store.inTransaction then (dbExec env .commit db).2 else db
    (dbExec env .begin db).2

def dbOpen (env : Settings Row) (answer : OpenAnswer) (db : Database Row) :
    PdnsStatus × Database Row :=
  let db := { db with store := db.store.connect answer }
  match answer with
  | .opened =>
      let db := (dbExec env .createTable db).2
      let db := (dbExec env .createIndex db).2
      (.ok, dbFlush env db)
  | _ => (.no, db)

def dbClose (db : Database Row) : PdnsStatus × Database Row :=
  (.ok, { db with store := db.store.close })

/-- `logsqlite_rotate`, without its lock. -/
def logsqliteRotate (env : Settings Row) (answer : OpenAnswer) (db : Database Row) :
    PdnsStatus × Database Row :=
  match db.store.handle with
  | .null => (.ok, db)
  | _ => (.ok, (dbOpen env answer (dbClose db).2).2)

/-- The statement succeeds and brings the counter to fifty. -/
def Database.FlushDue (env : Settings Row) (sql : SqlCommand Row) (db : Database Row) : Prop :=
  (db.attempt env sql).1 = true ∧ 50 ≤ db.counter + 1

theorem dbExec_of_not_due {env : Settings Row} {sql : SqlCommand Row} {db : Database Row}
    (quiet : ¬ db.FlushDue env sql) :
    dbExec env sql db =
      (if (db.attempt env sql).1 then .ok else .no, (db.attempt env sql).2) := by
  rw [dbExec_eq_executed, Database.executed]
  cases succeeded : (db.attempt env sql).1 with
  | false => rfl
  | true =>
      have below : ¬ 50 ≤ (db.attempt env sql).2.counter := fun due => quiet ⟨succeeded, due⟩
      simp only [Bool.true_eq_false, if_false, if_neg below, if_true]

theorem dbExec_of_due {env : Settings Row} {sql : SqlCommand Row} {db : Database Row}
    (due : db.FlushDue env sql) :
    dbExec env sql db = (.ok, { (db.attempt env sql).2 with counter := 0 }.flushed env) := by
  have reached : 50 ≤ (db.attempt env sql).2.counter := due.2
  simp only [dbExec_eq_executed, Database.executed, due.1, Bool.true_eq_false, if_false,
    if_pos reached]

/-- Below forty-eight neither statement of a flush triggers another one. -/
theorem dbFlush_eq_flushed (env : Settings Row) {db : Database Row} (low : db.counter < 48) :
    dbFlush env db = db.flushed env := by
  have quiet : forall sql (other : Database Row), other.counter < 49 ->
      ¬ other.FlushDue env sql := by
    intro sql other below due
    have reached := due.2
    omega
  have still : (db.attempt env .commit).2.counter < 49 := by
    change db.counter + 1 < 49
    omega
  unfold dbFlush Database.flushed
  by_cases automatic : env.autocommit = true
  · rw [if_pos automatic, if_pos automatic]
  · rw [if_neg automatic, if_neg automatic]
    by_cases inside : db.store.inTransaction = true
    · simp only [if_pos inside, dbExec_of_not_due (quiet .commit db (by omega)),
        dbExec_of_not_due (quiet .begin _ still)]
    · simp only [if_neg inside, dbExec_of_not_due (quiet .begin db (by omega))]

/-- The recursive equation of the source.  `db_exec` and `db_flush` call each other
there; the supply of nested calls that makes them functions here is never used up. -/
theorem dbExec_eq (env : Settings Row) (sql : SqlCommand Row) (db : Database Row) :
    dbExec env sql db =
      if (db.attempt env sql).1 = false then (.no, (db.attempt env sql).2)
      else if 50 ≤ (db.attempt env sql).2.counter then
        (.ok, dbFlush env { (db.attempt env sql).2 with counter := 0 })
      else (.ok, (db.attempt env sql).2) := by
  have low : ({ (db.attempt env sql).2 with counter := 0 } : Database Row).counter < 48 := by
    change (0 : Int) < 48
    decide
  rw [dbExec_eq_executed, Database.executed, dbFlush_eq_flushed env low]

/-! ## The connection -/

theorem isOpen_attempt (env : Settings Row) (sql : SqlCommand Row) (db : Database Row) :
    (db.attempt env sql).2.store.isOpen = db.store.isOpen :=
  (db.store.exec_isOpen _ _).1

theorem isOpen_flushed (env : Settings Row) (db : Database Row) :
    (db.flushed env).store.isOpen = db.store.isOpen := by
  unfold Database.flushed
  by_cases automatic : env.autocommit = true
  · rw [if_pos automatic]
  · rw [if_neg automatic]
    by_cases inside : db.store.inTransaction = true
    · rw [if_pos inside, isOpen_attempt, isOpen_attempt]
    · rw [if_neg inside, isOpen_attempt]

theorem isOpen_dbExec (env : Settings Row) (sql : SqlCommand Row) (db : Database Row) :
    (dbExec env sql db).2.store.isOpen = db.store.isOpen := by
  by_cases due : db.FlushDue env sql
  · rw [dbExec_of_due due, isOpen_flushed]
    exact isOpen_attempt env sql db
  · rw [dbExec_of_not_due due]
    exact isOpen_attempt env sql db

theorem isOpen_dbFlush (env : Settings Row) (db : Database Row) :
    (dbFlush env db).store.isOpen = db.store.isOpen := by
  unfold dbFlush
  by_cases automatic : env.autocommit = true
  · rw [if_pos automatic]
  · rw [if_neg automatic]
    by_cases inside : db.store.inTransaction = true
    · simp only [if_pos inside, isOpen_dbExec]
    · simp only [if_neg inside, isOpen_dbExec]

theorem isOpen_dbOpen (env : Settings Row) (db : Database Row) :
    (dbOpen env .opened db).2.store.isOpen = true := by
  simp only [dbOpen, isOpen_dbFlush, isOpen_dbExec]
  rfl

/-! ## The effect of a flush -/

/-- A flush issues at most two statements. -/
theorem flushed_counter_le (env : Settings Row) (db : Database Row) :
    (db.flushed env).counter ≤ db.counter + 2 := by
  unfold Database.flushed
  by_cases automatic : env.autocommit = true
  · rw [if_pos automatic]
    omega
  · rw [if_neg automatic]
    by_cases inside : db.store.inTransaction = true
    · rw [if_pos inside]
      change db.counter + 1 + 1 ≤ db.counter + 2
      omega
    · rw [if_neg inside]
      change db.counter + 1 ≤ db.counter + 2
      omega

/-- `BEGIN` was issued only outside a transaction and `COMMIT` only inside. -/
def Bracketed (issued : List (SqlCommand Row × Bool)) : Prop :=
  forall entry, entry ∈ issued ->
    (entry.1 = .begin -> entry.2 = false) ∧ (entry.1 = .commit -> entry.2 = true)

theorem Bracketed.append {issued : List (SqlCommand Row × Bool)} (bracketed : Bracketed issued)
    {sql : SqlCommand Row} {inside : Bool} (opens : sql = .begin -> inside = false)
    (closes : sql = .commit -> inside = true) : Bracketed (issued ++ [(sql, inside)]) := by
  intro entry member
  rcases List.mem_append.mp member with earlier | last
  · exact bracketed entry earlier
  · rw [List.mem_singleton.mp last]
    exact ⟨opens, closes⟩

/-- The pending rows are committed and an empty transaction is open. -/
structure Flushes (before after : Database Row) : Prop where
  handle : after.store.handle = .opened (some [])
  committed : after.store.committed = before.store.committed ++ before.store.pending
  discarded : after.store.discarded = before.store.discarded
  bracketed : Bracketed before.issued -> Bracketed after.issued
  counted : 0 ≤ before.counter -> 1 ≤ after.counter

section Reliable

variable {env : Settings Row} (reliable : Reliable env) (batched : env.autocommit = false)
include reliable

theorem attempt_begin {db : Database Row} (idle : db.store.handle = .opened none) :
    db.attempt env .begin =
      (true, ⟨{ db.store with handle := .opened (some []) }, db.counter + 1, db.calls + 1,
        db.issued ++ [(.begin, false)]⟩) := by
  have succeeds : env.answers db.calls .begin = .succeeds :=
    reliable _ _ (fun row impossible => by cases impossible)
  have outside : db.store.inTransaction = false := by
    simp only [SqliteStore.inTransaction, idle]
  simp only [Database.attempt, succeeds, SqliteStore.exec_begin idle, outside]

theorem attempt_commit {db : Database Row} {rows : List Row}
    (busy : db.store.handle = .opened (some rows)) :
    db.attempt env .commit =
      (true, ⟨{ db.store with
          handle := .opened none, committed := db.store.committed ++ rows },
        db.counter + 1, db.calls + 1, db.issued ++ [(.commit, true)]⟩) := by
  have succeeds : env.answers db.calls .commit = .succeeds :=
    reliable _ _ (fun row impossible => by cases impossible)
  have inside : db.store.inTransaction = true := db.store.inTransaction_iff.mpr ⟨rows, busy⟩
  simp only [Database.attempt, succeeds, SqliteStore.exec_commit busy, inside]

include batched

theorem flushes_flushed {db : Database Row} (connected : db.store.isOpen = true) :
    Flushes db (db.flushed env) := by
  rcases db.store.isOpen_iff.mp connected with ⟨transaction, handle⟩
  unfold Database.flushed
  rw [batched, if_neg Bool.false_ne_true]
  cases transaction with
  | none =>
      have outside : db.store.inTransaction = false := by
        simp only [SqliteStore.inTransaction, handle]
      have nothing : db.store.pending = [] := by
        simp only [SqliteStore.pending, handle]
      rw [outside, if_neg Bool.false_ne_true, attempt_begin reliable handle]
      refine ⟨rfl, ?_, rfl, ?_, ?_⟩
      · rw [nothing, List.append_nil]
      · intro bracketed
        exact bracketed.append (fun _ => rfl) (fun impossible => by cases impossible)
      · intro positive
        change 1 ≤ db.counter + 1
        omega
  | some rows =>
      have inside : db.store.inTransaction = true := db.store.inTransaction_iff.mpr ⟨rows, handle⟩
      have held : db.store.pending = rows := by
        simp only [SqliteStore.pending, handle]
      rw [if_pos inside, attempt_commit reliable handle, attempt_begin reliable rfl]
      refine ⟨rfl, ?_, rfl, ?_, ?_⟩
      · rw [held]
      · intro bracketed
        refine Bracketed.append (bracketed.append ?_ (fun _ => rfl)) (fun _ => rfl) ?_
        · intro impossible
          cases impossible
        · intro impossible
          cases impossible
      · intro positive
        change 1 ≤ db.counter + 1 + 1
        omega

/-- `BEGIN` through `db_exec`, which may flush once more on the way. -/
theorem flushes_dbExec_begin {db : Database Row} (idle : db.store.handle = .opened none) :
    Flushes db (dbExec env .begin db).2 := by
  have began := attempt_begin reliable idle
  have nothing : db.store.pending = [] := by
    simp only [SqliteStore.pending, idle]
  have bracketed : Bracketed db.issued -> Bracketed (db.issued ++ [(.begin, false)]) :=
    fun bracketed => bracketed.append (fun _ => rfl) (fun impossible => by cases impossible)
  by_cases due : db.FlushDue env .begin
  · rw [dbExec_of_due due, began]
    have nested : Flushes _ (Database.flushed env
        ⟨{ db.store with handle := .opened (some []) }, 0, db.calls + 1,
          db.issued ++ [(.begin, false)]⟩) := flushes_flushed reliable batched rfl
    refine ⟨nested.handle, ?_, nested.discarded, fun before => nested.bracketed (bracketed before),
      fun _ => nested.counted (Int.le_refl 0)⟩
    rw [nothing]
    exact nested.committed
  · rw [dbExec_of_not_due due, began]
    refine ⟨rfl, ?_, rfl, bracketed, ?_⟩
    · rw [nothing, List.append_nil]
    · intro positive
      change 1 ≤ db.counter + 1
      omega

/-- `db_flush`, as long as a `COMMIT` on the way does not itself reach fifty. -/
theorem flushes_dbFlush {db : Database Row} (connected : db.store.isOpen = true)
    (low : db.store.inTransaction = true -> db.counter < 48) :
    Flushes db (dbFlush env db) := by
  rcases db.store.isOpen_iff.mp connected with ⟨transaction, handle⟩
  cases inside : db.store.inTransaction with
  | false =>
      have idle : db.store.handle = .opened none := by
        cases transaction with
        | none => exact handle
        | some rows =>
            rw [db.store.inTransaction_iff.mpr ⟨rows, handle⟩] at inside
            cases inside
      simp only [dbFlush, batched, inside, Bool.false_eq_true, if_false]
      exact flushes_dbExec_begin reliable batched idle
  | true =>
      rw [dbFlush_eq_flushed env (low inside)]
      exact flushes_flushed reliable batched connected

/-! ## `db_open` -/

omit batched in
theorem attempt_create {db : Database Row} {sql : SqlCommand Row}
    (creates : sql = .createTable ∨ sql = .createIndex) (connected : db.store.isOpen = true) :
    db.attempt env sql =
      (true, ⟨db.store, db.counter + 1, db.calls + 1,
        db.issued ++ [(sql, db.store.inTransaction)]⟩) := by
  rcases db.store.isOpen_iff.mp connected with ⟨transaction, handle⟩
  have succeeds : env.answers db.calls sql = .succeeds := by
    apply reliable
    intro row same
    rcases creates with rfl | rfl <;> cases same
  rcases creates with rfl | rfl <;>
    cases transaction <;> simp only [Database.attempt, succeeds, SqliteStore.exec, handle]

end Reliable

/-- The connection during `db_open`: nothing is pending, and if a flush has
already opened a transaction then the counter is still small. -/
structure Preparing (base : Database Row) (bound : Int) (db : Database Row) : Prop where
  handle : db.store.handle = .opened none ∨
    (db.store.handle = .opened (some []) ∧ db.counter ≤ bound)
  committed : db.store.committed = base.store.committed
  discarded : db.store.discarded = base.store.discarded
  bracketed : Bracketed base.issued -> Bracketed db.issued
  counted : 0 ≤ base.counter -> 0 ≤ db.counter

namespace Preparing

variable {base db : Database Row} {bound : Int}

theorem isOpen (preparing : Preparing base bound db) : db.store.isOpen = true := by
  rcases preparing.handle with idle | ⟨began, _⟩
  · exact db.store.isOpen_iff.mpr ⟨none, idle⟩
  · exact db.store.isOpen_iff.mpr ⟨some [], began⟩

theorem pending (preparing : Preparing base bound db) : db.store.pending = [] := by
  rcases preparing.handle with idle | ⟨began, _⟩
  · simp only [SqliteStore.pending, idle]
  · simp only [SqliteStore.pending, began]

theorem create (preparing : Preparing base bound db) {env : Settings Row}
    (reliable : Reliable env) (batched : env.autocommit = false) {sql : SqlCommand Row}
    (creates : sql = .createTable ∨ sql = .createIndex) (low : bound < 49) (room : 1 ≤ bound) :
    Preparing base (bound + 1) (dbExec env sql db).2 := by
  have created := attempt_create reliable creates preparing.isOpen
  have bracketed : Bracketed base.issued ->
      Bracketed (db.issued ++ [(sql, db.store.inTransaction)]) := by
    intro before
    apply (preparing.bracketed before).append
    · intro same
      rcases creates with rfl | rfl <;> cases same
    · intro same
      rcases creates with rfl | rfl <;> cases same
  by_cases due : db.FlushDue env sql
  · have nested : Flushes _ (Database.flushed env
        ⟨db.store, 0, db.calls + 1, db.issued ++ [(sql, db.store.inTransaction)]⟩) :=
      flushes_flushed reliable batched preparing.isOpen
    have few := flushed_counter_le env
      ⟨db.store, 0, db.calls + 1, db.issued ++ [(sql, db.store.inTransaction)]⟩
    have within : (0 : Int) + 2 ≤ bound + 1 := by omega
    have committed := nested.committed
    rw [preparing.pending, List.append_nil, preparing.committed] at committed
    rw [dbExec_of_due due, created]
    refine ⟨.inr ⟨nested.handle, Int.le_trans few within⟩, committed,
      nested.discarded.trans preparing.discarded,
      fun before => nested.bracketed (bracketed before), ?_⟩
    intro _
    exact Int.le_trans (by decide) (nested.counted (Int.le_refl 0))
  · rw [dbExec_of_not_due due, created]
    refine ⟨?_, preparing.committed, preparing.discarded, bracketed, ?_⟩
    · rcases preparing.handle with idle | ⟨began, small⟩
      · exact .inl idle
      · refine .inr ⟨began, ?_⟩
        change db.counter + 1 ≤ bound + 1
        omega
    · intro positive
      have before := preparing.counted positive
      change 0 ≤ db.counter + 1
      omega

end Preparing

/-- A successful `db_open` leaves an empty transaction open, whatever the
counter was, and neither commits nor loses anything. -/
theorem flushes_dbOpen {env : Settings Row} (reliable : Reliable env)
    (batched : env.autocommit = false) (db : Database Row) :
    Flushes { db with store := db.store.connect .opened } (dbOpen env .opened db).2 := by
  have connected : Preparing { db with store := db.store.connect .opened } 1
      { db with store := db.store.connect .opened } :=
    ⟨.inl rfl, rfl, rfl, id, id⟩
  have table := connected.create reliable batched (.inl rfl) (by decide) (by decide)
  have index := table.create reliable batched (.inr rfl) (by decide) (by decide)
  have low : forall {opened : Database Row}, Preparing { db with store := db.store.connect .opened }
      (1 + 1 + 1) opened -> opened.store.inTransaction = true -> opened.counter < 48 := by
    intro opened preparing inside
    rcases preparing.handle with idle | ⟨_, small⟩
    · simp only [SqliteStore.inTransaction, idle, Bool.false_eq_true] at inside
    · omega
  have flushed := flushes_dbFlush reliable batched index.isOpen (low index)
  refine ⟨flushed.handle, ?_, flushed.discarded.trans index.discarded,
    fun before => flushed.bracketed (index.bracketed before),
    fun positive => flushed.counted (index.counted positive)⟩
  have committed := flushed.committed
  rw [index.pending, List.append_nil, index.committed] at committed
  exact committed.trans (List.append_nil _).symm

end Storage
end PdnsLogger
