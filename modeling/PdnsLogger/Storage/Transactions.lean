import PdnsLogger.Foundation.PartialRuns
import PdnsLogger.Storage.Database

namespace PdnsLogger
namespace Storage

open Foundation Program

/-!
# Transactions over whole runs

The background thread inserts one statement after another, and a rotation may
close and reopen the connection at any point of a batch.  This module follows
such runs from the `db_open` of `logsqlite_init`.

Two invariants are carried along.  `Bracketed` says that every `BEGIN` and
every `COMMIT` was issued where SQLite accepts it; it needs nothing about the
counter, because a flush reads the state of the transaction itself.  `Window`
relates the pending rows to the counter and bounds them.
-/

variable {Row : Type}

/-! ## Runs of the engine -/

/-- One call from outside, with the answer of `sqlite3_open_v2` to a rotation. -/
inductive Operation (Row : Type) where
  | insert (row : Row)
  | rotate (answer : OpenAnswer)
  | stop

/-- The database, the rows whose insertion was reported as successful, and
whether the engine was stopped. -/
structure Logsqlite (Row : Type) where
  db : Database Row
  acknowledged : List Row
  stopped : Bool

/-- The state after the `db_open` of `logsqlite_init`, entered at any count. -/
def Logsqlite.start (env : Settings Row) (counter : Int) (answer : OpenAnswer) : Logsqlite Row :=
  ⟨(dbOpen env answer ⟨⟨.null, [], []⟩, counter, 0, []⟩).2, [], false⟩

/-- One step.  Nothing follows `logsqlite_stop`. -/
def step (env : Settings Row) : PartialStep (Logsqlite Row) (Operation Row) :=
  fun state operation =>
    if state.stopped then none
    else
      match operation with
      | .insert row =>
          let result := dbExec env (.insert row) state.db
          some ⟨result.2,
            if result.1 = .ok then state.acknowledged ++ [row] else state.acknowledged, false⟩
      | .rotate answer =>
          some ⟨(logsqliteRotate env answer state.db).2, state.acknowledged, false⟩
      | .stop => some ⟨(dbClose state.db).2, state.acknowledged, true⟩

/-- Everything a step can do. -/
theorem step_cases {env : Settings Row} {state next : Logsqlite Row} {operation : Operation Row}
    (taken : step env state operation = some next) :
    (Exists fun row => operation = .insert row ∧
      next = ⟨(dbExec env (.insert row) state.db).2,
        if (dbExec env (.insert row) state.db).1 = .ok then state.acknowledged ++ [row]
        else state.acknowledged, false⟩) ∨
    (Exists fun answer => operation = .rotate answer ∧
      next = ⟨(logsqliteRotate env answer state.db).2, state.acknowledged, false⟩) ∨
    (operation = .stop ∧ next = ⟨(dbClose state.db).2, state.acknowledged, true⟩) := by
  unfold step at taken
  by_cases stopped : state.stopped = true
  · rw [if_pos stopped] at taken
    cases taken
  · rw [if_neg stopped] at taken
    cases operation with
    | insert row => exact .inl ⟨row, rfl, (Option.some.inj taken).symm⟩
    | rotate answer => exact .inr (.inl ⟨answer, rfl, (Option.some.inj taken).symm⟩)
    | stop => exact .inr (.inr ⟨rfl, (Option.some.inj taken).symm⟩)

/-- A rotation reopens every connection but the null one. -/
theorem logsqliteRotate_of_ne_null (env : Settings Row) (answer : OpenAnswer) {db : Database Row}
    (present : db.store.handle ≠ .null) :
    logsqliteRotate env answer db = (.ok, (dbOpen env answer (dbClose db).2).2) := by
  unfold logsqliteRotate
  split
  next null => exact absurd null present
  next => rfl

theorem logsqliteRotate_of_null (env : Settings Row) (answer : OpenAnswer) {db : Database Row}
    (null : db.store.handle = .null) : logsqliteRotate env answer db = (.ok, db) := by
  simp only [logsqliteRotate, null]

theorem flushes_dbExec_insert {env : Settings Row} (reliable : Reliable env)
    (batched : env.autocommit = false) {row : Row} {db : Database Row}
    (due : db.FlushDue env (.insert row)) :
    Flushes { (db.attempt env (.insert row)).2 with counter := 0 }
      (dbExec env (.insert row) db).2 := by
  rw [dbExec_of_due due]
  have kept := db.store.exec_isOpen (env.answers db.calls (.insert row)) (.insert row)
  exact flushes_flushed reliable batched (kept.1.trans (kept.2 due.1))

/-! ## Transactions are well bracketed -/

theorem bracketed_dbExec_insert {env : Settings Row} (reliable : Reliable env)
    (batched : env.autocommit = false) (row : Row) {db : Database Row}
    (bracketed : Bracketed db.issued) : Bracketed (dbExec env (.insert row) db).2.issued := by
  have attempted : Bracketed (db.attempt env (.insert row)).2.issued := by
    refine Bracketed.append bracketed ?_ ?_
    · intro impossible
      cases impossible
    · intro impossible
      cases impossible
  by_cases due : db.FlushDue env (.insert row)
  · exact (flushes_dbExec_insert reliable batched due).bracketed attempted
  · rw [dbExec_of_not_due due]
    exact attempted

theorem bracketed_dbOpen {env : Settings Row} (reliable : Reliable env)
    (batched : env.autocommit = false) (answer : OpenAnswer) {db : Database Row}
    (bracketed : Bracketed db.issued) : Bracketed (dbOpen env answer db).2.issued := by
  cases answer with
  | opened => exact (flushes_dbOpen reliable batched db).bracketed bracketed
  | failed => exact bracketed
  | outOfMemory => exact bracketed

theorem step_bracketed {env : Settings Row} (reliable : Reliable env)
    (batched : env.autocommit = false) (state : Logsqlite Row) (operation : Operation Row)
    (next : Logsqlite Row) (taken : step env state operation = some next)
    (bracketed : Bracketed state.db.issued) : Bracketed next.db.issued := by
  rcases step_cases taken with ⟨row, _, rfl⟩ | ⟨answer, _, rfl⟩ | ⟨_, rfl⟩
  · exact bracketed_dbExec_insert reliable batched row bracketed
  · by_cases null : state.db.store.handle = .null
    · rw [logsqliteRotate_of_null env answer null]
      exact bracketed
    · rw [logsqliteRotate_of_ne_null env answer null]
      exact bracketed_dbOpen reliable batched answer bracketed
  · exact bracketed

/-- `BEGIN` is issued only outside a transaction and `COMMIT` only inside one,
a transaction is open after every successful `db_open` and after every insert
that triggered a flush, and the recursion of `db_exec` ends at depth two. -/
theorem transactions_wellFormed (env : Settings Row) (reliable : Reliable env)
    (batched : env.autocommit = false) (counter : Int) (answer : OpenAnswer)
    (operations : List (Operation Row)) (state : Logsqlite Row)
    (ran : (step env).run (.start env counter answer) operations = some state) :
    Bracketed state.db.issued ∧
    (answer = .opened -> (Logsqlite.start env counter answer).db.store.inTransaction = true) ∧
    (forall next, step env state (.rotate .opened) = some next ->
      state.db.store.handle ≠ .null -> next.db.store.inTransaction = true) ∧
    (forall row next, step env state (.insert row) = some next ->
      state.db.FlushDue env (.insert row) -> next.db.store.inTransaction = true) ∧
    (forall (other : Settings Row) depth sql db,
      dbExecWithin other (depth + 2) sql db = some (dbExec other sql db)) := by
  have inside : forall {before after : Database Row}, Flushes before after ->
      after.store.inTransaction = true := by
    intro before after flushes
    exact after.store.inTransaction_iff.mpr ⟨[], flushes.handle⟩
  refine ⟨?_, ?_, ?_, ?_, ?_⟩
  · refine PartialStep.run_invariant (step_bracketed reliable batched) ran ?_
    apply bracketed_dbOpen reliable batched
    intro entry member
    cases member
  · intro opened
    subst opened
    exact inside (flushes_dbOpen reliable batched _)
  · intro next taken present
    rcases step_cases taken with ⟨row, impossible, _⟩ | ⟨reply, same, rfl⟩ | ⟨impossible, _⟩
    · cases impossible
    · cases same
      rw [logsqliteRotate_of_ne_null env .opened present]
      exact inside (flushes_dbOpen reliable batched _)
    · cases impossible
  · intro row next taken due
    rcases step_cases taken with ⟨inserted, same, rfl⟩ | ⟨reply, impossible, _⟩ | ⟨impossible, _⟩
    · cases same
      exact inside (flushes_dbExec_insert reliable batched due)
    · cases impossible
    · cases impossible
  · intro other depth sql db
    rw [dbExecWithin_eq_some, dbExec_eq_executed]

/-- Batched inserts, some of which fail and take their transaction with them. -/
def fragileInserts : Settings Nat where
  autocommit := false
  answers := fun calls command =>
    match command with
    | .insert _ => if calls % 7 = 0 then .failsRollingBack else .succeeds
    | _ => .succeeds

theorem fragileInserts_reliable : Reliable fragileInserts := by
  intro calls command other
  cases command with
  | insert row => exact absurd rfl (other row)
  | createTable => rfl
  | createIndex => rfl
  | begin => rfl
  | commit => rfl

def rotatedInserts : List (Operation Nat) :=
  [.insert 1, .insert 2, .rotate .opened, .insert 3, .rotate .opened, .insert 4]

theorem transactions_wellFormed_rotatedInserts :
    Exists fun state =>
      (step fragileInserts).run (.start fragileInserts 47 .opened) rotatedInserts = some state ∧
        Bracketed state.db.issued := by
  have enabled : ((step fragileInserts).run (.start fragileInserts 47 .opened)
      rotatedInserts).isSome = true := by
    decide +kernel
  rcases Option.isSome_iff_exists.mp enabled with ⟨state, ran⟩
  exact ⟨state, ran, (transactions_wellFormed fragileInserts fragileInserts_reliable rfl 47
    .opened rotatedInserts state ran).1⟩

/-! ## The uncommitted window -/

/-- Every pending row has moved the counter, and so has the `BEGIN` before
them. -/
structure Window (db : Database Row) : Prop where
  positive : 0 ≤ db.counter
  counted : db.store.inTransaction = true -> db.store.pending.length + 1 ≤ db.counter
  bounded : db.store.pending.length ≤ 48

namespace Window

theorem of_flushes {before after : Database Row} (flushes : Flushes before after)
    (positive : 0 ≤ before.counter) : Window after := by
  have counted := flushes.counted positive
  have empty : after.store.pending = [] := by
    simp only [SqliteStore.pending, flushes.handle]
  refine ⟨by omega, ?_, ?_⟩
  · intro _
    rw [empty, List.length_nil]
    omega
  · rw [empty]
    exact Nat.zero_le 48

theorem of_not_inTransaction {db : Database Row} (outside : db.store.inTransaction = false)
    (positive : 0 ≤ db.counter) : Window db := by
  refine ⟨positive, ?_, ?_⟩
  · intro inside
    rw [outside] at inside
    cases inside
  · rw [SqliteStore.pending_of_not_inTransaction outside]
    exact Nat.zero_le 48

theorem attempt_insert {env : Settings Row} {db : Database Row} (window : Window db) (row : Row)
    (quiet : ¬ db.FlushDue env (.insert row)) : Window (db.attempt env (.insert row)).2 := by
  have positive := window.positive
  have later : 0 ≤ (db.attempt env (.insert row)).2.counter := by
    change 0 ≤ db.counter + 1
    omega
  rcases db.store.exec_insert_cases (env.answers db.calls (.insert row)) row with
    ⟨added, _, _⟩ | ⟨rolledBack, _⟩ | ⟨failed, _⟩
  · have stored : (db.attempt env (.insert row)).2.store = db.store.add row := by
      simp only [Database.attempt, added]
    have below : db.counter + 1 < 50 := by
      apply Int.not_le.mp
      intro due
      exact quiet ⟨by simp only [Database.attempt, added], due⟩
    cases inside : db.store.inTransaction with
    | false =>
        refine of_not_inTransaction ?_ later
        rw [stored, SqliteStore.inTransaction_add, inside]
    | true =>
        have counted := window.counted inside
        have longer : (db.attempt env (.insert row)).2.store.pending.length =
            db.store.pending.length + 1 := by
          rw [stored, SqliteStore.pending_add_of_inTransaction row inside, List.length_append,
            List.length_singleton]
        refine ⟨later, ?_, ?_⟩
        · intro _
          rw [longer]
          change _ ≤ db.counter + 1
          omega
        · omega
  · refine of_not_inTransaction ?_ later
    simp only [Database.attempt, rolledBack, SqliteStore.inTransaction_rollback]
  · have stored : (db.attempt env (.insert row)).2.store = db.store := by
      simp only [Database.attempt, failed]
    refine ⟨later, ?_, ?_⟩
    · rw [stored]
      intro inside
      have counted := window.counted inside
      change _ ≤ db.counter + 1
      omega
    · rw [stored]
      exact window.bounded

theorem dbOpen {env : Settings Row} (reliable : Reliable env) (batched : env.autocommit = false)
    (answer : OpenAnswer) {db : Database Row} (positive : 0 ≤ db.counter) :
    Window (dbOpen env answer db).2 := by
  cases answer with
  | opened => exact of_flushes (flushes_dbOpen reliable batched db) positive
  | failed => exact of_not_inTransaction rfl positive
  | outOfMemory => exact of_not_inTransaction rfl positive

end Window

theorem step_window {env : Settings Row} (reliable : Reliable env)
    (batched : env.autocommit = false) (state : Logsqlite Row) (operation : Operation Row)
    (next : Logsqlite Row) (taken : step env state operation = some next)
    (window : Window state.db) : Window next.db := by
  rcases step_cases taken with ⟨row, _, rfl⟩ | ⟨answer, _, rfl⟩ | ⟨_, rfl⟩
  · by_cases due : state.db.FlushDue env (.insert row)
    · exact .of_flushes (flushes_dbExec_insert reliable batched due) (Int.le_refl 0)
    · rw [dbExec_of_not_due due]
      exact window.attempt_insert row due
  · by_cases null : state.db.store.handle = .null
    · rw [logsqliteRotate_of_null env answer null]
      exact window
    · rw [logsqliteRotate_of_ne_null env answer null]
      exact .dbOpen reliable batched answer window.positive
  · exact .of_not_inTransaction state.db.store.inTransaction_close window.positive

section Automatic

variable {env : Settings Row} (automatic : env.autocommit = true)
include automatic

/-- With automatic commits a flush does nothing. -/
theorem dbExec_store_of_autocommit (sql : SqlCommand Row) (db : Database Row) :
    (dbExec env sql db).2.store = (db.attempt env sql).2.store := by
  by_cases due : db.FlushDue env sql
  · rw [dbExec_of_due due]
    simp only [Database.flushed, if_pos automatic]
  · rw [dbExec_of_not_due due]

theorem outside_dbExec {sql : SqlCommand Row} (other : sql ≠ .begin) {db : Database Row}
    (outside : db.store.inTransaction = false) :
    (dbExec env sql db).2.store.inTransaction = false := by
  rw [dbExec_store_of_autocommit automatic]
  exact SqliteStore.exec_inTransaction_of_ne_begin other _ outside

theorem outside_dbOpen (answer : OpenAnswer) (db : Database Row) :
    (dbOpen env answer db).2.store.inTransaction = false := by
  cases answer with
  | opened =>
      simp only [dbOpen, dbFlush, automatic, if_true]
      apply outside_dbExec automatic (fun impossible => by cases impossible)
      apply outside_dbExec automatic (fun impossible => by cases impossible)
      rfl
  | failed => rfl
  | outOfMemory => rfl

theorem step_outside (state : Logsqlite Row) (operation : Operation Row) (next : Logsqlite Row)
    (taken : step env state operation = some next)
    (outside : state.db.store.inTransaction = false) : next.db.store.inTransaction = false := by
  rcases step_cases taken with ⟨row, _, rfl⟩ | ⟨answer, _, rfl⟩ | ⟨_, rfl⟩
  · exact outside_dbExec automatic (fun impossible => by cases impossible) outside
  · by_cases null : state.db.store.handle = .null
    · rw [logsqliteRotate_of_null env answer null]
      exact outside
    · rw [logsqliteRotate_of_ne_null env answer null]
      exact outside_dbOpen automatic answer _
  · exact state.db.store.inTransaction_close

end Automatic

/-- Between calls at most forty-eight rows are not yet committed, and none with
automatic commits. -/
theorem pending_bounded (env : Settings Row) (reliable : Reliable env) (answer : OpenAnswer)
    (operations : List (Operation Row)) (state : Logsqlite Row)
    (ran : (step env).run (.start env 0 answer) operations = some state) :
    (env.autocommit = false -> state.db.store.pending.length ≤ 48) ∧
    (env.autocommit = true -> state.db.store.pending = []) := by
  constructor
  · intro batched
    exact (PartialStep.run_invariant (step_window reliable batched) ran
      (.dbOpen reliable batched answer (Int.le_refl 0))).bounded
  · intro automatic
    apply SqliteStore.pending_of_not_inTransaction
    exact PartialStep.run_invariant (step_outside automatic) ran
      (outside_dbOpen automatic answer _)

theorem pending_bounded_rotatedInserts :
    Exists fun state =>
      (step fragileInserts).run (.start fragileInserts 0 .opened) rotatedInserts = some state ∧
        state.db.store.pending.length ≤ 48 := by
  have enabled : ((step fragileInserts).run (.start fragileInserts 0 .opened)
      rotatedInserts).isSome = true := by
    decide +kernel
  rcases Option.isSome_iff_exists.mp enabled with ⟨state, ran⟩
  exact ⟨state, ran, (pending_bounded fragileInserts fragileInserts_reliable .opened
    rotatedInserts state ran).1 rfl⟩

end Storage
end PdnsLogger
