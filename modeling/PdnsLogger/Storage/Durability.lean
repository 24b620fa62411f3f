import PdnsLogger.Storage.Transactions
import Mathlib.Data.List.Perm.Subperm

namespace PdnsLogger
namespace Storage

open Foundation Program

/-!
# Durability across rotation and stop

`logsqlite_rotate` and `logsqlite_stop` close the connection without a
`COMMIT`, so the rows of an open transaction are rolled back although their
inserts were reported as successful.  This module determines exactly which
runs are affected.

Every reported row is committed, pending or discarded, and as long as nothing
was discarded the committed rows followed by the pending ones are the reported
rows in order.  A row is discarded only when a transaction with rows in it is
ended by a close or by SQLite itself, and `Safe` says that this is not what a
step does.
-/

variable {Row : Type}

/-! ## What a call does to the rows -/

section Reliable

variable {env : Settings Row} (reliable : Reliable env)
include reliable

/-- The flush that may follow an insert moves rows from pending to committed
and loses none. -/
theorem dbExec_insert_rows (row : Row) (db : Database Row) :
    (dbExec env (.insert row) db).2.store.committed ++
        (dbExec env (.insert row) db).2.store.pending =
      (db.attempt env (.insert row)).2.store.committed ++
        (db.attempt env (.insert row)).2.store.pending ∧
    (dbExec env (.insert row) db).2.store.discarded =
      (db.attempt env (.insert row)).2.store.discarded := by
  cases mode : env.autocommit with
  | true =>
      rw [dbExec_store_of_autocommit mode]
      exact ⟨rfl, rfl⟩
  | false =>
      by_cases due : db.FlushDue env (.insert row)
      · have flushes := flushes_dbExec_insert reliable mode due
        have empty : (dbExec env (.insert row) db).2.store.pending = [] := by
          simp only [SqliteStore.pending, flushes.handle]
        rw [empty, List.append_nil]
        exact ⟨flushes.committed, flushes.discarded⟩
      · rw [dbExec_of_not_due due]
        exact ⟨rfl, rfl⟩

omit reliable in
/-- The status of `db_exec` reports the statement, not the flush after it. -/
theorem dbExec_status (sql : SqlCommand Row) (db : Database Row) :
    (dbExec env sql db).1 = if (db.attempt env sql).1 then .ok else .no := by
  by_cases due : db.FlushDue env sql
  · rw [dbExec_of_due due, due.1, if_pos rfl]
  · rw [dbExec_of_not_due due]

/-- `db_open` leaves nothing pending and neither commits nor loses rows. -/
theorem dbOpen_rows (answer : OpenAnswer) (db : Database Row) :
    (dbOpen env answer db).2.store.committed = db.store.committed ∧
    (dbOpen env answer db).2.store.pending = [] ∧
    (dbOpen env answer db).2.store.discarded = db.store.discarded := by
  cases answer with
  | failed => exact ⟨rfl, rfl, rfl⟩
  | outOfMemory => exact ⟨rfl, rfl, rfl⟩
  | opened =>
      cases mode : env.autocommit with
      | false =>
          have flushes := flushes_dbOpen reliable mode db
          refine ⟨?_, ?_, flushes.discarded⟩
          · have committed := flushes.committed
            rw [SqliteStore.pending_connect, List.append_nil] at committed
            exact committed
          · simp only [SqliteStore.pending, flushes.handle]
      | true =>
          have unchanged : forall (sql : SqlCommand Row) (other : Database Row),
              sql = .createTable ∨ sql = .createIndex -> other.store.isOpen = true ->
                (dbExec env sql other).2.store = other.store := by
            intro sql other creates connected
            rw [dbExec_store_of_autocommit mode, attempt_create reliable creates connected]
          have opened : (db.store.connect .opened).isOpen = true := rfl
          have same : (dbOpen env .opened db).2.store = db.store.connect .opened := by
            simp only [dbOpen, dbFlush, mode, if_true]
            rw [unchanged .createIndex _ (.inr rfl), unchanged .createTable _ (.inl rfl) opened]
            rw [unchanged .createTable _ (.inl rfl) opened]
            exact opened
          rw [same]
          exact ⟨rfl, rfl, rfl⟩

/-- A rotation discards exactly the pending rows. -/
theorem logsqliteRotate_rows (answer : OpenAnswer) (db : Database Row) :
    (logsqliteRotate env answer db).2.store.committed = db.store.committed ∧
    (logsqliteRotate env answer db).2.store.pending = [] ∧
    (logsqliteRotate env answer db).2.store.discarded =
      db.store.discarded ++ db.store.pending := by
  by_cases null : db.store.handle = .null
  · have empty : db.store.pending = [] := by
      simp only [SqliteStore.pending, null]
    rw [logsqliteRotate_of_null env answer null]
    exact ⟨rfl, empty, by rw [empty, List.append_nil]⟩
  · rw [logsqliteRotate_of_ne_null env answer null]
    have rows := dbOpen_rows reliable answer (dbClose db).2
    exact ⟨rows.1.trans db.store.committed_close, rows.2.1,
      rows.2.2.trans db.store.discarded_close⟩

end Reliable

/-! ## Accounting for the reported rows -/

/-- Every reported row is committed, pending or discarded. -/
structure Accounted (state : Logsqlite Row) : Prop where
  total : state.db.store.committed.length + state.db.store.pending.length +
    state.db.store.discarded.length = state.acknowledged.length
  kept : state.db.store.discarded = [] ->
    state.db.store.committed ++ state.db.store.pending = state.acknowledged

/-- The step does not end a transaction that has rows in it, except by a
commit. -/
def Safe (env : Settings Row) (state : Logsqlite Row) : Operation Row -> Prop
  | .insert row => env.answers state.db.calls (.insert row) = .failsRollingBack ->
      state.db.store.pending = []
  | .rotate _ => state.db.store.pending = []
  | .stop => state.db.store.pending = []

/-- Closing the connection keeps the account. -/
theorem Accounted.discard {state next : Logsqlite Row} (accounted : Accounted state)
    (committed : next.db.store.committed = state.db.store.committed)
    (pending : next.db.store.pending = [])
    (discarded : next.db.store.discarded = state.db.store.discarded ++ state.db.store.pending)
    (same : next.acknowledged = state.acknowledged) : Accounted next := by
  have total := accounted.total
  refine ⟨?_, ?_⟩
  · rw [committed, pending, discarded, same, List.length_nil, List.length_append]
    omega
  · intro nothing
    rw [discarded] at nothing
    have both := List.append_eq_nil_iff.mp nothing
    have kept := accounted.kept both.1
    rw [both.2] at kept
    rw [committed, pending, same]
    exact kept

theorem discarded_nil_iff {state next : Logsqlite Row}
    (discarded : next.db.store.discarded = state.db.store.discarded ++ state.db.store.pending) :
    next.db.store.discarded = [] ↔
      state.db.store.discarded = [] ∧ state.db.store.pending = [] := by
  rw [discarded]
  exact List.append_eq_nil_iff

theorem insert_cases {env : Settings Row} (reliable : Reliable env) (row : Row)
    {state next : Logsqlite Row}
    (landed : next = ⟨(dbExec env (.insert row) state.db).2,
      if (dbExec env (.insert row) state.db).1 = .ok then state.acknowledged ++ [row]
      else state.acknowledged, false⟩) :
    (env.answers state.db.calls (.insert row) ≠ .failsRollingBack ∧
      next.db.store.committed ++ next.db.store.pending =
        state.db.store.committed ++ state.db.store.pending ++ [row] ∧
      next.db.store.discarded = state.db.store.discarded ∧
      next.acknowledged = state.acknowledged ++ [row]) ∨
    (env.answers state.db.calls (.insert row) = .failsRollingBack ∧
      next.db.store = state.db.store.rollback ∧ next.acknowledged = state.acknowledged) ∨
    (env.answers state.db.calls (.insert row) ≠ .failsRollingBack ∧
      next.db.store = state.db.store ∧ next.acknowledged = state.acknowledged) := by
  have unreported : (state.db.attempt env (.insert row)).1 = false ->
      next.db.store = (state.db.attempt env (.insert row)).2.store ∧
        next.acknowledged = state.acknowledged := by
    intro failed
    have quiet : ¬ state.db.FlushDue env (.insert row) := by
      rintro ⟨succeeded, _⟩
      rw [failed] at succeeded
      cases succeeded
    rw [landed, dbExec_of_not_due quiet, failed]
    exact ⟨rfl, rfl⟩
  rcases state.db.store.exec_insert_cases (env.answers state.db.calls (.insert row)) row with
    ⟨added, _, answer⟩ | ⟨rolledBack, answer⟩ | ⟨failed, answer⟩
  · have rows := dbExec_insert_rows reliable row state.db
    have stored : (state.db.attempt env (.insert row)).2.store = state.db.store.add row := by
      simp only [Database.attempt, added]
    have succeeded : (state.db.attempt env (.insert row)).1 = true := by
      simp only [Database.attempt, added]
    rw [stored, SqliteStore.committed_append_pending_add, SqliteStore.discarded_add] at rows
    refine .inl ⟨?_, ?_, ?_, ?_⟩
    · rw [answer]
      decide
    · rw [landed]
      exact rows.1
    · rw [landed]
      exact rows.2
    · rw [landed, dbExec_status, if_pos succeeded]
      rfl
  · have untouched := unreported (by simp only [Database.attempt, rolledBack])
    refine .inr (.inl ⟨answer, ?_, untouched.2⟩)
    rw [untouched.1]
    simp only [Database.attempt, rolledBack]
  · have untouched := unreported (by simp only [Database.attempt, failed])
    refine .inr (.inr ⟨answer, ?_, untouched.2⟩)
    rw [untouched.1]
    simp only [Database.attempt, failed]

/-- One step keeps the account, and discards rows exactly when it is not safe. -/
theorem step_accounted {env : Settings Row} (reliable : Reliable env) {state next : Logsqlite Row}
    {operation : Operation Row} (taken : step env state operation = some next)
    (accounted : Accounted state) :
    Accounted next ∧ (next.db.store.discarded = [] ↔
      state.db.store.discarded = [] ∧ Safe env state operation) := by
  have total := accounted.total
  rcases step_cases taken with ⟨row, rfl, landed⟩ | ⟨answer, rfl, landed⟩ | ⟨rfl, landed⟩
  · rcases insert_cases reliable row landed with
      ⟨answer, rows, discarded, reported⟩ | ⟨answer, stored, reported⟩ | ⟨answer, stored, reported⟩
    · refine ⟨⟨?_, ?_⟩, ?_⟩
      · have lengths := congrArg List.length rows
        simp only [List.length_append, List.length_singleton] at lengths
        rw [discarded, reported, List.length_append, List.length_singleton]
        omega
      · intro nothing
        rw [discarded] at nothing
        rw [rows, reported, accounted.kept nothing]
      · rw [discarded]
        exact ⟨fun nothing => ⟨nothing, fun rolledBack => absurd rolledBack answer⟩, And.left⟩
    · have discarded := congrArg SqliteStore.discarded stored
      rw [SqliteStore.discarded_rollback] at discarded
      refine ⟨accounted.discard ?_ ?_ discarded reported, ?_⟩
      · rw [stored, SqliteStore.committed_rollback]
      · rw [stored, SqliteStore.pending_rollback]
      · rw [discarded_nil_iff discarded]
        exact ⟨fun both => ⟨both.1, fun _ => both.2⟩, fun both => ⟨both.1, both.2 answer⟩⟩
    · refine ⟨⟨?_, ?_⟩, ?_⟩
      · rw [stored, reported]
        exact total
      · rw [stored, reported]
        exact accounted.kept
      · rw [stored]
        exact ⟨fun nothing => ⟨nothing, fun rolledBack => absurd rolledBack answer⟩, And.left⟩
  · have rows := logsqliteRotate_rows reliable answer state.db
    subst landed
    exact ⟨accounted.discard rows.1 rows.2.1 rows.2.2 rfl, discarded_nil_iff rows.2.2⟩
  · have discarded := state.db.store.discarded_close
    subst landed
    exact ⟨accounted.discard state.db.store.committed_close state.db.store.pending_close discarded
      rfl, discarded_nil_iff discarded⟩

/-- A whole run keeps the account, and discards rows exactly when one of its
steps is not safe. -/
theorem run_accounted {env : Settings Row} (reliable : Reliable env) {state final : Logsqlite Row}
    {operations : List (Operation Row)}
    (ran : (step env).run state operations = some final) (accounted : Accounted state) :
    Accounted final ∧ (final.db.store.discarded = [] ↔
      state.db.store.discarded = [] ∧ (step env).Respects (Safe env) state operations) := by
  induction operations generalizing state with
  | nil =>
      cases Option.some.inj ran
      exact ⟨accounted, fun nothing => ⟨nothing, trivial⟩, And.left⟩
  | cons operation operations ih =>
      rcases PartialStep.run_cons_eq_some.mp ran with ⟨next, taken, rest⟩
      have first := step_accounted reliable taken accounted
      have later := ih rest first.1
      refine ⟨later.1, ?_⟩
      rw [later.2, first.2]
      constructor
      · rintro ⟨⟨nothing, safe⟩, respects⟩
        exact ⟨nothing, PartialStep.respects_cons taken safe respects⟩
      · rintro ⟨nothing, safe, respects⟩
        exact ⟨⟨nothing, safe⟩, respects next taken⟩

/-! ## Durability -/

/-- A call that closes the connection. -/
def Closes (operation : Operation Row) : Prop :=
  operation = .stop ∨ Exists fun answer => operation = .rotate answer

theorem pending_of_closes {env : Settings Row} (reliable : Reliable env)
    {state next : Logsqlite Row} {operation : Operation Row} (closes : Closes operation)
    (taken : step env state operation = some next) : next.db.store.pending = [] := by
  rcases step_cases taken with ⟨row, same, _⟩ | ⟨answer, _, landed⟩ | ⟨_, landed⟩
  · rcases closes with rfl | ⟨answer, rfl⟩ <;> cases same
  · subst landed
    exact (logsqliteRotate_rows reliable answer state.db).2.1
  · subst landed
    exact state.db.store.pending_close

/-- Once nothing is pending, the reported rows are all committed exactly when
none was discarded. -/
theorem Accounted.durable_iff {state : Logsqlite Row} (accounted : Accounted state)
    (nothing : state.db.store.pending = []) :
    state.acknowledged.Subperm state.db.store.committed ↔ state.db.store.discarded = [] := by
  constructor
  · intro included
    have total := accounted.total
    have atMost := included.length_le
    rw [nothing, List.length_nil] at total
    exact List.length_eq_zero_iff.mp (by omega)
  · intro kept
    have same := accounted.kept kept
    rw [nothing, List.append_nil] at same
    rw [same]

/-- With automatic commits every step is safe. -/
theorem respects_safe_of_autocommit {env : Settings Row} (automatic : env.autocommit = true)
    (counter : Int) (answer : OpenAnswer) (operations : List (Operation Row)) :
    (step env).Respects (Safe env) (.start env counter answer) operations := by
  refine PartialStep.respects_of_invariant (step_outside automatic) ?_
    (outside_dbOpen automatic answer _) operations
  intro state operation outside
  have nothing := SqliteStore.pending_of_not_inTransaction outside
  cases operation with
  | insert row => exact fun _ => nothing
  | rotate answer => exact nothing
  | stop => exact nothing

/-- After a rotation or a stop every reported row is in the committed table
exactly when no step so far ended a transaction with rows in it other than by
a commit.  With automatic commits this is always so. -/
theorem closed_rows_durable_iff (env : Settings Row) (reliable : Reliable env) (counter : Int)
    (operations : List (Operation Row)) (last : Operation Row) (closes : Closes last)
    (state : Logsqlite Row)
    (ran : (step env).run (.start env counter .opened) (operations ++ [last]) = some state) :
    (state.acknowledged.Subperm state.db.store.committed ↔
      (step env).Respects (Safe env) (.start env counter .opened) (operations ++ [last])) ∧
    (env.autocommit = true -> state.acknowledged.Subperm state.db.store.committed) := by
  have opened := dbOpen_rows reliable .opened (⟨⟨.null, [], []⟩, counter, 0, []⟩ : Database Row)
  have begins : Accounted (Logsqlite.start env counter .opened) := by
    refine ⟨?_, ?_⟩
    · simp only [Logsqlite.start, opened]
      rfl
    · intro _
      simp only [Logsqlite.start, opened]
      rfl
  have account := run_accounted reliable ran begins
  have nothing : state.db.store.pending = [] := by
    rcases PartialStep.run_append_eq_some.mp ran with ⟨middle, _, final⟩
    rcases PartialStep.run_cons_eq_some.mp final with ⟨next, taken, done⟩
    cases Option.some.inj done
    exact pending_of_closes reliable closes taken
  have start : (Logsqlite.start env counter .opened).db.store.discarded = [] := opened.2.2
  have durable : state.acknowledged.Subperm state.db.store.committed ↔
      (step env).Respects (Safe env) (.start env counter .opened) (operations ++ [last]) := by
    rw [account.1.durable_iff nothing, account.2]
    exact ⟨And.right, fun respects => ⟨start, respects⟩⟩
  refine ⟨durable, ?_⟩
  intro automatic
  exact durable.mpr (respects_safe_of_autocommit automatic counter .opened _)

def fullBatch : List (Operation Nat) :=
  (List.range 47).map .insert

theorem closed_rows_durable_iff_fullBatch :
    Exists fun state =>
      (step (obliging false)).run (.start (obliging false) 0 .opened) (fullBatch ++ [.stop]) =
        some state ∧
      (step (obliging false)).Respects (Safe (obliging false)) (.start (obliging false) 0 .opened)
        (fullBatch ++ [.stop]) := by
  have enabled : (((step (obliging false)).run (.start (obliging false) 0 .opened)
      (fullBatch ++ [.stop])).map fun state =>
        decide (state.acknowledged = state.db.store.committed)) = some true := by
    decide +kernel
  rcases Option.map_eq_some_iff.mp enabled with ⟨state, ran, same⟩
  refine ⟨state, ran, ?_⟩
  apply (closed_rows_durable_iff (obliging false) (reliable_obliging false) 0 fullBatch .stop
    (.inl rfl) state ran).1.mp
  rw [of_decide_eq_true same]

/-- A row that was reported as inserted is gone after the next rotation. -/
theorem rotation_discards_reported_row :
    Exists fun state =>
      (step (obliging false)).run (.start (obliging false) 0 .opened)
          ([.insert 7] ++ [.rotate .opened]) = some state ∧
        state.acknowledged = [7] ∧ state.db.store.committed = [] ∧
        ¬ state.acknowledged.Subperm state.db.store.committed := by
  have lost : ¬ List.Subperm [7] ([] : List Nat) := by
    intro included
    exact absurd included.length_le (by decide)
  exact ⟨_, rfl, rfl, rfl, lost⟩

end Storage
end PdnsLogger
