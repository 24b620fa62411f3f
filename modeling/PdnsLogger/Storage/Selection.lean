import PdnsLogger.Storage.Worker

namespace PdnsLogger
namespace Storage

open Foundation Program Queue

/-!
# The table is a selection of what was pushed

Statements are lost in several ways: a push onto an occupied queue is dropped,
an execution may fail, a rollback takes rows out again, and a process may stop
with statements still queued.  None of this can put a row into the table that
was not pushed, store one twice, or change their order.

Nothing is assumed about the answers of SQLite here.  `storedRows` are the rows
of the table and of the open transaction, and every call of the engine leaves a
sublist of what was there before, with the row it was given at the end.
`Selected` ties them to the sequence of pushes: they come from the pushes before
the statement that is executed next.
-/

variable {Row : Type}

/-! ## What the calls do to the rows -/

def storedRows (store : SqliteStore Row) : List Row :=
  store.committed ++ store.pending

/-- The row that a statement inserts. -/
def inserted : SqlCommand Row -> List Row
  | .insert row => [row]
  | _ => []

/-- A comparison of the table before and after some calls, which have inserted the
given rows.  One that holds of every statement holds of every call that is made of
statements. -/
structure Tracks (compares : List Row -> SqliteStore Row -> SqliteStore Row -> Prop) : Prop where
  refl : forall store, compares [] store store
  trans : forall {first second before between after}, compares first before between ->
    compares second between after -> compares (first ++ second) before after
  exec : forall answer command store,
    compares (if (store.exec answer command).1 then inserted command else []) store
      (store.exec answer command).2

namespace Tracks

variable {compares : List Row -> SqliteStore Row -> SqliteStore Row -> Prop}
  (tracks : Tracks compares)
include tracks

theorem attempt (env : Settings Row) (sql : SqlCommand Row) (db : Database Row) :
    compares (if (db.attempt env sql).1 then inserted sql else []) db.store
      (db.attempt env sql).2.store :=
  tracks.exec _ sql db.store

theorem attempt_silent (env : Settings Row) {sql : SqlCommand Row} (silent : inserted sql = [])
    (db : Database Row) : compares [] db.store (db.attempt env sql).2.store := by
  have attempted := tracks.attempt env sql db
  rw [silent, ite_self] at attempted
  exact attempted

/-- Neither `COMMIT` nor `BEGIN` inserts a row. -/
theorem flushed (env : Settings Row) (db : Database Row) :
    compares [] db.store (db.flushed env).store := by
  unfold Database.flushed
  split
  · exact tracks.refl _
  · split
    · exact tracks.trans (tracks.attempt_silent env rfl db) (tracks.attempt_silent env rfl _)
    · exact tracks.attempt_silent env rfl db

theorem execution (env : Settings Row) (sql : SqlCommand Row) (db : Database Row) :
    compares (if (db.attempt env sql).1 then inserted sql else []) db.store
      (dbExec env sql db).2.store := by
  have attempted := tracks.attempt env sql db
  by_cases due : db.FlushDue env sql
  · have both := tracks.trans attempted
      (tracks.flushed env { (db.attempt env sql).2 with counter := 0 })
    rw [List.append_nil] at both
    rw [dbExec_of_due due]
    exact both
  · rw [dbExec_of_not_due due]
    exact attempted

theorem execution_silent (env : Settings Row) {sql : SqlCommand Row} (silent : inserted sql = [])
    (db : Database Row) : compares [] db.store (dbExec env sql db).2.store := by
  have executed := tracks.execution env sql db
  rw [silent, ite_self] at executed
  exact executed

theorem flush (env : Settings Row) (db : Database Row) :
    compares [] db.store (dbFlush env db).store := by
  unfold dbFlush
  split
  · exact tracks.refl _
  · split
    · exact tracks.trans (tracks.execution_silent env rfl db) (tracks.execution_silent env rfl _)
    · exact tracks.execution_silent env rfl db

/-- The statements of `db_open` insert nothing, so that only connecting matters. -/
theorem opening (env : Settings Row) (answer : OpenAnswer) (db : Database Row)
    (connected : compares [] db.store (db.store.connect answer)) :
    compares [] db.store (dbOpen env answer db).2.store := by
  cases answer with
  | failed => exact connected
  | outOfMemory => exact connected
  | opened =>
      have table : inserted (.createTable : SqlCommand Row) = [] := rfl
      have index : inserted (.createIndex : SqlCommand Row) = [] := rfl
      let connection : Database Row := { db with store := db.store.connect .opened }
      exact tracks.trans connected (tracks.trans (tracks.execution_silent env table connection)
        (tracks.trans (tracks.execution_silent env index _) (tracks.flush env _)))

end Tracks

theorem storedRows_rollback (store : SqliteStore Row) :
    (storedRows store.rollback).Sublist (storedRows store) := by
  rcases store with ⟨handle, committed, discarded⟩
  match handle with
  | .null => exact List.Sublist.refl _
  | .failed => exact List.Sublist.refl _
  | .closed => exact List.Sublist.refl _
  | .opened none => exact List.Sublist.refl _
  | .opened (some rows) =>
      exact (List.Sublist.refl committed).append (List.nil_sublist rows)

/-- A statement adds at most its own row, at the end. -/
theorem storedRows_exec (answer : ExecAnswer) (command : SqlCommand Row)
    (store : SqliteStore Row) :
    (storedRows (store.exec answer command).2).Sublist (storedRows store ++
      if (store.exec answer command).1 then inserted command else []) := by
  have kept : forall rows, (storedRows store).Sublist (storedRows store ++ rows) :=
    List.sublist_append_left _
  rcases store with ⟨handle, committed, discarded⟩
  match handle, answer with
  | .null, _ => exact kept _
  | .failed, _ => exact kept _
  | .closed, _ => exact kept _
  | .opened _, .fails => exact kept _
  | .opened _, .failsRollingBack => exact (storedRows_rollback _).trans (kept _)
  | .opened none, .succeeds =>
      cases command with
      | insert row => simp [storedRows, inserted, SqliteStore.exec, SqliteStore.pending]
      | _ => exact kept _
  | .opened (some rows), .succeeds =>
      cases command with
      | insert row => simp [storedRows, inserted, SqliteStore.exec, SqliteStore.pending]
      | commit => simp [storedRows, inserted, SqliteStore.exec, SqliteStore.pending]
      | _ => exact kept _

theorem tracks_sublist :
    Tracks fun rows (before after : SqliteStore Row) =>
      (storedRows after).Sublist (storedRows before ++ rows) where
  refl := fun store => by rw [List.append_nil]
  trans := by
    intro first second before between after left right
    rw [← List.append_assoc]
    exact right.trans (left.append (List.Sublist.refl second))
  exec := storedRows_exec

theorem storedRows_dbExec (env : Settings Row) (sql : SqlCommand Row) (db : Database Row) :
    (storedRows (dbExec env sql db).2.store).Sublist (storedRows db.store ++ inserted sql) := by
  refine (tracks_sublist.execution env sql db).trans ((List.Sublist.refl _).append ?_)
  split
  · exact List.Sublist.refl _
  · exact List.nil_sublist _

/-- Opening loses at most the rows of an abandoned transaction. -/
theorem storedRows_dbOpen (env : Settings Row) (answer : OpenAnswer) (db : Database Row) :
    (storedRows (dbOpen env answer db).2.store).Sublist (storedRows db.store) := by
  have connected : (storedRows (db.store.connect answer)).Sublist (storedRows db.store ++ []) := by
    have table : storedRows (db.store.connect answer) = db.store.committed := by
      cases answer with
      | opened => exact List.append_nil _
      | failed => exact List.append_nil _
      | outOfMemory => exact List.append_nil _
    rw [table, List.append_nil]
    exact List.sublist_append_left _ _
  have opened := tracks_sublist.opening env answer db connected
  rw [List.append_nil] at opened
  exact opened

theorem storedRows_dbClose (db : Database Row) :
    (storedRows (dbClose db).2.store).Sublist (storedRows db.store) := by
  rcases db with ⟨⟨handle, committed, discarded⟩, counter, calls, issued⟩
  match handle with
  | .null => exact List.Sublist.refl _
  | .failed => exact List.Sublist.refl _
  | .closed => exact List.Sublist.refl _
  | .opened none => exact List.Sublist.refl _
  | .opened (some rows) =>
      exact (List.Sublist.refl committed).append (List.nil_sublist rows)

/-! ## Tickets and rows -/

/-- A statement is the one pushed under its ticket. -/
def Ticketed (pushed : List Row) (statement : Statement Row) : Prop :=
  pushed[statement.ticket]? = some statement.row

theorem Ticketed.lt {pushed : List Row} {statement : Statement Row}
    (ticketed : Ticketed pushed statement) : statement.ticket < pushed.length :=
  (List.getElem?_eq_some_iff.mp ticketed).1

theorem Ticketed.append {pushed : List Row} {statement : Statement Row}
    (ticketed : Ticketed pushed statement) (more : List Row) :
    Ticketed (pushed ++ more) statement := by
  rw [Ticketed, List.getElem?_append_left ticketed.lt]
  exact ticketed

/-- The statement that is executed next, if any is under way. -/
def BackgroundPhase.current : BackgroundPhase Row -> Option (Statement Row)
  | .executing statement => some statement
  | _ => none

/-- The number of pushes before the statement that is executed next. -/
def settledPushes (state : Worker Row) (slot : Option (Statement Row)) : Nat :=
  ((state.background.current.or slot).map Statement.ticket).getD state.tickets

/-- The table holds a selection of the settled pushes.  A ticket is the position of
a statement among all pushes.  Statements wait in the order of their tickets, and
everything in the table comes from before the next one to be executed; hence a row
that is added stands behind all others, and in no execution is one repeated. -/
structure Selected (pushed : List Row) (state : Worker Row) (slot : Option (Statement Row)) :
    Prop where
  counted : state.tickets = pushed.length
  executing : forall statement, state.background.current = some statement ->
    Ticketed pushed statement
  waiting : forall statement, slot = some statement -> Ticketed pushed statement
  ordered : forall statement later, state.background.current = some statement ->
    slot = some later -> statement.ticket < later.ticket
  rows : (storedRows state.db.store).Sublist (pushed.take (settledPushes state slot))

namespace Selected

variable {env : Settings Row} {pushed : List Row} {state next : Worker Row}
  {slot after : Option (Statement Row)}

theorem start (env : Settings Row) (answer : OpenAnswer) :
    Selected [] (Worker.start env answer) none where
  counted := rfl
  executing := nofun
  waiting := nofun
  ordered := nofun
  rows := storedRows_dbOpen env answer ⟨⟨.null, [], []⟩, 0, 0, []⟩

theorem quiet (selected : Selected pushed state slot) (tickets : next.tickets = state.tickets)
    (current : next.background.current = state.background.current)
    (rows : (storedRows next.db.store).Sublist (storedRows state.db.store)) :
    Selected pushed next slot where
  counted := tickets.trans selected.counted
  executing := current ▸ selected.executing
  waiting := selected.waiting
  ordered := current ▸ selected.ordered
  rows := by
    have same : settledPushes next slot = settledPushes state slot := by
      rw [settledPushes, settledPushes, current, tickets]
    rw [same]
    exact rows.trans selected.rows

/-- The settled pushes are among all of them. -/
theorem settled_le (selected : Selected pushed state slot) :
    settledPushes state slot ≤ pushed.length := by
  rw [settledPushes]
  cases current : state.background.current with
  | some statement => exact (selected.executing statement current).lt.le
  | none =>
      cases slot with
      | some statement => exact (selected.waiting statement rfl).lt.le
      | none => exact selected.counted.le

theorem pushed_more (selected : Selected pushed state slot) (row : Row)
    (fifo : Option (Fifo (Statement Row)))
    (placed : after = slot ∧ slot ≠ none ∨ slot = none ∧ after = some ⟨state.tickets, row⟩) :
    Selected (pushed ++ [row]) { state with fifo := fifo, tickets := state.tickets + 1 } after where
  counted := by
    rw [List.length_append, List.length_singleton, ← selected.counted]
  executing := fun statement current => (selected.executing statement current).append _
  waiting := by
    intro statement waiting
    rcases placed with ⟨rfl, _⟩ | ⟨rfl, rfl⟩
    · exact (selected.waiting statement waiting).append _
    · cases waiting
      rw [Ticketed, selected.counted]
      exact List.getElem?_concat_length
  ordered := by
    intro statement later current waiting
    rcases placed with ⟨rfl, _⟩ | ⟨rfl, rfl⟩
    · exact selected.ordered statement later current waiting
    · cases waiting
      rw [selected.counted]
      exact (selected.executing statement current).lt
  rows := by
    have bound := selected.settled_le
    have same : settledPushes { state with fifo := fifo, tickets := state.tickets + 1 } after =
        settledPushes state slot := by
      rw [settledPushes, settledPushes]
      change ((state.background.current.or after).map _).getD _ = _
      cases state.background.current with
      | some statement => rfl
      | none =>
          rcases placed with ⟨rfl, occupied⟩ | ⟨rfl, rfl⟩
          · cases after with
            | none => exact absurd rfl occupied
            | some kept => rfl
          · rfl
    rw [same, List.take_append_of_le_length bound]
    exact selected.rows

/-- The statement taken from the queue is the next one. -/
theorem popped {statement : Statement Row} (selected : Selected pushed state (some statement))
    (idle : state.background.current = none) (fifo : Option (Fifo (Statement Row)))
    (record : List Nat) :
    Selected pushed
      { state with fifo := fifo, background := .executing statement, popped := record } none where
  counted := selected.counted
  executing := by
    rintro _ ⟨⟩
    exact selected.waiting statement rfl
  waiting := nofun
  ordered := nofun
  rows := by
    have rows := selected.rows
    rw [settledPushes, idle] at rows
    exact rows

/-- An execution stores at most the row pushed under its ticket. -/
theorem executed {statement : Statement Row} (selected : Selected pushed state slot)
    (executing : state.background = .executing statement) :
    Selected pushed (state.exec env statement) slot where
  counted := selected.counted
  executing := nofun
  waiting := selected.waiting
  ordered := nofun
  rows := by
    have current : state.background.current = some statement := by
      rw [executing]
      rfl
    have ticketed := selected.executing statement current
    have before := selected.rows
    rw [settledPushes, current] at before
    have next : (storedRows (state.exec env statement).db.store).Sublist
        (pushed.take (statement.ticket + 1)) := by
      rw [List.take_add_one, ticketed]
      exact (storedRows_dbExec env (.insert statement.row) state.db).trans
        (before.append (List.Sublist.refl _))
    have further : statement.ticket + 1 ≤ settledPushes (state.exec env statement) slot := by
      rw [settledPushes]
      cases slot with
      | some later => exact selected.ordered statement later current rfl
      | none =>
          change statement.ticket + 1 ≤ state.tickets
          rw [selected.counted]
          exact ticketed.lt
    exact next.trans (List.take_sublist_take_left further)

theorem push {build : Build} {row : Row} {item : Address} {stale : Option Address}
    (selected : Selected pushed state slot) (holds : state.Holds slot)
    (taken : state.push build row item stale = some next) :
    Exists fun after => next.Holds after ∧
      (next.crashed.isSome = true ∧ Selected pushed next after ∨
        next.crashed = state.crashed ∧ Selected (pushed ++ [row]) next after) := by
  have moved : Exists fun after => next.Holds after ∧
      Transition (obliging true) state slot (.push 0 row item stale) next after :=
    push_transition taken holds
  rcases moved with ⟨after, content, transition⟩
  refine ⟨after, content, ?_⟩
  cases transition with
  | stored => exact .inr ⟨rfl, selected.pushed_more row _ (.inr ⟨rfl, rfl⟩)⟩
  | dropped => exact .inr ⟨rfl, selected.pushed_more row _ (.inl ⟨rfl, nofun⟩)⟩
  | crashed =>
      exact .inl ⟨rfl, selected.quiet rfl rfl (List.Sublist.refl _)⟩

theorem move {build : Build} {move : Move Row} (selected : Selected pushed state slot)
    (holds : state.Holds slot) (taken : work build env state move = some next)
    (other : forall client row item stale, move ≠ .push client row item stale) :
    Exists fun after => next.Holds after ∧ Selected pushed next after := by
  rcases work_transition taken holds with ⟨after, content, transition⟩
  refine ⟨after, content, ?_⟩
  have same := List.Sublist.refl (storedRows state.db.store)
  cases transition with
  | stored client row item stale => exact absurd rfl (other client row item stale)
  | dropped _ client row item stale => exact absurd rfl (other client row item stale)
  | crashed _ client row item stale => exact absurd rfl (other client row item stale)
  | began _ fresh => exact selected.quiet rfl (by rw [fresh]; rfl) same
  | tested _ testing =>
      refine selected.quiet rfl ?_ same
      rw [testing]
      cases state.bgrunning <;> rfl
  | poppedNothing _ popping => exact selected.quiet rfl (by rw [popping]; rfl) same
  | poppedStatement statement fifo popping =>
      exact selected.popped (by rw [popping]; rfl) fifo _
  | executed _ statement executing => exact selected.executed executing
  | rotationClosed _ locked => exact selected.quiet rfl rfl (storedRows_dbClose state.db)
  | rotationOpened _ answer closed =>
      exact selected.quiet rfl rfl (storedRows_dbOpen env answer state.db)
  | stopClosed _ joined => exact selected.quiet rfl rfl (storedRows_dbClose state.db)
  | _ => exact selected.quiet rfl rfl same

end Selected

end Storage
end PdnsLogger
