import PdnsLogger.Storage.Durability
import PdnsLogger.Storage.Selection

namespace PdnsLogger
namespace Storage

open Foundation Program Queue

/-!
# What becomes of a statement

A statement pushed onto an empty queue is queued, then in the hands of the
background thread, and then executed.  All others are given up at once.  Here the
account is complete: at every moment of every run the statements that found the
queue empty are those executed, the one in hand and the one queued, in this order
and each of them once.

What an execution achieves depends on SQLite and on the connection, which a
rotation or `logsqlite_stop` may have closed in the meantime.  Whatever SQLite
answers, the rows that `db_exec` has reported as inserted are exactly those that are
committed, pending or were rolled back.  With automatic commits they are the table.
-/

variable {Row : Type}

/-! ## What a run adds -/

/-- The statement that a move adds to the queue. -/
def admitted (state : Worker Row) : Move Row -> Option (Statement Row)
  | .push _ row _ _ =>
      match state.fifo with
      | none => none
      | some fifo => if fifo.head = none then some ⟨state.tickets, row⟩ else none
  | _ => none

/-- The row that `db_exec` reports as inserted by a move. -/
def reported (env : Settings Row) (state : Worker Row) : Move Row -> Option Row
  | .exec =>
      match state.background with
      | .executing statement =>
          if (dbExec env (.insert statement.row) state.db).1 = .ok then some statement.row
          else none
      | _ => none
  | _ => none

def admissions (build : Build) (env : Settings Row) : Worker Row -> List (Move Row) ->
    List (Statement Row) :=
  (work build env).collected admitted

def insertions (build : Build) (env : Settings Row) : Worker Row -> List (Move Row) -> List Row :=
  (work build env).collected (reported env)

/-- The rows of the statements that were executed on an open connection. -/
def executedOpen (executed : List (Nat × Bool)) (done : List (Statement Row)) : List Row :=
  (executed.zip done).filterMap fun pair => if pair.1.2 then some pair.2.row else none

theorem executedOpen_concat {executed : List (Nat × Bool)} {done : List (Statement Row)}
    (matched : done.map Statement.ticket = executed.map Prod.fst) (entry : Nat × Bool)
    (statement : Statement Row) :
    executedOpen (executed ++ [entry]) (done ++ [statement]) =
      executedOpen executed done ++ if entry.2 then [statement.row] else [] := by
  have lengths : executed.length = done.length := by
    simpa using (congrArg List.length matched).symm
  rw [executedOpen, List.zip_append lengths, List.filterMap_append]
  congr 1
  rcases entry with ⟨ticket, isOpen⟩
  cases isOpen <;> rfl

theorem admitted_push {state : Worker Row} {slot : Option (Statement Row)}
    (holds : state.Holds slot) (client : Nat) (row : Row) (item : Address)
    (stale : Option Address) :
    admitted state (.push client row item stale) =
      if slot.isNone then some ⟨state.tickets, row⟩ else none := by
  rcases holds with ⟨fifo, present, represents⟩
  simp only [admitted, present]
  cases slot with
  | none =>
      rw [if_pos represents.1]
      rfl
  | some statement =>
      rcases represents with ⟨address, _, head, _, _⟩
      rw [if_neg (by rw [head]; nofun)]
      rfl

/-! ## The rows of the database -/

/-- The rows that are committed, pending or were rolled back. -/
def allRows (store : SqliteStore Row) : List Row :=
  storedRows store ++ store.discarded

/-- The calls between two stores have inserted the given rows and lost none but to
rollbacks. -/
structure Carries (rows : List Row) (before after : SqliteStore Row) : Prop where
  all : (allRows after).Perm (allRows before ++ rows)
  ordered : after.discarded = [] ->
    before.discarded = [] ∧ storedRows after = storedRows before ++ rows

namespace Carries

variable {first second : List Row} {before between after : SqliteStore Row}

theorem refl (store : SqliteStore Row) : Carries [] store store where
  all := by rw [List.append_nil]
  ordered := fun none => ⟨none, (List.append_nil _).symm⟩

theorem trans (left : Carries first before between) (right : Carries second between after) :
    Carries (first ++ second) before after where
  all := by
    rw [← List.append_assoc]
    exact right.all.trans (left.all.append_right second)
  ordered := by
    intro none
    have latter := right.ordered none
    have former := left.ordered latter.1
    refine ⟨former.1, ?_⟩
    rw [latter.2, former.2, List.append_assoc]

theorem of_rollback (committed : after.committed = before.committed) (pending : after.pending = [])
    (discarded : after.discarded = before.discarded ++ before.pending) :
    Carries [] before after where
  all := by
    rw [allRows, allRows, storedRows, storedRows, committed, pending, discarded, List.append_nil,
      List.append_nil, List.append_assoc]
    exact List.perm_append_comm.append_left _
  ordered := by
    intro none
    rw [discarded, List.append_eq_nil_iff] at none
    refine ⟨none.1, ?_⟩
    rw [storedRows, storedRows, committed, pending, none.2, List.append_nil, List.append_nil]

theorem of_add (stored : storedRows after = storedRows before ++ first)
    (discarded : after.discarded = before.discarded) : Carries first before after where
  all := by
    rw [allRows, allRows, stored, discarded, List.append_assoc, List.append_assoc]
    exact List.perm_append_comm.append_left _
  ordered := by
    intro none
    rw [discarded] at none
    exact ⟨none, stored⟩

theorem rollback (store : SqliteStore Row) : Carries [] store store.rollback :=
  .of_rollback store.committed_rollback store.pending_rollback store.discarded_rollback

theorem close (store : SqliteStore Row) : Carries [] store store.close :=
  .of_rollback store.committed_close store.pending_close store.discarded_close

/-- A new connection forgets a transaction, so there must be none. -/
theorem connect (answer : OpenAnswer) {store : SqliteStore Row} (nothing : store.pending = []) :
    Carries [] store (store.connect answer) := by
  apply of_rollback _ (store.pending_connect answer)
  · rw [nothing, List.append_nil]
    cases answer <;> rfl
  · cases answer <;> rfl

theorem exec (answer : ExecAnswer) (command : SqlCommand Row) (store : SqliteStore Row) :
    Carries (if (store.exec answer command).1 then inserted command else []) store
      (store.exec answer command).2 := by
  have same := refl store
  rcases store with ⟨handle, committed, discarded⟩
  match handle, answer with
  | .null, _ => exact same
  | .failed, _ => exact same
  | .closed, _ => exact same
  | .opened _, .fails => exact same
  | .opened _, .failsRollingBack => exact rollback _
  | .opened none, .succeeds =>
      cases command with
      | insert row =>
          refine of_add ?_ rfl
          simp [storedRows, inserted, SqliteStore.exec, SqliteStore.pending]
      | begin =>
          refine of_add ?_ rfl
          simp [storedRows, inserted, SqliteStore.exec, SqliteStore.pending]
      | _ => exact same
  | .opened (some rows), .succeeds =>
      cases command with
      | insert row =>
          refine of_add ?_ rfl
          simp [storedRows, inserted, SqliteStore.exec, SqliteStore.pending]
      | commit =>
          refine of_add ?_ rfl
          simp [storedRows, inserted, SqliteStore.exec, SqliteStore.pending]
      | _ => exact same

end Carries

theorem tracks_carries : Tracks (@Carries Row) where
  refl := .refl
  trans := .trans
  exec := .exec

/-- Outside a transaction a statement rolls nothing back. -/
theorem discarded_exec {store : SqliteStore Row} (outside : store.inTransaction = false)
    (answer : ExecAnswer) (command : SqlCommand Row) :
    (store.exec answer command).2.discarded = store.discarded := by
  rcases store with ⟨_ | _ | _ | ⟨_ | rows⟩, committed, discarded⟩
  · rfl
  · rfl
  · rfl
  · cases answer <;> cases command <;> rfl
  · cases outside

/-- A statement on an open connection that SQLite does not refuse is reported as
inserted, and no other. -/
theorem attempt_insert_isOpen (env : Settings Row) (row : Row) (db : Database Row) :
    ((db.attempt env (.insert row)).1 = true -> db.store.isOpen = true) ∧
      (env.answers db.calls (.insert row) = .succeeds ->
        (db.attempt env (.insert row)).1 = db.store.isOpen) := by
  refine ⟨(db.store.exec_isOpen _ (.insert row)).2, ?_⟩
  intro succeeds
  rcases db with ⟨⟨_ | _ | _ | ⟨_ | rows⟩, committed, discarded⟩, counter, calls, issued⟩ <;>
    simp_all [Database.attempt, SqliteStore.exec, SqliteStore.isOpen]

theorem inTransaction_of_not_isOpen {store : SqliteStore Row} (shut : store.isOpen = false) :
    store.inTransaction = false := by
  rcases store with ⟨_ | _ | _ | transaction, committed, discarded⟩
  · rfl
  · rfl
  · rfl
  · cases shut

section Automatic

variable {env : Settings Row} (automatic : env.autocommit = true)
include automatic

theorem discarded_dbExec (sql : SqlCommand Row) {db : Database Row}
    (outside : db.store.inTransaction = false) :
    (dbExec env sql db).2.store.discarded = db.store.discarded := by
  rw [dbExec_store_of_autocommit automatic]
  exact discarded_exec outside _ sql

theorem discarded_dbOpen (answer : OpenAnswer) (db : Database Row) :
    (dbOpen env answer db).2.store.discarded = db.store.discarded := by
  cases answer with
  | failed => rfl
  | outOfMemory => rfl
  | opened =>
      let connection : Database Row := { db with store := db.store.connect .opened }
      have idle : connection.store.inTransaction = false := rfl
      have other : (.createTable : SqlCommand Row) ≠ .begin := nofun
      have created : (dbExec env .createTable connection).2.store.inTransaction = false :=
        outside_dbExec automatic other idle
      simp only [dbOpen, dbFlush, automatic, if_true]
      exact (discarded_dbExec automatic .createIndex created).trans
        (discarded_dbExec automatic .createTable idle)

end Automatic

/-! ## The account -/

/-- Where the statements are that have found the queue empty, and where the rows of
the executed ones. -/
structure Fated (env : Settings Row) (accepted done : List (Statement Row)) (rows : List Row)
    (state : Worker Row) (slot : Option (Statement Row)) : Prop where
  settled : accepted = done ++ state.background.current.toList ++ slot.toList
  tickets : done.map Statement.ticket = state.executed.map Prod.fst
  chosen : rows.Sublist (executedOpen state.executed done)
  complete : (forall calls row, env.answers calls (.insert row) = .succeeds) ->
    rows = executedOpen state.executed done
  carried : Carries rows ⟨.null, [], []⟩ state.db.store
  automatic : env.autocommit = true ->
    state.db.store.inTransaction = false ∧ state.db.store.discarded = []
  shut : state.rotation = .closed -> state.db.store.isOpen = false

namespace Fated

variable {env : Settings Row} {accepted done : List (Statement Row)} {rows : List Row}
  {state next : Worker Row} {slot after : Option (Statement Row)}

theorem start (env : Settings Row) (answer : OpenAnswer) :
    Fated env [] [] [] (Worker.start env answer) none where
  settled := rfl
  tickets := rfl
  chosen := List.Sublist.refl []
  complete := fun _ => rfl
  carried := tracks_carries.opening env answer ⟨⟨.null, [], []⟩, 0, 0, []⟩ (.connect answer rfl)
  automatic := fun mode => ⟨outside_dbOpen mode answer _, discarded_dbOpen mode answer _⟩
  shut := nofun

theorem quiet (fated : Fated env accepted done rows state slot) (more : List (Statement Row))
    (settled : accepted ++ more = done ++ next.background.current.toList ++ after.toList)
    (executed : next.executed = state.executed)
    (carried : Carries [] state.db.store next.db.store)
    (automatic : env.autocommit = true -> next.db.store.inTransaction = false ∧
      next.db.store.discarded = state.db.store.discarded ++ state.db.store.pending)
    (shut : next.rotation = .closed -> next.db.store.isOpen = false) :
    Fated env (accepted ++ more) done rows next after where
  settled := settled
  tickets := executed ▸ fated.tickets
  chosen := executed ▸ fated.chosen
  complete := executed ▸ fated.complete
  carried := by
    have both := fated.carried.trans carried
    rw [List.append_nil] at both
    exact both
  automatic := by
    intro mode
    have before := fated.automatic mode
    have later := automatic mode
    rw [before.2, SqliteStore.pending_of_not_inTransaction before.1] at later
    exact later
  shut := shut

theorem idle (fated : Fated env accepted done rows state slot) (more : List (Statement Row))
    (settled : accepted ++ more = done ++ next.background.current.toList ++ after.toList)
    (db : next.db = state.db) (executed : next.executed = state.executed)
    (closed : next.rotation = .closed -> state.rotation = .closed) :
    Fated env (accepted ++ more) done rows next after := by
  refine fated.quiet more settled executed ?_ ?_ ?_
  · rw [db]
    exact .refl _
  · intro mode
    have before := fated.automatic mode
    rw [db, SqliteStore.pending_of_not_inTransaction before.1, List.append_nil]
    exact ⟨before.1, rfl⟩
  · rw [db]
    exact fun here => fated.shut (closed here)

theorem still (fated : Fated env accepted done rows state slot)
    (current : next.background.current = state.background.current) :
    accepted ++ [] = done ++ next.background.current.toList ++ slot.toList := by
  rw [List.append_nil, current]
  exact fated.settled

theorem closes (fated : Fated env accepted done rows state slot)
    (background : next.background = state.background) (executed : next.executed = state.executed)
    (db : next.db.store = state.db.store.close) :
    Fated env (accepted ++ []) done rows next slot := by
  refine fated.quiet [] (fated.still (by rw [background])) executed ?_ ?_ ?_
  · rw [db]
    exact .close _
  · intro _
    rw [db]
    exact ⟨state.db.store.inTransaction_close, state.db.store.discarded_close⟩
  · intro _
    rw [db]
    exact state.db.store.isOpen_close

/-- A rotation opens the connection that it has closed before. -/
theorem opens (fated : Fated env accepted done rows state slot) (closed : state.rotation = .closed)
    (answer : OpenAnswer) :
    Fated env (accepted ++ []) done rows
      { state with db := (dbOpen env answer state.db).2, rotation := .reopened } slot := by
  have before : state.db.store.pending = [] := by
    apply SqliteStore.pending_of_not_inTransaction
    exact inTransaction_of_not_isOpen (fated.shut closed)
  refine fated.quiet [] (fated.still rfl) rfl ?_ ?_ nofun
  · exact tracks_carries.opening env answer state.db (.connect answer before)
  · intro mode
    rw [before, List.append_nil]
    exact ⟨outside_dbOpen mode answer _, discarded_dbOpen mode answer _⟩

theorem executed {statement : Statement Row} (fated : Fated env accepted done rows state slot)
    (executing : state.background = .executing statement) :
    Fated env (accepted ++ []) (done ++ [statement]) (rows ++ (reported env state .exec).toList)
      (state.exec env statement) slot := by
  have isOpen := attempt_insert_isOpen env statement.row state.db
  have report : (reported env state .exec).toList =
      if (state.db.attempt env (.insert statement.row)).1 then [statement.row] else [] := by
    simp only [reported, executing, dbExec_status]
    cases (state.db.attempt env (.insert statement.row)).1 <;> rfl
  have grown := executedOpen_concat fated.tickets (statement.ticket, state.db.store.isOpen)
    statement
  rw [report]
  refine ⟨?_, ?_, ?_, ?_, ?_, ?_, ?_⟩
  · rw [fated.settled, executing]
    simp only [BackgroundPhase.current, Worker.exec, Option.toList_some, Option.toList_none,
      List.append_nil]
  · simp only [Worker.exec, List.map_append, fated.tickets, List.map_cons, List.map_nil]
  · rw [Worker.exec, grown]
    refine fated.chosen.append ?_
    split
    next succeeded =>
      rw [if_pos (isOpen.1 succeeded)]
    next => exact List.nil_sublist _
  · intro obliging
    rw [Worker.exec, grown, fated.complete obliging, isOpen.2 (obliging _ _)]
  · exact fated.carried.trans (tracks_carries.execution env (.insert statement.row) state.db)
  · intro mode
    have before := fated.automatic mode
    have other : (.insert statement.row : SqlCommand Row) ≠ .begin := by
      intro same
      cases same
    exact ⟨outside_dbExec mode other before.1,
      (discarded_dbExec mode (.insert statement.row) before.1).trans before.2⟩
  · intro closed
    exact (isOpen_dbExec env _ state.db).trans (fated.shut closed)

theorem step {build : Build} {move : Move Row} (fated : Fated env accepted done rows state slot)
    (holds : state.Holds slot) (taken : work build env state move = some next) :
    Exists fun done => Exists fun after => next.Holds after ∧
      Fated env (accepted ++ (admitted state move).toList) done
        (rows ++ (reported env state move).toList) next after := by
  rcases work_transition taken holds with ⟨after, content, transition⟩
  -- Only an execution reports a row.
  have silent : (reported env state move).toList = [] -> forall {done after},
      Fated env (accepted ++ (admitted state move).toList) done rows next after ->
        Fated env (accepted ++ (admitted state move).toList) done
          (rows ++ (reported env state move).toList) next after := by
    intro none done after kept
    rw [none, List.append_nil]
    exact kept
  cases transition with
  | stored client row item stale =>
      refine ⟨done, _, content, silent rfl ?_⟩
      rw [admitted_push holds]
      refine fated.idle _ ?_ rfl rfl id
      rw [fated.settled]
      simp
  | dropped kept client row item stale =>
      refine ⟨done, _, content, silent rfl ?_⟩
      rw [admitted_push holds]
      exact fated.idle [] (fated.still rfl) rfl rfl id
  | crashed kept client row item stale =>
      refine ⟨done, _, content, silent rfl ?_⟩
      rw [admitted_push holds]
      exact fated.idle [] (fated.still rfl) rfl rfl id
  | began _ fresh =>
      refine ⟨done, slot, content, silent rfl (fated.idle [] (fated.still ?_) rfl rfl id)⟩
      rw [fresh]
      rfl
  | tested _ testing =>
      refine ⟨done, slot, content, silent rfl (fated.idle [] (fated.still ?_) rfl rfl id)⟩
      rw [testing]
      cases state.bgrunning <;> rfl
  | poppedNothing _ popping =>
      refine ⟨done, none, content, silent rfl (fated.idle [] (fated.still ?_) rfl rfl id)⟩
      rw [popping]
      rfl
  | poppedStatement statement fifo popping =>
      refine ⟨done, none, content, silent rfl (fated.idle [] ?_ rfl rfl id)⟩
      rw [fated.settled, popping]
      simp [BackgroundPhase.current]
  | executed _ statement executing =>
      exact ⟨done ++ [statement], slot, content, fated.executed executing⟩
  | rotationClosed _ locked =>
      exact ⟨done, slot, content, silent rfl (fated.closes rfl rfl rfl)⟩
  | rotationOpened _ answer closed =>
      exact ⟨done, slot, content, silent rfl (fated.opens closed answer)⟩
  | stopClosed _ joined =>
      exact ⟨done, slot, content, silent rfl (fated.closes rfl rfl rfl)⟩
  | rotationLocked =>
      exact ⟨done, slot, content, silent rfl (fated.idle [] (fated.still rfl) rfl rfl nofun)⟩
  | rotationUnlocked =>
      exact ⟨done, slot, content, silent rfl (fated.idle [] (fated.still rfl) rfl rfl nofun)⟩
  | _ => exact ⟨done, slot, content, silent rfl (fated.idle [] (fated.still rfl) rfl rfl id)⟩

theorem run {build : Build} {moves : List (Move Row)}
    (fated : Fated env accepted done rows state slot) (holds : state.Holds slot)
    (ran : (work build env).run state moves = some next) :
    Exists fun done => Exists fun after => next.Holds after ∧
      Fated env (accepted ++ admissions build env state moves) done
        (rows ++ insertions build env state moves) next after := by
  refine PartialStep.run_collects
    (fun accepted rows state => Exists fun done => Exists fun slot => state.Holds slot ∧
      Fated env accepted done rows state slot) ?_ ran ⟨done, slot, holds, fated⟩
  rintro _ _ _ _ _ taken ⟨_, _, content, kept⟩
  exact kept.step content taken

end Fated

/-- At every moment of every run the statements that found the queue empty are
those executed, the one in hand and the one queued, in the order of their pushes
and each once.  Whatever SQLite answers, the rows reported as inserted come from
executions on an open connection, are all of these when no insert is refused, and
are those committed, pending or rolled back; in their order as long as nothing was
rolled back, and all of them committed when commits are automatic. -/
theorem statements_accounted (build : Build) (env : Settings Row) (answer : OpenAnswer)
    (moves : List (Move Row)) (final : Worker Row)
    (ran : (work build env).run (.start env answer) moves = some final) :
    Exists fun done => Exists fun slot =>
      final.Holds slot ∧
      admissions build env (.start env answer) moves =
        done ++ final.background.current.toList ++ slot.toList ∧
      done.map Statement.ticket = final.executed.map Prod.fst ∧
      (insertions build env (.start env answer) moves).Sublist (executedOpen final.executed done) ∧
      ((forall calls row, env.answers calls (.insert row) = .succeeds) ->
        insertions build env (.start env answer) moves = executedOpen final.executed done) ∧
      (allRows final.db.store).Perm (insertions build env (.start env answer) moves) ∧
      (final.db.store.discarded = [] ->
        storedRows final.db.store = insertions build env (.start env answer) moves) ∧
      (env.autocommit = true ->
        final.db.store.committed = insertions build env (.start env answer) moves) := by
  rcases (Fated.start env answer).run (Worker.start_holds _ _) ran with ⟨done, slot, content, fated⟩
  rw [List.nil_append, List.nil_append] at fated
  have ordered : final.db.store.discarded = [] ->
      storedRows final.db.store = insertions build env (.start env answer) moves :=
    fun none => (fated.carried.ordered none).2
  refine ⟨done, slot, content, fated.settled, fated.tickets, fated.chosen, fated.complete,
    fated.carried.all, ordered, ?_⟩
  intro mode
  have outside := fated.automatic mode
  have stored := ordered outside.2
  rw [storedRows, SqliteStore.pending_of_not_inTransaction outside.1, List.append_nil] at stored
  exact stored

/-- Three pushes, of which the second finds the queue occupied, and a rotation after
the first row. -/
def crowdedQueue : List (Move Nat) :=
  [.begin, .push 0 10 100 none, .push 1 11 200 none, .test, .pop, .exec, .push 1 12 300 none,
    .rotateLock, .rotateClose, .rotateOpen .opened, .rotateUnlock, .test, .pop, .exec]

theorem statements_accounted_crowdedQueue :
    Exists fun final => Exists fun done => Exists fun slot =>
      (work .release (obliging false)).run (.start (obliging false) .opened) crowdedQueue =
        some final ∧
      final.Holds slot ∧
      admissions .release (obliging false) (.start (obliging false) .opened) crowdedQueue =
        done ++ final.background.current.toList ++ slot.toList ∧
      (allRows final.db.store).Perm (executedOpen final.executed done) ∧
      final.db.store.pending = [12] ∧ final.db.store.discarded = [10] := by
  have enabled : (((work .release (obliging false)).run (.start (obliging false) .opened)
      crowdedQueue).map fun final => (final.db.store.pending, final.db.store.discarded)) = some ([12], [10]) := by
    decide +kernel
  rcases Option.map_eq_some_iff.mp enabled with ⟨final, ran, stored⟩
  rcases statements_accounted .release (obliging false) .opened crowdedQueue final ran with
    ⟨done, slot, content, settled, _, _, complete, rows, _, _⟩
  refine ⟨final, done, slot, ran, content, settled, ?_, congrArg Prod.fst stored,
    congrArg Prod.snd stored⟩
  rw [← complete fun _ _ => rfl]
  exact rows

end Storage
end PdnsLogger
