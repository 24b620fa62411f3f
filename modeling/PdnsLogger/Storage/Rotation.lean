import PdnsLogger.Storage.Worker

namespace PdnsLogger
namespace Storage

open Foundation Program Queue

/-!
# Rotation and execution

`logsqlite_rotate` takes the lock of the queue while it closes and reopens the
database.  This keeps the background thread from popping, but the thread
releases that lock before it executes what it has popped, and an execution
needs no lock.  A statement popped before the rotation can therefore run
while the database is closed.

`Guarded` is the missing protection as a condition on the moves of a run: the
database is closed only while nothing is popped and unexecuted, and reopening
succeeds.  Runs that meet it execute every popped statement once and on an
open connection, and a move that does not meet it is one move away from an
execution on a closed connection.
-/

variable {Row : Type} {env : Settings Row}

/-- The database is not closed under a popped statement, and reopening it
succeeds. -/
def Guarded (state : Worker Row) : Move Row -> Prop
  | .rotateClose => forall statement, state.background ≠ .executing statement
  | .rotateOpen answer => answer = .opened
  | _ => True

/-- While the background thread can still execute, the connection is open
except between the two calls of a rotation, and then nothing is popped. -/
structure Connected (state : Worker Row) : Prop where
  connected : state.background = .exited ∨ state.rotation = .closed ∨
    state.db.store.isOpen = true
  excluded : state.rotation = .closed -> forall statement,
    state.background ≠ .executing statement
  succeeded : forall entry, entry ∈ state.executed -> entry.2 = true

namespace Connected

theorem start (env : Settings Row) : Connected (Worker.start env .opened) where
  connected := .inr (.inr (isOpen_dbOpen env _))
  excluded := by
    intro impossible
    cases impossible
  succeeded := by
    intro entry member
    cases member

variable {state next : Worker Row} {slot after : Option (Statement Row)} {move : Move Row}

theorem isOpen (connected : Connected state) (running : state.background ≠ .exited)
    (present : state.rotation ≠ .closed) : state.db.store.isOpen = true := by
  rcases connected.connected with exited | closed | opened
  · exact absurd exited running
  · exact absurd closed present
  · exact opened

theorem advance (connected : Connected state) (running : state.background ≠ .exited)
    {fifo : Option (Fifo (Statement Row))} {bgrunning : Bool} {background : BackgroundPhase Row}
    (idle : forall statement, background ≠ .executing statement) :
    Connected { state with fifo := fifo, bgrunning := bgrunning, background := background } where
  connected := by
    rcases connected.connected with exited | closed | opened
    · exact absurd exited running
    · exact .inr (.inl closed)
    · exact .inr (.inr opened)
  excluded := fun _ => idle
  succeeded := connected.succeeded

theorem executed {statement : Statement Row} (connected : Connected state)
    (executing : state.background = .executing statement) :
    Connected (state.exec env statement) := by
  have present : state.rotation ≠ .closed := by
    intro closed
    exact connected.excluded closed statement executing
  have opened := connected.isOpen (by rw [executing]; exact nofun) present
  refine ⟨.inr (.inr ?_), fun _ _ => nofun, ?_⟩
  · rw [Worker.exec, isOpen_dbExec]
    exact opened
  · intro entry member
    rcases List.mem_append.mp member with earlier | last
    · exact connected.succeeded entry earlier
    · rw [List.mem_singleton.mp last]
      exact opened

/-- Every guarded transition keeps the connection open where it is needed. -/
theorem transition (taken : Transition env state slot move next after)
    (guarded : Guarded state move) (ledger : Ledger state slot) (connected : Connected state) :
    Connected next := by
  cases taken with
  | began _ fresh =>
      exact connected.advance (by rw [fresh]; exact nofun) (fun _ => nofun)
  | tested _ testing =>
      refine connected.advance (by rw [testing]; exact nofun) ?_
      intro statement
      cases state.bgrunning <;> exact nofun
  | poppedNothing fifo popping unlocked =>
      exact connected.advance (by rw [popping]; exact nofun) (fun _ => nofun)
  | poppedStatement statement fifo popping unlocked =>
      have present : state.rotation ≠ .closed := by
        rw [unlocked]
        decide
      have opened := connected.isOpen (by rw [popping]; exact nofun) present
      exact ⟨.inr (.inr opened), fun closed => absurd closed present, connected.succeeded⟩
  | executed _ statement executing => exact connected.executed executing
  | rotationLocked _ idle =>
      refine ⟨?_, nofun, connected.succeeded⟩
      rcases connected.connected with exited | closed | opened
      · exact .inl exited
      · cases idle.symm.trans closed
      · exact .inr (.inr opened)
  | rotationClosed _ locked => exact ⟨.inr (.inl rfl), fun _ => guarded, connected.succeeded⟩
  | rotationOpened _ answer closed =>
      cases guarded
      exact ⟨.inr (.inr (isOpen_dbOpen env _)), nofun, connected.succeeded⟩
  | rotationUnlocked _ reopened =>
      refine ⟨?_, nofun, connected.succeeded⟩
      rcases connected.connected with exited | closed | opened
      · exact .inl exited
      · cases reopened.symm.trans closed
      · exact .inr (.inr opened)
  | stopClosed _ joined =>
      exact ⟨.inl (ledger.exits (.inl joined)), connected.excluded, connected.succeeded⟩
  | _ => exact ⟨connected.connected, connected.excluded, connected.succeeded⟩

end Connected

/-- Closing the database under a popped statement lets it run on a closed
connection. -/
theorem exec_after_close (build : Build) (env : Settings Row) {state : Worker Row}
    {statement : Statement Row} (alive : state.crashed = none) (locked : state.rotation = .locked)
    (executing : state.background = .executing statement) :
    Exists fun next => (work build env).run state [.rotateClose, .exec] = some next ∧
      (statement.ticket, false) ∈ next.executed := by
  let closed : Worker Row := { state with db := (dbClose state.db).2, rotation := .closed }
  have running : ¬ state.crashed.isSome = true := by
    rw [alive]
    exact nofun
  have closes : work build env state .rotateClose = some closed := by
    simp only [work, if_neg running, locked]
    rfl
  have executes : work build env closed .exec = some (closed.exec env statement) := by
    have executing' : closed.background = .executing statement := executing
    have running' : ¬ closed.crashed.isSome = true := running
    simp only [work, if_neg running', executing']
  refine ⟨closed.exec env statement, ?_, ?_⟩
  · apply PartialStep.run_cons_eq_some.mpr
    refine ⟨closed, closes, ?_⟩
    apply PartialStep.run_cons_eq_some.mpr
    exact ⟨_, executes, rfl⟩
  · apply List.mem_append_right
    apply List.mem_singleton.mpr
    rw [show closed.db.store.isOpen = false from state.db.store.isOpen_close]

/-- In a guarded run every popped statement is executed once, on an open
connection.  Where a rotation is about to close the database under a popped
statement, executing it next reaches a closed connection. -/
theorem rotation_excludes_execution (build : Build) (env : Settings Row) (moves : List (Move Row))
    (final : Worker Row) (ran : (work build env).run (.start env .opened) moves = some final)
    (guarded : (work build env).Respects Guarded (.start env .opened) moves) :
    (forall entry, entry ∈ final.executed -> entry.2 = true) ∧
    final.popped = final.executed.map Prod.fst ++ final.background.inFlight ∧
    final.popped.Nodup ∧
    (forall statement, final.crashed = none -> final.rotation = .locked ->
      final.background = .executing statement ->
      Exists fun next => (work build env).run final [.rotateClose, .exec] = some next ∧
        (statement.ticket, false) ∈ next.executed) := by
  have keeps : forall state slot move next after, Transition env state slot move next after ->
      Guarded state move -> Ledger state slot ∧ Connected state ->
        Ledger next after ∧ Connected next :=
    fun _ _ _ _ _ taken met both =>
      ⟨both.1.transition taken, both.2.transition taken met both.1⟩
  rcases work_invariant keeps ran guarded (Worker.start_holds env .opened)
    ⟨.start env .opened, .start env⟩ with
    ⟨slot, _, ledger, connected⟩
  refine ⟨connected.succeeded, ledger.flight, ledger.distinct, ?_⟩
  intro statement alive locked executing
  exact exec_after_close build env alive locked executing

def patientRotation : List (Move Nat) :=
  [.begin, .push 0 7 100 none, .test, .pop, .rotateLock, .exec, .rotateClose,
    .rotateOpen .opened, .rotateUnlock]

theorem rotation_excludes_execution_patientRotation :
    Exists fun final =>
      (work .debug (obliging false)).run (.start (obliging false) .opened) patientRotation =
          some final ∧
        final.executed = [(0, true)] ∧ forall entry, entry ∈ final.executed -> entry.2 = true := by
  have guarded : (work .debug (obliging false)).Respects Guarded
      (.start (obliging false) .opened) patientRotation := by
    apply PartialStep.respects_cons rfl trivial
    apply PartialStep.respects_cons rfl trivial
    apply PartialStep.respects_cons rfl trivial
    apply PartialStep.respects_cons rfl trivial
    apply PartialStep.respects_cons rfl trivial
    apply PartialStep.respects_cons rfl trivial
    apply PartialStep.respects_cons rfl (fun _ => nofun)
    apply PartialStep.respects_cons rfl (by exact rfl)
    apply PartialStep.respects_cons rfl trivial
    trivial
  refine ⟨_, rfl, rfl, ?_⟩
  exact (rotation_excludes_execution .debug (obliging false) patientRotation _ rfl guarded).1

/-- A statement popped before the rotation runs while the database is closed. -/
theorem popped_statement_runs_closed :
    Exists fun final =>
      (work .debug (obliging false)).run (.start (obliging false) .opened)
          [.begin, .push 0 7 100 none, .test, .pop, .rotateLock, .rotateClose, .exec,
            .rotateOpen .opened, .rotateUnlock] = some final ∧
        final.executed = [(0, false)] :=
  ⟨_, rfl, rfl⟩

end Storage
end PdnsLogger
