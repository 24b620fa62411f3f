import PdnsLogger.Foundation.PartialRuns
import PdnsLogger.Queue.Fifo
import PdnsLogger.Storage.Database
import Mathlib.Data.List.Nodup

namespace PdnsLogger
namespace Storage

open Foundation Program Queue

/-!
# The background thread and its neighbours

Client threads push statements, the background thread pops and executes them,
a rotation closes and reopens the database, and `logsqlite_stop` clears the
run flag, joins the background thread and closes the database.  Each of these
is a thread of its own here, and a schedule is a list of their moves.

A critical section of the queue, a test of the flag, an execution and a join
are single moves.  The rotation holds the lock of the queue over four moves,
and meanwhile nobody else can push or pop.  The state is the one
`logsqlite_init` leaves behind; the background thread may not have run yet.

Every pushed statement carries a ticket, so that two statements with the same
text are told apart.  `Transition` restates the moves with the queue reduced
to its single place, and `step_transition` shows that the code makes no
others; the results on stopping and on rotation are about transitions only.
-/

variable {Row : Type}

/-- A statement in the queue, with the number of the push it came from. -/
structure Statement (Row : Type) where
  ticket : Nat
  row : Row

/-- The program point of `bg_thread_exec`. -/
inductive BackgroundPhase (Row : Type) where
  | notStarted
  | testing
  | popping
  | executing (statement : Statement Row)
  | exited

/-- The program point of `logsqlite_rotate`.  The lock is held outside `idle`. -/
inductive RotationPhase where
  | idle
  | locked
  | closed
  | reopened
  deriving DecidableEq, Repr

/-- The program point of `logsqlite_stop`. -/
inductive StopPhase where
  | idle
  | joining
  | joined
  | closed
  deriving DecidableEq, Repr

/-- The static variables of the engine, the program points of its threads, and
a record of the tickets handed out, popped and executed.  An execution records
whether the connection was open. -/
structure Worker (Row : Type) where
  fifo : Option (Fifo (Statement Row))
  db : Database Row
  bgrunning : Bool
  background : BackgroundPhase Row
  rotation : RotationPhase
  stopping : StopPhase
  tickets : Nat
  popped : List Nat
  executed : List (Nat × Bool)
  crashed : Option Fault

/-- The moves of the threads, with the answers of the system. -/
inductive Move (Row : Type) where
  | push (client : Nat) (row : Row) (item : Address) (stale : Option Address)
  | begin
  | test
  | pop
  | exec
  | rotateLock
  | rotateClose
  | rotateOpen (answer : OpenAnswer)
  | rotateUnlock
  | stopFlag
  | join
  | stopClose

/-- The engine after `logsqlite_init`, whose `db_open` may have failed: the caller does
not look. -/
def Worker.start (env : Settings Row) (answer : OpenAnswer) : Worker Row where
  fifo := fifoInit true
  db := (dbOpen env answer ⟨⟨.null, [], []⟩, 0, 0, []⟩).2
  bgrunning := false
  background := .notStarted
  rotation := .idle
  stopping := .idle
  tickets := 0
  popped := []
  executed := []
  crashed := none

/-- `fifo_push_item` by a client thread, outside any rotation. -/
def Worker.push (build : Build) (state : Worker Row) (row : Row) (item : Address)
    (stale : Option Address) : Option (Worker Row) :=
  match state.fifo with
  | none => none
  | some fifo =>
      if state.rotation = .idle ∧ (fifo.heap item).isNone then
        match fifoPushItem build (some fifo) (some ⟨state.tickets, row⟩) (some (item, stale)) with
        | .error fault => some { state with crashed := some fault }
        | .ok pushed => some { state with fifo := pushed.2, tickets := state.tickets + 1 }
      else none

/-- `fifo_pop_item` by the background thread, outside any rotation. -/
def Worker.pop (state : Worker Row) : Option (Worker Row) :=
  if state.rotation = .idle then
    match fifoPopItem state.fifo with
    | .error fault => some { state with crashed := some fault }
    | .ok (none, fifo) => some { state with fifo := fifo, background := .testing }
    | .ok (some statement, fifo) =>
        some { state with
          fifo := fifo
          background := .executing statement
          popped := state.popped ++ [statement.ticket] }
  else none

def Worker.exec (env : Settings Row) (state : Worker Row) (statement : Statement Row) :
    Worker Row :=
  { state with
    db := (dbExec env (.insert statement.row) state.db).2
    background := .testing
    executed := state.executed ++ [(statement.ticket, state.db.store.isOpen)] }

/-- One move.  `bg_thread_exec` sets the run flag itself when it begins.  A
rotation does nothing while the handle is null.  The join waits for the
background thread to have left its loop. -/
def work (build : Build) (env : Settings Row) : PartialStep (Worker Row) (Move Row) :=
  fun state move =>
    if state.crashed.isSome then none
    else
      match move, state.background, state.rotation, state.stopping with
      | .push _ row item stale, _, _, _ => state.push build row item stale
      | .begin, .notStarted, _, _ =>
          some { state with bgrunning := true, background := .testing }
      | .test, .testing, _, _ =>
          some { state with background := if state.bgrunning then .popping else .exited }
      | .pop, .popping, _, _ => state.pop
      | .exec, .executing statement, _, _ => some (state.exec env statement)
      | .rotateLock, _, .idle, _ =>
          match state.db.store.handle with
          | .null => some state
          | _ => some { state with rotation := .locked }
      | .rotateClose, _, .locked, _ =>
          some { state with db := (dbClose state.db).2, rotation := .closed }
      | .rotateOpen answer, _, .closed, _ =>
          some { state with db := (dbOpen env answer state.db).2, rotation := .reopened }
      | .rotateUnlock, _, .reopened, _ => some { state with rotation := .idle }
      | .stopFlag, _, _, .idle => some { state with bgrunning := false, stopping := .joining }
      | .join, .exited, _, .joining => some { state with stopping := .joined }
      | .stopClose, _, _, .joined =>
          some { state with db := (dbClose state.db).2, stopping := .closed }
      | _, _, _, _ => none

/-! ## Transitions over a single place -/

def Worker.Holds (state : Worker Row) (slot : Option (Statement Row)) : Prop :=
  Exists fun fifo => state.fifo = some fifo ∧ Represents fifo slot

/-- The moves, with the content of the queue before and after. -/
inductive Transition (env : Settings Row) (state : Worker Row) :
    Option (Statement Row) -> Move Row -> Worker Row -> Option (Statement Row) -> Prop where
  | stored (client row item stale fifo) (unlocked : state.rotation = .idle) :
      Transition env state none (.push client row item stale)
        { state with fifo := fifo, tickets := state.tickets + 1 } (some ⟨state.tickets, row⟩)
  | dropped (kept client row item stale fifo) (unlocked : state.rotation = .idle) :
      Transition env state (some kept) (.push client row item stale)
        { state with fifo := fifo, tickets := state.tickets + 1 } (some kept)
  | crashed (kept client row item stale fifo fault) (unlocked : state.rotation = .idle) :
      Transition env state (some kept) (.push client row item stale)
        { state with fifo := fifo, crashed := some fault } (some kept)
  | began (slot) (fresh : state.background = .notStarted) :
      Transition env state slot .begin
        { state with bgrunning := true, background := .testing } slot
  | tested (slot) (testing : state.background = .testing) :
      Transition env state slot .test
        { state with background := if state.bgrunning then .popping else .exited } slot
  | poppedNothing (fifo) (popping : state.background = .popping)
      (unlocked : state.rotation = .idle) :
      Transition env state none .pop { state with fifo := fifo, background := .testing } none
  | poppedStatement (statement fifo) (popping : state.background = .popping)
      (unlocked : state.rotation = .idle) :
      Transition env state (some statement) .pop
        { state with
          fifo := fifo
          background := .executing statement
          popped := state.popped ++ [statement.ticket] } none
  | executed (slot statement) (executing : state.background = .executing statement) :
      Transition env state slot .exec (state.exec env statement) slot
  | rotationSkipped (slot) (null : state.db.store.handle = .null) :
      Transition env state slot .rotateLock state slot
  | rotationLocked (slot) (idle : state.rotation = .idle) :
      Transition env state slot .rotateLock { state with rotation := .locked } slot
  | rotationClosed (slot) (locked : state.rotation = .locked) :
      Transition env state slot .rotateClose
        { state with db := (dbClose state.db).2, rotation := .closed } slot
  | rotationOpened (slot answer) (closed : state.rotation = .closed) :
      Transition env state slot (.rotateOpen answer)
        { state with db := (dbOpen env answer state.db).2, rotation := .reopened } slot
  | rotationUnlocked (slot) (reopened : state.rotation = .reopened) :
      Transition env state slot .rotateUnlock { state with rotation := .idle } slot
  | flagged (slot) (idle : state.stopping = .idle) :
      Transition env state slot .stopFlag
        { state with bgrunning := false, stopping := .joining } slot
  | joined (slot) (joining : state.stopping = .joining) (exited : state.background = .exited) :
      Transition env state slot .join { state with stopping := .joined } slot
  | stopClosed (slot) (joined : state.stopping = .joined) :
      Transition env state slot .stopClose
        { state with db := (dbClose state.db).2, stopping := .closed } slot

/-- A push stores its statement when the place is free, and otherwise drops it
or ends the process. -/
theorem push_transition {build : Build} {env : Settings Row} {state next : Worker Row}
    {slot : Option (Statement Row)} {client : Nat} {row : Row} {item : Address}
    {stale : Option Address} (taken : state.push build row item stale = some next)
    (holds : state.Holds slot) :
    Exists fun after => next.Holds after ∧
      Transition env state slot (.push client row item stale) next after := by
  rcases holds with ⟨fifo, present, represents⟩
  simp only [Worker.push, present] at taken
  by_cases allowed : state.rotation = .idle ∧ (fifo.heap item).isNone = true
  · rw [if_pos allowed] at taken
    cases slot with
    | none =>
        rcases fifoPushItem_empty build represents ⟨state.tickets, row⟩ item stale with
          ⟨pushed, answered, represented⟩
        rw [answered] at taken
        cases Option.some.inj taken
        exact ⟨_, ⟨pushed, rfl, represented⟩, .stored client row item stale _ allowed.1⟩
    | some kept =>
        have occupied := fifoPushItem_occupied represents ⟨state.tickets, row⟩ item stale
          (Option.isNone_iff_eq_none.mp allowed.2)
        cases build with
        | debug =>
            rw [occupied.1] at taken
            cases Option.some.inj taken
            exact ⟨some kept, ⟨fifo, rfl, represents⟩,
              .crashed kept client row item stale _ _ allowed.1⟩
        | release =>
            rcases occupied.2 with ⟨pushed, answered, represented⟩
            rw [answered] at taken
            cases Option.some.inj taken
            exact ⟨some kept, ⟨pushed, rfl, represented⟩,
              .dropped kept client row item stale _ allowed.1⟩
  · rw [if_neg allowed] at taken
    cases taken

theorem pop_transition {env : Settings Row} {state next : Worker Row}
    {slot : Option (Statement Row)} (popping : state.background = .popping)
    (taken : state.pop = some next) (holds : state.Holds slot) :
    Exists fun after => next.Holds after ∧ Transition env state slot .pop next after := by
  rcases holds with ⟨fifo, present, represents⟩
  rcases fifoPopItem_represents represents with ⟨popped, answered, represented⟩
  unfold Worker.pop at taken
  by_cases unlocked : state.rotation = .idle
  · rw [if_pos unlocked, present, answered] at taken
    cases slot with
    | none =>
        cases Option.some.inj taken
        exact ⟨none, ⟨popped, rfl, represented⟩, .poppedNothing _ popping unlocked⟩
    | some statement =>
        cases Option.some.inj taken
        exact ⟨none, ⟨popped, rfl, represented⟩, .poppedStatement statement _ popping unlocked⟩
  · rw [if_neg unlocked] at taken
    cases taken

/-- The code makes no move that is not a transition. -/
theorem work_transition {build : Build} {env : Settings Row} {state next : Worker Row}
    {slot : Option (Statement Row)} {move : Move Row}
    (taken : work build env state move = some next) (holds : state.Holds slot) :
    Exists fun after => next.Holds after ∧ Transition env state slot move next after := by
  unfold work at taken
  by_cases dead : state.crashed.isSome = true
  · rw [if_pos dead] at taken
    cases taken
  · rw [if_neg dead] at taken
    split at taken
    next => exact push_transition taken holds
    next _ _ fresh =>
      cases Option.some.inj taken
      exact ⟨slot, holds, .began slot fresh⟩
    next _ _ testing =>
      cases Option.some.inj taken
      exact ⟨slot, holds, .tested slot testing⟩
    next _ _ popping => exact pop_transition popping taken holds
    next _ _ statement executing =>
      cases Option.some.inj taken
      exact ⟨slot, holds, .executed slot statement executing⟩
    next _ idle =>
      split at taken
      next null =>
        cases Option.some.inj taken
        exact ⟨slot, holds, .rotationSkipped slot null⟩
      next =>
        cases Option.some.inj taken
        exact ⟨slot, holds, .rotationLocked slot idle⟩
    next _ locked =>
      cases Option.some.inj taken
      exact ⟨slot, holds, .rotationClosed slot locked⟩
    next _ _ answer closed =>
      cases Option.some.inj taken
      exact ⟨slot, holds, .rotationOpened slot answer closed⟩
    next _ reopened =>
      cases Option.some.inj taken
      exact ⟨slot, holds, .rotationUnlocked slot reopened⟩
    next idle =>
      cases Option.some.inj taken
      exact ⟨slot, holds, .flagged slot idle⟩
    next _ exited joining =>
      cases Option.some.inj taken
      exact ⟨slot, holds, .joined slot joining exited⟩
    next joined =>
      cases Option.some.inj taken
      exact ⟨slot, holds, .stopClosed slot joined⟩
    next => cases taken

/-- The rule for properties of the state and the content of the queue together,
over runs whose moves all meet a condition. -/
theorem work_invariant {build : Build} {env : Settings Row}
    {condition : Worker Row -> Move Row -> Prop}
    {holds : Worker Row -> Option (Statement Row) -> Prop}
    (keeps : forall state slot move next after, Transition env state slot move next after ->
      condition state move -> holds state slot -> holds next after)
    {state final : Worker Row} {moves : List (Move Row)}
    (ran : (work build env).run state moves = some final)
    (respects : (work build env).Respects condition state moves)
    {slot : Option (Statement Row)} (content : state.Holds slot) (start : holds state slot) :
    Exists fun after => final.Holds after ∧ holds final after := by
  have step : forall state move next, work build env state move = some next ->
      condition state move ->
      (Exists fun slot => state.Holds slot ∧ holds state slot) ->
      Exists fun slot => next.Holds slot ∧ holds next slot := by
    rintro state move next taken met ⟨slot, content, kept⟩
    rcases work_transition taken content with ⟨after, content', transition⟩
    exact ⟨after, content', keeps state slot move next after transition met kept⟩
  exact PartialStep.run_invariant_of_respects step ran respects ⟨slot, content, start⟩

theorem work_invariant_always {build : Build} {env : Settings Row}
    {holds : Worker Row -> Option (Statement Row) -> Prop}
    (keeps : forall state slot move next after, Transition env state slot move next after ->
      holds state slot -> holds next after)
    {state final : Worker Row} {moves : List (Move Row)}
    (ran : (work build env).run state moves = some final)
    {slot : Option (Statement Row)} (content : state.Holds slot) (start : holds state slot) :
    Exists fun after => final.Holds after ∧ holds final after := by
  have trivially : forall (state : Worker Row) (move : Move Row) (next : Worker Row),
      work build env state move = some next -> True -> True := fun _ _ _ _ kept => kept
  have respects : (work build env).Respects (fun _ _ => True) state moves :=
    PartialStep.respects_of_invariant trivially (fun _ _ kept => kept) trivial moves
  refine work_invariant ?_ ran respects content start
  intro state slot move next after taken _
  exact keeps state slot move next after taken

theorem Worker.Holds.unique {state : Worker Row} {first second : Option (Statement Row)}
    (one : state.Holds first) (other : state.Holds second) : first = second := by
  rcases one with ⟨fifo, present, represents⟩
  rcases other with ⟨fifo', present', represents'⟩
  cases Option.some.inj (present.symm.trans present')
  exact represents.unique represents'

theorem Worker.start_holds (env : Settings Row) (answer : OpenAnswer) :
    (Worker.start env answer).Holds none :=
  represents_init _

/-! ## The ledger of tickets -/

/-- The ticket the background thread has popped and not yet executed. -/
def BackgroundPhase.inFlight : BackgroundPhase Row -> List Nat
  | .executing statement => [statement.ticket]
  | _ => []

/-- Tickets are popped once each and executed in that order, a queued one has
not been popped, and a joined background thread has left its loop. -/
structure Ledger (state : Worker Row) (slot : Option (Statement Row)) : Prop where
  flight : state.popped = state.executed.map Prod.fst ++ state.background.inFlight
  distinct : state.popped.Nodup
  past : forall ticket, ticket ∈ state.popped -> ticket < state.tickets
  waiting : forall statement, slot = some statement ->
    statement.ticket < state.tickets ∧ statement.ticket ∉ state.popped
  exits : state.stopping = .joined ∨ state.stopping = .closed -> state.background = .exited

namespace Ledger

variable {env : Settings Row} {state next : Worker Row} {slot after : Option (Statement Row)}

theorem start (env : Settings Row) (answer : OpenAnswer) :
    Ledger (Worker.start env answer) none where
  flight := rfl
  distinct := List.nodup_nil
  past := by
    intro ticket member
    cases member
  waiting := by
    intro statement impossible
    cases impossible
  exits := by
    rintro (impossible | impossible) <;> cases impossible

theorem quiet (ledger : Ledger state slot) (popped : next.popped = state.popped)
    (executed : next.executed = state.executed) (tickets : next.tickets = state.tickets)
    (flight : next.background.inFlight = state.background.inFlight)
    (exits : next.stopping = .joined ∨ next.stopping = .closed -> next.background = .exited) :
    Ledger next slot where
  flight := by
    rw [popped, executed, flight]
    exact ledger.flight
  distinct := popped ▸ ledger.distinct
  past := by
    rw [popped, tickets]
    exact ledger.past
  waiting := by
    rw [popped, tickets]
    exact ledger.waiting
  exits := exits

/-- A push hands out the next ticket, whether or not its statement stays. -/
theorem pushed (ledger : Ledger state slot) (fifo : Option (Fifo (Statement Row)))
    (waiting : forall statement, after = some statement ->
      slot = some statement ∨ statement.ticket = state.tickets) :
    Ledger { state with fifo := fifo, tickets := state.tickets + 1 } after where
  flight := ledger.flight
  distinct := ledger.distinct
  past := by
    intro ticket member
    exact Nat.lt_succ_of_lt (ledger.past ticket member)
  waiting := by
    intro statement present
    rcases waiting statement present with earlier | fresh
    · have before := ledger.waiting statement earlier
      exact ⟨Nat.lt_succ_of_lt before.1, before.2⟩
    · refine ⟨fresh ▸ Nat.lt_succ_self _, ?_⟩
      intro member
      exact Nat.lt_irrefl _ (fresh ▸ ledger.past _ member)
  exits := ledger.exits

theorem poppedStatement {statement : Statement Row} (ledger : Ledger state (some statement))
    (fifo : Option (Fifo (Statement Row))) (popping : state.background = .popping) :
    Ledger
      { state with
        fifo := fifo
        background := .executing statement
        popped := state.popped ++ [statement.ticket] } none where
  flight := by
    have flight := ledger.flight
    simp only [popping, BackgroundPhase.inFlight, List.append_nil] at flight
    rw [flight]
    rfl
  distinct := by
    apply List.nodup_append.mpr
    refine ⟨ledger.distinct, List.nodup_singleton _, ?_⟩
    intro ticket member other last same
    rw [same, List.mem_singleton.mp last] at member
    exact (ledger.waiting statement rfl).2 member
  past := by
    intro ticket member
    rcases List.mem_append.mp member with earlier | last
    · exact ledger.past ticket earlier
    · rw [List.mem_singleton.mp last]
      exact (ledger.waiting statement rfl).1
  waiting := by
    intro other impossible
    cases impossible
  exits := by
    intro stopped
    have exited := ledger.exits stopped
    rw [popping] at exited
    cases exited

theorem executed {statement : Statement Row} (ledger : Ledger state slot)
    (executing : state.background = .executing statement) :
    Ledger (state.exec env statement) slot where
  flight := by
    have flight := ledger.flight
    rw [executing] at flight
    simp only [Worker.exec, List.map_append, BackgroundPhase.inFlight, List.append_nil]
    exact flight
  distinct := ledger.distinct
  past := ledger.past
  waiting := ledger.waiting
  exits := by
    intro stopped
    have exited := ledger.exits stopped
    rw [executing] at exited
    cases exited

/-- A background thread at another point has not been joined. -/
theorem not_stopped (ledger : Ledger state slot) (running : state.background ≠ .exited)
    {goal : Prop} (stopped : state.stopping = .joined ∨ state.stopping = .closed) : goal :=
  absurd (ledger.exits stopped) running

theorem transition {move : Move Row} (taken : Transition env state slot move next after)
    (ledger : Ledger state slot) : Ledger next after := by
  cases taken with
  | stored client row item stale fifo unlocked =>
      refine ledger.pushed fifo ?_
      intro statement same
      cases Option.some.inj same
      exact .inr rfl
  | dropped kept client row item stale fifo unlocked =>
      exact ledger.pushed fifo (fun statement same => .inl same)
  | crashed kept client row item stale fifo fault unlocked =>
      exact ledger.quiet rfl rfl rfl rfl ledger.exits
  | began _ fresh =>
      refine ledger.quiet rfl rfl rfl (by rw [fresh]; rfl) ?_
      exact ledger.not_stopped (by rw [fresh]; exact nofun)
  | tested _ testing =>
      refine ledger.quiet rfl rfl rfl ?_ ?_
      · rw [testing]
        cases state.bgrunning <;> rfl
      · exact ledger.not_stopped (by rw [testing]; exact nofun)
  | poppedNothing fifo popping unlocked =>
      refine ledger.quiet rfl rfl rfl (by rw [popping]; rfl) ?_
      exact ledger.not_stopped (by rw [popping]; exact nofun)
  | poppedStatement statement fifo popping unlocked => exact ledger.poppedStatement fifo popping
  | executed _ statement executing => exact ledger.executed executing
  | rotationSkipped _ null => exact ledger
  | rotationLocked _ idle => exact ledger.quiet rfl rfl rfl rfl ledger.exits
  | rotationClosed _ locked => exact ledger.quiet rfl rfl rfl rfl ledger.exits
  | rotationOpened _ answer closed => exact ledger.quiet rfl rfl rfl rfl ledger.exits
  | rotationUnlocked _ reopened => exact ledger.quiet rfl rfl rfl rfl ledger.exits
  | flagged _ idle =>
      refine ledger.quiet rfl rfl rfl rfl ?_
      rintro (impossible | impossible) <;> cases impossible
  | joined _ joining exited => exact ledger.quiet rfl rfl rfl rfl (fun _ => exited)
  | stopClosed _ joined => exact ledger.quiet rfl rfl rfl rfl (fun _ => ledger.exits (.inl joined))

theorem of_run {build : Build} {env : Settings Row} {answer : OpenAnswer} {final : Worker Row}
    {moves : List (Move Row)} (ran : (work build env).run (.start env answer) moves = some final) :
    Exists fun slot => final.Holds slot ∧ Ledger final slot :=
  work_invariant_always (fun _ _ _ _ _ taken ledger => ledger.transition taken) ran
    (Worker.start_holds env answer) (start env answer)

/-- A popped ticket that is not in flight has been executed exactly once. -/
theorem count_executed (ledger : Ledger state slot) (ticket : Nat) :
    (ticket ∈ state.executed.map Prod.fst ->
      (state.executed.map Prod.fst).count ticket = 1) ∧
    (ticket ∉ state.popped -> (state.executed.map Prod.fst).count ticket = 0) := by
  have distinct := ledger.distinct
  rw [ledger.flight] at distinct ⊢
  constructor
  · intro member
    exact List.count_eq_one_of_mem (List.nodup_append.mp distinct).1 member
  · intro absent
    exact List.count_eq_zero_of_not_mem (fun member => absent (List.mem_append_left _ member))

end Ledger

end Storage
end PdnsLogger
