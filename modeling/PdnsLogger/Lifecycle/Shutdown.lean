import PdnsLogger.Foundation.PartialRuns
import PdnsLogger.Engines.Dispatch
import PdnsLogger.Lifecycle.Resources
import PdnsLogger.Storage.Worker
import Mathlib.Logic.Function.Basic

namespace PdnsLogger
namespace Lifecycle

open Foundation Program Engines Queue Storage

/-!
# Shutting down under clients

When `socket_loop` ends, the main thread goes through `logfile_stop`,
`syslog_stop` and `logsqlite_stop`.  Client threads are neither joined nor told,
and go on logging.  Here any number of them are inside `pdns_loggers_log` at the
same time, each with the lines and statements it still has to emit.  What a
message emits depends on the options only, and `fp` is tested again for every
line.

The sqlite engine is the one of the background thread's own model, with the
stop functions as further moves.  `written` records the file pointer of every
line written, and `accepted` for every push that reported success whether the
background thread had left by then.
-/

/-- What a client still has to emit in its call of `pdns_loggers_log`. -/
structure Remaining where
  lines : List Bytes
  system : List Bytes
  statements : List Bytes
  deriving DecidableEq

/-- The program point of the main thread.  From `stoppingSqlite` on it is that
of `logsqlite_stop`. -/
inductive HaltPhase where
  | serving
  | stoppingFile
  | stoppingSyslog
  | stoppingSqlite
  deriving DecidableEq, Repr

/-- The build, the C library, the options, the database and whether it could be opened
at the start. -/
structure Setup where
  build : Build
  inetNtop : InetNtop
  engines : Registered
  env : Settings Bytes
  opening : OpenAnswer

/-- The clients, the main thread and the engines. -/
structure Shutdown where
  clients : Nat -> Remaining
  fp : FilePointer
  halt : HaltPhase
  worker : Worker Bytes
  crashed : Option Fault
  written : List FilePointer
  accepted : List Bool

/-- The steps of the clients, the main thread and the background thread. -/
inductive ShutdownMove where
  | log (client : Nat) (pbm : PBDNSMessage)
  | write (client : Nat)
  | syslog (client : Nat)
  | push (client : Nat) (allocated : Option (Address × Option Address))
  | leaveLoop
  | fclose
  | closelog
  | background (move : Move Bytes)
  | stop (move : Move Bytes)

def hasExited : BackgroundPhase Bytes -> Bool
  | .exited => true
  | _ => false

/-- The moves of the background thread. -/
def ofBackground : Move Bytes -> Bool
  | .begin | .test | .pop | .exec => true
  | _ => false

/-- The moves of `logsqlite_stop`. -/
def ofStop : Move Bytes -> Bool
  | .stopFlag | .join | .stopClose => true
  | _ => false

/-- What a message makes the engines emit, the lines as if the file were open. -/
def emitted (setup : Setup) (pbm : PBDNSMessage) : Except Fault Output :=
  pdnsLoggersLog setup.build setup.inetNtop
    { setup.engines with logfile := { setup.engines.logfile with fpOpen := true } } pbm
    ⟨[], [], []⟩

namespace Shutdown

def start (setup : Setup) : Shutdown where
  clients := fun _ => ⟨[], [], []⟩
  fp := if setup.engines.logfile.fpOpen then .opened else .null
  halt := .serving
  worker := .start setup.env setup.opening
  crashed := none
  written := []
  accepted := []

def setClient (state : Shutdown) (client : Nat) (remaining : Remaining) : Shutdown :=
  { state with clients := Function.update state.clients client remaining }

/-- A client calls `pdns_loggers_log`. -/
def log (setup : Setup) (state : Shutdown) (client : Nat) (pbm : PBDNSMessage) : Shutdown :=
  match emitted setup pbm with
  | .error fault => { state with crashed := some fault }
  | .ok output => state.setClient client ⟨output.file, output.system, output.statements⟩

/-- `fprintf` of `write_log`, when the file pointer is not null. -/
def write (state : Shutdown) : Shutdown :=
  match state.fp with
  | .null => state
  | pointer => { state with written := pointer :: state.written }

/-- `fifo_push_item` by a client, after its memory was allocated. -/
def push (setup : Setup) (state : Shutdown) (client : Nat) (statement : Bytes) (item : Address)
    (stale : Option Address) : Option Shutdown :=
  (work setup.build setup.env state.worker (.push client statement item stale)).map fun worker =>
    match worker.crashed with
    | some fault => { state with worker := worker, crashed := some fault }
    | none =>
        { state with
          worker := worker
          accepted := hasExited state.worker.background :: state.accepted }

/-- One step.  A client emits its lines first, then what goes to syslog, then
its statements. -/
def step (setup : Setup) : PartialStep Shutdown ShutdownMove :=
  fun state move =>
    if state.crashed.isSome then none
    else
      match move with
      | .log client pbm =>
          if state.clients client = ⟨[], [], []⟩ then some (state.log setup client pbm) else none
      | .write client =>
          match state.clients client with
          | ⟨_ :: lines, system, statements⟩ =>
              some (state.write.setClient client ⟨lines, system, statements⟩)
          | _ => none
      | .syslog client =>
          match state.clients client with
          | ⟨[], _ :: system, statements⟩ =>
              some (state.setClient client ⟨[], system, statements⟩)
          | _ => none
      | .push client allocated =>
          match state.clients client, allocated with
          | ⟨[], [], _ :: statements⟩, none => some (state.setClient client ⟨[], [], statements⟩)
          | ⟨[], [], statement :: statements⟩, some (item, stale) =>
              (state.push setup client statement item stale).map fun pushed =>
                pushed.setClient client ⟨[], [], statements⟩
          | _, _ => none
      | .leaveLoop =>
          if state.halt = .serving then some { state with halt := .stoppingFile } else none
      | .fclose =>
          if state.halt = .stoppingFile then
            some { state with
              halt := .stoppingSyslog
              fp := if state.fp = .null then .null else .closed }
          else none
      | .closelog =>
          if state.halt = .stoppingSyslog then some { state with halt := .stoppingSqlite }
          else none
      | .background move =>
          if ofBackground move then
            (work setup.build setup.env state.worker move).map fun worker =>
              { state with worker := worker, crashed := worker.crashed }
          else none
      | .stop move =>
          if ofStop move ∧ state.halt = .stoppingSqlite then
            (work setup.build setup.env state.worker move).map fun worker =>
              { state with worker := worker, crashed := worker.crashed }
          else none

end Shutdown

/-! ## Nothing through a stopped engine -/

/-- No line was written to a closed file and no statement was accepted after the
background thread had left. -/
structure Orderly (state : Shutdown) : Prop where
  written : forall pointer, pointer ∈ state.written -> pointer ≠ .closed
  accepted : forall late, late ∈ state.accepted -> late = false

/-- The file is closed while no client has a line to write, the background
thread leaves while no client has a statement to push, and no client begins a
call that would write or push afterwards. -/
def Quiet (setup : Setup) (state : Shutdown) : ShutdownMove -> Prop
  | .fclose => state.fp = .opened -> forall client, (state.clients client).lines = []
  | .background .test => state.worker.bgrunning = false ->
      forall client, (state.clients client).statements = []
  | .log _ pbm => forall output, emitted setup pbm = .ok output ->
      (state.fp = .closed -> output.file = []) ∧
      (hasExited state.worker.background = true -> output.statements = [])
  | _ => True

/-- The clients have nothing left for an engine that is stopped. -/
structure Settled (state : Shutdown) : Prop where
  orderly : Orderly state
  lines : state.fp = .closed -> forall client, (state.clients client).lines = []
  statements : hasExited state.worker.background = true ->
    forall client, (state.clients client).statements = []
  queue : Exists fun slot => state.worker.Holds slot

theorem settled_start (setup : Setup) : Settled (.start setup) := by
  exact ⟨⟨nofun, nofun⟩, fun _ _ => rfl, fun _ _ => rfl, none, Worker.start_holds _ _⟩

/-- The main thread going on, or a crash, changes nothing for the clients. -/
theorem Settled.goOn {state : Shutdown} (settled : Settled state) (halt : HaltPhase)
    (crashed : Option Fault) : Settled { state with halt := halt, crashed := crashed } where
  orderly := ⟨settled.orderly.written, settled.orderly.accepted⟩
  lines := settled.lines
  statements := settled.statements
  queue := settled.queue

/-- Only its own test of a lowered flag makes the background thread leave. -/
theorem transition_exits {env : Settings Bytes} {worker next : Worker Bytes}
    {slot after : Option (Statement Bytes)} {move : Move Bytes}
    (taken : Transition env worker slot move next after)
    (exited : hasExited next.background = true) :
    hasExited worker.background = true ∨ move = .test ∧ worker.bgrunning = false := by
  cases taken with
  | tested slot testing =>
      cases running : worker.bgrunning with
      | true =>
          simp only [running] at exited
          cases exited
      | false => exact .inr ⟨rfl, rfl⟩
  | began | poppedNothing | poppedStatement | executed => cases exited
  | stored | dropped | crashed | rotationSkipped | rotationLocked | rotationClosed
  | rotationOpened | rotationUnlocked | flagged | joined | stopClosed => exact .inl exited

/-- A move of the sqlite engine that lets the background thread leave only when
the clients are through with it. -/
theorem Settled.work {build : Build} {env : Settings Bytes} {state : Shutdown}
    {worker : Worker Bytes} {move : Move Bytes} (settled : Settled state)
    (taken : work build env state.worker move = some worker)
    (quiet : move = .test -> state.worker.bgrunning = false ->
      forall client, (state.clients client).statements = [])
    (crashed : Option Fault) :
    Settled { state with worker := worker, crashed := crashed } := by
  rcases settled.queue with ⟨slot, holds⟩
  rcases work_transition taken holds with ⟨after, held, transition⟩
  refine ⟨⟨settled.orderly.written, settled.orderly.accepted⟩, settled.lines, ?_, after, held⟩
  intro exited
  rcases transition_exits transition exited with already | ⟨test, lowered⟩
  · exact settled.statements already
  · exact quiet test lowered

/-- What holds of every client still holds when one of them moves on. -/
theorem Shutdown.forall_setClient {state : Shutdown} (holds : Remaining -> Prop) (client : Nat)
    {remaining : Remaining} (all : forall other, holds (state.clients other))
    (own : holds remaining) :
    forall other, holds ((state.setClient client remaining).clients other) := by
  intro other
  change holds (Function.update state.clients client remaining other)
  by_cases same : other = client
  · rw [same, Function.update_self]
    exact own
  · rw [Function.update_of_ne same]
    exact all other

/-- A client moves on without adding work for a stopped engine. -/
theorem Settled.setClient {state : Shutdown} (settled : Settled state) (client : Nat)
    {remaining : Remaining} (lines : state.fp = .closed -> remaining.lines = [])
    (statements : hasExited state.worker.background = true -> remaining.statements = []) :
    Settled (state.setClient client remaining) where
  orderly := ⟨settled.orderly.written, settled.orderly.accepted⟩
  lines := by
    intro closed
    exact Shutdown.forall_setClient (fun remaining => remaining.lines = []) client
      (settled.lines closed) (lines closed)
  statements := by
    intro exited
    exact Shutdown.forall_setClient (fun remaining => remaining.statements = []) client
      (settled.statements exited) (statements exited)
  queue := settled.queue

theorem Settled.log {setup : Setup} {state : Shutdown} (settled : Settled state) (client : Nat)
    {pbm : PBDNSMessage} (quiet : Quiet setup state (.log client pbm)) :
    Settled (state.log setup client pbm) := by
  unfold Shutdown.log
  split
  next fault _ => exact settled.goOn state.halt (some fault)
  next output logged =>
    have nothing := quiet output logged
    exact settled.setClient client nothing.1 nothing.2

theorem Shutdown.write_frame (state : Shutdown) :
    Exists fun written => state.write = { state with written := written } := by
  unfold Shutdown.write
  split
  · exact ⟨_, rfl⟩
  · exact ⟨_, rfl⟩

/-- A line still to be written finds the file open or null. -/
theorem Settled.write {state : Shutdown} (settled : Settled state) {client : Nat} {line : Bytes}
    {lines : List Bytes} (own : (state.clients client).lines = line :: lines) :
    state.fp ≠ .closed ∧ Settled state.write := by
  have usable : state.fp ≠ .closed := by
    intro closed
    cases own.symm.trans (settled.lines closed client)
  refine ⟨usable, ?_⟩
  unfold Shutdown.write
  split
  next => exact settled
  next =>
    refine ⟨⟨?_, settled.orderly.accepted⟩, settled.lines, settled.statements, settled.queue⟩
    intro pointer member
    rcases List.mem_cons.mp member with same | member
    · exact same ▸ usable
    · exact settled.orderly.written pointer member

/-- A statement still to be pushed finds the background thread in its loop. -/
theorem Settled.push {setup : Setup} {state pushed : Shutdown} (settled : Settled state)
    {client : Nat} {statement : Bytes} {statements : List Bytes} {item : Address}
    {stale : Option Address}
    (own : (state.clients client).statements = statement :: statements)
    (taken : state.push setup client statement item stale = some pushed) :
    hasExited pushed.worker.background = false ∧ Settled pushed := by
  have present : hasExited state.worker.background = false := by
    cases exited : hasExited state.worker.background with
    | false => rfl
    | true => cases own.symm.trans (settled.statements exited client)
  rcases Option.map_eq_some_iff.mp taken with ⟨worker, worked, rfl⟩
  have kept := settled.work worked nofun
  have still : hasExited worker.background = false := by
    rcases settled.queue with ⟨slot, holds⟩
    rcases work_transition worked holds with ⟨after, _, transition⟩
    cases exited : hasExited worker.background with
    | false => rfl
    | true =>
        rcases transition_exits transition exited with already | ⟨impossible, _⟩
        · cases present.symm.trans already
        · cases impossible
  split
  next fault _ => exact ⟨still, kept (some fault)⟩
  next =>
    refine ⟨still, ⟨settled.orderly.written, ?_⟩, settled.lines, (kept none).statements,
      (kept none).queue⟩
    intro late member
    rcases List.mem_cons.mp member with same | member
    · exact same.trans present
    · exact settled.orderly.accepted late member

/-- Nothing is left to be pushed by any client once the background thread has
left. -/
theorem Settled.statements_eq_nil {state : Shutdown} (settled : Settled state) {client : Nat}
    {remaining : Remaining} (own : state.clients client = remaining)
    (exited : hasExited state.worker.background = true) : remaining.statements = [] := by
  have nothing := settled.statements exited client
  rw [own] at nothing
  exact nothing

theorem Settled.fclose {state : Shutdown} (settled : Settled state) (halt : HaltPhase)
    (quiet : state.fp = .opened -> forall client, (state.clients client).lines = []) :
    Settled { state with
      halt := halt, fp := if state.fp = .null then .null else .closed } := by
  refine ⟨⟨settled.orderly.written, settled.orderly.accepted⟩, ?_, settled.statements,
    settled.queue⟩
  intro closed
  cases pointer : state.fp with
  | null =>
      rw [pointer] at closed
      cases closed
  | opened => exact quiet pointer
  | closed => exact settled.lines pointer

theorem Settled.step {setup : Setup} {state next : Shutdown} {move : ShutdownMove}
    (taken : Shutdown.step setup state move = some next) (quiet : Quiet setup state move)
    (settled : Settled state) : Settled next := by
  unfold Shutdown.step at taken
  by_cases dead : state.crashed.isSome = true
  · rw [if_pos dead] at taken
    cases taken
  rw [if_neg dead] at taken
  cases move with
  | log client pbm =>
      simp only at taken
      split at taken
      next =>
        cases Option.some.inj taken
        exact settled.log client quiet
      next => cases taken
  | write client =>
      simp only at taken
      split at taken
      next line lines system statements own =>
        cases Option.some.inj taken
        have present : (state.clients client).lines = line :: lines := by rw [own]
        rcases settled.write present with ⟨usable, kept⟩
        rcases state.write_frame with ⟨written, same⟩
        rw [same] at kept ⊢
        apply kept.setClient client
        · intro closed
          exact absurd closed usable
        · intro exited
          have nothing := settled.statements_eq_nil own exited
          exact nothing
      next => cases taken
  | syslog client =>
      simp only at taken
      split at taken
      next line system statements own =>
        cases Option.some.inj taken
        apply settled.setClient client
        · exact fun _ => rfl
        · intro exited
          have nothing := settled.statements_eq_nil own exited
          exact nothing
      next => cases taken
  | push client allocated =>
      simp only at taken
      split at taken
      next statement statements own =>
        cases Option.some.inj taken
        apply settled.setClient client
        · exact fun _ => rfl
        · intro exited
          cases settled.statements_eq_nil own exited
      next statement statements item stale own =>
        rcases Option.map_eq_some_iff.mp taken with ⟨pushed, worked, rfl⟩
        have present : (state.clients client).statements = statement :: statements := by rw [own]
        rcases settled.push present worked with ⟨inside, kept⟩
        apply kept.setClient client
        · exact fun _ => rfl
        · intro exited
          cases inside.symm.trans exited
      next => cases taken
  | leaveLoop =>
      simp only at taken
      split at taken
      next =>
        cases Option.some.inj taken
        exact settled.goOn .stoppingFile state.crashed
      next => cases taken
  | fclose =>
      simp only at taken
      split at taken
      next =>
        cases Option.some.inj taken
        exact settled.fclose .stoppingSyslog quiet
      next => cases taken
  | closelog =>
      simp only at taken
      split at taken
      next =>
        cases Option.some.inj taken
        exact settled.goOn .stoppingSqlite state.crashed
      next => cases taken
  | background move =>
      simp only at taken
      split at taken
      next =>
        rcases Option.map_eq_some_iff.mp taken with ⟨worker, worked, rfl⟩
        apply settled.work worked
        intro test
        rw [test] at quiet
        exact quiet
      next => cases taken
  | stop move =>
      simp only at taken
      split at taken
      next allowed =>
        rcases Option.map_eq_some_iff.mp taken with ⟨worker, worked, rfl⟩
        apply settled.work worked
        intro test
        rw [test] at allowed
        cases allowed.1
      next => cases taken

/-! ## What happens otherwise -/

/-- A file closed under a client with a line to write is written to by its next
step. -/
theorem write_after_fclose {setup : Setup} {state : Shutdown} {client : Nat} {line : Bytes}
    {lines : List Bytes} (alive : state.crashed = none) (stopping : state.halt = .stoppingFile)
    (opened : state.fp = .opened) (own : (state.clients client).lines = line :: lines) :
    Exists fun next => (Shutdown.step setup).run state [.fclose, .write client] = some next ∧
      ¬ Orderly next := by
  rcases remaining : state.clients client with ⟨rest, system, statements⟩
  rw [remaining] at own
  cases own
  have closes : Shutdown.step setup state .fclose =
      some { state with halt := .stoppingSyslog, fp := .closed } := by
    simp [Shutdown.step, alive, stopping, opened]
  have writes : Shutdown.step setup { state with halt := .stoppingSyslog, fp := .closed }
      (.write client) =
        some (Shutdown.setClient
          { state with
            halt := .stoppingSyslog, fp := .closed, written := .closed :: state.written }
          client ⟨lines, system, statements⟩) := by
    simp [Shutdown.step, alive, remaining, Shutdown.write]
  refine ⟨_, PartialStep.run_cons_eq_some.mpr ⟨_, closes,
    PartialStep.run_cons_eq_some.mpr ⟨_, writes, rfl⟩⟩, ?_⟩
  intro orderly
  exact orderly.written .closed List.mem_cons_self rfl

/-- Without assertions a push reports success whatever the queue holds. -/
theorem push_accepted {env : Settings Bytes} {worker : Worker Bytes}
    {slot : Option (Statement Bytes)} {fifo : Fifo (Statement Bytes)} (client : Nat)
    (statement : Bytes) {item : Address} (alive : worker.crashed = none)
    (unlocked : worker.rotation = .idle) (present : worker.fifo = some fifo)
    (holds : worker.Holds slot) (unused : fifo.heap item = none) :
    Exists fun next => work .release env worker (.push client statement item none) = some next ∧
      next.crashed = none := by
  rcases holds with ⟨fifo', present', represents⟩
  cases Option.some.inj (present.symm.trans present')
  have answered : Exists fun pushed => fifoPushItem .release (some fifo)
      (some ⟨worker.tickets, statement⟩) (some (item, none)) = .ok (.ok, some pushed) := by
    cases slot with
    | none =>
        rcases fifoPushItem_empty .release represents ⟨worker.tickets, statement⟩ item none with
          ⟨pushed, answered, _⟩
        exact ⟨pushed, answered⟩
    | some kept =>
        rcases (fifoPushItem_occupied represents ⟨worker.tickets, statement⟩ item none
          unused).2 with ⟨pushed, answered, _⟩
        exact ⟨pushed, answered⟩
  rcases answered with ⟨pushed, answered⟩
  refine ⟨{ worker with fifo := some pushed, tickets := worker.tickets + 1 }, ?_, alive⟩
  simp [work, alive, Worker.push, present, unlocked, unused, answered]

/-- A background thread that leaves under a client with a statement to push has
the statement accepted after it has left. -/
theorem push_after_exit {setup : Setup} {state : Shutdown} {slot : Option (Statement Bytes)}
    {fifo : Fifo (Statement Bytes)} {client : Nat} {statement : Bytes} {statements : List Bytes}
    {item : Address} (released : setup.build = .release) (alive : state.crashed = none)
    (intact : state.worker.crashed = none) (unlocked : state.worker.rotation = .idle)
    (testing : state.worker.background = .testing) (lowered : state.worker.bgrunning = false)
    (own : state.clients client = ⟨[], [], statement :: statements⟩)
    (present : state.worker.fifo = some fifo) (holds : state.worker.Holds slot)
    (unused : fifo.heap item = none) :
    Exists fun next => (Shutdown.step setup).run state
        [.background .test, .push client (some (item, none))] = some next ∧ ¬ Orderly next := by
  have leaves : Shutdown.step setup state (.background .test) =
      some { state with worker := { state.worker with background := .exited } } := by
    simp [Shutdown.step, alive, ofBackground, work, intact, testing, lowered]
  have pushed : Exists fun worker => work setup.build setup.env
      { state.worker with background := .exited } (.push client statement item none) =
        some worker ∧ worker.crashed = none := by
    rw [released]
    exact push_accepted client statement intact unlocked present holds unused
  rcases pushed with ⟨worker, accepted, sound⟩
  have pushes : Shutdown.step setup
      { state with worker := { state.worker with background := .exited } }
      (.push client (some (item, none))) =
        some (Shutdown.setClient
          { state with worker := worker, accepted := true :: state.accepted }
          client ⟨[], [], statements⟩) := by
    simp [Shutdown.step, alive, own, Shutdown.push, accepted, sound, hasExited]
  refine ⟨_, PartialStep.run_cons_eq_some.mpr ⟨_, leaves,
    PartialStep.run_cons_eq_some.mpr ⟨_, pushes, rfl⟩⟩, ?_⟩
  intro orderly
  cases orderly.accepted true List.mem_cons_self

/-- In a run in which the file is closed and the background thread leaves only
when the clients are through with them, nothing goes through a stopped engine.
Where the file is closed under a client, its next line is written to the closed
file; and where the background thread leaves under a client, its next statement
is accepted for nobody. -/
theorem stopped_engines_unused (setup : Setup) (moves : List ShutdownMove) (final : Shutdown)
    (ran : (Shutdown.step setup).run (.start setup) moves = some final)
    (quiet : (Shutdown.step setup).Respects (Quiet setup) (.start setup) moves) :
    Orderly final ∧
    (forall client line lines, final.crashed = none -> final.halt = .stoppingFile ->
      final.fp = .opened -> (final.clients client).lines = line :: lines ->
      Exists fun next => (Shutdown.step setup).run final [.fclose, .write client] = some next ∧
        ¬ Orderly next) ∧
    (forall client statement statements fifo item, setup.build = .release ->
      final.crashed = none -> final.worker.crashed = none -> final.worker.rotation = .idle ->
      final.worker.background = .testing -> final.worker.bgrunning = false ->
      final.clients client = ⟨[], [], statement :: statements⟩ ->
      final.worker.fifo = some fifo -> fifo.heap item = none ->
      Exists fun next => (Shutdown.step setup).run final
          [.background .test, .push client (some (item, none))] = some next ∧
        ¬ Orderly next) := by
  have settled : Settled final := by
    apply PartialStep.run_invariant_of_respects _ ran quiet (settled_start setup)
    intro state move next taken met
    exact Settled.step taken met
  refine ⟨settled.orderly, ?_, ?_⟩
  · intro client line lines alive stopping opened own
    exact write_after_fclose alive stopping opened own
  · intro client statement statements fifo item released alive intact unlocked testing lowered
      own present unused
    rcases settled.queue with ⟨slot, holds⟩
    exact push_after_exit released alive intact unlocked testing lowered own present holds unused

/-- The log file and the sqlite engine take every response. -/
def twoEngines : Setup where
  build := .release
  inetNtop := fun _ _ => .literal "192.0.2.1"
  engines := ⟨⟨false, false, true⟩, ⟨true, false⟩, ⟨false, false⟩⟩
  env := obliging true
  opening := .opened

/-- A response without any field, which makes one line and one statement. -/
def bareAnswer : PBDNSMessage :=
  ⟨none, none, none, none, some ⟨none, [], none⟩, none⟩

/-- The client is through with its call before the loop ends. -/
def patientHalt : List ShutdownMove :=
  [.background .begin, .log 0 bareAnswer, .write 0, .push 0 (some (100, none)), .leaveLoop,
    .fclose]

theorem stopped_engines_unused_patientHalt :
    Exists fun final => (Shutdown.step twoEngines).run (.start twoEngines) patientHalt = some final ∧
      final.written = [.opened] ∧ final.accepted = [false] ∧ Orderly final := by
  have quiet : (Shutdown.step twoEngines).Respects (Quiet twoEngines) (.start twoEngines)
      patientHalt := by
    apply PartialStep.respects_cons rfl trivial
    refine PartialStep.respects_cons rfl (fun _ _ => ⟨nofun, nofun⟩) ?_
    apply PartialStep.respects_cons rfl trivial
    apply PartialStep.respects_cons rfl trivial
    apply PartialStep.respects_cons rfl trivial
    refine PartialStep.respects_cons rfl ?_ trivial
    intro _ client
    cases client with
    | zero => rfl
    | succ client => rfl
  refine ⟨_, rfl, rfl, rfl, ?_⟩
  exact (stopped_engines_unused twoEngines patientHalt _ rfl quiet).1

/-- The engines are stopped under a client that is inside its call. -/
def hastyHalt : List ShutdownMove :=
  [.background .begin, .log 0 bareAnswer, .leaveLoop, .fclose, .write 0, .closelog,
    .stop .stopFlag, .background .test, .push 0 (some (100, none))]

/-- Its line goes to the closed file, and its statement is accepted after the
background thread has left. -/
theorem hasty_halt_uses_stopped_engines :
    Exists fun final => (Shutdown.step twoEngines).run (.start twoEngines) hastyHalt = some final ∧
      final.written = [.closed] ∧ final.accepted = [true] ∧ ¬ Orderly final := by
  refine ⟨_, rfl, rfl, rfl, ?_⟩
  intro orderly
  exact orderly.written .closed List.mem_cons_self rfl

end Lifecycle
end PdnsLogger
