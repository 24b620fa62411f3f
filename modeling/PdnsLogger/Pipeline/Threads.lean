import PdnsLogger.Transport.Connections
import PdnsLogger.Storage.Selection

namespace PdnsLogger
namespace Pipeline

open Foundation Program Engines Transport Queue Storage

/-!
# All threads of the process

A client thread reads, takes the complete frames off its buffer and passes each
message to the engines.  What it does to its buffer concerns nobody else.  What
the engines do is visible to all: a line handed to `write_log`, a line sent to
syslog, a statement pushed onto the queue, or the end of the process at an
assertion.  `Effect` names these, and here every single one of them may be
separated from the next by moves of other threads: of other clients, of the
background thread, of a rotation and of `logsqlite_stop`.

A `read` therefore leaves its thread with a list of effects to perform, in the
order in which the code performs them, and the thread reads again when the list
is empty.  `performed` is the order in which all effects of all threads took
place.  Whether a line handed to `write_log` is printed depends on `fp` at that
moment, which rotations and the stop change; the log file has a module of its own.
The queue and the database are those of the background thread and its neighbours,
and a push is one of their moves.
-/

/-! ## Effects -/

inductive Effect where
  | file (line : Bytes)
  | system (line : Bytes)
  | push (statement : Bytes)
  | abort (fault : Fault)
  deriving DecidableEq

namespace Effect

def fileLine : Effect -> Option Bytes
  | file line => some line
  | _ => none

def systemLine : Effect -> Option Bytes
  | system line => some line
  | _ => none

def statement : Effect -> Option Bytes
  | push statement => some statement
  | _ => none

end Effect

/-- The effects of `pdns_loggers_log`, engine by engine. -/
def messageEffects (env : Environment) (msg : PBDNSMessage) : List Effect :=
  match logfileLog env.build env.inetNtop env.engines.logfile (some msg) with
  | .error fault => [.abort fault]
  | .ok file =>
      file.map .file ++
        match syslogLog env.build env.inetNtop env.engines.syslog (some msg) with
        | .error fault => [.abort fault]
        | .ok system =>
            system.map .system ++
              (logsqliteLog env.inetNtop env.engines.sqlite (some msg)).map .push

def payloadEffects (env : Environment) (payload : Bytes) : List Effect :=
  match env.unpack payload with
  | some msg => messageEffects env msg
  | none =>
      match assertZero env.build .protobufParse with
      | .error fault => [.abort fault]
      | .ok _ => []

/-- Effects one after the other, with nothing in between. -/
def emit : Output -> List Effect -> Except Fault Output
  | output, [] => .ok output
  | output, .file line :: effects => emit { output with file := output.file ++ [line] } effects
  | output, .system line :: effects =>
      emit { output with system := output.system ++ [line] } effects
  | output, .push statement :: effects =>
      emit { output with statements := output.statements ++ [statement] } effects
  | _, .abort fault :: _ => .error fault

theorem emit_file (output : Output) (lines : List Bytes) (effects : List Effect) :
    emit output (lines.map .file ++ effects) =
      emit { output with file := output.file ++ lines } effects := by
  induction lines generalizing output with
  | nil => simp
  | cons line lines ih => simp [emit, ih]

theorem emit_system (output : Output) (lines : List Bytes) (effects : List Effect) :
    emit output (lines.map .system ++ effects) =
      emit { output with system := output.system ++ lines } effects := by
  induction lines generalizing output with
  | nil => simp
  | cons line lines ih => simp [emit, ih]

theorem emit_push (output : Output) (statements : List Bytes) :
    emit output (statements.map .push) =
      .ok { output with statements := output.statements ++ statements } := by
  induction statements generalizing output with
  | nil => simp [emit]
  | cons statement statements ih => simp [emit, ih]

/-- Without interference the effects of a payload are what `protobuf_parse` does
to the output. -/
theorem protobufParse_emit (env : Environment) (payload : Bytes) (session : Session) :
    (protobufParse env payload session).map (fun parsed => parsed.2.output) =
      emit session.output (payloadEffects env payload) := by
  unfold protobufParse payloadEffects
  cases env.unpack payload with
  | none =>
      cases env.build with
      | debug => rfl
      | release => rfl
  | some msg =>
      simp only [messageEffects, pdnsLoggersLog, bind, Except.bind, pure, Except.pure]
      cases logfileLog env.build env.inetNtop env.engines.logfile (some msg) with
      | error fault => rfl
      | ok file =>
          simp only [emit_file]
          cases syslogLog env.build env.inetNtop env.engines.syslog (some msg) with
          | error fault => rfl
          | ok system =>
              simp only [emit_system, emit_push]
              rfl

/-! ## A client thread -/

/-- The variables of `socket_thread_exec`, and the effects still to come before
it reads again. -/
structure Thread where
  connection : Connection
  todo : List Effect

/-- `protobuf_parse` with its effects put off. -/
def collect (env : Environment) : Parse (List Bytes × List Effect) := fun buf session =>
  .ok (.ok, session.1 ++ [buf], session.2 ++ payloadEffects env buf)

namespace Thread

/-- A `read` that returned bytes, and the frames that it completed. -/
def receive (env : Environment) (thread : Thread) (content : Bytes) : Except Fault Thread := do
  let connection := thread.connection
  let buffer ← connection.buffer.store connection.bsize content
  let bsize := connection.bsize + content.length
  let extracted ← protobufExtract (collect env) ⟨buffer, bsize, connection.handed, []⟩
  let phase ← Connection.dispatchStatus env.build extracted.1
  return ⟨⟨phase, extracted.2.buf, extracted.2.blen, extracted.2.session.1⟩,
    extracted.2.session.2⟩

/-- A move of a thread that has nothing left to perform. -/
def step (env : Environment) (thread : Thread) (event : Event) : Option (Except Fault Thread) :=
  let connection := thread.connection
  if thread.todo = [] then
    match connection.phase, event with
    | .starting, .setup succeeded => some (.ok ⟨connection.setup succeeded, []⟩)
    | .loopHead, .testFull => some (.ok ⟨connection.testFull, []⟩)
    | .reading, .read .error =>
        some (.ok ⟨{ connection with phase := .finished .readError }, []⟩)
    | .reading, .read .endOfFile =>
        some (.ok ⟨{ connection with phase := .finished .endOfFile }, []⟩)
    | .reading, .read (.bytes content) =>
        if 1 ≤ content.length ∧ content.length ≤ maxBufferSize - connection.bsize then
          some (thread.receive env content)
        else none
    | _, _ => none
  else none

end Thread

/-! ## The process -/

/-- The client threads, the effects performed by them, and the background thread
with its neighbours. -/
structure Process where
  threads : Nat -> Thread
  performed : List (Nat × Effect)
  worker : Worker Bytes
  aborted : Option Fault

/-- A move of a client thread by itself, the next effect of a client thread with
the answer of `malloc` for a push, or a move of the other threads. -/
inductive Turn where
  | thread (client : Nat) (event : Event)
  | effect (client : Nat) (allocated : Option (Address × Option Address))
  | engine (move : Move Bytes)

namespace Process

/-- The start of all threads after `logsqlite_init`, with the answer to its
`sqlite3_open_v2`. -/
def start (settings : Settings Bytes) (answer : OpenAnswer) (stack : Nat -> Buffer) :
    Process where
  threads i := ⟨⟨.starting, stack i, 0, []⟩, []⟩
  performed := []
  worker := .start settings answer
  aborted := none

def set (state : Process) (client : Nat) (thread : Thread) : Process :=
  { state with threads := Function.update state.threads client thread }

/-- A client thread performs its next effect.  A push without memory is given
up, and any other waits while a rotation holds the lock. -/
def perform (env : Environment) (state : Process) (client : Nat)
    (allocated : Option (Address × Option Address)) : Option Process :=
  match (state.threads client).todo with
  | [] => none
  | effect :: todo =>
      let done := { state.set client ⟨(state.threads client).connection, todo⟩ with
        performed := state.performed ++ [(client, effect)] }
      match effect with
      | .file _ => some done
      | .system _ => some done
      | .push statement =>
          match allocated with
          | none => some done
          | some (item, stale) =>
              (state.worker.push env.build statement item stale).map fun worker =>
                if worker.crashed.isSome then { state with worker := worker }
                else { done with worker := worker }
      | .abort fault => some { state with aborted := some fault }

/-- One move of the process.  Nothing moves after its end. -/
def step (env : Environment) (settings : Settings Bytes) : PartialStep Process Turn :=
  fun state turn =>
    if state.aborted.isSome ∨ state.worker.crashed.isSome then none
    else
      match turn with
      | .thread client event =>
          (Thread.step env (state.threads client) event).map fun result =>
            match result with
            | .ok thread => state.set client thread
            | .error fault => { state with aborted := some fault }
      | .effect client allocated => state.perform env client allocated
      | .engine (.push _ _ _ _) => none
      | .engine move =>
          (work env.build settings state.worker move).map fun worker =>
            { state with worker := worker }

end Process

/-- The events of the client threads in a schedule. -/
def clientEvents (turns : List Turn) : List (Nat × Event) :=
  turns.filterMap fun turn =>
    match turn with
    | .thread client event => some (client, event)
    | _ => none

end Pipeline
end PdnsLogger
