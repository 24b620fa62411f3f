import PdnsLogger.Foundation.PartialRuns
import PdnsLogger.Transport.Deframing
import PdnsLogger.Engines.Dispatch
import Mathlib.Logic.Function.Basic

namespace PdnsLogger
namespace Transport

open Foundation Program Engines

/-!
# Client connections

Every accepted connection is served by its own thread, which alternates a test
for a full buffer, one `read`, and one call of `protobuf_extract`.  The buffer
belongs to the thread; the engines behind `protobuf_parse` are shared.

A schedule is a list of events, each naming a connection.  It fixes the
interleaving of the threads and, through the results of `read`, the way in
which each client's stream was cut.  One `read` and the extraction after it
are one event: threads share nothing but what the engines have emitted, and
that is only ever added to.  The bytes a client has sent are those its
`read` events delivered, so they are a function of the schedule and no ghost
variable is needed for them.

A fault inside a step ends the process.  This covers a failed assertion and
every access outside a buffer alike, so a run that is still running has had
neither.
-/

/-! ## `protobuf_parse` -/

/-- What the threads share and never change: the build, the C library, the
generated unpacker and the configured engines. -/
structure Environment where
  build : Build
  inetNtop : InetNtop
  unpack : Bytes -> Option PBDNSMessage
  engines : Registered

/-- The engines' output so far, and the payloads handed over for the calling
connection. -/
structure Session where
  output : Output
  handed : List Bytes

def protobufParse (env : Environment) : Parse Session := fun buf session => do
  let session := { session with handed := session.handed ++ [buf] }
  match env.unpack buf with
  | none =>
      assertZero env.build .protobufParse
      return (.no, session)
  | some msg =>
      let output ← pdnsLoggersLog env.build env.inetNtop env.engines msg session.output
      return (.ok, { session with output := output })

/-- The payload makes `protobuf_parse` fail an assertion. -/
def Aborts (env : Environment) (payload : Bytes) : Prop :=
  env.build = .debug ∧
    match env.unpack payload with
    | none => True
    | some msg => Trips env.engines msg

/-- The assertions behind `protobuf_parse`. -/
def ParserAssertion (fault : Fault) : Prop :=
  fault = .assertion .protobufParse ∨ fault = .assertion .logfileLog ∨
    fault = .assertion .syslogLog

/-- `protobuf_parse` either fails an assertion or returns, having recorded the
payload. -/
theorem protobufParse_cases (env : Environment) (payload : Bytes) (session : Session) :
    (Aborts env payload ∧ Exists fun fault =>
      protobufParse env payload session = .error fault ∧ ParserAssertion fault) ∨
    (¬ Aborts env payload ∧ Exists fun status => Exists fun output =>
      protobufParse env payload session = .ok (status, ⟨output, session.handed ++ [payload]⟩)) := by
  unfold protobufParse Aborts
  cases unpacked : env.unpack payload with
  | none =>
      cases built : env.build with
      | debug => exact .inl ⟨⟨rfl, trivial⟩, _, rfl, .inl rfl⟩
      | release =>
          refine .inr ⟨?_, .no, session.output, rfl⟩
          rintro ⟨impossible, _⟩
          cases impossible
  | some msg =>
      rcases pdnsLoggersLog_cases env.build env.inetNtop env.engines msg session.output with
        ⟨debug, trips, file | system⟩ | ⟨passes, output, logged⟩
      · refine .inl ⟨⟨debug, trips⟩, .assertion .logfileLog, ?_, .inr (.inl rfl)⟩
        simp only [file, bind, Except.bind]
      · refine .inl ⟨⟨debug, trips⟩, .assertion .syslogLog, ?_, .inr (.inr rfl)⟩
        simp only [system, bind, Except.bind]
      · refine .inr ⟨passes, .ok, output, ?_⟩
        simp only [logged, bind, Except.bind, pure, Except.pure]

/-- Handing over several payloads fails an assertion exactly when one of them
does. -/
theorem feed_protobufParse_cases (env : Environment) (payloads : List Bytes) (session : Session) :
    ((Exists fun payload => payload ∈ payloads ∧ Aborts env payload) ∧ Exists fun fault =>
      feed (protobufParse env) payloads session = .error fault ∧ ParserAssertion fault) ∨
    ((forall payload, payload ∈ payloads -> ¬ Aborts env payload) ∧ Exists fun output =>
      feed (protobufParse env) payloads session = .ok ⟨output, session.handed ++ payloads⟩) := by
  induction payloads generalizing session with
  | nil =>
      refine .inr ⟨?_, session.output, ?_⟩
      · intro payload member
        cases member
      · rw [List.append_nil]
        rfl
  | cons payload payloads ih =>
      rcases protobufParse_cases env payload session with
        ⟨aborts, fault, faulted, site⟩ | ⟨passes, status, output, returned⟩
      · refine .inl ⟨⟨payload, List.mem_cons_self, aborts⟩, fault, ?_, site⟩
        simp only [feed, faulted, bind, Except.bind]
      · rcases ih ⟨output, session.handed ++ [payload]⟩ with
          ⟨⟨later, member, aborts⟩, fault, faulted, site⟩ | ⟨rest, final, returnedRest⟩
        · refine .inl ⟨⟨later, List.mem_cons_of_mem _ member, aborts⟩, fault, ?_, site⟩
          simp only [feed, returned, bind, Except.bind, faulted]
        · refine .inr ⟨?_, final, ?_⟩
          · intro other member
            rcases List.mem_cons.mp member with same | member
            · exact same ▸ passes
            · exact rest other member
          · simp only [feed, returned, bind, Except.bind, returnedRest, List.append_assoc,
              List.singleton_append]

/-! ## `socket_thread_exec` -/

/-- How a connection's thread left its loop, or that it never entered it. -/
inductive Ending where
  | setupFailed
  | bufferFull
  | readError
  | endOfFile
  | rejected
  deriving DecidableEq, Repr

inductive Phase where
  | starting
  | loopHead
  | reading
  | finished (ending : Ending)
  deriving DecidableEq, Repr

/-- The local variables of `socket_thread_exec`, and the payloads handed to
`protobuf_parse` so far. -/
structure Connection where
  phase : Phase
  buffer : Buffer
  bsize : Nat
  handed : List Bytes

/-- A result of `read`. -/
inductive ReadResult where
  | bytes (content : Bytes)
  | endOfFile
  | error
  deriving DecidableEq, Repr

/-- One move of a connection's thread, with what the system answered. -/
inductive Event where
  | setup (succeeded : Bool)
  | testFull
  | read (result : ReadResult)
  deriving DecidableEq, Repr

namespace Connection

/-- The outcome of the two `fcntl` calls. -/
def setup (connection : Connection) (succeeded : Bool) : Connection :=
  { connection with phase := if succeeded then .loopHead else .finished .setupFailed }

/-- The test at the head of the loop. -/
def testFull (connection : Connection) : Connection :=
  { connection with
    phase := if connection.bsize = maxBufferSize then .finished .bufferFull else .reading }

/-- The branch on the status returned by `protobuf_extract`. -/
def dispatchStatus (build : Build) : PdnsStatus -> Except Fault Phase
  | .no => .ok (.finished .rejected)
  | .retry => .ok .loopHead
  | .ok => .ok .loopHead
  | .fork => do
      assertZero build .socketThreadExec
      return .loopHead

/-- A `read` that returned bytes, and the rest of the loop body after it. -/
def receive (env : Environment) (connection : Connection) (output : Output) (content : Bytes) :
    Except Fault (Connection × Output) := do
  let buffer ← connection.buffer.store connection.bsize content
  let bsize := connection.bsize + content.length
  let extracted ← protobufExtract (protobufParse env) ⟨buffer, bsize, ⟨output, connection.handed⟩⟩
  let phase ← dispatchStatus env.build extracted.1
  return (⟨phase, extracted.2.buf, extracted.2.blen, extracted.2.session.handed⟩,
    extracted.2.session.output)

end Connection

/-! ## The process -/

structure Server where
  connections : Nat -> Connection
  output : Output

/-- The process runs until some thread faults. -/
inductive Process where
  | running (server : Server)
  | aborted (fault : Fault)

def Server.set (server : Server) (i : Nat) (connection : Connection) : Server :=
  { server with connections := Function.update server.connections i connection }

def Process.start (stack : Nat -> Buffer) : Process :=
  .running ⟨fun i => ⟨.starting, stack i, 0, []⟩, ⟨[], [], []⟩⟩

/-- One step of the process.  `read` returns at least one byte and at most the
space that is left. -/
def step (env : Environment) : PartialStep Process (Nat × Event)
  | .aborted _, _ => none
  | .running server, (i, event) =>
      let connection := server.connections i
      match connection.phase, event with
      | .starting, .setup succeeded => some (.running (server.set i (connection.setup succeeded)))
      | .loopHead, .testFull => some (.running (server.set i connection.testFull))
      | .reading, .read .error =>
          some (.running (server.set i { connection with phase := .finished .readError }))
      | .reading, .read .endOfFile =>
          some (.running (server.set i { connection with phase := .finished .endOfFile }))
      | .reading, .read (.bytes content) =>
          if 1 ≤ content.length ∧ content.length ≤ maxBufferSize - connection.bsize then
            match connection.receive env server.output content with
            | .error fault => some (.aborted fault)
            | .ok (next, output) =>
                some (.running { server.set i next with output := output })
          else none
      | _, _ => none

/-- The bytes an event delivers to a connection. -/
def delivered (i : Nat) : Nat × Event -> Bytes
  | (j, .read (.bytes content)) => if j = i then content else []
  | _ => []

/-- The bytes a schedule delivers to a connection. -/
def receivedOf (i : Nat) (events : List (Nat × Event)) : Bytes :=
  events.flatMap (delivered i)

theorem receivedOf_cons (i : Nat) (event : Nat × Event) (events : List (Nat × Event)) :
    receivedOf i (event :: events) = delivered i event ++ receivedOf i events :=
  List.flatMap_cons

/-! ## A frame that can never complete -/

/-- The leading frame declares more than the buffer holds behind a header, and
a whole buffer of it has arrived. -/
def Blocked (input : Bytes) : Prop :=
  Exists fun high => Exists fun low => Exists fun rest =>
    input = high :: low :: rest ∧ 8190 < declaredLength high low ∧ 8192 ≤ input.length

/-- Nothing is ever recognized behind an oversized frame. -/
theorem next_none_of_blocked {input : Bytes} (blocked : Blocked input) (more : Bytes) :
    frames.next (input ++ more) = none := by
  rcases blocked with ⟨high, low, rest, same, oversized, _⟩
  have tooLong : ¬ (declaredLength high low + 2 ≤ maxBufferSize ∧
      declaredLength high low ≤ (rest ++ more).length) := by
    rw [maxBufferSize]
    omega
  rw [same, frames_next, List.cons_append, List.cons_append, nextFrame, if_neg tooLong]

theorem items_append_of_blocked {received : Bytes} (blocked : Blocked (frames.remainder received))
    (more : Bytes) : frames.items (received ++ more) = frames.items received := by
  rw [frames.items_append, frames.items_of_next_none (next_none_of_blocked blocked more),
    List.append_nil]

/-- Bytes without a complete frame that fill the buffer start with an
oversized one. -/
theorem blocked_iff_of_next_none {input : Bytes} (stuck : frames.next input = none)
    (bounded : input.length ≤ maxBufferSize) :
    Blocked input ↔ input.length = maxBufferSize := by
  rw [maxBufferSize] at bounded ⊢
  constructor
  · rintro ⟨high, low, rest, _, _, arrived⟩
    omega
  · intro full
    match input, full with
    | high :: low :: rest, full =>
        refine ⟨high, low, rest, rfl, ?_, Nat.le_of_eq full.symm⟩
        rw [List.length_cons, List.length_cons] at full
        by_cases oversized : 8190 < declaredLength high low
        · exact oversized
        · have complete : declaredLength high low + 2 ≤ maxBufferSize ∧
              declaredLength high low ≤ rest.length := by
            rw [maxBufferSize]
            omega
          rw [frames_next, nextFrame, if_pos complete] at stuck
          cases stuck

/-! ## The invariant of one connection -/

/-- A connection agrees with the reference division of what it has received.
Away from the loop head, a full buffer means that its client was disconnected
for it. -/
structure Tracks (connection : Connection) (received : Bytes) : Prop where
  bounded : connection.bsize ≤ maxBufferSize
  handed : connection.handed = frames.items received
  unconsumed : connection.buffer.valid connection.bsize = frames.remainder received
  settled : connection.phase ≠ .loopHead ->
    (connection.phase = .finished .bufferFull ↔ connection.bsize = maxBufferSize)

namespace Tracks

variable {connection : Connection} {received : Bytes}

theorem start (buffer : Buffer) : Tracks ⟨.starting, buffer, 0, []⟩ [] where
  bounded := Nat.zero_le _
  handed := rfl
  unconsumed := rfl
  settled := by
    intro _
    constructor
    · intro impossible
      cases impossible
    · intro impossible
      cases impossible

/-- A thread may leave a phase other than the loop head for any ending but the
full buffer. -/
theorem finish (tracks : Tracks connection received) {ending : Ending}
    (away : connection.phase ≠ .loopHead) (before : connection.phase ≠ .finished .bufferFull)
    (other : ending ≠ .bufferFull) :
    Tracks { connection with phase := .finished ending } received where
  bounded := tracks.bounded
  handed := tracks.handed
  unconsumed := tracks.unconsumed
  settled := by
    intro _
    have room := mt (tracks.settled away).mpr before
    constructor
    · intro same
      exact absurd (Phase.finished.inj same) other
    · intro full
      exact absurd full room

theorem setup (tracks : Tracks connection received) (starting : connection.phase = .starting)
    (succeeded : Bool) : Tracks (connection.setup succeeded) received := by
  cases succeeded with
  | false =>
      refine tracks.finish ?_ ?_ ?_
      · rw [starting]
        decide
      · rw [starting]
        decide
      · decide
  | true =>
      exact ⟨tracks.bounded, tracks.handed, tracks.unconsumed, fun away => absurd rfl away⟩

theorem testFull (tracks : Tracks connection received) : Tracks connection.testFull received where
  bounded := tracks.bounded
  handed := tracks.handed
  unconsumed := tracks.unconsumed
  settled := by
    intro _
    unfold Connection.testFull
    by_cases full : connection.bsize = maxBufferSize
    · simp only [full, if_true]
    · simp only [full, if_false, iff_false]
      intro impossible
      cases impossible

theorem length_remainder (tracks : Tracks connection received) :
    (frames.remainder received).length = connection.bsize := by
  rw [← tracks.unconsumed, connection.buffer.length_valid tracks.bounded]

/-- A full buffer is the same as an oversized first unconsumed frame. -/
theorem blocked_iff (tracks : Tracks connection received) :
    Blocked (frames.remainder received) ↔ connection.bsize = maxBufferSize := by
  rw [blocked_iff_of_next_none (frames.next_remainder received)
    (tracks.length_remainder ▸ tracks.bounded), tracks.length_remainder]

/-- A successful `read`, followed by `protobuf_extract`, hands over exactly the
frames that the new bytes complete. -/
theorem receive (tracks : Tracks connection received) (env : Environment) (output : Output)
    (content : Bytes) (fits : content.length ≤ maxBufferSize - connection.bsize) :
    ((Exists fun payload => payload ∈ frames.items (received ++ content) ∧ Aborts env payload) ∧
      Exists fun fault => connection.receive env output content = .error fault ∧
        ParserAssertion fault) ∨
    ((forall payload, payload ∈ frames.items (frames.remainder received ++ content) ->
        ¬ Aborts env payload) ∧
      Exists fun next => Exists fun final =>
        connection.receive env output content = .ok (next, final) ∧
          Tracks next (received ++ content)) := by
  have bounded := tracks.bounded
  have room : connection.bsize + content.length ≤ maxBufferSize := by omega
  rcases connection.buffer.store_ok connection.bsize content room with ⟨stored, wrote, visible⟩
  rw [tracks.unconsumed] at visible
  have spec := protobufExtract_spec (protobufParse env)
    ⟨stored, connection.bsize + content.length, ⟨output, connection.handed⟩⟩ room
  simp only [visible] at spec
  rcases feed_protobufParse_cases env (frames.items (frames.remainder received ++ content))
      ⟨output, connection.handed⟩ with
    ⟨⟨payload, member, aborts⟩, fault, faulted, site⟩ | ⟨passes, final, accepted⟩
  · simp only [Deframes, faulted] at spec
    refine .inl ⟨⟨payload, ?_, aborts⟩, fault, ?_, site⟩
    · rw [frames.items_append]
      exact List.mem_append_right _ member
    · simp only [Connection.receive, wrote, spec, bind, Except.bind]
  · simp only [Deframes, accepted] at spec
    rcases spec with ⟨buf, kept, extracted⟩
    refine .inr ⟨passes,
      ⟨.loopHead, buf, (frames.remainder (frames.remainder received ++ content)).length,
        connection.handed ++ frames.items (frames.remainder received ++ content)⟩, final, ?_, ?_⟩
    · simp only [Connection.receive, wrote, extracted, bind, Except.bind]
      by_cases emptied : frames.remainder (frames.remainder received ++ content) = [] ∧
          frames.remainder received ++ content ≠ []
      · simp only [if_pos emptied, Connection.dispatchStatus]
        rfl
      · simp only [if_neg emptied, Connection.dispatchStatus]
        rfl
    · have shorter := length_remainder_le (frames.remainder received ++ content)
      rw [List.length_append, tracks.length_remainder] at shorter
      refine ⟨?_, ?_, ?_, fun away => absurd rfl away⟩
      · change (frames.remainder (frames.remainder received ++ content)).length ≤ maxBufferSize
        omega
      · rw [frames.items_append received content, ← tracks.handed]
      · rw [frames.remainder_append received content]
        exact kept

end Tracks

/-! ## The invariant of the process -/

/-- A running process has every connection tracking its own bytes and has seen
no aborting payload.  An aborted one failed an assertion behind
`protobuf_parse`, and some client had completed an aborting payload. -/
def Consistent (env : Environment) (received : Nat -> Bytes) : Process -> Prop
  | .running server => forall i, Tracks (server.connections i) (received i) ∧
      forall payload, payload ∈ frames.items (received i) -> ¬ Aborts env payload
  | .aborted fault => ParserAssertion fault ∧ Exists fun i => Exists fun payload =>
      payload ∈ frames.items (received i) ∧ Aborts env payload

theorem consistent_start (env : Environment) (stack : Nat -> Buffer) :
    Consistent env (fun _ => []) (Process.start stack) := by
  intro i
  refine ⟨Tracks.start (stack i), ?_⟩
  intro payload member
  cases member

/-- A move of one connection that keeps its invariant keeps that of the
process: the other connections are not touched. -/
theorem consistent_set {env : Environment} {received : Nat -> Bytes} {server : Server} {i : Nat}
    {next : Connection} {content : Bytes} (output : Output)
    (consistent : Consistent env received (.running server))
    (tracks : Tracks next (received i ++ content))
    (passes : forall payload, payload ∈ frames.items (frames.remainder (received i) ++ content) ->
      ¬ Aborts env payload) :
    Consistent env (fun j => received j ++ if i = j then content else [])
      (.running { server.set i next with output := output }) := by
  intro j
  by_cases same : i = j
  · subst same
    simp only [Server.set, Function.update_self, if_true]
    refine ⟨tracks, ?_⟩
    intro payload member
    rw [frames.items_append] at member
    rcases List.mem_append.mp member with earlier | later
    · exact (consistent i).2 payload earlier
    · exact passes payload later
  · simp only [Server.set, if_neg same, List.append_nil]
    rw [Function.update_of_ne (Ne.symm same)]
    exact consistent j

theorem consistent_set_silent {env : Environment} {received : Nat -> Bytes} {server : Server}
    {i : Nat} {next : Connection} (consistent : Consistent env received (.running server))
    (tracks : Tracks next (received i)) :
    Consistent env (fun j => received j ++ []) (.running (server.set i next)) := by
  have nothing : frames.items (frames.remainder (received i) ++ []) = [] := by
    rw [List.append_nil, frames.items_of_next_none (frames.next_remainder _)]
  have kept : Consistent env (fun j => received j ++ if i = j then [] else [])
      (.running (server.set i next)) := by
    refine consistent_set server.output consistent ?_ ?_
    · rw [List.append_nil]
      exact tracks
    · intro payload member
      rw [nothing] at member
      cases member
  simpa only [ite_self] using kept

theorem step_consistent {env : Environment} {received : Nat -> Bytes} {process next : Process}
    {label : Nat × Event} (taken : step env process label = some next)
    (consistent : Consistent env received process) :
    Consistent env (fun j => received j ++ delivered j label) next := by
  rcases label with ⟨i, event⟩
  cases process with
  | aborted fault => cases taken
  | running server =>
      have tracks := (consistent i).1
      unfold step at taken
      dsimp only at taken
      split at taken
      next starting =>
        cases Option.some.inj taken
        exact consistent_set_silent consistent (tracks.setup starting _)
      next =>
        cases Option.some.inj taken
        exact consistent_set_silent consistent tracks.testFull
      next reading =>
        cases Option.some.inj taken
        refine consistent_set_silent consistent (tracks.finish ?_ ?_ (by decide))
        · rw [reading]
          decide
        · rw [reading]
          decide
      next reading =>
        cases Option.some.inj taken
        refine consistent_set_silent consistent (tracks.finish ?_ ?_ (by decide))
        · rw [reading]
          decide
        · rw [reading]
          decide
      next content _ =>
        by_cases legal : 1 ≤ content.length ∧
            content.length ≤ maxBufferSize - (server.connections i).bsize
        · rw [if_pos legal] at taken
          rcases tracks.receive env server.output content legal.2 with
            ⟨⟨payload, member, aborts⟩, fault, faulted, site⟩ | ⟨passes, after, output, ok, kept⟩
          · rw [faulted] at taken
            cases Option.some.inj taken
            refine ⟨site, i, payload, ?_, aborts⟩
            simpa only [delivered, if_true] using member
          · rw [ok] at taken
            cases Option.some.inj taken
            exact consistent_set output consistent kept passes
        · rw [if_neg legal] at taken
          cases taken
      next => cases taken

theorem run_consistent {env : Environment} {received : Nat -> Bytes} {process final : Process}
    {events : List (Nat × Event)} (ran : (step env).run process events = some final)
    (consistent : Consistent env received process) :
    Consistent env (fun i => received i ++ receivedOf i events) final := by
  induction events generalizing process received with
  | nil =>
      cases Option.some.inj ran
      simpa only [receivedOf, List.flatMap_nil, List.append_nil] using consistent
  | cons event events ih =>
      rcases PartialStep.run_cons_eq_some.mp ran with ⟨next, taken, rest⟩
      have later := ih rest (step_consistent taken consistent)
      simpa only [receivedOf_cons, List.append_assoc] using later

/-! ## Delivery -/

/-- What a client can rely on: its complete frames were handed over in order
and unaltered, the rest is in the buffer, and it is disconnected for a full
buffer exactly when its next frame can never complete. -/
structure Delivers (connection : Connection) (received : Bytes) : Prop where
  handed : connection.handed = frames.items received
  unconsumed : connection.buffer.valid connection.bsize = frames.remainder received
  nothingSkipped :
    connection.handed.flatMap frame ++ connection.buffer.valid connection.bsize = received
  disconnects : connection.phase = .loopHead ->
    (connection.testFull.phase = .finished .bufferFull ↔ Blocked (frames.remainder received))
  disconnected : connection.phase ≠ .loopHead ->
    (connection.phase = .finished .bufferFull ↔ Blocked (frames.remainder received))
  nothingLost : connection.phase = .finished .bufferFull ->
    forall more, frames.items (received ++ more) = connection.handed

theorem Tracks.delivers {connection : Connection} {received : Bytes}
    (tracks : Tracks connection received) : Delivers connection received where
  handed := tracks.handed
  unconsumed := tracks.unconsumed
  nothingSkipped := by
    rw [tracks.handed, tracks.unconsumed]
    exact framed_items_append_remainder received
  disconnects := by
    intro _
    rw [tracks.blocked_iff]
    exact tracks.testFull.settled (by
      unfold Connection.testFull
      by_cases full : connection.bsize = maxBufferSize <;> simp [full])
  disconnected := by
    intro away
    rw [tracks.blocked_iff]
    exact tracks.settled away
  nothingLost := by
    intro full more
    have away : connection.phase ≠ .loopHead := by
      rw [full]
      decide
    have blocked := tracks.blocked_iff.mpr ((tracks.settled away).mp full)
    rw [items_append_of_blocked blocked, tracks.handed]

/-- Without assertions the process runs on, and every connection delivers the
frames of its own stream, however the bytes arrived, whatever the unpacker
rejected and however the connections were interleaved. -/
theorem connections_deliver_frames (inetNtop : InetNtop) (unpack : Bytes -> Option PBDNSMessage)
    (engines : Registered) (stack : Nat -> Buffer) (events : List (Nat × Event))
    (process : Process)
    (ran : (step ⟨.release, inetNtop, unpack, engines⟩).run (.start stack) events =
      some process) :
    Exists fun server : Server => process = .running server ∧
      forall i, Delivers (server.connections i) (receivedOf i events) := by
  have consistent := run_consistent ran (consistent_start _ stack)
  cases process with
  | aborted fault =>
      rcases consistent with ⟨_, i, payload, _, impossible, _⟩
      cases impossible
  | running server =>
      refine ⟨server, rfl, ?_⟩
      intro i
      exact (consistent i).1.delivers

/-- A message that has only its required field. -/
def bareMessage : PBDNSMessage :=
  ⟨none, none, none, none, none, none⟩

/-- An unpacker that knows the encoding of the bare message, and three enabled
engines. -/
def bareEnvironment (build : Build) : Environment where
  build := build
  inetNtop := fun _ _ => .literal "127.0.0.1"
  unpack := fun payload => if payload = [8, 1] then some bareMessage else none
  engines := ⟨⟨false, false, true⟩, ⟨false, false⟩, ⟨false, false⟩⟩

def staleStack : Nat -> Buffer :=
  fun _ => ⟨List.replicate 8192 255, List.length_replicate⟩

/-- Two clients.  The first has its frames cut inside a header and inside a
payload, and sends one payload that does not unpack. -/
def twoClients : List (Nat × Event) :=
  [(0, .setup true), (1, .setup true), (0, .testFull), (0, .read (.bytes [0])), (0, .testFull),
    (1, .testFull), (0, .read (.bytes [1, 9, 0, 2, 8])), (1, .read (.bytes [0, 2, 8, 1])),
    (0, .testFull), (0, .read (.bytes [1]))]

theorem connections_deliver_frames_twoClients :
    Exists fun server : Server =>
      (step (bareEnvironment .release)).run (.start staleStack) twoClients =
        some (.running server) ∧
      (server.connections 0).handed = [[9], [8, 1]] ∧ (server.connections 1).handed = [[8, 1]] := by
  have enabled : ((step (bareEnvironment .release)).run (.start staleStack) twoClients).isSome =
      true := by
    decide +kernel
  rcases Option.isSome_iff_exists.mp enabled with ⟨process, ran⟩
  rcases connections_deliver_frames _ _ _ staleStack twoClients process ran with
    ⟨server, rfl, delivers⟩
  refine ⟨server, ran, ?_, ?_⟩
  · rw [(delivers 0).handed]
    decide
  · rw [(delivers 1).handed]
    decide

/-! ## Assertions -/

end Transport
end PdnsLogger
