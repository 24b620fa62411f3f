import PdnsLogger.Foundation.PartialRuns
import PdnsLogger.Program.Configuration
import PdnsLogger.Engines.Dispatch
import PdnsLogger.Queue.Fifo
import PdnsLogger.Storage.Database

namespace PdnsLogger
namespace Lifecycle

open Foundation Program Engines Queue Storage

/-!
# What the engines hold

`loggers_initialize` starts the log file, syslog and sqlite engines in turn and
ignores what they return.  Each may leave its start function early: without a
configuration file, with one that does not parse, when it is disabled, or when
its path is not set.  `loggers_halt` stops all three in the same order, whatever
their start did.

The state has the static variables of the three files.  Connections to the
database are numbered by the call of `sqlite3_open_v2` that made them.  The last
five fields are records: of the connections opened and closed, of what was
passed to `fclose` and `pthread_join`, and of the output.
-/

variable {Row : Type}

/-- The pointer `fp`.  `fclose` leaves a pointer that is not null. -/
inductive FilePointer where
  | null
  | opened
  | closed
  deriving DecidableEq, Repr

/-- The variable `bgthread`. -/
inductive Thread where
  | absent
  | running
  | joined
  deriving DecidableEq, Repr

/-- The static variables of the engines, and the records. -/
structure Loggers (Row : Type) where
  logfile : LogfileOptions
  fp : FilePointer
  syslog : SyslogOptions
  openlog : Option (CString × Nat)
  sqlite : SqliteOptions
  fifo : Option (Fifo Bytes)
  bgthread : Thread
  db : Database Row
  connection : Nat
  opened : List Nat
  closed : List Nat
  fcloses : List FilePointer
  joins : List Thread
  output : Output

/-- What the program is built with and runs on. -/
structure World (Row : Type) where
  build : Build
  inetNtop : InetNtop
  answers : Nat -> SqlCommand Row -> ExecAnswer

/-- The answers of the system to the start functions. -/
structure StartAnswers where
  fopen : Bool
  fifoAllocated : Bool
  threadCreated : Bool
  dbOpened : OpenAnswer
  deriving DecidableEq

namespace Loggers

def initial : Loggers Row where
  logfile := .defaults
  fp := .null
  syslog := .defaults
  openlog := none
  sqlite := .defaults
  fifo := none
  bgthread := .absent
  db := ⟨⟨.null, [], []⟩, 0, 0, []⟩
  connection := 0
  opened := []
  closed := []
  fcloses := []
  joins := []
  output := ⟨[], [], []⟩

/-- The variables that the `log` functions read. -/
def registered (state : Loggers Row) : Registered where
  logfile := ⟨state.logfile.disabled, state.logfile.rewritesOnly, state.fp = .opened⟩
  syslog := ⟨state.syslog.disabled, state.syslog.rewritesOnly⟩
  sqlite := ⟨state.sqlite.disabled, state.sqlite.rewritesOnly⟩

/-- The options and answers behind `db_exec`. -/
def settings (world : World Row) (state : Loggers Row) : Settings Row :=
  ⟨state.sqlite.autocommit, world.answers⟩

/-! ## Opening and closing the database -/

def dbOpen (world : World Row) (answer : OpenAnswer) (state : Loggers Row) :
    PdnsStatus × Loggers Row :=
  let result := Storage.dbOpen (state.settings world) answer state.db
  (result.1, { state with
    db := result.2
    connection := state.connection + 1
    opened := if answer = .opened then (state.connection + 1) :: state.opened
      else state.opened })

/-- `db_close`.  Nothing is closed through the null handle. -/
def dbClose (state : Loggers Row) : PdnsStatus × Loggers Row :=
  let result := Storage.dbClose state.db
  (result.1, { state with
    db := result.2
    closed := match state.db.store.handle with
      | .null => state.closed
      | _ => state.connection :: state.closed })

/-! ## Start -/

def logfileInit (inifile : Inifile) (fopen : Bool) (state : Loggers Row) :
    PdnsStatus × Loggers Row :=
  if zstr inifile.path then (.no, state)
  else
    let state := { state with logfile := inifile.read logfileOptHandler state.logfile }
    if inifile.error ≠ 0 then (.no, state)
    else if state.logfile.disabled then (.ok, state)
    else if zstr state.logfile.file then (.no, state)
    else if fopen then (.ok, { state with fp := .opened })
    else (.no, { state with fp := .null })

def syslogInit (inifile : Inifile) (state : Loggers Row) : PdnsStatus × Loggers Row :=
  if zstr inifile.path then (.no, state)
  else
    let state := { state with syslog := inifile.read syslogOptHandler state.syslog }
    if inifile.error ≠ 0 then (.no, state)
    else if state.syslog.disabled then (.ok, state)
    else
      let ident := match state.syslog.ident with
        | some ident => if zstr (some ident) then .literal "pdns-logger" else ident
        | none => .literal "pdns-logger"
      (.ok, { state with openlog := some (ident, logfacilityLookup state.syslog.facility) })

/-- `bg_thread_start`.  The result of `pthread_create` is not looked at. -/
def bgThreadStart (created : Bool) (state : Loggers Row) : PdnsStatus × Loggers Row :=
  (.ok, { state with bgthread := if created then .running else .absent })

def logsqliteInit (world : World Row) (inifile : Inifile) (answers : StartAnswers)
    (state : Loggers Row) : PdnsStatus × Loggers Row :=
  if zstr inifile.path then (.no, state)
  else
    let state := { state with sqlite := inifile.read sqliteOptHandler state.sqlite }
    if inifile.error ≠ 0 then (.no, state)
    else if state.sqlite.disabled then (.ok, state)
    else if zstr state.sqlite.dbfile then (.no, state)
    else
      let state := { state with fifo := fifoInit answers.fifoAllocated }
      let state := (bgThreadStart answers.threadCreated state).2
      state.dbOpen world answers.dbOpened

def loggersInitialize (world : World Row) (inifile : Inifile) (answers : StartAnswers)
    (state : Loggers Row) : PdnsStatus × Loggers Row :=
  let state := (logfileInit inifile answers.fopen state).2
  let state := (syslogInit inifile state).2
  let state := (logsqliteInit world inifile answers state).2
  (.ok, state)

/-! ## Rotation and stop -/

/-- `logfile_rotate`.  A failed `freopen` has closed the old file. -/
def logfileRotate (freopen : Bool) (state : Loggers Row) : PdnsStatus × Loggers Row :=
  if state.fp = .null then (.ok, state)
  else if freopen then (.ok, { state with fp := .opened })
  else (.no, { state with fp := .null })

def logsqliteRotate (world : World Row) (answer : OpenAnswer) (state : Loggers Row) :
    PdnsStatus × Loggers Row :=
  match state.db.store.handle with
  | .null => (.ok, state)
  | _ => (.ok, ((dbClose state).2.dbOpen world answer).2)

/-- `pdns_loggers_rotate`.  `syslog_rotate` does nothing. -/
def pdnsLoggersRotate (world : World Row) (freopen : Bool) (answer : OpenAnswer)
    (state : Loggers Row) : PdnsStatus × Loggers Row :=
  (.ok, (logsqliteRotate world answer (logfileRotate freopen state).2).2)

def logfileStop (state : Loggers Row) : PdnsStatus × Loggers Row :=
  let state := { state with logfile := { state.logfile with file := none } }
  if state.fp = .null then (.ok, state)
  else (.ok, { state with fp := .closed, fcloses := state.fp :: state.fcloses })

def syslogStop (state : Loggers Row) : PdnsStatus × Loggers Row :=
  (.ok, { state with openlog := none })

def bgThreadStop (state : Loggers Row) : Loggers Row :=
  { state with bgthread := .joined, joins := state.bgthread :: state.joins }

def logsqliteStop (state : Loggers Row) : PdnsStatus × Loggers Row :=
  (bgThreadStop state).dbClose

def loggersHalt (state : Loggers Row) : PdnsStatus × Loggers Row :=
  (.ok, (logsqliteStop (syslogStop (logfileStop state).2).2).2)

end Loggers

/-! ## Between start and stop -/

/-- A message is logged, the background thread executes a statement, or the
engines are rotated. -/
inductive Call (Row : Type) where
  | log (pbm : PBDNSMessage)
  | exec (row : Row)
  | rotate (freopen : Bool) (answer : OpenAnswer)

/-- One call.  A failed assertion ends the process. -/
def Loggers.step (world : World Row) : PartialStep (Loggers Row) (Call Row)
  | state, .log pbm =>
      match pdnsLoggersLog world.build world.inetNtop state.registered pbm state.output with
      | .error _ => none
      | .ok output => some { state with output := output }
  | state, .exec row =>
      if state.bgthread = .running then
        some { state with db := (dbExec (state.settings world) (.insert row) state.db).2 }
      else none
  | state, .rotate freopen answer => some (state.pdnsLoggersRotate world freopen answer).2

/-! ## Connections are closed once -/

/-- Only the latest connection can be open, and every other one that was opened
has been closed once. -/
structure Connections (state : Loggers Row) : Prop where
  numbered : forall connection, connection ∈ state.opened -> connection ≤ state.connection
  bounded : forall connection, connection ∈ state.closed -> connection < state.connection
  earlier : forall connection, connection ∈ state.opened -> connection ≠ state.connection ->
    state.closed.count connection = 1
  latest : state.connection ∈ state.opened -> state.db.store.isOpen = true

/-- Every connection that was opened has been closed once. -/
structure AllClosed (state : Loggers Row) : Prop where
  numbered : forall connection, connection ∈ state.opened -> connection ≤ state.connection
  bounded : forall connection, connection ∈ state.closed -> connection ≤ state.connection
  once : forall connection, connection ∈ state.opened -> state.closed.count connection = 1

theorem AllClosed.of_none {state : Loggers Row} (opened : state.opened = [])
    (closed : state.closed = []) : AllClosed state := by
  constructor
  · simp [opened]
  · simp [closed]
  · simp [opened]

theorem Connections.of_none {state : Loggers Row} (opened : state.opened = [])
    (closed : state.closed = []) : Connections state := by
  constructor
  · simp [opened]
  · simp [closed]
  · simp [opened]
  · simp [opened]

/-- Closing through the null handle is right when there is no open connection. -/
theorem Connections.dbClose {state : Loggers Row} (connections : Connections state) :
    AllClosed state.dbClose.2 := by
  have unclosed : state.closed.count state.connection = 0 := by
    apply List.count_eq_zero.mpr
    intro member
    exact Nat.lt_irrefl _ (connections.bounded _ member)
  by_cases null : state.db.store.handle = .null
  · have shut : state.dbClose.2.closed = state.closed := by
      simp only [Loggers.dbClose, null]
    refine ⟨connections.numbered, ?_, ?_⟩
    · intro connection member
      rw [shut] at member
      exact Nat.le_of_lt (connections.bounded connection member)
    · intro connection member
      rw [shut]
      apply connections.earlier connection member
      intro same
      have opened := connections.latest (same ▸ member)
      rcases state.db.store.isOpen_iff.mp opened with ⟨transaction, handle⟩
      cases null.symm.trans handle
  · have shut : state.dbClose.2.closed = state.connection :: state.closed := by
      cases handle : state.db.store.handle with
      | null => exact absurd handle null
      | failed => simp only [Loggers.dbClose, handle]
      | closed => simp only [Loggers.dbClose, handle]
      | opened transaction => simp only [Loggers.dbClose, handle]
    refine ⟨connections.numbered, ?_, ?_⟩
    · intro connection member
      rw [shut, List.mem_cons] at member
      rcases member with same | member
      · exact Nat.le_of_eq same
      · exact Nat.le_of_lt (connections.bounded connection member)
    · intro connection member
      rw [shut]
      by_cases same : connection = state.connection
      · rw [same, List.count_cons_self, unclosed]
      · rw [List.count_cons_of_ne (Ne.symm same)]
        exact connections.earlier connection member same

/-- A new connection has a new number. -/
theorem AllClosed.dbOpen {state : Loggers Row} (closed : AllClosed state) (world : World Row)
    (answer : OpenAnswer) : Connections (state.dbOpen world answer).2 := by
  have fresh : state.connection + 1 ∉ state.opened := by
    intro member
    exact Nat.not_succ_le_self _ (closed.numbered _ member)
  have kept : forall connection, connection ∈ (state.dbOpen world answer).2.opened ->
      connection ∈ state.opened ∨ connection = state.connection + 1 ∧ answer = .opened := by
    intro connection member
    simp only [Loggers.dbOpen] at member
    split at member
    next opened =>
      rcases List.mem_cons.mp member with same | member
      · exact .inr ⟨same, opened⟩
      · exact .inl member
    next => exact .inl member
  constructor
  · intro connection member
    rcases kept connection member with old | ⟨same, _⟩
    · exact Nat.le_succ_of_le (closed.numbered connection old)
    · exact Nat.le_of_eq same
  · intro connection member
    exact Nat.lt_succ_of_le (closed.bounded connection member)
  · intro connection member different
    rcases kept connection member with old | ⟨same, _⟩
    · exact closed.once connection old
    · exact absurd same different
  · intro member
    rcases kept _ member with old | ⟨_, opened⟩
    · exact absurd old fresh
    · rw [opened]
      exact isOpen_dbOpen _ _

theorem Connections.logsqliteRotate {state : Loggers Row} (connections : Connections state)
    (world : World Row) (answer : OpenAnswer) :
    Connections (state.logsqliteRotate world answer).2 := by
  unfold Loggers.logsqliteRotate
  split
  · exact connections
  · exact connections.dbClose.dbOpen world answer

/-! ## What the calls leave alone -/

/-- Nothing has been joined or closed for good.  It holds from the start of the
engines up to their stop, and tells the stop what is left for it to do. -/
structure Standing (thread : Thread) (state : Loggers Row) : Prop where
  thread : state.bgthread = thread
  unjoined : state.joins = []
  unclosed : state.fcloses = []
  usable : state.fp ≠ .closed

theorem Standing.logfileRotate {thread : Thread} {state : Loggers Row}
    (standing : Standing thread state) (freopen : Bool) :
    Standing thread (state.logfileRotate freopen).2 := by
  unfold Loggers.logfileRotate
  split
  · exact standing
  · split
    · exact ⟨standing.thread, standing.unjoined, standing.unclosed, FilePointer.noConfusion⟩
    · exact ⟨standing.thread, standing.unjoined, standing.unclosed, FilePointer.noConfusion⟩

theorem Standing.logsqliteRotate {thread : Thread} {state : Loggers Row}
    (standing : Standing thread state) (world : World Row) (answer : OpenAnswer) :
    Standing thread (state.logsqliteRotate world answer).2 := by
  unfold Loggers.logsqliteRotate
  split
  · exact standing
  · exact ⟨standing.thread, standing.unjoined, standing.unclosed, standing.usable⟩

/-- Rotating the log file does not concern the database. -/
theorem Connections.logfileRotate {state : Loggers Row} (connections : Connections state)
    (freopen : Bool) : Connections (state.logfileRotate freopen).2 := by
  unfold Loggers.logfileRotate
  split
  · exact connections
  · split
    · exact ⟨connections.numbered, connections.bounded, connections.earlier, connections.latest⟩
    · exact ⟨connections.numbered, connections.bounded, connections.earlier, connections.latest⟩

theorem step_sound {world : World Row} {thread : Thread} {state next : Loggers Row}
    {call : Call Row} (taken : Loggers.step world state call = some next)
    (sound : Connections state ∧ Standing thread state) :
    Connections next ∧ Standing thread next := by
  rcases sound with ⟨connections, standing⟩
  cases call with
  | log pbm =>
      simp only [Loggers.step] at taken
      split at taken
      next => cases taken
      next =>
        cases Option.some.inj taken
        exact ⟨⟨connections.numbered, connections.bounded, connections.earlier,
          connections.latest⟩, ⟨standing.thread, standing.unjoined, standing.unclosed,
          standing.usable⟩⟩
  | exec row =>
      simp only [Loggers.step] at taken
      split at taken
      next =>
        cases Option.some.inj taken
        refine ⟨⟨connections.numbered, connections.bounded, connections.earlier, ?_⟩,
          ⟨standing.thread, standing.unjoined, standing.unclosed, standing.usable⟩⟩
        intro member
        rw [isOpen_dbExec]
        exact connections.latest member
      next => cases taken
  | rotate freopen answer =>
      cases Option.some.inj taken
      exact ⟨(connections.logfileRotate freopen).logsqliteRotate world answer,
        (standing.logfileRotate freopen).logsqliteRotate world answer⟩

/-! ## Start and stop -/

/-- `logsqlite_init` gets past its early returns: there is a configuration file,
it parses, and it sets a database file without disabling the engine. -/
structure SqliteConfigured (inifile : Inifile) : Prop where
  named : zstr inifile.path = false
  parsed : inifile.error = 0
  enabled : (inifile.read sqliteOptHandler .defaults).disabled = false
  located : zstr (inifile.read sqliteOptHandler .defaults).dbfile = false

/-- `loggers_halt` releases what the engines hold and nothing else: it joins the
background thread if there is one, closes the log file if it is open, and
leaves every connection closed exactly once. -/
structure ReleasesHeld (before after : Loggers Row) : Prop where
  joined : after.joins = if before.bgthread = .running then [.running] else []
  closedFile : after.fcloses = if before.fp = .opened then [.opened] else []
  closedConnections : forall connection, connection ∈ after.opened ->
    after.closed.count connection = 1

/-- The log file engine only sets its own variables. -/
theorem logfileInit_frame (inifile : Inifile) (fopen : Bool) (state : Loggers Row) :
    Exists fun options => Exists fun fp =>
      (state.logfileInit inifile fopen).2 = { state with logfile := options, fp := fp } ∧
        (state.fp ≠ .closed -> fp ≠ .closed) := by
  simp only [Loggers.logfileInit]
  split
  · exact ⟨_, _, rfl, id⟩
  · split
    · exact ⟨_, _, rfl, id⟩
    · split
      · exact ⟨_, _, rfl, id⟩
      · split
        · exact ⟨_, _, rfl, id⟩
        · split
          · exact ⟨_, _, rfl, fun _ => FilePointer.noConfusion⟩
          · exact ⟨_, _, rfl, fun _ => FilePointer.noConfusion⟩

/-- So does the syslog engine. -/
theorem syslogInit_frame (inifile : Inifile) (state : Loggers Row) :
    Exists fun options => Exists fun openlog =>
      (state.syslogInit inifile).2 = { state with syslog := options, openlog := openlog } := by
  simp only [Loggers.syslogInit]
  split
  · exact ⟨_, _, rfl⟩
  · split
    · exact ⟨_, _, rfl⟩
    · split
      · exact ⟨_, _, rfl⟩
      · exact ⟨_, _, rfl⟩

/-- Past its early returns `logsqlite_init` goes on to the queue, the thread and
the database. -/
theorem logsqliteInit_configured (world : World Row) {inifile : Inifile} (answers : StartAnswers)
    {state : Loggers Row} (defaults : state.sqlite = .defaults)
    (configured : SqliteConfigured inifile) :
    state.logsqliteInit world inifile answers =
      Loggers.dbOpen world answers.dbOpened { state with
        sqlite := inifile.read sqliteOptHandler .defaults
        fifo := fifoInit answers.fifoAllocated
        bgthread := if answers.threadCreated then .running else .absent } := by
  simp [Loggers.logsqliteInit, Loggers.bgThreadStart, defaults, configured.named,
    configured.parsed, configured.enabled, configured.located]

/-- Otherwise it has at most set its options, and it succeeds only when the
engine is disabled. -/
theorem logsqliteInit_unconfigured (world : World Row) {inifile : Inifile}
    (answers : StartAnswers) {state : Loggers Row} (defaults : state.sqlite = .defaults)
    (unconfigured : ¬ SqliteConfigured inifile) :
    (Exists fun options =>
      (state.logsqliteInit world inifile answers).2 = { state with sqlite := options }) ∧
    ((state.logsqliteInit world inifile answers).1 = .ok ->
      (inifile.read sqliteOptHandler .defaults).disabled = true) := by
  simp only [Loggers.logsqliteInit, defaults]
  split
  next => exact ⟨⟨_, rfl⟩, nofun⟩
  next named =>
    split
    next => exact ⟨⟨_, rfl⟩, nofun⟩
    next parsed =>
      split
      next disabled => exact ⟨⟨_, rfl⟩, fun _ => disabled⟩
      next enabled =>
        split
        next => exact ⟨⟨_, rfl⟩, nofun⟩
        next located =>
          refine absurd ⟨?_, ?_, ?_, ?_⟩ unconfigured
          · exact Bool.eq_false_iff.mpr named
          · exact not_not.mp parsed
          · exact Bool.eq_false_iff.mpr enabled
          · exact Bool.eq_false_iff.mpr located

/-- The text engines start without touching what belongs to the sqlite engine. -/
theorem textEngines_start (inifile : Inifile) (fopen : Bool) {state : Loggers Row}
    (started : ((Loggers.initial.logfileInit inifile fopen).2.syslogInit inifile).2 = state) :
    Standing .absent state ∧ state.sqlite = .defaults ∧ state.opened = [] ∧
      state.closed = [] := by
  rcases logfileInit_frame inifile fopen (Loggers.initial : Loggers Row) with
    ⟨fileOptions, fp, file, usable⟩
  rw [file] at started
  rcases syslogInit_frame inifile
      { (Loggers.initial : Loggers Row) with logfile := fileOptions, fp := fp } with
    ⟨systemOptions, openlog, system⟩
  rw [← started, system]
  exact ⟨⟨rfl, rfl, rfl, usable FilePointer.noConfusion⟩, rfl, rfl, rfl⟩

theorem loggersInitialize_sound (world : World Row) (inifile : Inifile) (answers : StartAnswers) :
    Connections (Loggers.initial.loggersInitialize world inifile answers).2 ∧
      Exists fun thread => Standing thread
          (Loggers.initial.loggersInitialize world inifile answers).2 ∧
        (thread = .running ↔ SqliteConfigured inifile ∧ answers.threadCreated = true) := by
  simp only [Loggers.loggersInitialize]
  generalize started : ((Loggers.initial.logfileInit inifile answers.fopen).2.syslogInit
    inifile).2 = state
  rcases textEngines_start inifile answers.fopen started with ⟨standing, defaults, opened, closed⟩
  by_cases configured : SqliteConfigured inifile
  · rw [logsqliteInit_configured world answers defaults configured]
    refine ⟨AllClosed.dbOpen ?_ world answers.dbOpened, _,
      ⟨rfl, standing.unjoined, standing.unclosed, standing.usable⟩, ?_⟩
    · exact .of_none opened closed
    cases created : answers.threadCreated with
    | true => exact ⟨fun _ => ⟨configured, rfl⟩, fun _ => rfl⟩
    | false =>
        constructor
        · intro impossible
          cases impossible
        · rintro ⟨_, impossible⟩
          cases impossible
  · rcases (logsqliteInit_unconfigured world answers defaults configured).1 with
      ⟨options, unchanged⟩
    rw [unchanged]
    refine ⟨Connections.of_none opened closed, .absent,
      ⟨standing.thread, standing.unjoined, standing.unclosed, standing.usable⟩, ?_⟩
    constructor
    · intro impossible
      cases impossible
    · rintro ⟨impossible, _⟩
      exact absurd impossible configured

/-- Stopping the log file engine only sets its own variables. -/
theorem logfileStop_frame (state : Loggers Row) :
    Exists fun options => Exists fun fp => Exists fun fcloses =>
      state.logfileStop.2 = { state with logfile := options, fp := fp, fcloses := fcloses } := by
  simp only [Loggers.logfileStop]
  split
  · exact ⟨_, _, _, rfl⟩
  · exact ⟨_, _, _, rfl⟩

/-- The log file is closed when it is open; after a failed rotation there is
nothing to close. -/
theorem logfileStop_fcloses {thread : Thread} {state : Loggers Row}
    (standing : Standing thread state) :
    state.loggersHalt.2.fcloses = if state.fp = .opened then [.opened] else [] := by
  simp only [Loggers.loggersHalt, Loggers.logsqliteStop, Loggers.dbClose, Loggers.bgThreadStop,
    Loggers.syslogStop, Loggers.logfileStop]
  cases pointer : state.fp with
  | null => simp [standing.unclosed]
  | opened => simp [standing.unclosed]
  | closed => exact absurd pointer standing.usable

/-- The join is made in every case. -/
theorem loggersHalt_joins {thread : Thread} {state : Loggers Row}
    (standing : Standing thread state) : state.loggersHalt.2.joins = [thread] := by
  rcases logfileStop_frame state with ⟨options, fp, fcloses, stopped⟩
  simp only [Loggers.loggersHalt, Loggers.logsqliteStop, Loggers.dbClose, Loggers.bgThreadStop,
    Loggers.syslogStop, stopped, standing.thread, standing.unjoined]

theorem loggersHalt_allClosed {state : Loggers Row} (connections : Connections state) :
    AllClosed state.loggersHalt.2 := by
  rcases logfileStop_frame state with ⟨options, fp, fcloses, stopped⟩
  simp only [Loggers.loggersHalt, stopped]
  apply Connections.dbClose
  exact ⟨connections.numbered, connections.bounded, connections.earlier, connections.latest⟩

/-- After any calls in one process `loggers_halt` releases what is held and
nothing else, if and only if `logsqlite_init` created the background thread. -/
theorem halt_releases_iff (world : World Row) (inifile : Inifile) (answers : StartAnswers)
    (calls : List (Call Row)) (before : Loggers Row)
    (ran : (Loggers.step world).run (Loggers.initial.loggersInitialize world inifile answers).2
      calls = some before) :
    ReleasesHeld before before.loggersHalt.2 ↔
      SqliteConfigured inifile ∧ answers.threadCreated = true := by
  rcases loggersInitialize_sound world inifile answers with
    ⟨connections, thread, standing, created⟩
  have sound : Connections before ∧ Standing thread before := by
    apply PartialStep.run_invariant _ ran ⟨connections, standing⟩
    intro state call next taken
    exact step_sound taken
  rw [← created]
  constructor
  · intro releases
    have joined := releases.joined
    rw [loggersHalt_joins sound.2, sound.2.thread] at joined
    split at joined
    next running => exact running
    next => cases joined
  · intro running
    refine ⟨?_, logfileStop_fcloses sound.2, (loggersHalt_allClosed sound.1).once⟩
    rw [loggersHalt_joins sound.2, sound.2.thread, if_pos running, running]

/-- A configuration with a log file and a database. -/
def bothFiles : Inifile where
  path := some (.literal "pdns-logger.ini")
  delivered :=
    [⟨.literal "logfile", .literal "logfile", .literal "queries.log"⟩,
      ⟨.literal "sqlite3", .literal "dbfile", .literal "queries.db"⟩]
  error := 0

def granted : StartAnswers :=
  ⟨true, true, true, .opened⟩

/-- A database that accepts every statement the rules allow. -/
def plainWorld : World Bytes :=
  ⟨.release, fun _ _ => .literal "192.0.2.1", fun _ _ => .succeeds⟩

theorem sqliteConfigured_bothFiles : SqliteConfigured bothFiles :=
  ⟨by decide, rfl, by decide, by decide⟩

/-- Two rotations around a statement, the second of them failing. -/
def twoRotations : List (Call Bytes) :=
  [.rotate true .opened, .exec (ascii "row"), .rotate false .failed]

theorem halt_releases_iff_bothFiles :
    Exists fun before =>
      (Loggers.step plainWorld).run
          (Loggers.initial.loggersInitialize plainWorld bothFiles granted).2 twoRotations =
        some before ∧ ReleasesHeld before before.loggersHalt.2 := by
  refine ⟨_, rfl, ?_⟩
  apply (halt_releases_iff plainWorld bothFiles granted twoRotations _ rfl).mpr
  exact ⟨sqliteConfigured_bothFiles, rfl⟩

/-- The log file engine alone is configured. -/
def logfileOnly : Inifile where
  path := some (.literal "pdns-logger.ini")
  delivered :=
    [⟨.literal "logfile", .literal "logfile", .literal "queries.log"⟩,
      ⟨.literal "sqlite3", .literal "disabled", .literal "1"⟩]
  error := 0

/-- With the sqlite engine disabled `loggers_halt` joins a thread that was never
created. -/
theorem disabled_engine_joined :
    ((Loggers.initial.loggersInitialize plainWorld logfileOnly granted).2.loggersHalt).2.joins =
        [.absent] ∧
      ¬ ReleasesHeld (Loggers.initial.loggersInitialize plainWorld logfileOnly granted).2
        ((Loggers.initial.loggersInitialize plainWorld logfileOnly granted).2.loggersHalt).2 := by
  have joined : ((Loggers.initial.loggersInitialize plainWorld logfileOnly
      granted).2.loggersHalt).2.joins = [.absent] := by decide
  refine ⟨joined, ?_⟩
  intro releases
  have impossible := joined.symm.trans releases.joined
  revert impossible
  decide

end Lifecycle
end PdnsLogger
