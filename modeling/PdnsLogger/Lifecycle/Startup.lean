import PdnsLogger.Foundation.PartialRuns
import PdnsLogger.Lifecycle.Resources

namespace PdnsLogger
namespace Lifecycle

open Foundation Program Queue Storage

/-!
# From `main` to the accept loop

`main` reads the configuration, initializes the engines, installs its signal
handlers, goes to the background unless told otherwise, raises
`globals.running` and enters `socket_loop`.  Going to the background is a
`fork` whose parent exits.  The child has a copy of the parent's memory, and of
its threads only the calling one.

Up to two processes run here.  A stop signal may reach a process at any point
after the handler for it is installed, and a hangup rotates the engines from
inside its handler.  `background` says whether the process has a live thread in
`bg_thread_exec`; `stopRequested` records that `signal_stop` has run on this
memory.
-/

variable {Row : Type}

/-- The program point of `main`. -/
inductive MainPhase where
  | configuring
  | initializing
  | installingInt
  | installingTerm
  | installingPipe
  | installingHup
  | branching
  | forking
  | leaving
  | settingSid
  | raising
  | starting
  | testing
  | selecting
  | halting
  | exited
  deriving DecidableEq, Repr

/-- The signals handled by `signal_stop`. -/
inductive StopSignal where
  | int
  | term
  deriving DecidableEq, Repr

namespace MainPhase

/-- The engines have not been initialized yet. -/
def early : MainPhase -> Bool
  | configuring | initializing => true
  | _ => false

/-- `signal_stop` is installed for this signal. -/
def stops : MainPhase -> StopSignal -> Bool
  | configuring, _ | initializing, _ | installingInt, _ | exited, _ => false
  | installingTerm, .term => false
  | _, _ => true

/-- `signal_rotate` is installed. -/
def rotates : MainPhase -> Bool
  | configuring | initializing | installingInt | installingTerm | installingPipe
  | installingHup | exited => false
  | _ => true

/-- `main` is in `socket_loop`. -/
def serves : MainPhase -> Bool
  | testing | selecting => true
  | _ => false

theorem late_of_serves {phase : MainPhase} (serving : phase.serves = true) :
    phase.early = false ∧ phase ≠ exited := by
  cases phase with
  | testing => exact ⟨rfl, nofun⟩
  | selecting => exact ⟨rfl, nofun⟩
  | _ => cases serving

theorem late_of_rotates {phase : MainPhase} (rotating : phase.rotates = true) :
    phase.early = false := by
  cases phase with
  | configuring => cases rotating
  | initializing => cases rotating
  | _ => rfl

end MainPhase

/-- The memory and the threads of one process. -/
structure Process (Row : Type) where
  phase : MainPhase
  running : Bool
  loggers : Loggers Row
  background : Bool
  stopRequested : Bool

structure System (Row : Type) where
  parent : Process Row
  child : Option (Process Row)

/-- What the program is started with: the configuration file, the option `-f`,
and the answers of the system to the start functions. -/
structure Launch (Row : Type) where
  world : World Row
  inifile : Inifile
  foregroundOption : Bool
  answers : StartAnswers

/-- `globals.foreground` after `parse_cli` and `parse_config_file`. -/
def Launch.foreground (launch : Launch Row) : Bool :=
  (launch.inifile.read globalsOptHandler ⟨none, 0, false, launch.foregroundOption⟩).foreground

/-- The steps of `main`, with the answers of the system, and the signals. -/
inductive MainMove where
  | configure
  | startLoggers
  | installInt
  | installTerm
  | installPipe
  | installHup
  | branch
  | fork (succeeded : Bool)
  | exit
  | setsid (succeeded : Bool)
  | raise
  | socketStart (succeeded : Bool)
  | test
  | select
  | halt
  | stop (signal : StopSignal)
  | hangup (freopen : Bool) (answer : OpenAnswer)
  deriving DecidableEq, Repr

namespace Process

/-- `main` after `memset` and `parse_cli`. -/
def start : Process Row where
  phase := .configuring
  running := false
  loggers := .initial
  background := false
  stopRequested := false

def goto (state : Process Row) (phase : MainPhase) : Process Row :=
  { state with phase := phase }

/-- The end of a process is the end of its threads. -/
def quit (state : Process Row) : Process Row :=
  { state with phase := .exited, background := false }

def initLoggers (launch : Launch Row) (state : Process Row) : Process Row :=
  let loggers :=
    (state.loggers.loggersInitialize launch.world launch.inifile launch.answers).2
  { state with
    phase := .installingInt
    loggers := loggers
    background := loggers.bgthread = .running }

def signalStop (state : Process Row) : Process Row :=
  { state with running := false, stopRequested := true }

def signalRotate (launch : Launch Row) (freopen : Bool) (answer : OpenAnswer)
    (state : Process Row) : Process Row :=
  { state with loggers := (state.loggers.pdnsLoggersRotate launch.world freopen answer).2 }

/-- One step of a process that does not fork. -/
def step (launch : Launch Row) : PartialStep (Process Row) MainMove :=
  fun state move =>
    match move, state.phase with
    | .configure, .configuring =>
        if zstr launch.inifile.path = true ∨ launch.inifile.error ≠ 0 then some state.quit
        else some (state.goto .initializing)
    | .startLoggers, .initializing => some (state.initLoggers launch)
    | .installInt, .installingInt => some (state.goto .installingTerm)
    | .installTerm, .installingTerm => some (state.goto .installingPipe)
    | .installPipe, .installingPipe => some (state.goto .installingHup)
    | .installHup, .installingHup => some (state.goto .branching)
    | .branch, .branching =>
        if launch.foreground then some (state.goto .raising) else some (state.goto .forking)
    | .exit, .leaving => some state.quit
    | .setsid succeeded, .settingSid =>
        if succeeded then some (state.goto .raising) else some state.quit
    | .raise, .raising => some { state.goto .starting with running := true }
    | .socketStart succeeded, .starting =>
        if succeeded then some (state.goto .testing) else some state.quit
    | .test, .testing =>
        if state.running then some (state.goto .selecting) else some (state.goto .halting)
    | .select, .selecting => some (state.goto .testing)
    | .halt, .halting => some { state.quit with loggers := state.loggers.loggersHalt.2 }
    | .stop signal, phase => if phase.stops signal then some state.signalStop else none
    | .hangup freopen answer, phase =>
        if phase.rotates then some (state.signalRotate launch freopen answer) else none
    | _, _ => none

end Process

namespace System

def start : System Row :=
  ⟨.start, none⟩

/-- One step of the parent, or of the child when there is one.  A `fork` that
fails returns a number that is not zero, like one that succeeds in the
parent. -/
def step (launch : Launch Row) : PartialStep (System Row) (Bool × MainMove)
  | system, (false, .fork succeeded) =>
      if system.parent.phase = .forking then
        some ⟨system.parent.goto .leaving,
          if succeeded then
            some { system.parent.goto .settingSid with background := false }
          else none⟩
      else none
  | system, (false, move) =>
      (system.parent.step launch move).map fun parent => { system with parent := parent }
  | system, (true, move) =>
      system.child.bind fun child =>
        (child.step launch move).map fun child => { system with child := some child }

def mover (system : System Row) : Bool -> Option (Process Row)
  | false => some system.parent
  | true => system.child

def processes (system : System Row) : List (Process Row) :=
  system.parent :: system.child.toList

end System

/-! ## What one step can do -/

/-- The steps of a process by what they change. -/
inductive Process.Took (launch : Launch Row) (state : Process Row) :
    MainMove -> Process Row -> Prop where
  | advanced (move phase) (other : move ≠ .raise) (alive : state.phase ≠ .exited)
      (early : phase.early = state.phase.early)
      (forks : phase = .forking -> launch.foreground = false) :
      Took launch state move (state.goto phase)
  | quit (move) (other : move ≠ .raise) : Took launch state move state.quit
  | initialized (initializing : state.phase = .initializing) :
      Took launch state .startLoggers (state.initLoggers launch)
  | raised (raising : state.phase = .raising) :
      Took launch state .raise { state.goto .starting with running := true }
  | halted :
      Took launch state .halt { state.quit with loggers := state.loggers.loggersHalt.2 }
  | stopped (signal) : Took launch state (.stop signal) state.signalStop
  | rotated (freopen answer) (rotates : state.phase.rotates = true) :
      Took launch state (.hangup freopen answer) (state.signalRotate launch freopen answer)

theorem Process.goto_took {launch : Launch Row} {state : Process Row} {move : MainMove}
    {phase phase' : MainPhase} (here : state.phase = phase) (other : move ≠ .raise)
    (alive : phase ≠ .exited) (early : phase'.early = phase.early)
    (forks : phase' = .forking -> launch.foreground = false) :
    Process.Took launch state move (state.goto phase') := by
  rw [← here] at alive early
  exact .advanced move phase' other alive early forks

theorem Process.step_took {launch : Launch Row} {state next : Process Row} {move : MainMove}
    (taken : Process.step launch state move = some next) : Process.Took launch state move next := by
  unfold Process.step at taken
  split at taken
  next configuring =>
    split at taken
    next =>
      cases Option.some.inj taken
      exact .quit _ nofun
    next =>
      cases Option.some.inj taken
      exact goto_took configuring nofun nofun rfl nofun
  next initializing =>
    cases Option.some.inj taken
    exact .initialized initializing
  next here =>
    cases Option.some.inj taken
    exact goto_took here nofun nofun rfl nofun
  next here =>
    cases Option.some.inj taken
    exact goto_took here nofun nofun rfl nofun
  next here =>
    cases Option.some.inj taken
    exact goto_took here nofun nofun rfl nofun
  next here =>
    cases Option.some.inj taken
    exact goto_took here nofun nofun rfl nofun
  next branching =>
    split at taken
    next =>
      cases Option.some.inj taken
      exact goto_took branching nofun nofun rfl nofun
    next backgrounded =>
      cases Option.some.inj taken
      exact goto_took branching nofun nofun rfl (fun _ => Bool.eq_false_iff.mpr backgrounded)
  next =>
    cases Option.some.inj taken
    exact .quit _ nofun
  next settingSid =>
    split at taken
    next =>
      cases Option.some.inj taken
      exact goto_took settingSid nofun nofun rfl nofun
    next =>
      cases Option.some.inj taken
      exact .quit _ nofun
  next raising =>
    cases Option.some.inj taken
    exact .raised raising
  next starting =>
    split at taken
    next =>
      cases Option.some.inj taken
      exact goto_took starting nofun nofun rfl nofun
    next =>
      cases Option.some.inj taken
      exact .quit _ nofun
  next testing =>
    split at taken
    next =>
      cases Option.some.inj taken
      exact goto_took testing nofun nofun rfl nofun
    next =>
      cases Option.some.inj taken
      exact goto_took testing nofun nofun rfl nofun
  next selecting =>
    cases Option.some.inj taken
    exact goto_took selecting nofun nofun rfl nofun
  next =>
    cases Option.some.inj taken
    exact .halted
  next signal =>
    split at taken
    next =>
      cases Option.some.inj taken
      exact .stopped signal
    next => cases taken
  next freopen answer =>
    split at taken
    next rotates =>
      cases Option.some.inj taken
      exact .rotated freopen answer rotates
    next => cases taken
  next => cases taken

/-- A step of the system is a `fork` or a step of one of its processes. -/
theorem System.step_cases {launch : Launch Row} {system next : System Row}
    {label : Bool × MainMove} (taken : System.step launch system label = some next) :
    (Exists fun succeeded => label = (false, .fork succeeded) ∧
      system.parent.phase = .forking ∧
      next = ⟨system.parent.goto .leaving, if succeeded then
        some { system.parent.goto .settingSid with background := false } else none⟩) ∨
    (Exists fun parent => label.1 = false ∧
      Process.Took launch system.parent label.2 parent ∧
      next = { system with parent := parent }) ∨
    (Exists fun child => Exists fun child' => label.1 = true ∧ system.child = some child ∧
      Process.Took launch child label.2 child' ∧
      next = { system with child := some child' }) := by
  unfold System.step at taken
  split at taken
  next succeeded =>
    split at taken
    next forking =>
      cases Option.some.inj taken
      exact .inl ⟨succeeded, rfl, forking, rfl⟩
    next => cases taken
  next =>
    rcases Option.map_eq_some_iff.mp taken with ⟨parent, stepped, rfl⟩
    exact .inr (.inl ⟨parent, rfl, Process.step_took stepped, rfl⟩)
  next =>
    rcases Option.bind_eq_some_iff.mp taken with ⟨child, present, moved⟩
    rcases Option.map_eq_some_iff.mp moved with ⟨child', stepped, rfl⟩
    exact .inr (.inr ⟨child, child', rfl, present, Process.step_took stepped, rfl⟩)

/-! ## A consumer for the queue -/

/-- The sqlite engine reaches `fifo_push_item` with a queue. -/
def Loggers.CanPush (loggers : Loggers Row) : Prop :=
  loggers.sqlite.disabled = false ∧ loggers.fifo.isSome = true

/-- A process that accepts connections and can push has a background thread. -/
def Process.Attended (state : Process Row) : Prop :=
  state.phase.serves = true -> state.loggers.CanPush -> state.background = true

def System.Attended (system : System Row) : Prop :=
  forall state, state ∈ system.processes -> state.Attended

theorem logfileRotate_fifo (freopen : Bool) (loggers : Loggers Row) :
    (loggers.logfileRotate freopen).2.fifo = loggers.fifo := by
  unfold Loggers.logfileRotate
  split
  · rfl
  · split
    · rfl
    · rfl

/-- Neither rotating nor stopping makes a queue. -/
theorem pdnsLoggersRotate_fifo (world : World Row) (freopen : Bool) (answer : OpenAnswer)
    (loggers : Loggers Row) :
    (loggers.pdnsLoggersRotate world freopen answer).2.fifo = loggers.fifo := by
  simp only [Loggers.pdnsLoggersRotate, Loggers.logsqliteRotate]
  split
  · exact logfileRotate_fifo freopen loggers
  · exact logfileRotate_fifo freopen loggers

theorem loggersHalt_fifo (loggers : Loggers Row) : loggers.loggersHalt.2.fifo = loggers.fifo := by
  rcases logfileStop_frame loggers with ⟨options, fp, fcloses, stopped⟩
  simp only [Loggers.loggersHalt, stopped]
  rfl

theorem loggersInitialize_fifo (world : World Row) (inifile : Inifile) (answers : StartAnswers)
    (loggers : Loggers Row) :
    (loggers.loggersInitialize world inifile answers).2.fifo = loggers.fifo ∨
      (loggers.loggersInitialize world inifile answers).2.fifo =
        fifoInit answers.fifoAllocated := by
  rcases logfileInit_frame inifile answers.fopen loggers with ⟨fileOptions, fp, file, _⟩
  rcases syslogInit_frame inifile { loggers with logfile := fileOptions, fp := fp } with
    ⟨systemOptions, openlog, system⟩
  simp only [Loggers.loggersInitialize, file, system, Loggers.logsqliteInit]
  split
  · exact .inl rfl
  · split
    · exact .inl rfl
    · split
      · exact .inl rfl
      · split
        · exact .inl rfl
        · exact .inr rfl

/-- For a configured engine the queue and the thread are as the system granted
them. -/
theorem loggersInitialize_configured (world : World Row) {inifile : Inifile}
    (answers : StartAnswers) (configured : SqliteConfigured inifile) :
    (Loggers.initial.loggersInitialize world inifile answers).2.fifo =
        fifoInit answers.fifoAllocated ∧
      (Loggers.initial.loggersInitialize world inifile answers).2.sqlite.disabled = false ∧
      (Loggers.initial.loggersInitialize world inifile answers).2.bgthread =
        if answers.threadCreated then .running else .absent := by
  simp only [Loggers.loggersInitialize]
  generalize started : ((Loggers.initial.logfileInit inifile answers.fopen).2.syslogInit
    inifile).2 = state
  rcases textEngines_start inifile answers.fopen started with ⟨_, defaults, _, _⟩
  rw [logsqliteInit_configured world answers defaults configured]
  exact ⟨rfl, configured.enabled, rfl⟩

/-- An enabled engine whose `logsqlite_init` succeeds got past its early
returns. -/
theorem configured_of_succeeded {world : World Row} {inifile : Inifile} {answers : StartAnswers}
    (enabled : (inifile.read sqliteOptHandler .defaults).disabled = false)
    (succeeded : (Loggers.initial.logsqliteInit world inifile answers).1 = .ok) :
    SqliteConfigured inifile := by
  by_contra unconfigured
  have disabled := (logsqliteInit_unconfigured world answers rfl unconfigured).2 succeeded
  cases enabled.symm.trans disabled

def System.Queueless (system : System Row) : Prop :=
  forall state, state ∈ system.processes -> state.loggers.fifo = none

theorem Process.Took.queueless {launch : Launch Row} {state next : Process Row} {move : MainMove}
    (took : Process.Took launch state move next) (refused : launch.answers.fifoAllocated = false)
    (queueless : state.loggers.fifo = none) : next.loggers.fifo = none := by
  cases took with
  | initialized initializing =>
      rcases loggersInitialize_fifo launch.world launch.inifile launch.answers state.loggers with
        same | made
      · exact same.trans queueless
      · rw [refused] at made
        exact made
  | halted => exact (loggersHalt_fifo state.loggers).trans queueless
  | rotated freopen answer rotates =>
      exact (pdnsLoggersRotate_fifo launch.world freopen answer state.loggers).trans queueless
  | advanced | quit | raised | stopped => exact queueless

/-- A property that each step of a process keeps, and that both sides of a fork
inherit, is kept for all processes. -/
theorem System.forall_processes_step {launch : Launch Row} {holds : Process Row -> Prop}
    (leaves : forall state, holds state -> holds (state.goto .leaving))
    (inherits : forall state, holds state ->
      holds { state.goto .settingSid with background := false })
    {system next : System Row} {label : Bool × MainMove}
    (taken : System.step launch system label = some next)
    (keeps : forall state next, system.mover label.1 = some state ->
      Process.Took launch state label.2 next -> holds state -> holds next)
    (all : forall state, state ∈ system.processes -> holds state) :
    forall state, state ∈ next.processes -> holds state := by
  have parent := all system.parent List.mem_cons_self
  rcases System.step_cases taken with ⟨succeeded, _, _, rfl⟩ |
    ⟨after, first, took, rfl⟩ | ⟨child, after, second, present, took, rfl⟩
  · intro state member
    cases succeeded with
    | true =>
        rcases List.mem_cons.mp member with same | member
        · exact same ▸ leaves _ parent
        · exact List.mem_singleton.mp member ▸ inherits _ parent
    | false => exact List.mem_singleton.mp member ▸ leaves _ parent
  · intro state member
    rcases List.mem_cons.mp member with same | member
    · exact same ▸ keeps _ _ (congrArg system.mover first) took parent
    · exact all state (List.mem_cons_of_mem _ member)
  · have older : child ∈ system.processes := by
      rw [System.processes, present]
      exact List.mem_cons_of_mem _ List.mem_cons_self
    intro state member
    rcases List.mem_cons.mp member with same | member
    · exact same ▸ parent
    · have moves : system.mover label.1 = some child := (congrArg system.mover second).trans present
      exact List.mem_singleton.mp member ▸ keeps _ _ moves took (all child older)

/-- In the foreground there is one process, and from its initialization on it
has its background thread. -/
structure Staffed (system : System Row) : Prop where
  alone : system.child = none
  unforked : system.parent.phase ≠ .forking
  fresh : system.parent.phase.early = true -> system.parent.loggers = .initial
  staffed : system.parent.phase.early = false ->
    system.parent.phase = .exited ∨ system.parent.background = true

theorem Staffed.step {launch : Launch Row} (configured : SqliteConfigured launch.inifile)
    (foreground : launch.foreground = true) (created : launch.answers.threadCreated = true)
    {system next : System Row} {label : Bool × MainMove}
    (taken : System.step launch system label = some next) (staffed : Staffed system) :
    Staffed next := by
  rcases label with ⟨who, move⟩
  rcases System.step_cases taken with ⟨succeeded, _, forking, _⟩ |
    ⟨after, _, took, rfl⟩ | ⟨child, _, _, present, _, _⟩
  · exact absurd forking staffed.unforked
  · cases took with
    | advanced move phase other alive early forks =>
        refine ⟨staffed.alone, ?_, ?_, ?_⟩
        · intro forking
          cases foreground.symm.trans (forks forking)
        · intro initial
          exact staffed.fresh (early.symm.trans initial)
        · intro initialized
          rcases staffed.staffed (early.symm.trans initialized) with exited | running
          · exact absurd exited alive
          · exact .inr running
    | initialized initializing =>
        have initial : system.parent.phase.early = true := by
          rw [initializing]
          rfl
        refine ⟨staffed.alone, nofun, nofun, ?_⟩
        intro _
        apply Or.inr
        simp only [Process.initLoggers, staffed.fresh initial]
        rw [(loggersInitialize_configured launch.world launch.answers configured).2.2, created]
        rfl
    | raised raising =>
        have initialized : system.parent.phase.early = false := by
          rw [raising]
          rfl
        refine ⟨staffed.alone, nofun, nofun, ?_⟩
        intro _
        rcases staffed.staffed initialized with exited | running
        · cases raising.symm.trans exited
        · exact .inr running
    | quit => exact ⟨staffed.alone, nofun, nofun, fun _ => .inl rfl⟩
    | halted => exact ⟨staffed.alone, nofun, nofun, fun _ => .inl rfl⟩
    | stopped signal =>
        exact ⟨staffed.alone, staffed.unforked, staffed.fresh, staffed.staffed⟩
    | rotated freopen answer rotates =>
        refine ⟨staffed.alone, staffed.unforked, ?_, staffed.staffed⟩
        intro initial
        cases (MainPhase.late_of_rotates rotates).symm.trans initial
  · cases staffed.alone.symm.trans present

/-! ## What every run keeps -/

theorem System.queueless_of_run {launch : Launch Row} {moves : List (Bool × MainMove)}
    {final : System Row} (refused : launch.answers.fifoAllocated = false)
    (ran : (System.step launch).run .start moves = some final) : final.Queueless := by
  apply PartialStep.run_invariant _ ran
  · intro state member
    rw [List.mem_singleton.mp member]
    rfl
  · intro system label next taken all
    apply System.forall_processes_step _ _ taken _ all
    · exact fun _ none => none
    · exact fun _ none => none
    · intro state after _ took
      exact took.queueless refused

theorem System.Queueless.attended {system : System Row} (queueless : system.Queueless) :
    system.Attended := by
  intro state member _ canPush
  rw [Loggers.CanPush, queueless state member] at canPush
  cases canPush.2

/-- In the foreground the thread that was created stays. -/
theorem Staffed.of_run {launch : Launch Row} (configured : SqliteConfigured launch.inifile)
    (foreground : launch.foreground = true) (created : launch.answers.threadCreated = true)
    {moves : List (Bool × MainMove)} {final : System Row}
    (ran : (System.step launch).run .start moves = some final) : Staffed final := by
  apply PartialStep.run_invariant _ ran
  · exact ⟨rfl, nofun, fun _ => rfl, nofun⟩
  · intro system label next taken
    exact Staffed.step configured foreground created taken

theorem Staffed.attended {system : System Row} (staffed : Staffed system) : system.Attended := by
  intro state member serves _
  rw [System.processes, staffed.alone] at member
  rw [List.mem_singleton.mp member] at serves ⊢
  have late := MainPhase.late_of_serves serves
  rcases staffed.staffed late.1 with exited | running
  · exact absurd exited late.2
  · exact running

/-! ## The serving process -/

/-- The steps from the start of `main` to the decision about the background. -/
def handlersInstalled : List (Bool × MainMove) :=
  [(false, .configure), (false, .startLoggers), (false, .installInt), (false, .installTerm),
    (false, .installPipe), (false, .installHup)]

/-- On to the accept loop in one process. -/
def foregroundStart : List (Bool × MainMove) :=
  handlersInstalled ++ [(false, .branch), (false, .raise), (false, .socketStart true)]

/-- On to the accept loop in a child. -/
def backgroundStart : List (Bool × MainMove) :=
  handlersInstalled ++ [(false, .branch), (false, .fork true), (true, .setsid true),
    (true, .raise), (true, .socketStart true)]

theorem run_handlersInstalled {launch : Launch Row}
    (configured : SqliteConfigured launch.inifile) :
    (System.step launch).run .start handlersInstalled =
      some ⟨(Process.start.initLoggers launch).goto .branching, none⟩ := by
  have configures : System.step launch .start (false, .configure) =
      some ⟨Process.start.goto .initializing, none⟩ := by
    simp [System.step, System.start, Process.step, Process.start, configured.named,
      configured.parsed]
  rw [handlersInstalled, PartialStep.run, configures]
  rfl

theorem run_foregroundStart {launch : Launch Row} (configured : SqliteConfigured launch.inifile)
    (foreground : launch.foreground = true) :
    (System.step launch).run .start foregroundStart =
      some ⟨{ Process.start.initLoggers launch with phase := .testing, running := true },
        none⟩ := by
  have stays : forall state : Process Row, state.phase = .branching ->
      System.step launch ⟨state, none⟩ (false, .branch) = some ⟨state.goto .raising, none⟩ := by
    intro state branching
    simp only [System.step, Process.step, branching, foreground]
    rfl
  rw [foregroundStart, PartialStep.run_append, run_handlersInstalled configured,
    Option.bind_some, PartialStep.run, stays _ rfl]
  rfl

theorem run_backgroundStart {launch : Launch Row} (configured : SqliteConfigured launch.inifile)
    (background : launch.foreground = false) :
    (System.step launch).run .start backgroundStart =
      some ⟨(Process.start.initLoggers launch).goto .leaving,
        some { Process.start.initLoggers launch with
          phase := .testing, running := true, background := false }⟩ := by
  have forks : forall state : Process Row, state.phase = .branching ->
      System.step launch ⟨state, none⟩ (false, .branch) = some ⟨state.goto .forking, none⟩ := by
    intro state branching
    simp only [System.step, Process.step, branching, background]
    rfl
  rw [backgroundStart, PartialStep.run_append, run_handlersInstalled configured,
    Option.bind_some, PartialStep.run, forks _ rfl]
  rfl

/-- For an enabled sqlite engine that starts, the serving process has a
consumer for its queue in every run, if and only if the program stays in the
foreground and the background thread was created, or there is no queue to push
into. -/
theorem server_has_consumer_iff (launch : Launch Row)
    (enabled : (launch.inifile.read sqliteOptHandler .defaults).disabled = false)
    (succeeded : (Loggers.initial.logsqliteInit launch.world launch.inifile
      launch.answers).1 = .ok) :
    (forall moves final, (System.step launch).run .start moves = some final -> final.Attended) ↔
      (launch.answers.fifoAllocated = true ->
        launch.foreground = true ∧ launch.answers.threadCreated = true) := by
  have configured := configured_of_succeeded enabled succeeded
  have started := loggersInitialize_configured launch.world launch.answers configured
  constructor
  · intro attended allocated
    have canPush : (Process.start.initLoggers launch).loggers.CanPush := by
      refine ⟨started.2.1, ?_⟩
      change (Loggers.initial.loggersInitialize _ _ _).2.fifo.isSome = true
      rw [started.1, allocated]
      rfl
    cases foreground : launch.foreground with
    | false =>
        have reached := attended _ _ (run_backgroundStart configured foreground)
        have staffed := reached _ (List.mem_cons_of_mem _ List.mem_cons_self) rfl canPush
        cases staffed
    | true =>
        refine ⟨rfl, ?_⟩
        have reached := attended _ _ (run_foregroundStart configured foreground)
        have staffed := reached _ List.mem_cons_self rfl canPush
        change decide ((Loggers.initial.loggersInitialize _ _ _).2.bgthread = .running) = true
          at staffed
        rw [started.2.2] at staffed
        cases created : launch.answers.threadCreated with
        | true => rfl
        | false =>
            rw [created] at staffed
            cases staffed
  · intro granted moves final ran
    cases allocated : launch.answers.fifoAllocated with
    | false => exact (System.queueless_of_run allocated ran).attended
    | true =>
        have both := granted allocated
        exact (Staffed.of_run configured both.1 both.2 ran).attended

/-- The configuration with both files, kept in the foreground by `-f`. -/
def foregroundLaunch : Launch Bytes :=
  ⟨plainWorld, bothFiles, true, granted⟩

theorem server_has_consumer_iff_foregroundLaunch :
    Exists fun final =>
      (System.step foregroundLaunch).run .start foregroundStart = some final ∧
        final.Attended := by
  have foreground : foregroundLaunch.foreground = true := by decide
  have ran := run_foregroundStart sqliteConfigured_bothFiles foreground
  have attended := (server_has_consumer_iff foregroundLaunch (by decide) rfl).mpr
    (fun _ => ⟨foreground, rfl⟩)
  exact ⟨_, ran, attended _ _ ran⟩

/-- The same configuration, sent to the background. -/
def backgroundLaunch : Launch Bytes :=
  ⟨plainWorld, bothFiles, false, granted⟩

/-- In the background the serving process is a child, which has the queue and
not the thread. -/
theorem background_server_unattended :
    (backgroundLaunch.inifile.read sqliteOptHandler .defaults).disabled = false ∧
    (Loggers.initial.logsqliteInit backgroundLaunch.world backgroundLaunch.inifile
      backgroundLaunch.answers).1 = .ok ∧
    Exists fun final =>
      (System.step backgroundLaunch).run .start backgroundStart = some final ∧
        ¬ final.Attended := by
  refine ⟨by decide, rfl, _, rfl, ?_⟩
  intro attended
  have staffed := attended _ (List.mem_cons_of_mem _ List.mem_cons_self) rfl ⟨rfl, rfl⟩
  cases staffed

end Lifecycle
end PdnsLogger
