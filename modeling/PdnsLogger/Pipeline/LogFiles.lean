import PdnsLogger.Foundation.AppendStreams
import PdnsLogger.Engines.LineBreaks
import PdnsLogger.Pipeline.Delivery

namespace PdnsLogger
namespace Pipeline

open Foundation Program Engines Transport Queue Storage

/-!
# The files behind the log

`write_log` prints a line with its newline to the stream `fp`, if there is one,
and flushes the stream when this is configured.  The C library keeps the bytes
back and writes them out when it likes.  A hangup signal makes `logfile_rotate`
open the file again, and an administrator has moved the old one away before;
`logfile_stop` closes it.

Here all of this happens between the moves of the process.  The test of `fp` and
the printing are one move, the flushing is another one of the same thread, and
each portion that the library writes out is a move of its own.  A rotation is
labelled with the file that the configured name leads to at that moment.  What the
library accepts it also manages to write: a full disk is not a case here.

`logfile_stop` closes the stream and keeps the pointer, and client threads may still
be running.  A line printed through the pointer, a flush or a rotation then uses a
stream that is gone.  Such uses are moves like all others and are recorded, but what
they do to a file is not defined, and the theorems say nothing about the files once
there was one.

Up to there no line is lost, repeated or divided between two files, whatever the
order of the moves: the files hold the lines of the process in the order of printing,
each of them in the file that was open when it was printed.
-/

/-! ## Moves -/

/-- Whether there is a file is decided when a line is written. -/
def withFile (env : Environment) : Environment :=
  { env with engines := { env.engines with
      logfile := { env.engines.logfile with fpOpen := true } } }

inductive LateUse where
  | printed (client : Nat) (line : Bytes)
  | flushed (client : Nat)
  | reopened

def LateUse.line : LateUse -> Option (Nat × Bytes)
  | .printed client line => some (client, line)
  | _ => none

/-- The process with its log file.  `closed` tells that the pointer outlives the
stream, `flushing` which threads have printed a line and are about to flush, and
`late` how the pointer was used in spite of that. -/
structure Logging where
  process : Process
  outlet : Outlet Nat UInt8
  closed : Bool
  flushing : Nat -> Bool
  late : List LateUse

/-- A move of the process or of its log file. -/
inductive FileTurn where
  | process (turn : Turn)
  | fflush (client : Nat)
  | drain (amount : Nat)
  | rotate (answer : Option Nat)
  | stop

def Turn.client : Turn -> Option Nat
  | .thread client _ => some client
  | .effect client _ => some client
  | .engine _ => none

/-- The line with which a thread reaches `write_log` in this move. -/
def writing (state : Process) : Turn -> Option (Nat × Bytes)
  | .effect client _ =>
      match (state.threads client).todo with
      | .file line :: _ => some (client, line)
      | _ => none
  | _ => none

/-- A line as it stands in the file. -/
def lineBytes (entry : Nat × Bytes) : Bytes :=
  entry.2 ++ [newline]

namespace Logging

/-- The start of all threads after `logfile_init` has tried to open the file. -/
def start (settings : Settings Bytes) (answer : OpenAnswer) (stack : Nat -> Buffer)
    (initial : Nat -> Bytes) (opened : Option Nat) : Logging where
  process := .start settings answer stack
  outlet := Outlet.reopen ⟨initial, none⟩ opened
  closed := false
  flushing _ := false
  late := []

/-- The test of `fp` and the `fprintf` of `write_log`. -/
def writeLog (forceFlush : Bool) (state : Logging) (client : Nat) (line : Bytes) : Logging :=
  if state.closed then
    { state with
      late := state.late ++ [.printed client line]
      flushing := Function.update state.flushing client forceFlush }
  else
    match state.outlet.stream with
    | none => state
    | some _ =>
        { state with
          outlet := state.outlet.print (lineBytes (client, line))
          flushing := Function.update state.flushing client forceFlush }

/-- The `fflush` of `write_log`. -/
def fflush (state : Logging) (client : Nat) : Logging :=
  let flushing := Function.update state.flushing client false
  if state.closed then
    { state with late := state.late ++ [.flushed client], flushing := flushing }
  else { state with outlet := state.outlet.flush, flushing := flushing }

def logfileRotate (state : Logging) (answer : Option Nat) : Logging :=
  if state.closed then { state with late := state.late ++ [.reopened] }
  else
    match state.outlet.stream with
    | none => state
    | some _ => { state with outlet := state.outlet.reopen answer }

def logfileStop (state : Logging) : Option Logging :=
  if state.closed then none
  else some { state with outlet := state.outlet.close, closed := state.outlet.stream.isSome }

/-- A move of the process.  A thread that is about to flush does that first. -/
def stepProcess (env : Environment) (settings : Settings Bytes) (forceFlush : Bool)
    (state : Logging) (turn : Turn) : Option Logging :=
  if turn.client.any state.flushing then none
  else
    (Process.step (withFile env) settings state.process turn).bind fun next =>
      match writing state.process turn with
      | none => some { state with process := next }
      | some (client, line) =>
          some (writeLog forceFlush { state with process := next } client line)

/-- One move.  Nothing moves after the end of the process. -/
def step (env : Environment) (settings : Settings Bytes) (forceFlush : Bool) :
    PartialStep Logging FileTurn :=
  fun state turn =>
    if state.process.aborted.isSome ∨ state.process.worker.crashed.isSome then none
    else
      match turn with
      | .process turn => stepProcess env settings forceFlush state turn
      | .fflush client => if state.flushing client then some (state.fflush client) else none
      | .drain amount => some { state with outlet := state.outlet.drain amount }
      | .rotate answer => some (state.logfileRotate answer)
      | .stop => state.logfileStop

end Logging

def processTurns (turns : List FileTurn) : List Turn :=
  turns.filterMap fun turn =>
    match turn with
    | .process turn => some turn
    | _ => none

/-- What a rotation finds behind the name, unless it comes after the stop. -/
def Logging.opening (state : Logging) : FileTurn -> Option (Option Nat)
  | .rotate answer => if state.closed then none else some answer
  | _ => none

/-- The answers to all openings of a run, the one of `logfile_init` first. -/
def openings (env : Environment) (settings : Settings Bytes) (forceFlush : Bool)
    (answer : OpenAnswer) (stack : Nat -> Buffer) (initial : Nat -> Bytes) (opened : Option Nat)
    (turns : List FileTurn) : List (Option Nat) :=
  opened :: (Logging.step env settings forceFlush).collected Logging.opening
    (.start settings answer stack initial opened) turns

/-- The lines handed in too late. -/
def Logging.lateLines (state : Logging) : List (Nat × Bytes) :=
  state.late.filterMap LateUse.line

/-! ## One move of the process -/

/-- A move of the process adds to the log the line with which it reaches
`write_log`, and nothing else. -/
theorem fileLog_step {env : Environment} {settings : Settings Bytes} {state next : Process}
    {turn : Turn} (taken : Process.step env settings state turn = some next) :
    next.fileLog = state.fileLog ++ (writing state turn).toList := by
  simp only [Process.step] at taken
  split at taken
  next => cases taken
  next =>
    cases turn with
    | thread client event =>
        rcases Option.map_eq_some_iff.mp taken with ⟨result, _, rfl⟩
        cases result <;> exact (List.append_nil _).symm
    | engine move =>
        cases move with
        | push client row item stale => cases taken
        | _ =>
            rcases Option.map_eq_some_iff.mp taken with ⟨worker, _, rfl⟩
            exact (List.append_nil _).symm
    | effect client allocated =>
        simp only [Process.perform] at taken
        cases todo : (state.threads client).todo with
        | nil =>
            rw [todo] at taken
            cases taken
        | cons effect rest =>
            rw [todo] at taken
            simp only [writing, todo]
            cases effect with
            | file line =>
                cases Option.some.inj taken
                simp [Process.fileLog, tagged, Effect.fileLine]
            | system line =>
                cases Option.some.inj taken
                simp [Process.fileLog, tagged, Effect.fileLine]
            | abort fault =>
                cases Option.some.inj taken
                simp [Process.fileLog]
            | push statement =>
                cases allocated with
                | none =>
                    cases Option.some.inj taken
                    simp [Process.fileLog, tagged, Effect.fileLine]
                | some block =>
                    rcases Option.map_eq_some_iff.mp taken with ⟨worker, _, rfl⟩
                    split <;> simp [Process.fileLog, tagged, Effect.fileLine]

/-! ## The invariant of the files

The openings are all answers so far, the first one from `logfile_init`.  As long
as none of them is a failure the stream is open or was closed in the end, and the
generations hold all lines up to the late ones.  After a failure no line is printed
any more. -/

/-- The files and the stream account for the lines of the process. -/
structure Kept (forceFlush : Bool) (initial : Nat -> Bytes) (openings : List (Option Nat))
    (generations : List (Nat × List (Nat × Bytes))) (state : Logging) : Prop where
  accounts : Accounts lineBytes initial generations state.outlet
  files : generations.map (fun generation => some generation.1) = openings.takeWhile Option.isSome
  lines : generations.flatMap Prod.snd <+: state.process.fileLog
  complete : none ∉ openings ->
    generations.flatMap Prod.snd ++ state.lateLines = state.process.fileLog
  open_ : state.outlet.stream.isSome -> none ∉ openings ∧ state.closed = false
  early : state.closed = false -> state.late = []
  lost : state.outlet.stream = none -> state.closed = true ∨ none ∈ openings
  flushed : forceFlush = true -> (forall client, state.flushing client = false) ->
    forall file, state.outlet.unwritten file = []

/-- Openings up to the first failure do not notice what comes after it. -/
theorem takeWhile_concat_of_none {openings : List (Option Nat)} (failed : none ∈ openings)
    (answer : Option Nat) :
    (openings ++ [answer]).takeWhile Option.isSome = openings.takeWhile Option.isSome := by
  rw [List.takeWhile_append, if_neg]
  intro whole
  have all := List.takeWhile_eq_self_iff.mp ((List.takeWhile_prefix _).eq_of_length whole)
  exact absurd (all none failed) (by decide)

theorem takeWhile_concat_of_open {openings : List (Option Nat)} (succeeded : none ∉ openings)
    (answer : Option Nat) :
    (openings ++ [answer]).takeWhile Option.isSome =
      openings.takeWhile Option.isSome ++ [answer].takeWhile Option.isSome := by
  have all : forall opening, opening ∈ openings -> opening.isSome = true := by
    intro opening member
    rw [Option.isSome_iff_ne_none]
    rintro rfl
    exact succeeded member
  rw [List.takeWhile_append_of_pos all, List.takeWhile_eq_self_iff.mpr all]

namespace Kept

variable {forceFlush : Bool} {initial : Nat -> Bytes} {openings : List (Option Nat)}
  {generations : List (Nat × List (Nat × Bytes))} {state next : Logging}

theorem writeOut (kept : Kept forceFlush initial openings generations state)
    {outlet : Outlet Nat UInt8} {flushing : Nat -> Bool}
    (accounts : Accounts lineBytes initial generations outlet)
    (same : outlet.stream.isSome = state.outlet.stream.isSome)
    (flushed : forceFlush = true -> (forall client, flushing client = false) ->
      forall file, outlet.unwritten file = []) :
    Kept forceFlush initial openings generations
      { state with outlet := outlet, flushing := flushing } where
  accounts := accounts
  files := kept.files
  lines := kept.lines
  complete := kept.complete
  open_ := fun isOpen => kept.open_ (same ▸ isOpen)
  early := kept.early
  lost := by
    intro absent
    apply kept.lost
    rw [← Option.not_isSome_iff_eq_none, ← same, absent]
    decide
  flushed := flushed

theorem drain (kept : Kept forceFlush initial openings generations state) (amount : Nat) :
    Kept forceFlush initial openings generations
      { state with outlet := state.outlet.drain amount } := by
  apply kept.writeOut (kept.accounts.drain amount) (state.outlet.isSome_stream_drain amount)
  intro forced idle file
  rw [Outlet.unwritten_drain, kept.flushed forced idle file, List.drop_nil]

/-- Nothing is kept back for a closed stream. -/
theorem unwritten_of_closed (kept : Kept forceFlush initial openings generations state)
    (closed : state.closed = true) (file : Nat) : state.outlet.unwritten file = [] := by
  cases present : state.outlet.stream with
  | none => rw [Outlet.unwritten, present]
  | some stream =>
      have standing := kept.open_ (by rw [present]; rfl)
      rw [closed] at standing
      cases standing.2

/-- A late use leaves the accounts as they are. -/
theorem used (kept : Kept forceFlush initial openings generations state)
    (closed : state.closed = true) {process : Process} {use : LateUse} (flushing : Nat -> Bool)
    (grown : process.fileLog = state.process.fileLog ++ use.line.toList) :
    Kept forceFlush initial openings generations
      { state with process := process, late := state.late ++ [use], flushing := flushing } where
  accounts := kept.accounts
  files := kept.files
  lines := by
    rw [grown]
    exact kept.lines.trans (List.prefix_append _ _)
  complete := by
    intro succeeded
    have late : (state.late ++ [use]).filterMap LateUse.line =
        state.lateLines ++ use.line.toList := by
      rw [List.filterMap_append, Logging.lateLines]
      cases use <;> rfl
    rw [grown, ← kept.complete succeeded, Logging.lateLines, late, List.append_assoc]
  open_ := kept.open_
  early := by
    intro unclosed
    cases closed.symm.trans unclosed
  lost := kept.lost
  flushed := fun _ _ => kept.unwritten_of_closed closed

theorem fflush (kept : Kept forceFlush initial openings generations state) (client : Nat) :
    Kept forceFlush initial openings generations (state.fflush client) := by
  unfold Logging.fflush
  split
  next closed => exact kept.used closed _ (List.append_nil _).symm
  next =>
    apply kept.writeOut kept.accounts.flush
    · rw [Outlet.stream_flush, Option.isSome_map]
    · intro _ _ file
      exact state.outlet.unwritten_flush file

/-- A rotation opens the next generation, or fails, or finds no stream, or comes too
late. -/
theorem rotate (kept : Kept forceFlush initial openings generations state) (answer : Option Nat) :
    Exists fun generations => Kept forceFlush initial
      (openings ++ (state.opening (.rotate answer)).toList) generations
      (state.logfileRotate answer) := by
  by_cases closed : state.closed = true
  · have nothing : state.opening (.rotate answer) = none := if_pos closed
    refine ⟨generations, ?_⟩
    rw [Logging.logfileRotate, if_pos closed, nothing, Option.toList_none, List.append_nil]
    exact kept.used closed _ (List.append_nil _).symm
  have opening : state.opening (.rotate answer) = some answer := if_neg closed
  rw [Logging.logfileRotate, if_neg closed, opening, Option.toList_some]
  have unclosed : state.closed = false := Bool.eq_false_iff.mpr closed
  split
  next absent =>
    have failed : none ∈ openings := (kept.lost absent).resolve_left closed
    refine ⟨generations, kept.accounts, ?_, kept.lines, ?_, ?_, kept.early, ?_, kept.flushed⟩
    · rw [takeWhile_concat_of_none failed]
      exact kept.files
    · exact fun succeeded => absurd (List.mem_append_left _ failed) succeeded
    · intro isOpen
      rw [absent] at isOpen
      cases isOpen
    · exact fun _ => .inr (List.mem_append_left _ failed)
  next stream present =>
    have standing := kept.open_ (by rw [present]; rfl)
    have nothing : forall file, (state.outlet.reopen answer).unwritten file = [] :=
      state.outlet.unwritten_reopen answer
    cases answer with
    | none =>
        refine ⟨generations, kept.accounts.close, ?_, kept.lines, ?_, ?_, kept.early, ?_,
          fun _ _ => nothing⟩
        · rw [takeWhile_concat_of_open standing.1, kept.files]
          exact (List.append_nil _).symm
        · exact fun succeeded => absurd (by simp) succeeded
        · intro isOpen
          cases isOpen
        · exact fun _ => .inr (by simp)
    | some file =>
        have entries : (generations ++ [(file, [])]).flatMap Prod.snd =
            generations.flatMap Prod.snd := by
          simp
        refine ⟨generations ++ [(file, [])], kept.accounts.reopen file, ?_, ?_, ?_, ?_, kept.early,
          ?_, fun _ _ => nothing⟩
        · rw [takeWhile_concat_of_open standing.1, List.map_append, kept.files]
          rfl
        · rw [entries]
          exact kept.lines
        · intro _
          rw [entries]
          exact kept.complete standing.1
        · exact fun _ => ⟨by simpa using standing.1, standing.2⟩
        · intro absent
          cases absent

theorem stop (kept : Kept forceFlush initial openings generations state)
    (taken : state.logfileStop = some next) :
    Kept forceFlush initial openings generations next := by
  unfold Logging.logfileStop at taken
  split at taken
  next => cases taken
  next unclosed =>
    cases Option.some.inj taken
    have early := kept.early (Bool.eq_false_iff.mpr unclosed)
    refine ⟨kept.accounts.close, kept.files, kept.lines, kept.complete, ?_, fun _ => early, ?_,
      fun _ _ => state.outlet.unwritten_reopen none⟩
    · intro isOpen
      cases isOpen
    intro _
    cases present : state.outlet.stream with
    | none => exact .inr ((kept.lost present).resolve_left unclosed)
    | some stream => exact .inl rfl

theorem process_writeLog (forceFlush : Bool) (state : Logging) (client : Nat) (line : Bytes) :
    (Logging.writeLog forceFlush state client line).process = state.process := by
  unfold Logging.writeLog
  split
  · rfl
  · split <;> rfl

theorem writeLog (kept : Kept forceFlush initial openings generations state) {process : Process}
    {client : Nat} {line : Bytes}
    (grown : process.fileLog = state.process.fileLog ++ [(client, line)]) :
    Exists fun generations => Kept forceFlush initial openings generations
      (Logging.writeLog forceFlush { state with process := process } client line) := by
  unfold Logging.writeLog
  split
  next closed => exact ⟨generations, kept.used closed _ grown⟩
  next unclosed =>
    split
    next absent =>
      -- Without a stream the line is discarded, and a failure was recorded before.
      have failed : none ∈ openings := (kept.lost absent).resolve_left unclosed
      refine ⟨generations, kept.accounts, kept.files, ?_, fun succeeded =>
        absurd failed succeeded, kept.open_, kept.early, kept.lost, kept.flushed⟩
      rw [grown]
      exact kept.lines.trans (List.prefix_append _ _)
    next stream present =>
      have standing := kept.open_ (by rw [present]; rfl)
      have early : state.lateLines = [] := by
        rw [Logging.lateLines, kept.early standing.2]
        rfl
      rcases kept.accounts.latest stream present with ⟨earlier, entries, rfl⟩
      have log := kept.complete standing.1
      rw [early, List.append_nil] at log
      have appended : (earlier ++ [(stream.file, entries ++ [(client, line)])]).flatMap Prod.snd =
          process.fileLog := by
        rw [grown, ← log]
        simp
      refine ⟨earlier ++ [(stream.file, entries ++ [(client, line)])],
        kept.accounts.print present (client, line), ?_, ?_, ?_, fun _ => standing, kept.early, ?_,
        ?_⟩
      · rw [← kept.files]
        simp
      · rw [appended]
      · intro _
        change _ ++ state.lateLines = _
        rw [early, List.append_nil, appended]
      · intro absent
        rw [Outlet.print, present] at absent
        cases absent
      · intro forced idle
        have busy : Function.update state.flushing client forceFlush client = false := idle client
        rw [Function.update_self, forced] at busy
        cases busy

theorem process {env : Environment} {settings : Settings Bytes} {turn : Turn}
    (kept : Kept forceFlush initial openings generations state)
    (taken : state.stepProcess env settings forceFlush turn = some next) :
    Process.step (withFile env) settings state.process turn = some next.process ∧
      Exists fun generations => Kept forceFlush initial openings generations next := by
  unfold Logging.stepProcess at taken
  split at taken
  next => cases taken
  next =>
    rcases Option.bind_eq_some_iff.mp taken with ⟨process, moved, written⟩
    have grown := fileLog_step moved
    cases reaches : writing state.process turn with
    | none =>
        rw [reaches] at written grown
        cases Option.some.inj written
        have same : process.fileLog = state.process.fileLog := by simpa using grown
        refine ⟨moved, generations, kept.accounts, kept.files, ?_, ?_, kept.open_, kept.early,
          kept.lost, kept.flushed⟩
        · rw [same]
          exact kept.lines
        · intro succeeded
          rw [same]
          exact kept.complete succeeded
    | some entry =>
        rw [reaches] at written grown
        cases Option.some.inj written
        rw [process_writeLog]
        exact ⟨moved, kept.writeLog grown⟩

theorem step {env : Environment} {settings : Settings Bytes} {turn : FileTurn}
    (kept : Kept forceFlush initial openings generations state)
    (taken : Logging.step env settings forceFlush state turn = some next) :
    (Process.step (withFile env) settings).run state.process (processTurns [turn]) =
        some next.process ∧
      Exists fun generations =>
        Kept forceFlush initial (openings ++ (state.opening turn).toList) generations next := by
  simp only [Logging.step] at taken
  split at taken
  next => cases taken
  next =>
    have unopened : forall {turn : FileTurn} {generations : List (Nat × List (Nat × Bytes))},
        state.opening turn = none -> Kept forceFlush initial openings generations next ->
          Kept forceFlush initial (openings ++ (state.opening turn).toList) generations next := by
      intro turn generations none kept
      rw [none, Option.toList_none, List.append_nil]
      exact kept
    cases turn with
    | process turn =>
        rcases kept.process taken with ⟨moved, generations, later⟩
        exact ⟨PartialStep.run_cons_eq_some.mpr ⟨next.process, moved, rfl⟩, generations,
          unopened rfl later⟩
    | fflush client =>
        dsimp only at taken
        split at taken
        next =>
          cases Option.some.inj taken
          have same : (state.fflush client).process = state.process := by
            unfold Logging.fflush
            split <;> rfl
          exact ⟨congrArg some same.symm, generations, unopened rfl (kept.fflush client)⟩
        next => cases taken
    | drain amount =>
        cases Option.some.inj taken
        exact ⟨rfl, generations, unopened rfl (kept.drain amount)⟩
    | rotate answer =>
        cases Option.some.inj taken
        have same : (state.logfileRotate answer).process = state.process := by
          unfold Logging.logfileRotate
          split
          · rfl
          · split <;> rfl
        exact ⟨congrArg some same.symm, kept.rotate answer⟩
    | stop =>
        have same : next.process = state.process := by
          simp only [Logging.logfileStop] at taken
          split at taken
          next => cases taken
          next =>
            cases Option.some.inj taken
            rfl
        exact ⟨congrArg some same.symm, generations, unopened rfl (kept.stop taken)⟩

/-- A whole run.  What the process does in it is a run of the process alone. -/
theorem run {env : Environment} {settings : Settings Bytes} {turns : List FileTurn}
    (kept : Kept forceFlush initial openings generations state)
    (ran : (Logging.step env settings forceFlush).run state turns = some next) :
    (Process.step (withFile env) settings).run state.process (processTurns turns) =
        some next.process ∧
      Exists fun generations => Kept forceFlush initial
        (openings ++ (Logging.step env settings forceFlush).collected Logging.opening state turns)
        generations next := by
  induction turns generalizing state openings generations with
  | nil =>
      cases Option.some.inj ran
      refine ⟨rfl, generations, ?_⟩
      rw [PartialStep.collected, List.append_nil]
      exact kept
  | cons turn turns ih =>
      rcases PartialStep.run_cons_eq_some.mp ran with ⟨middle, taken, rest⟩
      rcases kept.step taken with ⟨moved, _, after⟩
      rcases ih after rest with ⟨onward, generations, final⟩
      have moves : processTurns ([turn] ++ turns) = processTurns [turn] ++ processTurns turns :=
        List.filterMap_append
      rw [List.singleton_append] at moves
      rw [moves, PartialStep.collected_cons taken, PartialStep.run_append_eq_some,
        ← List.append_assoc]
      exact ⟨⟨middle.process, moved, onward⟩, generations, final⟩

end Kept

theorem kept_start (forceFlush : Bool) (settings : Settings Bytes) (answer : OpenAnswer)
    (stack : Nat -> Buffer) (initial : Nat -> Bytes) (opened : Option Nat) :
    Exists fun generations => Kept forceFlush initial [opened] generations
      (.start settings answer stack initial opened) := by
  have nothing : forall file, (Outlet.reopen ⟨initial, none⟩ opened).unwritten file = [] :=
    Outlet.unwritten_reopen _ opened
  cases opened with
  | none =>
      exact ⟨[], (Accounts.unopened initial).close, rfl, List.prefix_refl _, fun _ => rfl, nofun,
        fun _ => rfl, fun _ => .inr List.mem_cons_self, fun _ _ => nothing⟩
  | some file =>
      exact ⟨[(file, [])], (Accounts.unopened initial).reopen file, rfl, List.prefix_refl _,
        fun _ => rfl, fun _ => ⟨by simp, rfl⟩, fun _ => rfl, nofun, fun _ _ => nothing⟩

theorem kept_of_run {env : Environment} {settings : Settings Bytes} {forceFlush : Bool}
    {answer : OpenAnswer} {stack : Nat -> Buffer} {initial : Nat -> Bytes} {opened : Option Nat}
    {turns : List FileTurn} {final : Logging}
    (ran : (Logging.step env settings forceFlush).run
      (.start settings answer stack initial opened) turns = some final) :
    Accounted (withFile env)
        (fun client => receivedOf client (clientEvents (processTurns turns))) final.process ∧
      Exists fun generations => Kept forceFlush initial
        (openings env settings forceFlush answer stack initial opened turns) generations final := by
  rcases kept_start forceFlush settings answer stack initial opened with ⟨_, kept⟩
  rcases kept.run ran with ⟨moved, later⟩
  exact ⟨accounted_of_run moved, later⟩

/-! ## The files -/

/-- In every interleaving of the threads, of rotations of the log file and of the
database, and of the stop, the lines with which one client's thread has reached
`write_log`, and its lines sent to syslog, are those of the frames the client has sent,
in their order and each exactly once, up to the lines still to come.  What becomes of
the lines at `write_log` is the subject of the next theorem. -/
theorem client_lines_once (env : Environment) (settings : Settings Bytes) (forceFlush : Bool)
    (answer : OpenAnswer) (stack : Nat -> Buffer) (initial : Nat -> Bytes) (opened : Option Nat)
    (turns : List FileTurn) (final : Logging)
    (ran : (Logging.step env settings forceFlush).run
      (.start settings answer stack initial opened) turns = some final) (client : Nat) :
    textsBy client final.process.fileLog ++
          (final.process.threads client).todo.filterMap Effect.fileLine =
        (frames.items (receivedOf client (clientEvents (processTurns turns)))).flatMap
          (fileLinesOf (withFile env)) ∧
      textsBy client final.process.systemLog ++
          (final.process.threads client).todo.filterMap Effect.systemLine =
        (frames.items (receivedOf client (clientEvents (processTurns turns)))).flatMap
          (systemLinesOf (withFile env)) := by
  have accounted := (kept_of_run ran).1
  exact ⟨accounted.texts (fun payload => (payloadEffects_kinds _ payload).1) client,
    accounted.texts (fun payload => (payloadEffects_kinds _ payload).2.1) client⟩

/-- In every run, whatever is opened, moved away, kept back or written out in
between, the log is divided into generations, one for each opening up to the first
that fails.  Together the generations are the lines of the process, unless an opening
failed, followed by those that came after the stop; each client's part of these lines
comes from the frames it has sent.  As long as nobody has used the closed stream, every
file holds the lines of its generations behind what it held before, up to what the
stream keeps back, and nothing is kept back once every thread has flushed. -/
theorem log_files_hold_lines (env : Environment) (settings : Settings Bytes) (forceFlush : Bool)
    (answer : OpenAnswer) (stack : Nat -> Buffer) (initial : Nat -> Bytes) (opened : Option Nat)
    (turns : List FileTurn) (final : Logging)
    (ran : (Logging.step env settings forceFlush).run
      (.start settings answer stack initial opened) turns = some final) :
    Exists fun generations : List (Nat × List (Nat × Bytes)) =>
      generations.map (fun generation => some generation.1) =
        (openings env settings forceFlush answer stack initial opened turns).takeWhile
          Option.isSome ∧
      generations.flatMap Prod.snd <+: final.process.fileLog ∧
      (none ∉ openings env settings forceFlush answer stack initial opened turns ->
        generations.flatMap Prod.snd ++ final.lateLines = final.process.fileLog) ∧
      (final.late = [] ->
        (forall file, final.outlet.contents file ++ final.outlet.unwritten file =
          initial file ++ (entriesOf file generations).flatMap lineBytes) ∧
        (forceFlush = true -> (forall client, final.flushing client = false) ->
          forall file, final.outlet.unwritten file = [])) ∧
      forall client,
        textsBy client final.process.fileLog ++
            (final.process.threads client).todo.filterMap Effect.fileLine =
          (frames.items (receivedOf client (clientEvents (processTurns turns)))).flatMap
            (fileLinesOf (withFile env)) := by
  rcases kept_of_run ran with ⟨accounted, generations, kept⟩
  exact ⟨generations, kept.files, kept.lines, kept.complete,
    fun _ => ⟨kept.accounts.reaches, kept.flushed⟩,
    accounted.texts fun payload => (payloadEffects_kinds _ payload).1⟩

/-- Two messages with a rotation between their lines, without forced flushing.  The
library writes out a part of the first line before. -/
def rotatingTurns : List FileTurn :=
  [.process (.thread 0 (.setup true)), .process (.thread 0 .testFull),
    .process (.thread 0 (.read (.bytes [0, 2, 8, 1]))), .process (.effect 0 none), .drain 5,
    .rotate (some 2), .process (.effect 0 none), .stop]

/-- Nothing is in the files, and the name leads to the first of them. -/
def rotatingStart : Logging :=
  .start (obliging true) .opened staleStack (fun _ => []) (some 1)

theorem client_lines_once_rotatingTurns :
    Exists fun final =>
      (Logging.step rewritingEnvironment (obliging true) false).run
        rotatingStart rotatingTurns = some final ∧
      textsBy 0 final.process.fileLog = fileLinesOf (withFile rewritingEnvironment) [8, 1] := by
  have enabled : (((Logging.step rewritingEnvironment (obliging true) false).run
      rotatingStart rotatingTurns).map fun final =>
        decide ((final.process.threads 0).todo.filterMap Effect.fileLine = [])) = some true := by
    decide +kernel
  rcases Option.map_eq_some_iff.mp enabled with ⟨final, ran, written⟩
  have lines := (client_lines_once rewritingEnvironment (obliging true) false .opened staleStack
    (fun _ => []) (some 1) rotatingTurns final ran 0).1
  have sent : frames.items (receivedOf 0 (clientEvents (processTurns rotatingTurns))) =
      [[8, 1]] := by decide
  rw [of_decide_eq_true written, sent] at lines
  refine ⟨final, ran, ?_⟩
  simpa using lines

theorem log_files_hold_lines_rotatingTurns :
    Exists fun final =>
      (Logging.step rewritingEnvironment (obliging true) false).run
        rotatingStart rotatingTurns = some final ∧
      Exists fun generations : List (Nat × List (Nat × Bytes)) =>
        generations.map (fun generation => some generation.1) = [some 1, some 2] ∧
          generations.flatMap Prod.snd = final.process.fileLog ∧ final.process.fileLog.length = 2 ∧
          forall file, final.outlet.contents file =
            (entriesOf file generations).flatMap lineBytes := by
  have enabled : (((Logging.step rewritingEnvironment (obliging true) false).run
      rotatingStart rotatingTurns).map fun final =>
        (final.process.fileLog.length, final.late.length, decide (final.outlet.stream = none))) =
          some (2, 0, true) := by
    decide +kernel
  have opened : openings rewritingEnvironment (obliging true) false .opened staleStack (fun _ => [])
      (some 1) rotatingTurns = [some 1, some 2] := by
    decide +kernel
  rcases Option.map_eq_some_iff.mp enabled with ⟨final, ran, counted⟩
  have late : final.late = [] :=
    List.length_eq_zero_iff.mp (congrArg (fun counts => counts.2.1) counted)
  have closed : final.outlet.stream = none :=
    of_decide_eq_true (congrArg (fun counts => counts.2.2) counted)
  rcases log_files_hold_lines rewritingEnvironment (obliging true) false .opened staleStack
    (fun _ => []) (some 1) rotatingTurns final ran with ⟨generations, files, _, complete, held, _⟩
  rw [opened] at files complete
  have lines := complete (by decide)
  rw [Logging.lateLines, late, List.filterMap_nil, List.append_nil] at lines
  refine ⟨final, ran, generations, files, lines, congrArg Prod.fst counted, ?_⟩
  intro file
  have bytes := (held late).1 file
  rw [Outlet.unwritten, closed] at bytes
  simpa using bytes

/-! ## Reading the files -/

/-- The lines of a payload without newlines in the sender's texts. -/
theorem newline_not_mem_fileLinesOf {env : Environment} (plain : PlainAddresses env.inetNtop)
    {payload line : Bytes}
    (unbroken : forall msg r, env.unpack payload = some msg -> msg.response = some r ->
      newline ∉ (foreignTexts msg r).flatten)
    (member : line ∈ fileLinesOf env payload) : newline ∉ line := by
  unfold fileLinesOf at member
  split at member
  next => cases member
  next msg unpacked =>
    cases logged : logfileLog env.build env.inetNtop env.engines.logfile (some msg) with
    | error fault =>
        rw [logged] at member
        cases member
    | ok lines =>
        rw [logged] at member
        have clean : newline ∉ lines.flatten :=
          not_mem_lines (by decide) plain (fun r => unbroken msg r unpacked) logged
        intro inside
        exact clean (List.mem_flatten.mpr ⟨line, member, inside⟩)

/-- As long as no client sends a text with a newline, a file that was empty at first
and has received everything reads back, line by line, as the lines of its
generations. -/
theorem log_files_read_back (env : Environment) (settings : Settings Bytes) (forceFlush : Bool)
    (answer : OpenAnswer) (stack : Nat -> Buffer) (initial : Nat -> Bytes) (opened : Option Nat)
    (turns : List FileTurn) (final : Logging)
    (ran : (Logging.step env settings forceFlush).run
      (.start settings answer stack initial opened) turns = some final)
    (plain : PlainAddresses env.inetNtop)
    (unbroken : forall client payload msg r,
      payload ∈ frames.items (receivedOf client (clientEvents (processTurns turns))) ->
      env.unpack payload = some msg -> msg.response = some r ->
      newline ∉ (foreignTexts msg r).flatten) :
    Exists fun generations : List (Nat × List (Nat × Bytes)) =>
      generations.map (fun generation => some generation.1) =
        (openings env settings forceFlush answer stack initial opened turns).takeWhile
          Option.isSome ∧
      generations.flatMap Prod.snd <+: final.process.fileLog ∧
      (none ∉ openings env settings forceFlush answer stack initial opened turns ->
        generations.flatMap Prod.snd ++ final.lateLines = final.process.fileLog) ∧
      (final.late = [] -> forall file, initial file = [] -> final.outlet.unwritten file = [] ->
        (final.outlet.contents file).splitOn newline =
          (entriesOf file generations).map Prod.snd ++ [[]]) := by
  rcases kept_of_run ran with ⟨accounted, generations, kept⟩
  refine ⟨generations, kept.files, kept.lines, kept.complete, ?_⟩
  intro _ file empty written
  have bytes := kept.accounts.reaches file
  rw [Outlet.reaching, written, List.append_nil, empty, List.nil_append] at bytes
  have joined : (entriesOf file generations).flatMap lineBytes =
      ((entriesOf file generations).map Prod.snd).flatMap (· ++ [newline]) := by
    rw [List.flatMap_map]
    rfl
  rw [bytes, joined, splitOn_terminated_iff]
  intro line member
  rcases List.mem_map.mp member with ⟨⟨client, line⟩, inside, rfl⟩
  have logged : (client, line) ∈ final.process.fileLog :=
    kept.lines.subset (mem_of_mem_entriesOf inside)
  have mine : line ∈ textsBy client final.process.fileLog :=
    List.mem_map.mpr ⟨(client, line), List.mem_filter.mpr ⟨logged, beq_self_eq_true client⟩, rfl⟩
  have sent := accounted.texts (fun payload => (payloadEffects_kinds _ payload).1) client
  rcases List.mem_flatMap.mp (sent ▸ List.mem_append_left _ mine) with ⟨payload, frame, stated⟩
  exact @newline_not_mem_fileLinesOf (withFile env) plain payload line
    (fun msg r => unbroken client payload msg r frame) stated

theorem log_files_read_back_rotatingTurns :
    Exists fun final =>
      (Logging.step rewritingEnvironment (obliging true) false).run
        rotatingStart rotatingTurns = some final ∧
      Exists fun generations : List (Nat × List (Nat × Bytes)) =>
        generations.flatMap Prod.snd = final.process.fileLog ∧ final.process.fileLog.length = 2 ∧
          (final.outlet.contents 2).splitOn newline =
            (entriesOf 2 generations).map Prod.snd ++ [[]] := by
  have enabled : (((Logging.step rewritingEnvironment (obliging true) false).run
      rotatingStart rotatingTurns).map fun final =>
        (final.process.fileLog.length, final.late.length,
          decide (final.outlet.unwritten 2 = []))) = some (2, 0, true) := by
    decide +kernel
  have opened : openings rewritingEnvironment (obliging true) false .opened staleStack (fun _ => [])
      (some 1) rotatingTurns = [some 1, some 2] := by
    decide +kernel
  rcases Option.map_eq_some_iff.mp enabled with ⟨final, ran, counted⟩
  have late : final.late = [] :=
    List.length_eq_zero_iff.mp (congrArg (fun counts => counts.2.1) counted)
  have unbroken : forall client payload msg r,
      payload ∈ frames.items (receivedOf client (clientEvents (processTurns rotatingTurns))) ->
      rewritingEnvironment.unpack payload = some msg -> msg.response = some r ->
      newline ∉ (foreignTexts msg r).flatten := by
    intro client payload msg r _ unpacked present
    change (if payload = [8, 1] then some rewrittenAnswer else none) = some msg at unpacked
    split at unpacked
    next =>
      cases Option.some.inj unpacked
      cases Option.some.inj present
      decide +kernel
    next => cases unpacked
  rcases log_files_read_back rewritingEnvironment (obliging true) false .opened staleStack
    (fun _ => []) (some 1) rotatingTurns final ran plainAddresses_rewrittenAnswerAddresses unbroken with
    ⟨generations, _, _, complete, reads⟩
  rw [opened] at complete
  have lines := complete (by decide)
  rw [Logging.lateLines, late, List.filterMap_nil, List.append_nil] at lines
  exact ⟨final, ran, generations, lines, congrArg Prod.fst counted,
    reads late 2 rfl (of_decide_eq_true (congrArg (fun counts => counts.2.2) counted))⟩

end Pipeline
end PdnsLogger
