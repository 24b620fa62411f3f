import PdnsLogger.Lifecycle.Resources

namespace PdnsLogger
namespace Lifecycle

open Foundation Program Engines

/-!
# Rotating the log file

`logfile_rotate` reopens the file through the pointer it has.  When `freopen`
fails the old file is closed and the pointer becomes null, and a null pointer
makes every later rotation return without an attempt to open the file.  From
then on `write_log` discards its line, while `logfile_log` returns `PDNS_OK` as
before.

The calls of this engine form runs of their own.  A rotation is labelled with
whether the file can be opened at that moment; the label matters only where
`freopen` is called.
-/

variable {Row : Type}

/-- A call of the log file engine between its start and its stop. -/
inductive FileCall where
  | log (msg : PBDNSMessage)
  | rotate (canOpen : Bool)
  deriving DecidableEq

/-- One call.  A failed assertion ends the process. -/
def Loggers.fileStep (build : Build) (inetNtop : InetNtop) :
    PartialStep (Loggers Row) FileCall
  | state, .log msg =>
      match logfileLog build inetNtop state.registered.logfile (some msg) with
      | .error _ => none
      | .ok lines =>
          some { state with output := { state.output with file := state.output.file ++ lines } }
  | state, .rotate canOpen => some (state.logfileRotate canOpen).2

/-- The call added to the file what an open file receives for the message, and
that is something. -/
def Written (build : Build) (inetNtop : InetNtop) (msg : PBDNSMessage)
    (before after : Loggers Row) : Prop :=
  Exists fun lines =>
    logfileLog build inetNtop ⟨before.logfile.disabled, before.logfile.rewritesOnly, true⟩
        (some msg) = .ok lines ∧
      lines ≠ [] ∧ after.output.file = before.output.file ++ lines

/-! ## One message -/

theorem lines_logfileLog_closed {build : Build} {inetNtop : InetNtop} {engine : Logfile}
    {rawpb : Option PBDNSMessage} {lines : List Bytes} (closed : engine.fpOpen = false)
    (logged : logfileLog build inetNtop engine rawpb = .ok lines) : lines = [] := by
  rw [logfileLog, execute_eq, closed] at logged
  split at logged
  · cases logged
  · cases Except.ok.inj logged
    exact lines_perform_closed _ _

/-- An open file receives at least one line for every message that passes the
filters. -/
theorem lines_logfileLog_open {build : Build} {inetNtop : InetNtop} {engine : Logfile}
    {msg : PBDNSMessage} {lines : List Bytes} (isOpen : engine.fpOpen = true)
    (enabled : engine.disabled = false) (unfiltered : ¬ Filtered engine.rewritesOnly msg)
    (logged : logfileLog build inetNtop engine (some msg) = .ok lines) : lines ≠ [] := by
  rw [logfileLog, execute_eq, isOpen] at logged
  split at logged
  · cases logged
  · cases Except.ok.inj logged
    intro empty
    have counted := length_lines_perform (engine.ops inetNtop (some msg)) .start
    rw [empty, engine.count_writeLog_ops inetNtop msg enabled, if_neg unfiltered] at counted
    simp only [List.length_nil] at counted
    omega

/-- A message that passes the filters is written exactly when the file is open. -/
theorem written_iff {build : Build} {inetNtop : InetNtop} {msg : PBDNSMessage}
    {state next : Loggers Row} (enabled : state.logfile.disabled = false)
    (unfiltered : ¬ Filtered state.logfile.rewritesOnly msg)
    (taken : Loggers.fileStep build inetNtop state (.log msg) = some next) :
    Written build inetNtop msg state next ↔ state.fp = .opened := by
  simp only [Loggers.fileStep] at taken
  split at taken
  next => cases taken
  next lines logged =>
    cases Option.some.inj taken
    constructor
    · rintro ⟨received, _, some_line, appended⟩
      by_contra notOpen
      have nothing : lines = [] :=
        lines_logfileLog_closed (decide_eq_false notOpen) logged
      rw [nothing] at appended
      exact some_line (List.append_cancel_left appended).symm
    · intro isOpen
      have sink : state.registered.logfile =
          ⟨state.logfile.disabled, state.logfile.rewritesOnly, true⟩ := by
        simp only [Loggers.registered, isOpen, decide_true]
      rw [sink] at logged
      exact ⟨lines, logged, lines_logfileLog_open rfl enabled unfiltered logged, rfl⟩

/-! ## Runs -/

/-- The options stay, and the file stays open until a rotation fails. -/
structure FollowsRotations (start : Loggers Row) (calls : List FileCall) (state : Loggers Row) :
    Prop where
  options : state.logfile = start.logfile
  usable : state.fp ≠ .closed
  opened : state.fp = .opened ↔ start.fp = .opened ∧ FileCall.rotate false ∉ calls

theorem fileStep_cases {build : Build} {inetNtop : InetNtop} {state next : Loggers Row}
    {call : FileCall} (taken : Loggers.fileStep build inetNtop state call = some next)
    (usable : state.fp ≠ .closed) :
    next.logfile = state.logfile ∧ next.fp ≠ .closed ∧
      (next.fp = .opened ↔ state.fp = .opened ∧ call ≠ .rotate false) := by
  cases call with
  | log msg =>
      simp only [Loggers.fileStep] at taken
      split at taken
      next => cases taken
      next =>
        cases Option.some.inj taken
        exact ⟨rfl, usable, by simp⟩
  | rotate canOpen =>
      cases Option.some.inj taken
      unfold Loggers.logfileRotate
      cases pointer : state.fp with
      | null => simp [pointer]
      | closed => exact absurd pointer usable
      | opened => cases canOpen <;> simp

theorem run_followsRotations {build : Build} {inetNtop : InetNtop} {start state : Loggers Row}
    {calls : List FileCall} (ran : (Loggers.fileStep build inetNtop).run start calls = some state)
    (usable : start.fp ≠ .closed) : FollowsRotations start calls state := by
  induction calls generalizing start with
  | nil =>
      cases Option.some.inj ran
      exact ⟨rfl, usable, by simp⟩
  | cons call calls ih =>
      rcases PartialStep.run_cons_eq_some.mp ran with ⟨next, taken, rest⟩
      rcases fileStep_cases taken usable with ⟨options, stillUsable, opened⟩
      have follows := ih rest stillUsable
      refine ⟨follows.options.trans options, follows.usable, ?_⟩
      rw [follows.opened, opened, List.mem_cons, not_or, and_assoc]
      exact and_congr_right fun _ => and_congr_left fun _ => ne_comm

/-- A start that succeeds with the engine enabled has opened the file. -/
theorem opened_of_logfileInit {inifile : Inifile} {fopen : Bool} {start : Loggers Row}
    (started : Loggers.initial.logfileInit inifile fopen = (.ok, start))
    (enabled : start.logfile.disabled = false) : start.fp = .opened := by
  simp only [Loggers.logfileInit] at started
  split at started
  · cases started
  · split at started
    · cases started
    · split at started
      next disabled =>
        cases started
        cases enabled.symm.trans disabled
      next =>
        split at started
        · cases started
        · split at started
          · cases started
            rfl
          · cases started

/-- After a rotation at a moment when the file can be opened, a message that
passes the filters is written exactly when no rotation before it has failed. -/
theorem rotation_recovers_iff (build : Build) (inetNtop : InetNtop) (inifile : Inifile)
    (fopen : Bool) (start state next : Loggers Row) (before between : List FileCall)
    (msg : PBDNSMessage)
    (started : Loggers.initial.logfileInit inifile fopen = (.ok, start))
    (ran : (Loggers.fileStep build inetNtop).run start
      (before ++ .rotate true :: between) = some state)
    (enabled : start.logfile.disabled = false)
    (unfiltered : ¬ Filtered start.logfile.rewritesOnly msg)
    (taken : Loggers.fileStep build inetNtop state (.log msg) = some next) :
    Written build inetNtop msg state next ↔
      FileCall.rotate false ∉ before ∧ FileCall.rotate false ∉ between := by
  have isOpen := opened_of_logfileInit started enabled
  have usable : start.fp ≠ .closed := by
    rw [isOpen]
    exact FilePointer.noConfusion
  have follows := run_followsRotations ran usable
  rw [← follows.options] at enabled unfiltered
  rw [written_iff enabled unfiltered taken, follows.opened]
  simp only [isOpen, true_and, List.mem_append, List.mem_cons, FileCall.rotate.injEq,
    Bool.false_eq_true, false_or, not_or]

/-- The log file engine after a start that opened its file. -/
def openedFile : Loggers Bytes :=
  (Loggers.initial.logfileInit bothFiles true).2

theorem rotation_recovers_iff_bothFiles :
    Exists fun state => Exists fun next =>
      (Loggers.fileStep .release rewrittenAnswerAddresses).run openedFile
          [.log rewrittenAnswer, .rotate true] = some state ∧
        Loggers.fileStep .release rewrittenAnswerAddresses state (.log rewrittenAnswer) =
          some next ∧
        Written .release rewrittenAnswerAddresses rewrittenAnswer state next := by
  refine ⟨_, _, rfl, rfl, ?_⟩
  apply (rotation_recovers_iff .release rewrittenAnswerAddresses bothFiles true openedFile _ _
    [.log rewrittenAnswer] [] rewrittenAnswer rfl rfl rfl (by decide) rfl).mpr
  exact ⟨by simp, List.not_mem_nil⟩

/-- One rotation fails and the next one could open the file: the message is
lost, although its call returns. -/
theorem message_lost_after_failed_rotation :
    Exists fun state => Exists fun next =>
      Loggers.initial.logfileInit bothFiles true = (.ok, openedFile) ∧
      (Loggers.fileStep .release rewrittenAnswerAddresses).run openedFile
          [.rotate false, .rotate true] = some state ∧
        Loggers.fileStep .release rewrittenAnswerAddresses state (.log rewrittenAnswer) =
          some next ∧
        next.output.file = [] ∧
        ¬ Written .release rewrittenAnswerAddresses rewrittenAnswer state next := by
  refine ⟨_, _, rfl, rfl, rfl, ?_, ?_⟩
  · decide +kernel
  · intro written
    have isOpen := (written_iff rfl (by decide) rfl).mp written
    exact absurd isOpen (by decide)

end Lifecycle
end PdnsLogger
