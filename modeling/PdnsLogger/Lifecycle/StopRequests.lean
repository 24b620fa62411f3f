import PdnsLogger.Foundation.PartialRuns
import PdnsLogger.Lifecycle.Startup
import PdnsLogger.Storage.Worker

namespace PdnsLogger
namespace Lifecycle

open Foundation Program Storage

/-!
# Stop requests

Two flags end the program.  `signal_stop` clears `globals.running`, which ends
`socket_loop`; `bg_thread_stop` clears `bgrunning`, which ends the background
thread.  Each flag is raised by the code that it is to stop, `globals.running`
by `main` after the handlers are installed and `bgrunning` by the background
thread itself.  A request that comes before that is overwritten.

Both halves are about every interleaving: of signals with the steps of `main`
and its child, and of `logsqlite_stop` with the background thread, the clients
and a rotation.
-/

variable {Row : Type}

/-! ## `globals.running` -/

/-- Once `signal_stop` has run, the flag is down. -/
def Process.Obeys (state : Process Row) : Prop :=
  state.stopRequested = true -> state.running = false

def System.Obeys (system : System Row) : Prop :=
  forall state, state ∈ system.processes -> state.Obeys

/-- A process raises the flag only if it has not been asked to stop. -/
def System.Unasked (system : System Row) (label : Bool × MainMove) : Prop :=
  label.2 = .raise -> forall state, system.mover label.1 = some state ->
    state.stopRequested = false

theorem obeys_step {launch : Launch Row} {system next : System Row} {label : Bool × MainMove}
    (taken : System.step launch system label = some next) (unasked : system.Unasked label)
    (obeys : system.Obeys) : next.Obeys := by
  apply System.forall_processes_step _ _ taken _ obeys
  · exact fun _ obeys => obeys
  · exact fun _ obeys => obeys
  · intro state after moves took obeys
    rcases label with ⟨who, move⟩
    cases took with
    | raised raising =>
        intro asked
        cases (unasked rfl state moves).symm.trans asked
    | stopped signal => exact fun _ => rfl
    | advanced | quit | initialized | halted | rotated => exact obeys

/-- A flag raised against a request is a request undone. -/
theorem not_obeys_of_asked {launch : Launch Row} {system next : System Row}
    {label : Bool × MainMove} (taken : System.step launch system label = some next)
    (asked : ¬ system.Unasked label) : ¬ next.Obeys := by
  rcases label with ⟨who, move⟩
  simp only [System.Unasked, Classical.not_imp, not_forall, Bool.not_eq_false] at asked
  rcases asked with ⟨rfl, state, moves, requested⟩
  intro obeys
  rcases System.step_cases taken with ⟨_, impossible, _, _⟩ |
    ⟨after, first, took, rfl⟩ | ⟨child, after, second, present, took, rfl⟩
  · cases impossible
  · cases first
    cases moves
    cases took with
    | raised raising => cases obeys _ List.mem_cons_self requested
    | advanced _ _ other => exact other rfl
    | quit _ other => exact other rfl
  · cases second
    cases present.symm.trans moves
    cases took with
    | raised raising => cases obeys _ (List.mem_cons_of_mem _ List.mem_cons_self) requested
    | advanced _ _ other => exact other rfl
    | quit _ other => exact other rfl

/-! ## `bgrunning` -/

/-- Once `bg_thread_stop` has run, the flag is down. -/
def HeedsStop (state : Worker Row) : Prop :=
  state.stopping ≠ .idle -> state.bgrunning = false

/-- The background thread begins only if it has not been asked to stop. -/
def BeginsUnasked (state : Worker Row) : Move Row -> Prop
  | .begin => state.stopping = .idle
  | _ => True

theorem heedsStop_transition {env : Settings Row} {state next : Worker Row}
    {slot after : Option (Statement Row)} {move : Move Row}
    (taken : Transition env state slot move next after) (unasked : BeginsUnasked state move)
    (heeds : HeedsStop state) : HeedsStop next := by
  cases taken with
  | began slot fresh =>
      intro asked
      exact absurd unasked asked
  | flagged slot idle => exact fun _ => rfl
  | joined slot joining exited =>
      intro _
      apply heeds
      rw [joining]
      exact nofun
  | stopClosed slot joined =>
      intro _
      apply heeds
      rw [joined]
      exact nofun
  | stored | dropped | crashed | tested | poppedNothing | poppedStatement | executed
  | rotationSkipped | rotationLocked | rotationClosed | rotationOpened | rotationUnlocked =>
      exact heeds

theorem not_heedsStop_of_asked {env : Settings Row} {state next : Worker Row}
    {slot after : Option (Statement Row)} {move : Move Row}
    (taken : Transition env state slot move next after) (asked : ¬ BeginsUnasked state move) :
    ¬ HeedsStop next := by
  cases taken with
  | began slot fresh =>
      intro heeds
      cases heeds asked
  | _ => exact absurd trivial asked

/-! ## Both flags -/

/-- In every run a stop request stands to the end exactly when the flag it
clears is not raised after it: `globals.running` by a process whose
`signal_stop` has already run, `bgrunning` by a background thread that begins
after `bg_thread_stop`. -/
theorem stop_requests_stand_iff (launch : Launch Row) (moves : List (Bool × MainMove))
    (system : System Row) (ran : (System.step launch).run .start moves = some system)
    (build : Build) (env : Settings Row) (answer : OpenAnswer) (steps : List (Move Row))
    (worker : Worker Row) (worked : (work build env).run (.start env answer) steps = some worker) :
    ((System.step launch).Throughout System.Obeys .start moves ↔
      (System.step launch).Respects System.Unasked .start moves) ∧
    ((work build env).Throughout HeedsStop (.start env answer) steps ↔
      (work build env).Respects BeginsUnasked (.start env answer) steps) := by
  constructor
  · have keeps : forall (system : System Row) label next,
        System.step launch system label = some next -> True -> system.Unasked label ->
          system.Obeys -> next.Obeys :=
      fun _ _ _ taken _ unasked obeys => obeys_step taken unasked obeys
    have breaks : forall (system : System Row) label next,
        System.step launch system label = some next -> True -> ¬ system.Unasked label ->
          ¬ next.Obeys :=
      fun _ _ _ taken _ asked => not_obeys_of_asked taken asked
    apply PartialStep.throughout_iff_respects (fun _ _ _ _ _ => trivial) keeps
      (fun _ _ obeys => obeys) breaks ran trivial
    intro state member
    rw [List.mem_singleton.mp member]
    exact nofun
  · have stays : forall (state : Worker Row) move next, work build env state move = some next ->
        (Exists fun slot => state.Holds slot) -> Exists fun slot => next.Holds slot := by
      rintro state move next taken ⟨slot, holds⟩
      rcases work_transition taken holds with ⟨after, held, _⟩
      exact ⟨after, held⟩
    have keeps : forall (state : Worker Row) move next, work build env state move = some next ->
        (Exists fun slot => state.Holds slot) -> BeginsUnasked state move -> HeedsStop state ->
          HeedsStop next := by
      rintro state move next taken ⟨slot, holds⟩ unasked heeds
      rcases work_transition taken holds with ⟨after, _, transition⟩
      exact heedsStop_transition transition unasked heeds
    have breaks : forall (state : Worker Row) move next, work build env state move = some next ->
        (Exists fun slot => state.Holds slot) -> ¬ BeginsUnasked state move ->
          ¬ HeedsStop next := by
      rintro state move next taken ⟨slot, holds⟩ asked
      rcases work_transition taken holds with ⟨after, _, transition⟩
      exact not_heedsStop_of_asked transition asked
    apply PartialStep.throughout_iff_respects stays keeps (fun _ _ heeds => heeds) breaks worked
    · exact ⟨none, Worker.start_holds env answer⟩
    · intro asked
      exact absurd rfl asked

/-- A start in the foreground and a signal after the flag is raised. -/
def lateSignal : List (Bool × MainMove) :=
  [(false, .configure), (false, .startLoggers), (false, .installInt), (false, .installTerm),
    (false, .installPipe), (false, .installHup), (false, .branch), (false, .raise),
    (false, .stop .int)]

/-- A background thread that begins before it is stopped. -/
def lateStop : List (Move Bytes) :=
  [.begin, .stopFlag, .test, .join]

theorem stop_requests_stand_iff_lateSignal :
    (System.step foregroundLaunch).Throughout System.Obeys .start lateSignal ∧
      (work .release (obliging true)).Throughout HeedsStop (.start (obliging true) .opened)
        lateStop := by
  have both := stop_requests_stand_iff foregroundLaunch lateSignal _ rfl .release (obliging true)
    .opened lateStop _ rfl
  refine ⟨both.1.mpr ?_, both.2.mpr ?_⟩
  · iterate 7 refine PartialStep.respects_cons rfl nofun ?_
    refine PartialStep.respects_cons rfl ?_ (PartialStep.respects_cons rfl nofun trivial)
    intro _ state moves
    cases moves
    rfl
  · refine PartialStep.respects_cons rfl rfl ?_
    iterate 3 apply PartialStep.respects_cons rfl trivial
    trivial

/-- A signal between the installation of its handler and the raising of the
flag. -/
def earlySignal : List (Bool × MainMove) :=
  [(false, .configure), (false, .startLoggers), (false, .installInt), (false, .stop .int),
    (false, .installTerm), (false, .installPipe), (false, .installHup), (false, .branch),
    (false, .raise)]

/-- An early signal is overwritten by `main`, and an early `bg_thread_stop` by
the background thread. -/
theorem early_requests_undone :
    (Exists fun system : System Bytes =>
      (System.step foregroundLaunch).run .start earlySignal = some system ∧
        system.parent.stopRequested = true ∧ system.parent.running = true) ∧
    Exists fun worker : Worker Nat =>
      (work .release (obliging true)).run (.start (obliging true) .opened) [.stopFlag, .begin] =
          some worker ∧
        worker.stopping = .joining ∧ worker.bgrunning = true :=
  ⟨⟨_, rfl, rfl, rfl⟩, _, rfl, rfl, rfl⟩

end Lifecycle
end PdnsLogger
