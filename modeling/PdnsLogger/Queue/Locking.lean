import PdnsLogger.Foundation.RecursiveLocks
import PdnsLogger.Queue.Memory
import PdnsLogger.Queue.Wakeup

namespace PdnsLogger
namespace Queue

open Foundation Program

/-!
# Locks and interruptions

Elsewhere a critical section of `fifo->lock` is a single step.  Here it is made of
the statements between the lock and the unlock: every condition, every assignment,
every lock and unlock is a step, and so are `malloc` before the lock of `fifo_push`
and the use of the item behind the unlock of `fifo_pop`.

A SIGHUP may interrupt any thread between any two steps.  `signal_rotate` then runs
in this thread, which does not go on before it has returned.  It locks `fifo->lock`
for the whole rotation, also when the interrupted thread holds the lock itself; for
this the mutex is recursive.  The rotation closes and opens the database and does not
look at the queue.  The signal is blocked in the thread while its handler runs.  The
locks that `malloc`, `stdio` and SQLite take in their own functions are outside the
model, and so is what a handler does to them.

The results are that the critical sections are atomic all the same, in the order of
their unlocks, and that no schedule of signals brings the threads to a standstill.
-/

variable {Value : Type}

/-! ## Program points -/

/-- A call of `fifo_push_item` behind its `malloc`. -/
structure PushCall (Value : Type) where
  producer : Nat
  value : Value
  item : Address
  stale : Option Address

/-- The statements of `fifo_push` from the lock to the unlock. -/
inductive PushPoint where
  | locking
  | testing
  | writingTail
  | writingHead
  | retesting
  | asserting
  | linkingNext
  | linkingHead
  | unlocking
  deriving DecidableEq, Repr

/-- The statements of `fifo_pop` from the lock to the unlock. -/
inductive PopPoint where
  | locking
  | testingEmpty
  | testingSingle
  | taking
  | clearingTail (item : Address)
  | clearingHead (item : Address)
  | takingFirst
  | advancing (item : Address)
  | unlocking (item : Option Address)
  deriving DecidableEq, Repr

/-- The next statement of a thread: in `fifo_push`, in `fifo_send_signal`, in
`fifo_wait_signal`, in `fifo_pop`. -/
inductive Point (Value : Type) where
  | outside
  | pushing (call : PushCall Value) (point : PushPoint)
  | lockingToSignal
  | signalling
  | unlockingAfterSignal
  | lockingToWait
  | waiting
  | blocked
  | relocking
  | unlockingAfterWait
  | popping (point : PopPoint)
  | reading (item : Address)
  | freeing (item : Address) (value : Value)

/-- The next statement of `logsqlite_rotate` in a thread that `signal_rotate` has
interrupted. -/
inductive HandlerPoint where
  | idle
  | locking
  | closing
  | opening
  | unlocking
  deriving DecidableEq, Repr

/-- The queue with both of its mutexes, what every thread does next, and what the
calls have returned. -/
structure Locking (Value : Type) where
  fifo : Fifo Value
  lock : RecursiveLock Party
  syncMutex : Option Party
  points : Party -> Point Value
  handlers : Party -> HandlerPoint
  returns : List (Party × Response Value)
  crashed : Option Fault

/-- A thread calls one of the two functions, executes its next statement, wakes
without a signal, or is interrupted. -/
inductive LockMove (Value : Type) where
  | push (call : PushCall Value)
  | pop
  | advance (party : Party)
  | timeout
  | interrupt (party : Party)

/-! ## The statements -/

/-- A statement of `fifo_push` behind the lock, up to the unlock. -/
def PushPoint.next (build : Build) (call : PushCall Value) (fifo : Fifo Value) :
    PushPoint -> Except Fault (PushPoint × Fifo Value)
  | .testing =>
      .ok (if fifo.tail = none ∧ fifo.head = none then .writingTail else .retesting, fifo)
  | .writingTail => .ok (.writingHead, { fifo with tail := some call.item })
  | .writingHead => .ok (.unlocking, { fifo with head := some call.item })
  | .retesting =>
      .ok (if fifo.tail ≠ none ∨ fifo.head ≠ none then .asserting else .linkingNext, fifo)
  | .asserting => do
      assertZero build .fifoPush
      return (.unlocking, fifo)
  | .linkingNext => .ok (.linkingHead, fifo.store call.item ⟨call.value, fifo.head⟩)
  | .linkingHead => .ok (.unlocking, { fifo with head := some call.item })
  | point => .ok (point, fifo)

/-- A statement of `fifo_pop` behind the lock, up to the unlock. -/
def PopPoint.next (fifo : Fifo Value) : PopPoint -> Except Fault (PopPoint × Fifo Value)
  | .testingEmpty =>
      .ok (if fifo.head = none ∧ fifo.tail = none then .unlocking none else .testingSingle, fifo)
  | .testingSingle =>
      .ok (if fifo.head ≠ none ∧ fifo.tail = fifo.head then .taking else .takingFirst, fifo)
  | .taking =>
      match fifo.head with
      | none => .error .danglingPointer
      | some item => .ok (.clearingTail item, fifo)
  | .clearingTail item => .ok (.clearingHead item, { fifo with tail := none })
  | .clearingHead item => .ok (.unlocking (some item), { fifo with head := none })
  | .takingFirst =>
      match fifo.head with
      | none => .error .danglingPointer
      | some item => .ok (.advancing item, fifo)
  | .advancing item => do
      let first ← fifo.load (some item)
      return (.unlocking (some item), { fifo with head := first.next })
  | point => .ok (point, fifo)

namespace Locking

def start : Locking Value where
  fifo := ⟨none, none, fun _ => none⟩
  lock := .free
  syncMutex := none
  points := fun _ => .outside
  handlers := fun _ => .idle
  returns := []
  crashed := none

def goto (state : Locking Value) (party : Party) (point : Point Value) : Locking Value :=
  { state with points := Function.update state.points party point }

def gotoHandler (state : Locking Value) (party : Party) (point : HandlerPoint) : Locking Value :=
  { state with handlers := Function.update state.handlers party point }

/-- The call has returned. -/
def answer (state : Locking Value) (party : Party) (response : Response Value) : Locking Value :=
  { state.goto party .outside with returns := state.returns ++ [(party, response)] }

def notify (state : Locking Value) : Locking Value :=
  match state.points .consumer with
  | .blocked => state.goto .consumer .relocking
  | _ => state

/-- `pthread_mutex_lock` of `sync_mutex`, which is not recursive. -/
def lockSync (state : Locking Value) (party : Party) (point : Point Value) :
    Option (Locking Value) :=
  match state.syncMutex with
  | none => some { state.goto party point with syncMutex := some party }
  | some _ => none

def unlockSync (state : Locking Value) : Locking Value :=
  { state with syncMutex := none }

def advancePush (build : Build) (state : Locking Value) (party : Party) (call : PushCall Value) :
    PushPoint -> Option (Locking Value)
  | .locking =>
      (state.lock.acquire party).map fun lock =>
        { state.goto party (.pushing call .testing) with lock := lock }
  | .unlocking =>
      (state.lock.release party).map fun lock =>
        { state.goto party .lockingToSignal with lock := lock }
  | point =>
      match point.next build call state.fifo with
      | .error fault => some { state with crashed := some fault }
      | .ok (next, fifo) => some { state.goto party (.pushing call next) with fifo := fifo }

/-- The next statement of `fifo_pop`.  With nothing taken it returns behind the
unlock. -/
def advancePop (state : Locking Value) (party : Party) : PopPoint -> Option (Locking Value)
  | .locking =>
      (state.lock.acquire party).map fun lock =>
        { state.goto party (.popping .testingEmpty) with lock := lock }
  | .unlocking none =>
      (state.lock.release party).map fun lock =>
        { state.answer party (.popped none) with lock := lock }
  | .unlocking (some item) =>
      (state.lock.release party).map fun lock =>
        { state.goto party (.reading item) with lock := lock }
  | point =>
      match point.next state.fifo with
      | .error fault => some { state with crashed := some fault }
      | .ok (next, fifo) => some { state.goto party (.popping next) with fifo := fifo }

/-- The next statement of a thread that is not interrupted. -/
def advancePoint (build : Build) (state : Locking Value) (party : Party) :
    Option (Locking Value) :=
  match state.points party with
  | .outside => none
  | .pushing call point => state.advancePush build party call point
  | .lockingToSignal => state.lockSync party .signalling
  | .signalling => some (state.notify.goto party .unlockingAfterSignal)
  | .unlockingAfterSignal => some (state.unlockSync.answer party (.pushed .ok))
  | .lockingToWait => state.lockSync party .waiting
  | .waiting => some (state.unlockSync.goto party .blocked)
  | .blocked => none
  | .relocking => state.lockSync party .unlockingAfterWait
  | .unlockingAfterWait => some (state.unlockSync.goto party (.popping .locking))
  | .popping point => state.advancePop party point
  | .reading item =>
      match state.fifo.load (some item) with
      | .error fault => some { state with crashed := some fault }
      | .ok found => some (state.goto party (.freeing item found.data))
  | .freeing item value =>
      some { state.answer party (.popped (some value)) with fifo := state.fifo.free item }

/-- The next statement of the handler.  `db_close` and `db_open` do not touch the
queue. -/
def advanceHandler (state : Locking Value) (party : Party) :
    HandlerPoint -> Option (Locking Value)
  | .idle => none
  | .locking =>
      (state.lock.acquire party).map fun lock =>
        { state.gotoHandler party .closing with lock := lock }
  | .closing => some (state.gotoHandler party .opening)
  | .opening => some (state.gotoHandler party .unlocking)
  | .unlocking =>
      (state.lock.release party).map fun lock =>
        { state.gotoHandler party .idle with lock := lock }

end Locking

/-- One move.  The allocator never answers with an address that is in use, and
nothing moves after a crash.  A signal to the thread that waits, or the end of its
second, may also come while its handler runs. -/
def act (build : Build) : PartialStep (Locking Value) (LockMove Value) :=
  fun state move =>
    if state.crashed.isSome then none
    else
      match move with
      | .push call =>
          match state.points (.producer call.producer),
              state.handlers (.producer call.producer) with
          | .outside, .idle =>
              if (state.fifo.heap call.item).isNone then
                some { state.goto (.producer call.producer) (.pushing call .locking) with
                  fifo := state.fifo.store call.item ⟨call.value, call.stale⟩ }
              else none
          | _, _ => none
      | .pop =>
          match state.points .consumer, state.handlers .consumer with
          | .outside, .idle => some (state.goto .consumer .lockingToWait)
          | _, _ => none
      | .advance party =>
          match state.handlers party with
          | .idle => state.advancePoint build party
          | handler => state.advanceHandler party handler
      | .timeout =>
          match state.points .consumer with
          | .blocked => some (state.goto .consumer .relocking)
          | _ => none
      | .interrupt party =>
          match state.handlers party with
          | .idle => some (state.gotoHandler party .locking)
          | _ => none

section Enabled

variable {build : Build} {state : Locking Value} {party : Party}

/-- A thread that is not interrupted executes its next statement. -/
theorem act_advance (alive : state.crashed = none) (idle : state.handlers party = .idle) :
    act build state (.advance party) = state.advancePoint build party := by
  simp only [act, alive, idle]
  rfl

/-- A thread that is interrupted executes the next statement of its handler. -/
theorem act_advanceHandler (alive : state.crashed = none) (busy : state.handlers party ≠ .idle) :
    act build state (.advance party) = state.advanceHandler party (state.handlers party) := by
  have still : ¬ state.crashed.isSome = true := by
    rw [alive]
    exact Bool.false_ne_true
  simp only [act, if_neg still]

/-- Nothing moves after a crash. -/
theorem alive_of_act {next : Locking Value} {move : LockMove Value}
    (taken : act build state move = some next) : state.crashed = none := by
  unfold act at taken
  split at taken
  next => cases taken
  next dead => exact Option.not_isSome_iff_eq_none.mp dead

end Enabled

/-! ## What a move can do -/

/-- How often a thread has locked `fifo->lock` when it stands at a point. -/
def PushPoint.locks : PushPoint -> Nat
  | .locking => 0
  | _ => 1

def PopPoint.locks : PopPoint -> Nat
  | .locking => 0
  | _ => 1

def Point.locks : Point Value -> Nat
  | .pushing _ point => point.locks
  | .popping point => point.locks
  | _ => 0

def HandlerPoint.locks : HandlerPoint -> Nat
  | .idle => 0
  | .locking => 0
  | _ => 1

def Point.behindSync : Point Value -> Option (Point Value)
  | .lockingToSignal => some .signalling
  | .lockingToWait => some .waiting
  | .relocking => some .unlockingAfterWait
  | _ => none

/-- The moves with their guards. -/
inductive Acted (build : Build) (state : Locking Value) :
    LockMove Value -> Locking Value -> Prop where
  | called (call) (outside : state.points (.producer call.producer) = .outside)
      (fresh : state.fifo.heap call.item = none) :
      Acted build state (.push call)
        { state.goto (.producer call.producer) (.pushing call .locking) with
          fifo := state.fifo.store call.item ⟨call.value, call.stale⟩ }
  | asked (outside : state.points .consumer = .outside) :
      Acted build state .pop (state.goto .consumer .lockingToWait)
  | woke (blocked : state.points .consumer = .blocked) :
      Acted build state .timeout (state.goto .consumer .relocking)
  | interrupted (party) (idle : state.handlers party = .idle) :
      Acted build state (.interrupt party) (state.gotoHandler party .locking)
  | handlerLocked (party lock) (here : state.handlers party = .locking)
      (acquired : state.lock.acquire party = some lock) :
      Acted build state (.advance party) { state.gotoHandler party .closing with lock := lock }
  | handlerClosed (party) (here : state.handlers party = .closing) :
      Acted build state (.advance party) (state.gotoHandler party .opening)
  | handlerOpened (party) (here : state.handlers party = .opening) :
      Acted build state (.advance party) (state.gotoHandler party .unlocking)
  | handlerUnlocked (party lock) (here : state.handlers party = .unlocking)
      (released : state.lock.release party = some lock) :
      Acted build state (.advance party) { state.gotoHandler party .idle with lock := lock }
  | pushLocked (party call lock) (here : state.points party = .pushing call .locking)
      (acquired : state.lock.acquire party = some lock) :
      Acted build state (.advance party)
        { state.goto party (.pushing call .testing) with lock := lock }
  | pushMoved (party call point next fifo) (here : state.points party = .pushing call point)
      (inside : point.locks = 1 ∧ point ≠ .unlocking)
      (moved : point.next build call state.fifo = .ok (next, fifo)) :
      Acted build state (.advance party)
        { state.goto party (.pushing call next) with fifo := fifo }
  | pushFailed (party call point fault) (here : state.points party = .pushing call point)
      (inside : point.locks = 1 ∧ point ≠ .unlocking)
      (failed : point.next build call state.fifo = .error fault) :
      Acted build state (.advance party) { state with crashed := some fault }
  | pushUnlocked (party call lock) (idle : state.handlers party = .idle)
      (here : state.points party = .pushing call .unlocking)
      (released : state.lock.release party = some lock) :
      Acted build state (.advance party) { state.goto party .lockingToSignal with lock := lock }
  | popLocked (party lock) (here : state.points party = .popping .locking)
      (acquired : state.lock.acquire party = some lock) :
      Acted build state (.advance party)
        { state.goto party (.popping .testingEmpty) with lock := lock }
  | popMoved (party point next fifo) (here : state.points party = .popping point)
      (inside : point.locks = 1 ∧ forall item, point ≠ .unlocking item)
      (moved : point.next state.fifo = .ok (next, fifo)) :
      Acted build state (.advance party) { state.goto party (.popping next) with fifo := fifo }
  | popFailed (party point fault) (here : state.points party = .popping point)
      (inside : point.locks = 1 ∧ forall item, point ≠ .unlocking item)
      (failed : point.next state.fifo = .error fault) :
      Acted build state (.advance party) { state with crashed := some fault }
  | popUnlockedEmpty (party lock) (idle : state.handlers party = .idle)
      (here : state.points party = .popping (.unlocking none))
      (released : state.lock.release party = some lock) :
      Acted build state (.advance party) { state.answer party (.popped none) with lock := lock }
  | popUnlocked (party item lock) (idle : state.handlers party = .idle)
      (here : state.points party = .popping (.unlocking (some item)))
      (released : state.lock.release party = some lock) :
      Acted build state (.advance party) { state.goto party (.reading item) with lock := lock }
  | syncLocked (party point next) (here : state.points party = point)
      (behind : point.behindSync = some next) (free : state.syncMutex = none) :
      Acted build state (.advance party) { state.goto party next with syncMutex := some party }
  | signalled (party) (here : state.points party = .signalling) :
      Acted build state (.advance party) (state.notify.goto party .unlockingAfterSignal)
  | pushReturned (party) (here : state.points party = .unlockingAfterSignal) :
      Acted build state (.advance party) (state.unlockSync.answer party (.pushed .ok))
  | waited (party) (here : state.points party = .waiting) :
      Acted build state (.advance party) (state.unlockSync.goto party .blocked)
  | syncUnlocked (party) (here : state.points party = .unlockingAfterWait) :
      Acted build state (.advance party) (state.unlockSync.goto party (.popping .locking))
  | read (party item found) (here : state.points party = .reading item)
      (loaded : state.fifo.load (some item) = .ok found) :
      Acted build state (.advance party) (state.goto party (.freeing item found.data))
  | readFailed (party item fault) (here : state.points party = .reading item)
      (loaded : state.fifo.load (some item) = .error fault) :
      Acted build state (.advance party) { state with crashed := some fault }
  | freed (party item value) (here : state.points party = .freeing item value) :
      Acted build state (.advance party)
        { state.answer party (.popped (some value)) with fifo := state.fifo.free item }

section Inversion

variable {build : Build} {state next : Locking Value} {party : Party}

theorem lockSync_acted {point after : Point Value} (here : state.points party = point)
    (behind : point.behindSync = some after) (taken : state.lockSync party after = some next) :
    Acted build state (.advance party) next := by
  unfold Locking.lockSync at taken
  split at taken
  next free =>
    cases Option.some.inj taken
    exact .syncLocked party point after here behind free
  next => cases taken

theorem advancePush_acted {call : PushCall Value} {point : PushPoint}
    (idle : state.handlers party = .idle) (here : state.points party = .pushing call point)
    (taken : state.advancePush build party call point = some next) :
    Acted build state (.advance party) next := by
  unfold Locking.advancePush at taken
  split at taken
  next =>
    rcases Option.map_eq_some_iff.mp taken with ⟨lock, acquired, rfl⟩
    exact .pushLocked party call lock here acquired
  next =>
    rcases Option.map_eq_some_iff.mp taken with ⟨lock, released, rfl⟩
    exact .pushUnlocked party call lock idle here released
  next unlocked locked =>
    have inside : point.locks = 1 ∧ point ≠ .unlocking := by
      refine ⟨?_, locked⟩
      cases point with
      | locking => exact absurd rfl unlocked
      | _ => rfl
    split at taken
    next fault failed =>
      cases Option.some.inj taken
      exact .pushFailed party call point fault here inside failed
    next after fifo moved =>
      cases Option.some.inj taken
      exact .pushMoved party call point after fifo here inside moved

theorem advancePop_acted {point : PopPoint} (idle : state.handlers party = .idle)
    (here : state.points party = .popping point)
    (taken : state.advancePop party point = some next) :
    Acted build state (.advance party) next := by
  unfold Locking.advancePop at taken
  split at taken
  next =>
    rcases Option.map_eq_some_iff.mp taken with ⟨lock, acquired, rfl⟩
    exact .popLocked party lock here acquired
  next =>
    rcases Option.map_eq_some_iff.mp taken with ⟨lock, released, rfl⟩
    exact .popUnlockedEmpty party lock idle here released
  next item =>
    rcases Option.map_eq_some_iff.mp taken with ⟨lock, released, rfl⟩
    exact .popUnlocked party item lock idle here released
  next unlocked empty occupied =>
    have inside : point.locks = 1 ∧ forall item, point ≠ .unlocking item := by
      cases point with
      | locking => exact absurd rfl unlocked
      | unlocking item =>
          cases item with
          | none => exact absurd rfl empty
          | some item => exact absurd rfl (occupied item)
      | _ => exact ⟨rfl, nofun⟩
    split at taken
    next fault failed =>
      cases Option.some.inj taken
      exact .popFailed party point fault here inside failed
    next after fifo moved =>
      cases Option.some.inj taken
      exact .popMoved party point after fifo here inside moved

theorem advancePoint_acted (idle : state.handlers party = .idle)
    (taken : state.advancePoint build party = some next) :
    Acted build state (.advance party) next := by
  unfold Locking.advancePoint at taken
  split at taken
  next => cases taken
  next call point here => exact advancePush_acted idle here taken
  next here => exact lockSync_acted here rfl taken
  next here =>
    cases Option.some.inj taken
    exact .signalled party here
  next here =>
    cases Option.some.inj taken
    exact .pushReturned party here
  next here => exact lockSync_acted here rfl taken
  next here =>
    cases Option.some.inj taken
    exact .waited party here
  next => cases taken
  next here => exact lockSync_acted here rfl taken
  next here =>
    cases Option.some.inj taken
    exact .syncUnlocked party here
  next point here => exact advancePop_acted idle here taken
  next item here =>
    split at taken
    next fault failed =>
      cases Option.some.inj taken
      exact .readFailed party item fault here failed
    next found loaded =>
      cases Option.some.inj taken
      exact .read party item found here loaded
  next item value here =>
    cases Option.some.inj taken
    exact .freed party item value here

theorem advanceHandler_acted {handler : HandlerPoint} (here : state.handlers party = handler)
    (taken : state.advanceHandler party handler = some next) :
    Acted build state (.advance party) next := by
  cases handler with
  | idle => cases taken
  | locking =>
      rcases Option.map_eq_some_iff.mp taken with ⟨lock, acquired, rfl⟩
      exact .handlerLocked party lock here acquired
  | closing =>
      cases Option.some.inj taken
      exact .handlerClosed party here
  | opening =>
      cases Option.some.inj taken
      exact .handlerOpened party here
  | unlocking =>
      rcases Option.map_eq_some_iff.mp taken with ⟨lock, released, rfl⟩
      exact .handlerUnlocked party lock here released

theorem act_acted {move : LockMove Value} (taken : act build state move = some next) :
    Acted build state move next := by
  unfold act at taken
  by_cases dead : state.crashed.isSome = true
  · rw [if_pos dead] at taken
    cases taken
  rw [if_neg dead] at taken
  cases move with
  | push call =>
      simp only at taken
      split at taken
      next outside idle =>
        split at taken
        next fresh =>
          cases Option.some.inj taken
          exact .called call outside (Option.isNone_iff_eq_none.mp fresh)
        next => cases taken
      next => cases taken
  | pop =>
      simp only at taken
      split at taken
      next outside idle =>
        cases Option.some.inj taken
        exact .asked outside
      next => cases taken
  | advance party =>
      simp only at taken
      split at taken
      next idle => exact advancePoint_acted idle taken
      next => exact advanceHandler_acted rfl taken
  | timeout =>
      simp only at taken
      split at taken
      next blocked =>
        cases Option.some.inj taken
        exact .woke blocked
      next => cases taken
  | interrupt party =>
      simp only at taken
      split at taken
      next idle =>
        cases Option.some.inj taken
        exact .interrupted party idle
      next => cases taken

end Inversion

/-! ## Who holds what -/

/-- The order of the statements of `fifo_push` between the lock and the unlock. -/
inductive PushPoint.Follows : PushPoint -> PushPoint -> Prop where
  | empty : Follows .testing .writingTail
  | occupied : Follows .testing .retesting
  | wroteTail : Follows .writingTail .writingHead
  | wroteHead : Follows .writingHead .unlocking
  | misplaced : Follows .retesting .asserting
  | placed : Follows .retesting .linkingNext
  | asserted : Follows .asserting .unlocking
  | linkedNext : Follows .linkingNext .linkingHead
  | linkedHead : Follows .linkingHead .unlocking

inductive PopPoint.Follows : PopPoint -> PopPoint -> Prop where
  | empty : Follows .testingEmpty (.unlocking none)
  | occupied : Follows .testingEmpty .testingSingle
  | single : Follows .testingSingle .taking
  | longer : Follows .testingSingle .takingFirst
  | took (item) : Follows .taking (.clearingTail item)
  | clearedTail (item) : Follows (.clearingTail item) (.clearingHead item)
  | clearedHead (item) : Follows (.clearingHead item) (.unlocking (some item))
  | tookFirst (item) : Follows .takingFirst (.advancing item)
  | advanced (item) : Follows (.advancing item) (.unlocking (some item))

theorem PushPoint.next_follows {build : Build} {call : PushCall Value} {fifo after : Fifo Value}
    {point next : PushPoint} (inside : point.locks = 1 ∧ point ≠ .unlocking)
    (moved : point.next build call fifo = .ok (next, after)) : Follows point next := by
  cases point with
  | locking => cases inside.1
  | unlocking => exact absurd rfl inside.2
  | testing =>
      cases Except.ok.inj moved
      split
      · exact .empty
      · exact .occupied
  | retesting =>
      cases Except.ok.inj moved
      split
      · exact .misplaced
      · exact .placed
  | asserting =>
      cases build with
      | debug => cases moved
      | release =>
          cases Except.ok.inj moved
          exact .asserted
  | _ =>
      cases Except.ok.inj moved
      constructor

theorem PopPoint.next_follows {fifo after : Fifo Value} {point next : PopPoint}
    (inside : point.locks = 1 ∧ forall item, point ≠ .unlocking item)
    (moved : point.next fifo = .ok (next, after)) : Follows point next := by
  cases point with
  | locking => cases inside.1
  | unlocking item => exact absurd rfl (inside.2 item)
  | testingEmpty =>
      cases Except.ok.inj moved
      split
      · exact .empty
      · exact .occupied
  | testingSingle =>
      cases Except.ok.inj moved
      split
      · exact .single
      · exact .longer
  | taking =>
      simp only [PopPoint.next] at moved
      split at moved
      next => cases moved
      next item _ =>
        cases Except.ok.inj moved
        exact .took item
  | takingFirst =>
      simp only [PopPoint.next] at moved
      split at moved
      next => cases moved
      next item _ =>
        cases Except.ok.inj moved
        exact .tookFirst item
  | advancing item =>
      cases loaded : fifo.load (some item) with
      | error fault =>
          simp only [PopPoint.next, loaded] at moved
          cases moved
      | ok first =>
          simp only [PopPoint.next, loaded] at moved
          cases Except.ok.inj moved
          exact .advanced item
  | _ =>
      cases Except.ok.inj moved
      constructor

theorem PushPoint.Follows.locks {point next : PushPoint} (follows : Follows point next) :
    next.locks = 1 := by
  cases follows <;> rfl

theorem PopPoint.Follows.locks {point next : PopPoint} (follows : Follows point next) :
    next.locks = 1 := by
  cases follows <;> rfl

def Point.holdsSync : Point Value -> Bool
  | .signalling => true
  | .unlockingAfterSignal => true
  | .waiting => true
  | .unlockingAfterWait => true
  | _ => false

/-- Only client threads push and only the background thread pops. -/
def Point.Fits (party : Party) : Point Value -> Prop
  | .outside => True
  | .pushing call _ => party = .producer call.producer
  | .lockingToSignal => party ≠ .consumer
  | .signalling => party ≠ .consumer
  | .unlockingAfterSignal => party ≠ .consumer
  | _ => party = .consumer

/-- How often a thread has locked `fifo->lock`, by itself and in its handler. -/
def Locking.held (state : Locking Value) (party : Party) : Nat :=
  (state.points party).locks + (state.handlers party).locks

/-- The mutexes are held by the threads that stand behind their locks, and by
nobody else.  From the counts follows that at most one thread is in a critical
section, however many handlers have locked the mutex again in the meantime. -/
structure Disciplined (state : Locking Value) : Prop where
  counts : state.lock.Counts state.held
  sync : forall party, state.syncMutex = some party ↔ (state.points party).holdsSync = true
  roles : forall party, (state.points party).Fits party

namespace Disciplined

variable {state next : Locking Value}

theorem start : Disciplined (Locking.start : Locking Value) where
  counts := RecursiveLock.counts_free
  sync := fun _ => ⟨nofun, nofun⟩
  roles := fun _ => trivial

theorem role (disciplined : Disciplined state) {party : Party} {point : Point Value}
    (here : state.points party = point) : point.Fits party :=
  here ▸ disciplined.roles party

theorem alone (disciplined : Disciplined state) {one other : Party}
    (first : 0 < (state.points one).locks) (second : 0 < (state.points other).locks) :
    one = other :=
  disciplined.counts.unique (Nat.add_pos_left first _) (Nat.add_pos_left second _)

section Moves

variable {party : Party} {point : Point Value} {handler : HandlerPoint}

theorem held_points (points : next.points = Function.update state.points party point)
    (handlers : next.handlers = state.handlers) (who : Party) :
    next.held who + (if who = party then (state.points party).locks else 0) =
      state.held who + if who = party then point.locks else 0 := by
  rw [Locking.held, Locking.held, points, handlers]
  by_cases here : who = party
  · subst here
    rw [Function.update_self, if_pos rfl, if_pos rfl]
    omega
  · rw [Function.update_of_ne here, if_neg here, if_neg here]

theorem held_handlers (handlers : next.handlers = Function.update state.handlers party handler)
    (points : next.points = state.points) (who : Party) :
    next.held who + (if who = party then (state.handlers party).locks else 0) =
      state.held who + if who = party then handler.locks else 0 := by
  rw [Locking.held, Locking.held, points, handlers]
  by_cases here : who = party
  · subst here
    rw [Function.update_self, if_pos rfl, if_pos rfl]
    omega
  · rw [Function.update_of_ne here, if_neg here, if_neg here]

theorem counts_points (disciplined : Disciplined state)
    (points : next.points = Function.update state.points party point)
    (handlers : next.handlers = state.handlers) (lock : next.lock = state.lock)
    (locks : point.locks = (state.points party).locks) : next.lock.Counts next.held := by
  intro who
  have held := held_points points handlers who
  rw [locks] at held
  rw [lock, disciplined.counts who]
  exact (Nat.add_right_cancel held).symm

theorem roles_points (disciplined : Disciplined state)
    (points : next.points = Function.update state.points party point) (fits : point.Fits party)
    (who : Party) : (next.points who).Fits who := by
  rw [points]
  by_cases here : who = party
  · subst here
    rw [Function.update_self]
    exact fits
  · rw [Function.update_of_ne here]
    exact disciplined.roles who

/-- A thread goes on and neither takes nor gives back `sync_mutex`. -/
theorem sync_points (disciplined : Disciplined state)
    (points : next.points = Function.update state.points party point)
    (syncMutex : next.syncMutex = state.syncMutex)
    (sync : point.holdsSync = (state.points party).holdsSync) (who : Party) :
    next.syncMutex = some who ↔ (next.points who).holdsSync = true := by
  rw [syncMutex, disciplined.sync who, points]
  by_cases here : who = party
  · subst here
    rw [Function.update_self, sync]
  · rw [Function.update_of_ne here]

theorem goto (disciplined : Disciplined state)
    (points : next.points = Function.update state.points party point)
    (handlers : next.handlers = state.handlers) (lock : next.lock = state.lock)
    (syncMutex : next.syncMutex = state.syncMutex)
    (locks : point.locks = (state.points party).locks)
    (sync : point.holdsSync = (state.points party).holdsSync) (fits : point.Fits party) :
    Disciplined next where
  counts := disciplined.counts_points points handlers lock locks
  sync := disciplined.sync_points points syncMutex sync
  roles := disciplined.roles_points points fits

theorem locked (disciplined : Disciplined state)
    (points : next.points = Function.update state.points party point)
    (handlers : next.handlers = state.handlers)
    (acquired : state.lock.acquire party = some next.lock)
    (syncMutex : next.syncMutex = state.syncMutex)
    (locks : (state.points party).locks = 0 ∧ point.locks = 1)
    (sync : point.holdsSync = (state.points party).holdsSync) (fits : point.Fits party) :
    Disciplined next where
  counts := by
    apply disciplined.counts.acquire acquired
    intro who
    have held := held_points points handlers who
    rw [locks.1, locks.2, ite_self] at held
    exact held
  sync := disciplined.sync_points points syncMutex sync
  roles := disciplined.roles_points points fits

theorem unlocked (disciplined : Disciplined state)
    (points : next.points = Function.update state.points party point)
    (handlers : next.handlers = state.handlers)
    (released : state.lock.release party = some next.lock)
    (syncMutex : next.syncMutex = state.syncMutex)
    (locks : (state.points party).locks = 1 ∧ point.locks = 0)
    (sync : point.holdsSync = (state.points party).holdsSync) (fits : point.Fits party) :
    Disciplined next where
  counts := by
    apply disciplined.counts.release released
    intro who
    have held := held_points points handlers who
    rw [locks.1, locks.2, ite_self] at held
    exact held.symm
  sync := disciplined.sync_points points syncMutex sync
  roles := disciplined.roles_points points fits

theorem syncLocked (disciplined : Disciplined state)
    (points : next.points = Function.update state.points party point)
    (handlers : next.handlers = state.handlers) (lock : next.lock = state.lock)
    (free : state.syncMutex = none) (syncMutex : next.syncMutex = some party)
    (locks : point.locks = (state.points party).locks) (sync : point.holdsSync = true)
    (fits : point.Fits party) : Disciplined next where
  counts := disciplined.counts_points points handlers lock locks
  sync := by
    intro who
    have before := disciplined.sync who
    rw [free] at before
    rw [syncMutex, points]
    by_cases here : who = party
    · subst here
      rw [Function.update_self, sync]
      exact iff_of_true rfl rfl
    · rw [Function.update_of_ne here, ← before]
      exact iff_of_false (fun same => here (Option.some.inj same).symm) nofun
  roles := disciplined.roles_points points fits

theorem syncUnlocked (disciplined : Disciplined state)
    (points : next.points = Function.update state.points party point)
    (handlers : next.handlers = state.handlers) (lock : next.lock = state.lock)
    (held : (state.points party).holdsSync = true) (syncMutex : next.syncMutex = none)
    (locks : point.locks = (state.points party).locks) (sync : point.holdsSync = false)
    (fits : point.Fits party) : Disciplined next where
  counts := disciplined.counts_points points handlers lock locks
  sync := by
    intro who
    rw [syncMutex, points]
    by_cases here : who = party
    · subst here
      rw [Function.update_self, sync]
      exact iff_of_false nofun Bool.false_ne_true
    · rw [Function.update_of_ne here, ← disciplined.sync who, (disciplined.sync party).mpr held]
      exact iff_of_false nofun fun same => here (Option.some.inj same).symm
  roles := disciplined.roles_points points fits

/-- The handler of a thread goes on, and perhaps locks or unlocks `fifo->lock`. -/
theorem handled (disciplined : Disciplined state)
    (handlers : next.handlers = Function.update state.handlers party handler)
    (points : next.points = state.points) (syncMutex : next.syncMutex = state.syncMutex)
    (lock : next.lock = state.lock ∧ handler.locks = (state.handlers party).locks ∨
      state.lock.acquire party = some next.lock ∧ (state.handlers party).locks = 0 ∧
        handler.locks = 1 ∨
      state.lock.release party = some next.lock ∧ (state.handlers party).locks = 1 ∧
        handler.locks = 0) :
    Disciplined next where
  counts := by
    have held := held_handlers handlers points
    rcases lock with ⟨lock, locks⟩ | ⟨acquired, before, after⟩ | ⟨released, before, after⟩
    · intro who
      rw [locks] at held
      rw [lock, disciplined.counts who]
      exact (Nat.add_right_cancel (held who)).symm
    · apply disciplined.counts.acquire acquired
      intro who
      have held := held who
      rw [before, after, ite_self] at held
      exact held
    · apply disciplined.counts.release released
      intro who
      have held := held who
      rw [before, after, ite_self] at held
      exact held.symm
  sync := by
    intro who
    rw [syncMutex, points]
    exact disciplined.sync who
  roles := by
    intro who
    rw [points]
    exact disciplined.roles who

end Moves

/-- A signal moves the thread that waits for it and no other. -/
theorem notify (disciplined : Disciplined state) :
    Disciplined state.notify ∧
      forall party, party ≠ .consumer -> state.notify.points party = state.points party := by
  unfold Locking.notify
  split
  next blocked =>
    refine ⟨disciplined.goto rfl rfl rfl rfl ?_ ?_ rfl, ?_⟩
    · rw [blocked]
      rfl
    · rw [blocked]
      rfl
    · exact fun party other => Function.update_of_ne other _ _
  next => exact ⟨disciplined, fun _ _ => rfl⟩

theorem step {build : Build} {move : LockMove Value} (disciplined : Disciplined state)
    (acted : Acted build state move next) : Disciplined next := by
  cases acted with
  | called call outside fresh =>
      exact disciplined.goto rfl rfl rfl rfl (by rw [outside]; rfl) (by rw [outside]; rfl) rfl
  | asked outside =>
      exact disciplined.goto rfl rfl rfl rfl (by rw [outside]; rfl) (by rw [outside]; rfl) rfl
  | woke blocked =>
      exact disciplined.goto rfl rfl rfl rfl (by rw [blocked]; rfl) (by rw [blocked]; rfl) rfl
  | interrupted party idle =>
      exact disciplined.handled rfl rfl rfl (.inl ⟨rfl, by rw [idle]; rfl⟩)
  | handlerLocked party lock here acquired =>
      exact disciplined.handled rfl rfl rfl (.inr (.inl ⟨acquired, by rw [here]; rfl, rfl⟩))
  | handlerClosed party here =>
      exact disciplined.handled rfl rfl rfl (.inl ⟨rfl, by rw [here]; rfl⟩)
  | handlerOpened party here =>
      exact disciplined.handled rfl rfl rfl (.inl ⟨rfl, by rw [here]; rfl⟩)
  | handlerUnlocked party lock here released =>
      exact disciplined.handled rfl rfl rfl (.inr (.inr ⟨released, by rw [here]; rfl, rfl⟩))
  | pushLocked party call lock here acquired =>
      have fits := disciplined.role here
      exact disciplined.locked rfl rfl acquired rfl ⟨by rw [here]; rfl, rfl⟩ (by rw [here]; rfl)
        fits
  | pushMoved party call point next fifo here inside moved =>
      have fits := disciplined.role here
      refine disciplined.goto rfl rfl rfl rfl ?_ (by rw [here]; rfl) fits
      rw [here]
      exact (PushPoint.next_follows inside moved).locks.trans inside.1.symm
  | pushFailed => exact ⟨disciplined.counts, disciplined.sync, disciplined.roles⟩
  | pushUnlocked party call lock idle here released =>
      have fits := disciplined.role here
      refine disciplined.unlocked rfl rfl released rfl ⟨by rw [here]; rfl, rfl⟩
        (by rw [here]; rfl) ?_
      rw [show party = .producer call.producer from fits]
      nofun
  | popLocked party lock here acquired =>
      have fits := disciplined.role here
      exact disciplined.locked rfl rfl acquired rfl ⟨by rw [here]; rfl, rfl⟩ (by rw [here]; rfl)
        fits
  | popMoved party point next fifo here inside moved =>
      have fits := disciplined.role here
      refine disciplined.goto rfl rfl rfl rfl ?_ (by rw [here]; rfl) fits
      rw [here]
      exact (PopPoint.next_follows inside moved).locks.trans inside.1.symm
  | popFailed => exact ⟨disciplined.counts, disciplined.sync, disciplined.roles⟩
  | popUnlockedEmpty party lock idle here released =>
      exact disciplined.unlocked rfl rfl released rfl ⟨by rw [here]; rfl, rfl⟩ (by rw [here]; rfl)
        trivial
  | popUnlocked party item lock idle here released =>
      have fits := disciplined.role here
      exact disciplined.unlocked rfl rfl released rfl ⟨by rw [here]; rfl, rfl⟩ (by rw [here]; rfl)
        fits
  | syncLocked party point next here behind free =>
      have fits := disciplined.role here
      have kind : next.locks = point.locks ∧ next.holdsSync = true ∧ next.Fits party := by
        cases point <;> cases behind <;> exact ⟨rfl, rfl, fits⟩
      exact disciplined.syncLocked rfl rfl rfl free rfl (by rw [here]; exact kind.1) kind.2.1
        kind.2.2
  | signalled party here =>
      have fits := disciplined.role here
      have still := disciplined.notify.2 party fits
      rw [here] at still
      exact disciplined.notify.1.goto rfl rfl rfl rfl (by rw [still]; rfl) (by rw [still]; rfl) fits
  | pushReturned party here =>
      exact disciplined.syncUnlocked rfl rfl rfl (by rw [here]; rfl) rfl (by rw [here]; rfl) rfl
        trivial
  | waited party here =>
      have fits := disciplined.role here
      exact disciplined.syncUnlocked rfl rfl rfl (by rw [here]; rfl) rfl (by rw [here]; rfl) rfl
        fits
  | syncUnlocked party here =>
      have fits := disciplined.role here
      exact disciplined.syncUnlocked rfl rfl rfl (by rw [here]; rfl) rfl (by rw [here]; rfl) rfl
        fits
  | read party item found here loaded =>
      have fits := disciplined.role here
      exact disciplined.goto rfl rfl rfl rfl (by rw [here]; rfl) (by rw [here]; rfl) fits
  | readFailed => exact ⟨disciplined.counts, disciplined.sync, disciplined.roles⟩
  | freed party item value here =>
      exact disciplined.goto rfl rfl rfl rfl (by rw [here]; rfl) (by rw [here]; rfl) trivial

theorem run {build : Build} {moves : List (LockMove Value)}
    (ran : (act build).run .start moves = some state) : Disciplined state :=
  PartialStep.run_invariant (fun _ _ _ taken kept => kept.step (act_acted taken)) ran start

end Disciplined

end Queue
end PdnsLogger
