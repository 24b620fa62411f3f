import PdnsLogger.Queue.Atomicity
import Mathlib.Algebra.Order.BigOperators.Group.Finset

namespace PdnsLogger
namespace Queue

open Foundation Program

/-!
# No standstill

A rotation runs in the handler of a signal and may find its thread anywhere: holding
`fifo->lock`, waiting for it, or asleep on the condition variable.  Were the mutex not
recursive, a signal inside a critical section would block the thread on its own lock.

Two facts together exclude a standstill.  Every statement brings its thread closer to
the end of what it does, so that the threads cannot go on for ever without a new call
or another signal.  And as long as some thread has something left to do, some thread
can move: the holder of a mutex always can, and when nobody holds one everybody can.
Neither needs an assumption on the scheduler.
-/

variable {Value : Type}

/-! ## What is left to do -/

/-- How many statements at most are left of a call. -/
def PushPoint.remaining : PushPoint -> Nat
  | .locking => 9
  | .testing => 8
  | .retesting => 7
  | .writingTail => 6
  | .linkingNext => 6
  | .writingHead => 5
  | .linkingHead => 5
  | .asserting => 5
  | .unlocking => 4

def PopPoint.remaining : PopPoint -> Nat
  | .locking => 9
  | .testingEmpty => 8
  | .testingSingle => 7
  | .taking => 6
  | .clearingTail _ => 5
  | .takingFirst => 5
  | .clearingHead _ => 4
  | .advancing _ => 4
  | .unlocking _ => 3

def Point.remaining : Point Value -> Nat
  | .outside => 0
  | .pushing _ point => point.remaining
  | .lockingToSignal => 3
  | .signalling => 2
  | .unlockingAfterSignal => 1
  | .lockingToWait => 14
  | .waiting => 13
  | .blocked => 12
  | .relocking => 11
  | .unlockingAfterWait => 10
  | .popping point => point.remaining
  | .reading _ => 2
  | .freeing _ _ => 1

def HandlerPoint.remaining : HandlerPoint -> Nat
  | .idle => 0
  | .locking => 4
  | .closing => 3
  | .opening => 2
  | .unlocking => 1

def Locking.cost (state : Locking Value) (party : Party) : Nat :=
  (state.points party).remaining + (state.handlers party).remaining

theorem PushPoint.Follows.remaining {point next : PushPoint} (follows : Follows point next) :
    next.remaining < point.remaining := by
  cases follows <;> decide

theorem PopPoint.Follows.remaining {point next : PopPoint} (follows : Follows point next) :
    next.remaining < point.remaining := by
  cases follows <;> simp [PopPoint.remaining]

theorem Locking.cost_le (state : Locking Value) (party : Party) : state.cost party ≤ 18 := by
  have point : (state.points party).remaining ≤ 14 := by
    cases state.points party with
    | pushing call point => cases point <;> simp [Point.remaining, PushPoint.remaining]
    | popping point => cases point <;> simp [Point.remaining, PopPoint.remaining]
    | _ => simp [Point.remaining]
  have handler : (state.handlers party).remaining ≤ 4 := by
    cases state.handlers party <;> decide
  exact Nat.add_le_add point handler

/-- A move that begins nothing: no call and no interruption. -/
def LockMove.continues : LockMove Value -> Bool
  | .advance _ => true
  | .timeout => true
  | _ => false

/-- One thread has less to do, and no other has more.  Every move that begins
nothing and ends nothing has this effect, also the signal that wakes another thread: what that
thread still has to do was counted while it slept. -/
structure Spends (state next : Locking Value) (party : Party) : Prop where
  less : next.cost party < state.cost party
  others : forall other, other ≠ party -> next.cost other ≤ state.cost other

section Costs

variable {build : Build} {state next : Locking Value} {party : Party} {point : Point Value}
  {handler : HandlerPoint}

theorem Spends.points (points : next.points = Function.update state.points party point)
    (handlers : next.handlers = state.handlers)
    (fewer : point.remaining < (state.points party).remaining) : Spends state next party where
  less := by
    rw [Locking.cost, Locking.cost, points, handlers, Function.update_self]
    exact Nat.add_lt_add_right fewer _
  others := by
    intro other different
    rw [Locking.cost, Locking.cost, points, handlers, Function.update_of_ne different]

theorem Spends.handlers (handlers : next.handlers = Function.update state.handlers party handler)
    (points : next.points = state.points)
    (fewer : handler.remaining < (state.handlers party).remaining) : Spends state next party where
  less := by
    rw [Locking.cost, Locking.cost, points, handlers, Function.update_self]
    exact Nat.add_lt_add_left fewer _
  others := by
    intro other different
    rw [Locking.cost, Locking.cost, points, handlers, Function.update_of_ne different]

/-- A signal costs the thread that it wakes something, too. -/
theorem cost_notify (state : Locking Value) (party : Party) :
    state.notify.cost party ≤ state.cost party := by
  unfold Locking.notify
  split
  next blocked =>
    have spends : Spends state (state.goto .consumer .relocking) .consumer :=
      .points rfl rfl (by simp [blocked, Point.remaining])
    by_cases here : party = .consumer
    · rw [here]
      exact spends.less.le
    · exact spends.others party here
  next => exact Nat.le_refl _

/-- Every move that continues what was begun brings its thread closer to the end, or
ends the process. -/
theorem Acted.spends {move : LockMove Value} (acted : Acted build state move next)
    (disciplined : Disciplined state) (continues : move.continues = true) :
    next.crashed.isSome = true ∧ next.cost = state.cost ∨
      Exists fun party => Spends state next party := by
  cases acted with
  | called => cases continues
  | asked => cases continues
  | interrupted => cases continues
  | woke blocked => exact .inr ⟨.consumer, .points rfl rfl (by simp [blocked, Point.remaining])⟩
  | handlerLocked party lock here =>
      exact .inr ⟨party, .handlers rfl rfl (by rw [here]; decide)⟩
  | handlerClosed party here =>
      exact .inr ⟨party, .handlers rfl rfl (by rw [here]; decide)⟩
  | handlerOpened party here =>
      exact .inr ⟨party, .handlers rfl rfl (by rw [here]; decide)⟩
  | handlerUnlocked party lock here =>
      exact .inr ⟨party, .handlers rfl rfl (by rw [here]; decide)⟩
  | pushLocked party call lock here =>
      exact .inr ⟨party, .points rfl rfl (by simp [here, Point.remaining, PushPoint.remaining])⟩
  | pushMoved party call point after fifo here inside moved =>
      refine .inr ⟨party, .points rfl rfl ?_⟩
      rw [here]
      exact (PushPoint.next_follows inside moved).remaining
  | pushFailed => exact .inl ⟨rfl, rfl⟩
  | pushUnlocked party call lock idle here =>
      exact .inr ⟨party, .points rfl rfl (by simp [here, Point.remaining, PushPoint.remaining])⟩
  | popLocked party lock here =>
      exact .inr ⟨party, .points rfl rfl (by simp [here, Point.remaining, PopPoint.remaining])⟩
  | popMoved party point after fifo here inside moved =>
      refine .inr ⟨party, .points rfl rfl ?_⟩
      rw [here]
      exact (PopPoint.next_follows inside moved).remaining
  | popFailed => exact .inl ⟨rfl, rfl⟩
  | popUnlockedEmpty party lock idle here =>
      exact .inr ⟨party, .points rfl rfl (by simp [here, Point.remaining, PopPoint.remaining])⟩
  | popUnlocked party item lock idle here =>
      exact .inr ⟨party, .points rfl rfl (by simp [here, Point.remaining, PopPoint.remaining])⟩
  | syncLocked party point after here behind =>
      refine .inr ⟨party, .points rfl rfl ?_⟩
      rw [here]
      cases point <;> cases behind <;> simp [Point.remaining]
  | signalled party here =>
      have still := disciplined.notify.2 party (disciplined.role here)
      have spends : Spends state.notify (state.notify.goto party .unlockingAfterSignal) party :=
        .points rfl rfl (by simp [still, here, Point.remaining])
      refine .inr ⟨party, spends.less.trans_le (cost_notify state party), ?_⟩
      intro other different
      exact (spends.others other different).trans (cost_notify state other)
  | pushReturned party here => exact .inr ⟨party, .points rfl rfl (by simp [here, Point.remaining])⟩
  | waited party here => exact .inr ⟨party, .points rfl rfl (by simp [here, Point.remaining])⟩
  | syncUnlocked party here =>
      exact .inr ⟨party, .points rfl rfl (by simp [here, Point.remaining, PopPoint.remaining])⟩
  | read party item found here =>
      exact .inr ⟨party, .points rfl rfl (by simp [here, Point.remaining])⟩
  | readFailed => exact .inl ⟨rfl, rfl⟩
  | freed party item value here =>
      exact .inr ⟨party, .points rfl rfl (by simp [here, Point.remaining])⟩

end Costs

/-! ## The moves come to an end -/

def Locking.Within (state : Locking Value) (parties : Finset Party) : Prop :=
  forall party, party ∉ parties -> state.cost party = 0

/-- What is left to do altogether.  Nothing is done after a crash. -/
def Locking.budget (state : Locking Value) (parties : Finset Party) : Nat :=
  if state.crashed.isSome then 0 else 1 + ∑ party ∈ parties, state.cost party

section Budget

variable {build : Build} {state next final : Locking Value} {move : LockMove Value}
  {parties : Finset Party}

theorem Spends.le {party : Party} (spends : Spends state next party) (other : Party) :
    next.cost other ≤ state.cost other := by
  by_cases here : other = party
  · rw [here]
    exact spends.less.le
  · exact spends.others other here

theorem budget_lt (alive : state.crashed = none) (within : state.Within parties)
    (spent : next.crashed.isSome = true ∧ next.cost = state.cost ∨
      Exists fun party => Spends state next party) :
    next.budget parties < state.budget parties := by
  have before : state.budget parties = 1 + ∑ party ∈ parties, state.cost party := by
    rw [Locking.budget, alive]
    rfl
  rw [before, Locking.budget]
  by_cases dead : next.crashed.isSome = true
  · rw [if_pos dead]
    exact Nat.add_pos_left Nat.one_pos _
  · rw [if_neg dead]
    rcases spent with ⟨crashed, _⟩ | ⟨party, spends⟩
    · exact absurd crashed dead
    · have active : party ∈ parties := by
        by_contra idle
        have less := spends.less
        rw [within party idle] at less
        cases less
      apply Nat.add_lt_add_left
      exact Finset.sum_lt_sum (fun other _ => spends.le other) ⟨party, active, spends.less⟩

theorem budget_le (state : Locking Value) (parties : Finset Party) :
    state.budget parties ≤ 1 + 18 * parties.card := by
  rw [Locking.budget]
  split
  · exact Nat.zero_le _
  · apply Nat.add_le_add_left
    rw [Nat.mul_comm]
    exact Finset.sum_le_card_nsmul parties state.cost 18 fun party _ => state.cost_le party

theorem within_of_cost_le (within : state.Within parties)
    (fewer : forall party, next.cost party ≤ state.cost party) : next.Within parties := by
  intro party idle
  exact Nat.le_zero.mp (within party idle ▸ fewer party)

/-- A continued run keeps to the threads that were busy. -/
theorem Acted.within (acted : Acted build state move next) (disciplined : Disciplined state)
    (continues : move.continues = true) (within : state.Within parties) : next.Within parties := by
  rcases acted.spends disciplined continues with ⟨_, same⟩ | ⟨party, spends⟩
  · rwa [Locking.Within, same]
  · exact within_of_cost_le within spends.le

/-- Any move makes at most one thread busy. -/
theorem Acted.widens (acted : Acted build state move next) (disciplined : Disciplined state)
    (within : state.Within parties) :
    Exists fun more : Finset Party => more.card ≤ parties.card + 1 ∧ next.Within more := by
  by_cases continues : move.continues = true
  · exact ⟨parties, Nat.le_succ _, acted.within disciplined continues within⟩
  have one : forall party, (forall other, other ≠ party -> next.cost other = state.cost other) ->
      Exists fun more : Finset Party => more.card ≤ parties.card + 1 ∧ next.Within more := by
    intro party others
    refine ⟨insert party parties, Finset.card_insert_le party parties, ?_⟩
    intro other idle
    rw [Finset.mem_insert, not_or] at idle
    rw [others other idle.1]
    exact within other idle.2
  cases acted with
  | called call =>
      refine one (.producer call.producer) fun other different => ?_
      simp [Locking.cost, Locking.goto, Function.update_of_ne different]
  | asked =>
      refine one .consumer fun other different => ?_
      simp [Locking.cost, Locking.goto, Function.update_of_ne different]
  | interrupted party =>
      refine one party fun other different => ?_
      simp [Locking.cost, Locking.gotoHandler, Function.update_of_ne different]
  | _ => exact absurd rfl continues

theorem within_run {moves : List (LockMove Value)} (disciplined : Disciplined state)
    (within : state.Within parties) (ran : (act build).run state moves = some final) :
    Exists fun more : Finset Party => more.card ≤ parties.card + moves.length ∧
      final.Within more := by
  induction moves generalizing state parties with
  | nil =>
      cases Option.some.inj ran
      exact ⟨parties, Nat.le_refl _, within⟩
  | cons move moves ih =>
      rcases PartialStep.run_cons_eq_some.mp ran with ⟨next, taken, rest⟩
      have acted := act_acted taken
      rcases acted.widens disciplined within with ⟨more, size, wider⟩
      rcases ih (disciplined.step acted) wider rest with ⟨most, total, widest⟩
      refine ⟨most, ?_, widest⟩
      rw [List.length_cons]
      omega

/-- A run that only continues is no longer than its budget. -/
theorem length_le_budget {moves : List (LockMove Value)} (disciplined : Disciplined state)
    (within : state.Within parties) (continues : forall move, move ∈ moves -> move.continues = true)
    (ran : (act build).run state moves = some final) :
    moves.length ≤ state.budget parties := by
  induction moves generalizing state with
  | nil => exact Nat.zero_le _
  | cons move moves ih =>
      rcases PartialStep.run_cons_eq_some.mp ran with ⟨next, taken, rest⟩
      have acted := act_acted taken
      have first := continues move List.mem_cons_self
      have later := ih (disciplined.step acted) (acted.within disciplined first within)
        (fun move member => continues move (List.mem_cons_of_mem _ member)) rest
      have less := budget_lt (alive_of_act taken) within (acted.spends disciplined first)
      exact Nat.lt_of_le_of_lt later less

end Budget

/-! ## Somebody can move -/

section Enabled

variable {build : Build} {state : Locking Value} {party : Party}

/-- A handler waits only for a lock that another thread holds: it may lock what its own
thread has locked. -/
theorem advanceHandler_isSome (disciplined : Disciplined state)
    (busy : state.handlers party ≠ .idle) (lock : state.held party = 0 -> state.lock = .free) :
    (state.advanceHandler party (state.handlers party)).isSome = true := by
  cases here : state.handlers party with
  | idle => exact absurd here busy
  | closing => rfl
  | opening => rfl
  | locking =>
      rw [Locking.advanceHandler, Option.isSome_map]
      by_cases outside : state.held party = 0
      · rw [lock outside]
        exact RecursiveLock.acquire_free party
      · exact (disciplined.counts.holder (Nat.pos_of_ne_zero outside)).1
  | unlocking =>
      rw [Locking.advanceHandler, Option.isSome_map]
      have inside : 0 < state.held party := by
        rw [Locking.held, here]
        exact Nat.add_pos_right _ Nat.one_pos
      exact (disciplined.counts.holder inside).2

theorem Point.free_of_behindSync {point : Point Value} (waits : point.behindSync.isSome = true) :
    point.locks = 0 ∧ point.holdsSync = false := by
  cases point with
  | lockingToSignal => exact ⟨rfl, rfl⟩
  | lockingToWait => exact ⟨rfl, rfl⟩
  | relocking => exact ⟨rfl, rfl⟩
  | _ => cases waits

/-- A thread waits only for a mutex that it has not locked, or for a signal. -/
theorem advancePoint_isSome (disciplined : Disciplined state)
    (busy : state.points party ≠ .outside ∧ state.points party ≠ .blocked)
    (lock : (state.points party).locks = 0 -> state.lock = .free)
    (sync : (state.points party).behindSync.isSome = true -> state.syncMutex = none) :
    (state.advancePoint build party).isSome = true := by
  have release : (state.points party).locks = 1 -> (state.lock.release party).isSome = true := by
    intro inside
    refine (disciplined.counts.holder ?_).2
    rw [Locking.held, inside]
    exact Nat.add_pos_left Nat.one_pos _
  have acquire : (state.points party).locks = 0 -> (state.lock.acquire party).isSome = true := by
    intro outside
    rw [lock outside]
    exact RecursiveLock.acquire_free party
  have lockSync : (state.points party).behindSync.isSome = true -> forall after,
      (state.lockSync party after).isSome = true := by
    intro waits after
    rw [Locking.lockSync, sync waits]
    rfl
  unfold Locking.advancePoint
  split
  next here => exact absurd here busy.1
  next call point here =>
    rw [here] at release acquire
    unfold Locking.advancePush
    split
    next =>
      rw [Option.isSome_map]
      exact acquire rfl
    next =>
      rw [Option.isSome_map]
      exact release rfl
    next => split <;> rfl
  next here =>
    rw [here] at lockSync
    exact lockSync rfl _
  next => rfl
  next => rfl
  next here =>
    rw [here] at lockSync
    exact lockSync rfl _
  next => rfl
  next here => exact absurd here busy.2
  next here =>
    rw [here] at lockSync
    exact lockSync rfl _
  next => rfl
  next point here =>
    rw [here] at release acquire
    unfold Locking.advancePop
    split
    next =>
      rw [Option.isSome_map]
      exact acquire rfl
    next =>
      rw [Option.isSome_map]
      exact release rfl
    next =>
      rw [Option.isSome_map]
      exact release rfl
    next => split <;> rfl
  next => split <;> rfl
  next => rfl

end Enabled

/-- Every thread is outside, no handler runs and both mutexes are free. -/
structure Quiet (state : Locking Value) : Prop where
  points : forall party, state.points party = .outside
  handlers : forall party, state.handlers party = .idle
  lock : state.lock = .free
  syncMutex : state.syncMutex = none

/-- Nothing that was begun can be continued.  It does not matter why: a thread may
have returned, or wait for a mutex that is never given back.  The latter is what has
to be excluded. -/
def Halted (build : Build) (state : Locking Value) : Prop :=
  forall move, move.continues = true -> act build state move = none

namespace Halted

variable {build : Build} {state : Locking Value} {party : Party}

theorem handler (halted : Halted build state) (alive : state.crashed = none)
    (disciplined : Disciplined state) (lock : state.held party = 0 -> state.lock = .free) :
    state.handlers party = .idle := by
  by_contra busy
  have moves := advanceHandler_isSome disciplined busy lock
  have stuck := halted (.advance party) rfl
  rw [act_advanceHandler alive busy] at stuck
  rw [stuck] at moves
  cases moves

theorem point (halted : Halted build state) (alive : state.crashed = none)
    (disciplined : Disciplined state) (idle : state.handlers party = .idle)
    (lock : (state.points party).locks = 0 -> state.lock = .free)
    (sync : (state.points party).behindSync.isSome = true -> state.syncMutex = none) :
    state.points party = .outside ∨ state.points party = .blocked := by
  by_contra busy
  rw [not_or] at busy
  have stuck := halted (.advance party) rfl
  rw [act_advance alive idle] at stuck
  have moves : (state.advancePoint build party).isSome = true :=
    advancePoint_isSome disciplined busy lock sync
  rw [stuck] at moves
  cases moves

/-- Nobody is behind the lock: whoever holds it can go on. -/
theorem unlocked (halted : Halted build state) (alive : state.crashed = none)
    (disciplined : Disciplined state) (party : Party) : state.held party = 0 := by
  by_contra inside
  have idle := halted.handler alive disciplined fun outside => absurd outside inside
  have entered : (state.points party).locks ≠ 0 := by
    intro outside
    rw [Locking.held, outside, idle] at inside
    exact inside rfl
  have waits : (state.points party).behindSync.isSome = true -> state.syncMutex = none :=
    fun waits => absurd (Point.free_of_behindSync waits).1 entered
  rcases halted.point alive disciplined idle (fun outside => absurd outside entered) waits with
    here | here
  · rw [here] at entered
    exact entered rfl
  · rw [here] at entered
    exact entered rfl

theorem quiet (halted : Halted build state) (alive : state.crashed = none)
    (disciplined : Disciplined state) : Quiet state := by
  have lock : state.lock = .free := disciplined.counts.free (halted.unlocked alive disciplined)
  have handlers : forall party, state.handlers party = .idle :=
    fun party => halted.handler alive disciplined fun _ => lock
  have syncMutex : state.syncMutex = none := by
    cases held : state.syncMutex with
    | none => rfl
    | some party =>
        have holds := (disciplined.sync party).mp held
        have waits : (state.points party).behindSync.isSome = true -> state.syncMutex = none := by
          intro waits
          cases (Point.free_of_behindSync waits).2.symm.trans holds
        rcases halted.point alive disciplined (handlers party) (fun _ => lock) waits with
          here | here
        · rw [here] at holds
          cases holds
        · rw [here] at holds
          cases holds
  refine ⟨?_, handlers, lock, syncMutex⟩
  intro party
  rcases halted.point alive disciplined (handlers party) (fun _ => lock) (fun _ => syncMutex) with
    here | here
  · exact here
  · -- Only the consumer sleeps, and its second comes to an end.
    cases (disciplined.role here : party = .consumer)
    have moves := halted .timeout rfl
    simp only [act, alive, here] at moves
    cases moves

end Halted

/-- Nothing is left to continue. -/
theorem Quiet.halted {state : Locking Value} (quiet : Quiet state) (build : Build) :
    Halted build state := by
  intro move continues
  cases alive : state.crashed with
  | some fault =>
      simp only [act, alive]
      rfl
  | none =>
      cases move with
      | advance party =>
          rw [act_advance alive (quiet.handlers party), Locking.advancePoint, quiet.points party]
      | timeout =>
          simp only [act, alive, quiet.points .consumer]
          rfl
      | _ => cases continues

/-- No schedule of statements and signals brings the threads to a standstill.  After
any run, in which any number of clients, the background thread and rotations may have
been stopped anywhere, the threads can go on for at most so many statements without a
new call or another signal, in whatever order they move.  Where none of them can go on,
all calls and rotations have returned and both mutexes are free; the only other end is
the assertion of `fifo_push`, in a build that has it. -/
theorem interruptions_never_block (build : Build) (moves more : List (LockMove Value))
    (state final : Locking Value) (ran : (act build).run .start moves = some state)
    (continues : forall move, move ∈ more -> move.continues = true)
    (continued : (act build).run state more = some final) :
    more.length ≤ 1 + 18 * moves.length ∧
      (Halted build final ↔ Quiet final ∨
        build = .debug ∧ final.crashed = some (.assertion .fifoPush)) := by
  have whole := PartialStep.run_append_eq_some.mpr ⟨state, ran, continued⟩
  have disciplined := Disciplined.run ran
  constructor
  · have nobody : (Locking.start : Locking Value).Within ∅ := fun _ _ => rfl
    rcases within_run .start nobody ran with ⟨parties, size, within⟩
    have length := length_le_budget disciplined within continues continued
    have budget := budget_le state parties
    rw [Finset.card_empty] at size
    omega
  · constructor
    · intro halted
      cases dead : final.crashed with
      | none => exact .inl (halted.quiet dead (Disciplined.run whole))
      | some fault =>
          rcases (Linearized.run whole).crashed dead with ⟨rfl, rfl⟩
          exact .inr ⟨rfl, rfl⟩
    · rintro (quiet | ⟨_, dead⟩)
      · exact quiet.halted build
      · intro move _
        simp only [act, dead]
        rfl

theorem interruptions_never_block_interruptedPush :
    Exists fun state => Exists fun final =>
      (act .release).run .start interruptedPush = some state ∧
      (act .release).run state finishedPush = some final ∧
      state.handlers (.producer 0) = .opening ∧ state.held (.producer 0) = 2 ∧
      finishedPush.length ≤ 1 + 18 * interruptedPush.length ∧
      (Halted .release final ↔ Quiet final ∨
        Build.release = .debug ∧ final.crashed = some (.assertion .fifoPush)) := by
  have halfway : (((act .release).run .start interruptedPush).map fun state =>
      (state.handlers (.producer 0), state.held (.producer 0))) = some (.opening, 2) := by
    decide +kernel
  have enabled : ((act .release).run .start (interruptedPush ++ finishedPush)).isSome = true := by
    decide +kernel
  rcases Option.isSome_iff_exists.mp enabled with ⟨final, ran⟩
  rcases PartialStep.run_append_eq_some.mp ran with ⟨state, begun, ended⟩
  rw [begun] at halfway
  have inside := Option.some.inj halfway
  rcases interruptions_never_block .release interruptedPush finishedPush state final begun
    (by decide) ended with ⟨length, halted⟩
  exact ⟨state, final, begun, ended, congrArg Prod.fst inside, congrArg Prod.snd inside, length,
    halted⟩

end Queue
end PdnsLogger
