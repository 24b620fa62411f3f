import PdnsLogger.Foundation.PartialRuns
import PdnsLogger.Queue.Fifo
import Mathlib.Logic.Function.Basic

namespace PdnsLogger
namespace Queue

open Foundation Program

/-!
# Waiting for a statement

`fifo_push_item` pushes under `fifo->lock` and then signals under
`fifo->sync_mutex`.  `fifo_pop_item` waits on `fifo->sync_cond` under
`fifo->sync_mutex` and then pops under `fifo->lock`.  Nothing connects the two
mutexes, and the wait does not look at the queue first.

Here every lock, unlock, signal and wait is a step of its own, and a critical
section of `fifo->lock` is one step as before.  A signal wakes the consumer
when it is blocked and is lost otherwise.  A blocked consumer may also wake
without a signal, when its second is over or spuriously.
-/

variable {Value : Type}

/-- Who may hold `sync_mutex`. -/
inductive Party where
  | consumer
  | producer (id : Nat)
  deriving DecidableEq, Repr

inductive ProducerPhase where
  | outside
  | pushed
  | holding
  | signalled
  deriving DecidableEq, Repr

/-- The program point of the consumer: `fifo_wait_signal` from `ready` to
`returned`, then `fifo_pop` and the execution of what it returned. -/
inductive ConsumerPhase (Value : Type) where
  | ready
  | locked
  | blocked
  | woken
  | returned
  | popping
  | executing (item : Value)
  deriving DecidableEq

/-- The queue with the mutex of its condition variable, and the program points
of the threads around it. -/
structure Rendezvous (Value : Type) where
  fifo : Option (Fifo Value)
  syncMutex : Option Party
  producers : Nat -> ProducerPhase
  consumer : ConsumerPhase Value
  crashed : Option Fault

/-- The steps of the threads, with the answer of the allocator to a push. -/
inductive Turn (Value : Type) where
  | push (producer : Nat) (data : Option Value) (allocated : Option (Address × Option Address))
  | lockToSignal (producer : Nat)
  | signal (producer : Nat)
  | unlockAfterSignal (producer : Nat)
  | lock
  | wait
  | wake
  | relock
  | unlock
  | pop
  | exec

namespace Rendezvous

def start (allocated : Bool) : Rendezvous Value where
  fifo := fifoInit allocated
  syncMutex := none
  producers := fun _ => .outside
  consumer := .ready
  crashed := none

def setProducer (state : Rendezvous Value) (id : Nat) (phase : ProducerPhase) :
    Rendezvous Value :=
  { state with producers := Function.update state.producers id phase }

/-- `fifo_push` and the test of its result.  Only a push that succeeded goes on
to the signal. -/
def push (build : Build) (state : Rendezvous Value) (id : Nat) (data : Option Value)
    (allocated : Option (Address × Option Address)) : Rendezvous Value :=
  match fifoPush build state.fifo data allocated with
  | .error fault => { state with crashed := some fault }
  | .ok (.ok, fifo) => { state with fifo := fifo }.setProducer id .pushed
  | .ok (_, fifo) => { state with fifo := fifo }

/-- `fifo_pop` and the test of its result in `bg_thread_exec`. -/
def pop (state : Rendezvous Value) : Rendezvous Value :=
  match fifoPop state.fifo with
  | .error fault => { state with crashed := some fault }
  | .ok (none, fifo) => { state with fifo := fifo, consumer := .ready }
  | .ok (some item, fifo) => { state with fifo := fifo, consumer := .executing item }

def notify (state : Rendezvous Value) : Rendezvous Value :=
  match state.consumer with
  | .blocked => { state with consumer := .woken }
  | _ => state

/-- The allocator never answers with an address that is in use. -/
def fresh (state : Rendezvous Value) (allocated : Option (Address × Option Address)) : Bool :=
  match state.fifo, allocated with
  | some fifo, some (item, _) => (fifo.heap item).isNone
  | _, _ => true

end Rendezvous

/-- One step of one thread.  `fifo_pop_item` returns at once when there is no
queue. -/
def turn (build : Build) : PartialStep (Rendezvous Value) (Turn Value) :=
  fun state move =>
    if state.crashed.isSome then none
    else
      match move, state.consumer with
      | .push id data allocated, _ =>
          if state.producers id = .outside ∧ state.fresh allocated then
            some (state.push build id data allocated)
          else none
      | .lockToSignal id, _ =>
          if state.producers id = .pushed ∧ state.syncMutex = none then
            some ({ state with syncMutex := some (.producer id) }.setProducer id .holding)
          else none
      | .signal id, _ =>
          if state.producers id = .holding then
            some (state.notify.setProducer id .signalled)
          else none
      | .unlockAfterSignal id, _ =>
          if state.producers id = .signalled then
            some ({ state with syncMutex := none }.setProducer id .outside)
          else none
      | .lock, .ready =>
          if state.fifo.isNone then some state
          else if state.syncMutex = none then
            some { state with syncMutex := some .consumer, consumer := .locked }
          else none
      | .wait, .locked => some { state with syncMutex := none, consumer := .blocked }
      | .wake, .blocked => some { state with consumer := .woken }
      | .relock, .woken =>
          if state.syncMutex = none then
            some { state with syncMutex := some .consumer, consumer := .returned }
          else none
      | .unlock, .returned => some { state with syncMutex := none, consumer := .popping }
      | .pop, .popping => some state.pop
      | .exec, .executing _ => some { state with consumer := .ready }
      | _, _ => none

/-! ## What one step can do -/

/-- The steps with their guards, a push and a pop split by their outcome. -/
inductive Rendezvous.Took (state : Rendezvous Value) : Turn Value -> Rendezvous Value -> Prop where
  | pushCrashed (id data allocated fault) :
      Rendezvous.Took state (.push id data allocated) { state with crashed := some fault }
  | pushed (id data allocated fifo) (outside : state.producers id = .outside) :
      Rendezvous.Took state (.push id data allocated) ({ state with fifo := fifo }.setProducer id .pushed)
  | refused (id data allocated) : Rendezvous.Took state (.push id data allocated) state
  | lockedToSignal (id) (pushed : state.producers id = .pushed) (free : state.syncMutex = none) :
      Rendezvous.Took state (.lockToSignal id)
        ({ state with syncMutex := some (.producer id) }.setProducer id .holding)
  | signalled (id) (holding : state.producers id = .holding) :
      Rendezvous.Took state (.signal id) (state.notify.setProducer id .signalled)
  | unlockedAfterSignal (id) (signalled : state.producers id = .signalled) :
      Rendezvous.Took state (.unlockAfterSignal id)
        ({ state with syncMutex := none }.setProducer id .outside)
  | skipped : Rendezvous.Took state .lock state
  | locked (free : state.syncMutex = none) :
      Rendezvous.Took state .lock { state with syncMutex := some .consumer, consumer := .locked }
  | waited (locked : state.consumer = .locked) :
      Rendezvous.Took state .wait { state with syncMutex := none, consumer := .blocked }
  | woke : Rendezvous.Took state .wake { state with consumer := .woken }
  | relocked (free : state.syncMutex = none) :
      Rendezvous.Took state .relock { state with syncMutex := some .consumer, consumer := .returned }
  | unlocked (returned : state.consumer = .returned) :
      Rendezvous.Took state .unlock { state with syncMutex := none, consumer := .popping }
  | popCrashed (popping : state.consumer = .popping) (fault) :
      Rendezvous.Took state .pop { state with crashed := some fault }
  | poppedNothing (fifo) : Rendezvous.Took state .pop { state with fifo := fifo, consumer := .ready }
  | poppedItem (item fifo) :
      Rendezvous.Took state .pop { state with fifo := fifo, consumer := .executing item }
  | executed : Rendezvous.Took state .exec { state with consumer := .ready }

theorem fifoPush_refused {build : Build} {fifo fifo' : Option (Fifo Value)} {data : Option Value}
    {allocated : Option (Address × Option Address)} {status : PdnsStatus}
    (pushed : fifoPush build fifo data allocated = .ok (status, fifo')) (failed : status ≠ .ok) :
    fifo' = fifo := by
  unfold fifoPush at pushed
  split at pushed
  next queue value item stale =>
    cases linked : (queue.store item ⟨value, stale⟩).link build item value with
    | error fault =>
        rw [linked] at pushed
        cases pushed
    | ok result =>
        rw [linked] at pushed
        cases pushed
        exact absurd rfl failed
  next =>
    cases pushed
    rfl

theorem push_took {build : Build} {state : Rendezvous Value} {id : Nat} {data : Option Value}
    {allocated : Option (Address × Option Address)} (outside : state.producers id = .outside) :
    Rendezvous.Took state (.push id data allocated) (state.push build id data allocated) := by
  unfold Rendezvous.push
  split
  next fault _ => exact .pushCrashed id data allocated fault
  next fifo _ => exact .pushed id data allocated fifo outside
  next status fifo failed pushed =>
    rw [fifoPush_refused pushed failed]
    exact .refused id data allocated

theorem pop_took {state : Rendezvous Value} (popping : state.consumer = .popping) :
    Rendezvous.Took state .pop state.pop := by
  unfold Rendezvous.pop
  split
  next fault _ => exact .popCrashed popping fault
  next fifo _ => exact .poppedNothing fifo
  next item fifo _ => exact .poppedItem item fifo

theorem turn_took {build : Build} {state next : Rendezvous Value} {move : Turn Value}
    (taken : turn build state move = some next) : Rendezvous.Took state move next := by
  unfold turn at taken
  by_cases dead : state.crashed.isSome = true
  · rw [if_pos dead] at taken
    cases taken
  · rw [if_neg dead] at taken
    split at taken
    next =>
      split at taken
      next enabled =>
        cases Option.some.inj taken
        exact push_took enabled.1
      next => cases taken
    next id =>
      split at taken
      next enabled =>
        cases Option.some.inj taken
        exact .lockedToSignal id enabled.1 enabled.2
      next => cases taken
    next id =>
      split at taken
      next holding =>
        cases Option.some.inj taken
        exact .signalled id holding
      next => cases taken
    next id =>
      split at taken
      next signalled =>
        cases Option.some.inj taken
        exact .unlockedAfterSignal id signalled
      next => cases taken
    next =>
      split at taken
      next =>
        cases Option.some.inj taken
        exact .skipped
      next =>
        split at taken
        next free =>
          cases Option.some.inj taken
          exact .locked free
        next => cases taken
    next locked =>
      cases Option.some.inj taken
      exact .waited locked
    next =>
      cases Option.some.inj taken
      exact .woke
    next =>
      split at taken
      next free =>
        cases Option.some.inj taken
        exact .relocked free
      next => cases taken
    next returned =>
      cases Option.some.inj taken
      exact .unlocked returned
    next popping =>
      cases Option.some.inj taken
      exact pop_took popping
    next =>
      cases Option.some.inj taken
      exact .executed
    next => cases taken

/-! ## Lost signals -/

namespace Rendezvous

def Drained (state : Rendezvous Value) : Prop :=
  forall fifo, state.fifo = some fifo -> fifo.head = none ∧ fifo.tail = none

/-- While the consumer sleeps and no producer is on its way to a signal,
nothing is left in the queue. -/
def Noticed (state : Rendezvous Value) : Prop :=
  state.consumer = .blocked -> (forall id, state.producers id = .outside) -> state.Drained

/-- The consumer goes to sleep only on an empty queue, or while a producer that
has pushed has its signal still to send. -/
def Attentive (state : Rendezvous Value) : Turn Value -> Prop
  | .wait => state.Drained ∨ Exists fun id => state.producers id = .pushed
  | _ => True

/-- The threads between lock and unlock hold the mutex.  So none of them is there
together with another one, which is what a signal and the start of a wait rely
on. -/
structure Guarded (state : Rendezvous Value) : Prop where
  producers : forall id, state.producers id = .holding ∨ state.producers id = .signalled ->
    state.syncMutex = some (.producer id)
  consumer : state.consumer = .locked ∨ state.consumer = .returned ->
    state.syncMutex = some .consumer

/-- A sleeping consumer has nothing to do or a signal on its way. -/
def Awaited (state : Rendezvous Value) : Prop :=
  state.consumer = .blocked -> state.Drained ∨
    Exists fun id => state.producers id = .pushed ∨ state.producers id = .holding

end Rendezvous

theorem guarded_start (allocated : Bool) :
    (Rendezvous.start allocated : Rendezvous Value).Guarded := by
  constructor
  · rintro id (impossible | impossible)
    · cases impossible
    · cases impossible
  · rintro (impossible | impossible)
    · cases impossible
    · cases impossible

/-- Nobody is between lock and unlock while the mutex is free. -/
theorem Rendezvous.Guarded.of_free {state : Rendezvous Value} (guarded : state.Guarded)
    (free : state.syncMutex = none) :
    (forall id, ¬ (state.producers id = .holding ∨ state.producers id = .signalled)) ∧
      ¬ (state.consumer = .locked ∨ state.consumer = .returned) := by
  constructor
  · intro id inside
    cases free.symm.trans (guarded.producers id inside)
  · intro inside
    cases free.symm.trans (guarded.consumer inside)

/-- The consumer inside the mutex keeps every producer out of it. -/
theorem Rendezvous.Guarded.of_consumer {state : Rendezvous Value} (guarded : state.Guarded)
    (inside : state.consumer = .locked ∨ state.consumer = .returned) (id : Nat) :
    ¬ (state.producers id = .holding ∨ state.producers id = .signalled) := by
  intro other
  cases (guarded.consumer inside).symm.trans (guarded.producers id other)

/-- A producer inside the mutex keeps everybody else out of it. -/
theorem Rendezvous.Guarded.of_producer {state : Rendezvous Value} (guarded : state.Guarded)
    {id : Nat} (inside : state.producers id = .holding ∨ state.producers id = .signalled) :
    (forall other, other ≠ id ->
      ¬ (state.producers other = .holding ∨ state.producers other = .signalled)) ∧
      ¬ (state.consumer = .locked ∨ state.consumer = .returned) := by
  constructor
  · intro other different also
    cases (guarded.producers other also).symm.trans (guarded.producers id inside)
    exact different rfl
  · intro both
    exact guarded.of_consumer both id inside

@[simp] theorem Rendezvous.setProducer_producers (state : Rendezvous Value) (id other : Nat)
    (phase : ProducerPhase) :
    (state.setProducer id phase).producers other =
      if other = id then phase else state.producers other :=
  Function.update_apply _ _ _ _

@[simp] theorem Rendezvous.notify_producers (state : Rendezvous Value) :
    state.notify.producers = state.producers := by
  unfold Rendezvous.notify
  split
  · rfl
  · rfl

@[simp] theorem Rendezvous.notify_syncMutex (state : Rendezvous Value) :
    state.notify.syncMutex = state.syncMutex := by
  unfold Rendezvous.notify
  split
  · rfl
  · rfl

/-- A signalled consumer does not sleep, and one that did not sleep is left
alone. -/
theorem Rendezvous.notify_consumer (state : Rendezvous Value) :
    state.notify.consumer = .woken ∨
      state.notify.consumer = state.consumer ∧ state.consumer ≠ .blocked := by
  unfold Rendezvous.notify
  split
  next => exact .inl rfl
  next awake => exact .inr ⟨rfl, awake⟩

/-- A producer that is not between lock and unlock can be moved freely. -/
theorem Rendezvous.Guarded.setProducer {state : Rendezvous Value} (guarded : state.Guarded)
    (id : Nat) {phase : ProducerPhase}
    (allowed : phase = .holding ∨ phase = .signalled ->
      state.syncMutex = some (.producer id)) :
    (state.setProducer id phase).Guarded := by
  refine ⟨?_, guarded.consumer⟩
  intro other inside
  rw [setProducer_producers] at inside
  by_cases same : other = id
  · rw [if_pos same] at inside
    rw [same]
    exact allowed inside
  · rw [if_neg same] at inside
    exact guarded.producers other inside

/-- Giving back the mutex is safe for a state in which nobody is inside. -/
theorem Rendezvous.guarded_of_outside {state : Rendezvous Value}
    (producers : forall id, ¬ (state.producers id = .holding ∨ state.producers id = .signalled))
    (consumer : ¬ (state.consumer = .locked ∨ state.consumer = .returned)) : state.Guarded :=
  ⟨fun id inside => absurd inside (producers id), fun inside => absurd inside consumer⟩

theorem guarded_stays {state next : Rendezvous Value} {move : Turn Value}
    (took : Rendezvous.Took state move next) (guarded : state.Guarded) : next.Guarded := by
  cases took with
  | pushCrashed id data allocated fault => exact ⟨guarded.producers, guarded.consumer⟩
  | pushed id data allocated fifo outside =>
      have moved : { state with fifo := fifo }.Guarded := ⟨guarded.producers, guarded.consumer⟩
      exact moved.setProducer id (by simp)
  | refused => exact guarded
  | lockedToSignal id pushed free =>
      have nobody := guarded.of_free free
      have taken : { state with syncMutex := some (.producer id) }.Guarded :=
        Rendezvous.guarded_of_outside nobody.1 nobody.2
      exact taken.setProducer id (fun _ => rfl)
  | signalled id holding =>
      have woken : state.notify.Guarded := by
        refine ⟨?_, ?_⟩
        · simpa using guarded.producers
        · intro inside
          rw [Rendezvous.notify_syncMutex]
          rcases state.notify_consumer with roused | ⟨same, _⟩
          · rw [roused] at inside
            rcases inside with impossible | impossible
            · cases impossible
            · cases impossible
          · rw [same] at inside
            exact guarded.consumer inside
      apply woken.setProducer id
      intro _
      rw [Rendezvous.notify_syncMutex]
      exact guarded.producers id (.inl holding)
  | unlockedAfterSignal id signalled =>
      have others := guarded.of_producer (.inr signalled)
      apply Rendezvous.guarded_of_outside
      · intro other
        rw [Rendezvous.setProducer_producers]
        by_cases same : other = id
        · simp [same]
        · rw [if_neg same]
          exact others.1 other same
      · exact others.2
  | skipped => exact guarded
  | locked free =>
      have nobody := guarded.of_free free
      exact ⟨fun id inside => absurd inside (nobody.1 id), fun _ => rfl⟩
  | waited locked =>
      exact Rendezvous.guarded_of_outside (guarded.of_consumer (.inl locked)) (by simp)
  | woke => exact ⟨guarded.producers, by simp⟩
  | relocked free =>
      have nobody := guarded.of_free free
      exact ⟨fun id inside => absurd inside (nobody.1 id), fun _ => rfl⟩
  | unlocked returned =>
      exact Rendezvous.guarded_of_outside (guarded.of_consumer (.inr returned)) (by simp)
  | popCrashed popping fault => exact ⟨guarded.producers, guarded.consumer⟩
  | poppedNothing fifo => exact ⟨guarded.producers, by simp⟩
  | poppedItem item fifo => exact ⟨guarded.producers, by simp⟩
  | executed => exact ⟨guarded.producers, by simp⟩

/-- A producer that moves on without leaving its signal behind keeps it
expected. -/
theorem Rendezvous.Awaited.setProducer {state : Rendezvous Value} {id : Nat}
    {phase : ProducerPhase} (expected : phase = .pushed ∨ phase = .holding) :
    (state.setProducer id phase).Awaited := by
  intro _
  refine .inr ⟨id, ?_⟩
  rw [setProducer_producers, if_pos rfl]
  exact expected

/-- Only going to sleep needs the condition: a push announces itself before its
producer leaves, and a signal ends the sleep. -/
theorem awaited_stays {state next : Rendezvous Value} {move : Turn Value}
    (took : Rendezvous.Took state move next) (attentive : state.Attentive move)
    (awaited : state.Awaited) : next.Awaited := by
  cases took with
  | pushCrashed id data allocated fault => exact awaited
  | pushed id data allocated fifo outside => exact .setProducer (.inl rfl)
  | refused => exact awaited
  | lockedToSignal id pushed free => exact .setProducer (.inr rfl)
  | signalled id holding =>
      intro asleep
      change state.notify.consumer = .blocked at asleep
      rcases state.notify_consumer with roused | ⟨same, awake⟩
      · cases roused.symm.trans asleep
      · exact absurd (same.symm.trans asleep) awake
  | unlockedAfterSignal id signalled =>
      intro asleep
      rcases awaited asleep with drained | ⟨other, expected⟩
      · exact .inl drained
      · refine .inr ⟨other, ?_⟩
        have different : other ≠ id := by
          intro same
          rw [same, signalled] at expected
          rcases expected with impossible | impossible
          · cases impossible
          · cases impossible
        rw [Rendezvous.setProducer_producers, if_neg different]
        exact expected
  | skipped => exact awaited
  | waited locked =>
      intro _
      rcases attentive with drained | ⟨id, pushed⟩
      · exact .inl drained
      · exact .inr ⟨id, .inl pushed⟩
  | popCrashed popping fault =>
      intro asleep
      cases popping.symm.trans asleep
  | locked | woke | relocked | unlocked | poppedNothing | poppedItem | executed =>
      intro asleep
      cases asleep

theorem Rendezvous.Awaited.noticed {state : Rendezvous Value} (awaited : state.Awaited) :
    state.Noticed := by
  intro asleep outside
  rcases awaited asleep with drained | ⟨id, pushed | holding⟩
  · exact drained
  · cases (outside id).symm.trans pushed
  · cases (outside id).symm.trans holding

/-- Going to sleep on a waiting item shows at once, because the consumer holds
the mutex and no signal can be under way. -/
theorem inattentive_unnoticed {state next : Rendezvous Value} {move : Turn Value}
    (took : Rendezvous.Took state move next) (guarded : state.Guarded)
    (inattentive : ¬ state.Attentive move) : ¬ next.Noticed := by
  cases took with
  | waited locked =>
      intro noticed
      apply inattentive
      refine .inl (noticed rfl ?_)
      intro id
      have inside := guarded.of_consumer (.inl locked) id
      have pushed : state.producers id ≠ .pushed := fun pushed => inattentive (.inr ⟨id, pushed⟩)
      change state.producers id = .outside
      cases phase : state.producers id with
      | outside => rfl
      | pushed => exact absurd phase pushed
      | holding => exact absurd (.inl phase) inside
      | signalled => exact absurd (.inr phase) inside
  | _ => exact absurd trivial inattentive

/-- A run loses no wakeup exactly when the consumer goes to sleep only on an
empty queue or ahead of a signal that is still to come. -/
theorem wakeups_noticed_iff (build : Build) (allocated : Bool) (turns : List (Turn Value))
    (final : Rendezvous Value) (ran : (turn build).run (.start allocated) turns = some final) :
    (turn build).Throughout Rendezvous.Noticed (.start allocated) turns ↔
      (turn build).Respects Rendezvous.Attentive (.start allocated) turns := by
  have stays : forall (state : Rendezvous Value) move next, turn build state move = some next ->
      state.Guarded -> next.Guarded :=
    fun _ _ _ taken guarded => guarded_stays (turn_took taken) guarded
  have keeps : forall (state : Rendezvous Value) move next, turn build state move = some next ->
      state.Guarded -> state.Attentive move -> state.Awaited -> next.Awaited :=
    fun _ _ _ taken _ attentive awaited => awaited_stays (turn_took taken) attentive awaited
  have implies : forall state : Rendezvous Value, state.Guarded -> state.Awaited ->
      state.Noticed :=
    fun _ _ awaited => awaited.noticed
  have breaks : forall (state : Rendezvous Value) move next, turn build state move = some next ->
      state.Guarded -> ¬ state.Attentive move -> ¬ next.Noticed :=
    fun _ _ _ taken guarded inattentive =>
      inattentive_unnoticed (turn_took taken) guarded inattentive
  apply PartialStep.throughout_iff_respects stays keeps implies breaks ran
  · exact guarded_start allocated
  · intro asleep
    cases asleep

/-- A statement that arrives while the consumer is away from its wait, as when
it executes the one before. -/
def earlyPush : List (Turn Nat) :=
  [.push 0 (some 7) (some (100, none)), .lockToSignal 0, .signal 0, .unlockAfterSignal 0,
    .lock, .wait]

def timelyPush : List (Turn Nat) :=
  [.lock, .wait, .push 0 (some 7) (some (100, none)), .lockToSignal 0, .signal 0,
    .unlockAfterSignal 0, .relock, .unlock, .pop, .exec]

theorem wakeups_noticed_iff_timelyPush :
    Exists fun final => (turn .release).run (.start true) timelyPush = some final ∧
      (turn .release).Throughout Rendezvous.Noticed (.start true) timelyPush := by
  refine ⟨_, rfl, ?_⟩
  apply (wakeups_noticed_iff .release true timelyPush _ rfl).mpr
  apply PartialStep.respects_cons rfl trivial
  apply PartialStep.respects_cons rfl
  · apply Or.inl
    intro fifo present
    cases present
    exact ⟨rfl, rfl⟩
  · iterate 8 apply PartialStep.respects_cons rfl trivial
    trivial

/-- The signal of a push that comes too early is lost, and the consumer sleeps
on the statement with no producer left to wake it. -/
theorem early_push_unnoticed :
    Exists fun final : Rendezvous Nat =>
      (turn .release).run (.start true) earlyPush = some final ∧
        final.consumer = .blocked ∧ (forall id, final.producers id = .outside) ∧
          ¬ final.Drained := by
  refine ⟨_, rfl, rfl, ?_, ?_⟩
  · intro id
    cases id with
    | zero => rfl
    | succ id => rfl
  · intro drained
    have impossible := (drained _ rfl).1
    cases impossible

end Queue
end PdnsLogger
