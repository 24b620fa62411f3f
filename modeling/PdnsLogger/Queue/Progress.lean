import PdnsLogger.Queue.Wakeup

namespace PdnsLogger
namespace Queue

open Foundation Program

/-!
# The consumer is never stuck

A signal may be lost, and the consumer then sleeps on a statement that waits in the
queue.  It does not sleep for ever.  Whoever holds `sync_mutex` is inside its critical
section and can leave it, and a sleeping consumer wakes when its second is over.  From
every reachable state a few moves of the holder and of the consumer lead to the next
`fifo_pop`, without a further push or signal of anybody else, and what is queued is
taken then.
-/

variable {Value : Type}

namespace Rendezvous

/-! ## Who holds the mutex -/

/-- The mutex is held by a thread in its critical section, and the queue holds at most
one item. -/
structure Tended (state : Rendezvous Value) (slot : Option Value) : Prop where
  producer : forall id, state.syncMutex = some (.producer id) ->
    state.producers id = .holding ∨ state.producers id = .signalled
  consumer : state.syncMutex = some .consumer ->
    state.consumer = .locked ∨ state.consumer = .returned
  content : Exists fun fifo => state.fifo = some fifo ∧ Represents fifo slot

end Rendezvous

/-- The program point at which the consumer makes a move. -/
theorem consumer_of_turn {build : Build} {state next : Rendezvous Value} {move : Turn Value}
    (taken : turn build state move = some next) :
    (move = .lock -> state.consumer = .ready) ∧ (move = .wake -> state.consumer = .blocked) ∧
      (move = .relock -> state.consumer = .woken) ∧ (move = .pop -> state.consumer = .popping) ∧
      (move = .exec -> Exists fun item => state.consumer = .executing item) := by
  unfold turn at taken
  split at taken
  next => cases taken
  next =>
    split at taken
    all_goals simp_all

/-! ## The queue in between -/

@[simp] theorem Rendezvous.notify_fifo (state : Rendezvous Value) :
    state.notify.fifo = state.fifo := by
  unfold Rendezvous.notify
  split <;> rfl

@[simp] theorem Rendezvous.notify_crashed (state : Rendezvous Value) :
    state.notify.crashed = state.crashed := by
  unfold Rendezvous.notify
  split <;> rfl

/-- A push leaves at most one item in the queue. -/
theorem fifoPush_represents {build : Build} {fifo : Fifo Value} {slot : Option Value}
    (represents : Represents fifo slot) {data : Option Value}
    {allocated : Option (Address × Option Address)}
    (fresh : forall item stale, allocated = some (item, stale) -> fifo.heap item = none)
    {status : PdnsStatus} {result : Option (Fifo Value)}
    (pushed : fifoPush build (some fifo) data allocated = .ok (status, result)) :
    Exists fun after => Exists fun fifo => result = some fifo ∧ Represents fifo after := by
  match data, allocated with
  | none, allocated =>
      cases pushed
      exact ⟨slot, fifo, rfl, represents⟩
  | some value, none =>
      cases pushed
      exact ⟨slot, fifo, rfl, represents⟩
  | some value, some (item, stale) =>
      -- `fifo_push_item` adds to `fifo_push` only the test of its arguments.
      have outer : fifoPushItem build (some fifo) (some value) (some (item, stale)) =
          .ok (if status = .ok then .ok else .no, result) := by
        simp only [fifoPushItem, pushed, Option.isNone_some, Bool.false_eq_true, or_self, if_false,
          bind, Except.bind, pure, Except.pure]
        split <;> rfl
      cases slot with
      | none =>
          rcases fifoPushItem_empty build represents value item stale with
            ⟨after, answered, placed⟩
          rw [outer] at answered
          exact ⟨some value, after, congrArg Prod.snd (Except.ok.inj answered), placed⟩
      | some kept =>
          have occupied := fifoPushItem_occupied represents value item stale (fresh item stale rfl)
          cases build with
          | debug =>
              rw [occupied.1] at outer
              cases outer
          | release =>
              rcases occupied.2 with ⟨after, answered, placed⟩
              rw [outer] at answered
              exact ⟨some kept, after, congrArg Prod.snd (Except.ok.inj answered), placed⟩

theorem fifoPop_represents {fifo : Fifo Value} {slot : Option Value}
    (represents : Represents fifo slot) :
    Exists fun popped : Fifo Value =>
      fifoPop (some fifo) = .ok (slot, some popped) ∧ Represents popped none :=
  fifoPopItem_represents represents

theorem content_push {build : Build} {state : Rendezvous Value} {fifo : Fifo Value}
    {slot : Option Value} (present : state.fifo = some fifo) (represents : Represents fifo slot)
    {id : Nat} {data : Option Value} {allocated : Option (Address × Option Address)}
    (fresh : state.fresh allocated = true) :
    Exists fun after => Exists fun fifo =>
      (state.push build id data allocated).fifo = some fifo ∧ Represents fifo after := by
  have unused : forall item stale, allocated = some (item, stale) -> fifo.heap item = none := by
    rintro item stale rfl
    simp only [Rendezvous.fresh, present] at fresh
    exact Option.isNone_iff_eq_none.mp fresh
  unfold Rendezvous.push
  split
  next => exact ⟨slot, fifo, present, represents⟩
  next result pushed =>
    rw [present] at pushed
    exact fifoPush_represents represents unused pushed
  next status result _ pushed =>
    rw [present] at pushed
    exact fifoPush_represents represents unused pushed

/-- Where the consumer is after it has popped this. -/
def ConsumerPhase.after : Option Value -> ConsumerPhase Value
  | some item => .executing item
  | none => .ready

theorem content_pop {state : Rendezvous Value} {fifo : Fifo Value} {slot : Option Value}
    (present : state.fifo = some fifo) (represents : Represents fifo slot) :
    Exists fun popped => Represents popped none ∧
      state.pop = { state with fifo := some popped, consumer := .after slot } := by
  rcases fifoPop_represents represents with ⟨popped, answered, empty⟩
  refine ⟨popped, empty, ?_⟩
  simp only [Rendezvous.pop, present, answered]
  cases slot <;> rfl

theorem content_stays {build : Build} {state next : Rendezvous Value} {move : Turn Value}
    {slot : Option Value} (taken : turn build state move = some next)
    (content : Exists fun fifo => state.fifo = some fifo ∧ Represents fifo slot) :
    Exists fun after => Exists fun fifo => next.fifo = some fifo ∧ Represents fifo after := by
  rcases content with ⟨fifo, present, represents⟩
  have same : next.fifo = state.fifo ->
      Exists fun after => Exists fun fifo => next.fifo = some fifo ∧ Represents fifo after :=
    fun equal => ⟨slot, fifo, equal.trans present, represents⟩
  cases move with
  | push id data allocated =>
      simp only [turn] at taken
      split at taken
      next => cases taken
      next =>
        split at taken
        next enabled =>
          cases Option.some.inj taken
          exact content_push present represents enabled.2
        next => cases taken
  | pop =>
      have popping := (consumer_of_turn taken).2.2.2.1 rfl
      have moved : next = state.pop := by
        simp only [turn, popping] at taken
        split at taken
        next => cases taken
        next => exact (Option.some.inj taken).symm
      rcases content_pop present represents with ⟨popped, empty, result⟩
      rw [moved, result]
      exact ⟨none, popped, rfl, empty⟩
  | _ =>
      apply same
      cases turn_took taken <;> first | rfl | exact Rendezvous.notify_fifo state

/-! ## Every reachable state -/

theorem Rendezvous.Tended.start : Exists fun slot =>
    (Rendezvous.start true : Rendezvous Value).Tended slot :=
  ⟨none, nofun, nofun, represents_init Value⟩

/-- A producer that takes the mutex is inside until it gives it back. -/
theorem producer_inside {state next : Rendezvous Value} {move : Turn Value}
    (took : Rendezvous.Took state move next)
    (inside : forall id, state.syncMutex = some (.producer id) ->
      state.producers id = .holding ∨ state.producers id = .signalled)
    (id : Nat) (held : next.syncMutex = some (.producer id)) :
    next.producers id = .holding ∨ next.producers id = .signalled := by
  cases took with
  | pushed other data allocated fifo outside =>
      have before := inside id held
      have different : id ≠ other := by
        rintro rfl
        rw [outside] at before
        rcases before with impossible | impossible <;> cases impossible
      rw [Rendezvous.setProducer_producers, if_neg different]
      exact before
  | lockedToSignal other pushed free =>
      cases held
      rw [Rendezvous.setProducer_producers, if_pos rfl]
      exact .inl rfl
  | signalled other holding =>
      rw [Rendezvous.setProducer_producers]
      by_cases same : id = other
      · rw [if_pos same]
        exact .inr rfl
      · rw [if_neg same, Rendezvous.notify_producers]
        exact inside id ((Rendezvous.notify_syncMutex state).symm.trans held)
  | unlockedAfterSignal => cases held
  | locked => cases held
  | waited => cases held
  | relocked => cases held
  | unlocked => cases held
  | _ => exact inside id held

/-- The consumer that takes the mutex is inside until it gives it back. -/
theorem consumer_inside {build : Build} {state next : Rendezvous Value} {move : Turn Value}
    (taken : turn build state move = some next)
    (inside : state.syncMutex = some .consumer ->
      state.consumer = .locked ∨ state.consumer = .returned)
    (held : next.syncMutex = some .consumer) :
    next.consumer = .locked ∨ next.consumer = .returned := by
  have points := consumer_of_turn taken
  -- A move at another program point is not made while the consumer is inside.
  have elsewhere : forall phase, state.consumer = phase -> phase ≠ .locked -> phase ≠ .returned ->
      state.syncMutex ≠ some .consumer := by
    intro phase here notLocked notReturned same
    rcases inside same with locked | returned
    · exact notLocked (here.symm.trans locked)
    · exact notReturned (here.symm.trans returned)
  cases turn_took taken with
  | lockedToSignal => cases held
  | signalled id holding =>
      have before := inside ((Rendezvous.notify_syncMutex state).symm.trans held)
      change state.notify.consumer = .locked ∨ state.notify.consumer = .returned
      unfold Rendezvous.notify
      split
      next asleep => rcases before with impossible | impossible <;> cases asleep.symm.trans impossible
      next => exact before
  | unlockedAfterSignal => cases held
  | locked => exact .inl rfl
  | waited => cases held
  | woke => exact absurd held (elsewhere _ (points.2.1 rfl) nofun nofun)
  | relocked => exact .inr rfl
  | unlocked => cases held
  | poppedNothing => exact absurd held (elsewhere _ (points.2.2.2.1 rfl) nofun nofun)
  | poppedItem => exact absurd held (elsewhere _ (points.2.2.2.1 rfl) nofun nofun)
  | executed =>
      rcases points.2.2.2.2 rfl with ⟨item, executing⟩
      exact absurd held (elsewhere _ executing nofun nofun)
  | _ => exact inside held

theorem Rendezvous.Tended.step {build : Build} {state next : Rendezvous Value} {move : Turn Value}
    {slot : Option Value} (taken : turn build state move = some next)
    (tended : state.Tended slot) : Exists fun after => next.Tended after := by
  rcases content_stays taken tended.content with ⟨after, content⟩
  exact ⟨after, producer_inside (turn_took taken) tended.producer,
    consumer_inside taken tended.consumer, content⟩

theorem tended_of_run {build : Build} {turns : List (Turn Value)} {state : Rendezvous Value}
    (ran : (turn build).run (.start true) turns = some state) :
    Exists fun slot => state.Tended slot := by
  apply PartialStep.run_invariant _ ran Rendezvous.Tended.start
  rintro state move next taken ⟨slot, tended⟩
  exact tended.step taken

/-! ## The way to the next pop -/

/-- The moves of the holder of the mutex until it has left. -/
def leaving (state : Rendezvous Value) : List (Turn Value) :=
  match state.syncMutex with
  | some (.producer id) =>
      match state.producers id with
      | .holding => [.signal id, .unlockAfterSignal id]
      | _ => [.unlockAfterSignal id]
  | _ => []

/-- The moves of the consumer until it has popped. -/
def towardsPop : ConsumerPhase Value -> List (Turn Value)
  | .ready => [.lock, .wait, .wake, .relock, .unlock, .pop]
  | .locked => [.wait, .wake, .relock, .unlock, .pop]
  | .blocked => [.wake, .relock, .unlock, .pop]
  | .woken => [.relock, .unlock, .pop]
  | .returned => [.unlock, .pop]
  | .popping => [.pop]
  | .executing _ => [.exec, .lock, .wait, .wake, .relock, .unlock, .pop]

theorem turn_signal (build : Build) {state : Rendezvous Value} {id : Nat}
    (alive : state.crashed = none) (holding : state.producers id = .holding) :
    turn build state (.signal id) = some (state.notify.setProducer id .signalled) := by
  simp [turn, alive, holding]

theorem turn_unlockAfterSignal (build : Build) {state : Rendezvous Value} {id : Nat}
    (alive : state.crashed = none) (signalled : state.producers id = .signalled) :
    turn build state (.unlockAfterSignal id) =
      some ({ state with syncMutex := none }.setProducer id .outside) := by
  simp [turn, alive, signalled]

/-- A producer leaves its critical section and gives the mutex back. -/
theorem run_leaving (build : Build) {state : Rendezvous Value} {slot : Option Value}
    (tended : state.Tended slot) (alive : state.crashed = none) :
    Exists fun next => (turn build).run state (leaving state) = some next ∧
      next.fifo = state.fifo ∧ next.crashed = none ∧
      (next.syncMutex = none ∨ next.consumer = .locked ∨ next.consumer = .returned) := by
  cases held : state.syncMutex with
  | none =>
      refine ⟨state, ?_, rfl, alive, .inl held⟩
      rw [leaving, held]
      rfl
  | some party =>
      cases party with
      | consumer =>
          refine ⟨state, ?_, rfl, alive, .inr (tended.consumer held)⟩
          rw [leaving, held]
          rfl
      | producer id =>
          rcases tended.producer id held with holding | signalled
          · let roused := state.notify.setProducer id .signalled
            have running : roused.crashed = none := (Rendezvous.notify_crashed state).trans alive
            have signalled : roused.producers id = .signalled := by simp [roused]
            refine ⟨{ roused with syncMutex := none }.setProducer id .outside, ?_,
              Rendezvous.notify_fifo state, running, .inl rfl⟩
            simp only [leaving, held, holding]
            exact PartialStep.run_cons_eq_some.mpr ⟨roused, turn_signal build alive holding,
              PartialStep.run_cons_eq_some.mpr
                ⟨_, turn_unlockAfterSignal build running signalled, rfl⟩⟩
          · refine ⟨{ state with syncMutex := none }.setProducer id .outside, ?_, rfl, alive,
              .inl rfl⟩
            simp only [leaving, held, signalled]
            exact PartialStep.run_cons_eq_some.mpr
              ⟨_, turn_unlockAfterSignal build alive signalled, rfl⟩

/-- With the mutex free or in its own hands the consumer gets to `fifo_pop`. -/
theorem run_towardsPop (build : Build) {state : Rendezvous Value} {fifo : Fifo Value}
    (present : state.fifo = some fifo) (alive : state.crashed = none)
    (free : state.syncMutex = none ∨ state.consumer = .locked ∨ state.consumer = .returned) :
    (turn build).run state (towardsPop state.consumer) =
      some ({ state with syncMutex := none, consumer := .popping }.pop) := by
  rcases state with ⟨queue, mutex, producers, consumer, crashed⟩
  cases present
  cases alive
  cases consumer with
  | locked => rfl
  | returned => rfl
  | _ =>
      rcases free with unlocked | impossible | impossible
      · cases unlocked
        rfl
      · cases impossible
      · cases impossible

theorem length_leaving_le (state : Rendezvous Value) : (leaving state).length ≤ 2 := by
  unfold leaving
  split
  next => split <;> simp
  next => simp

theorem length_towardsPop_le (phase : ConsumerPhase Value) : (towardsPop phase).length ≤ 7 := by
  cases phase <;> simp [towardsPop]

theorem push_not_mem_onward (state : Rendezvous Value) (phase : ConsumerPhase Value) (id : Nat)
    (data : Option Value) (allocated : Option (Address × Option Address)) :
    Turn.push id data allocated ∉ leaving state ++ towardsPop phase := by
  rw [List.mem_append, not_or]
  constructor
  · unfold leaving
    split
    next => split <;> simp
    next => simp
  · cases phase <;> simp [towardsPop]

/-- From every reachable state at most nine moves lead to the next pop, none of them a
push.  The pop takes what is queued in that state, and the queue is empty then. -/
theorem queue_never_stuck (build : Build) (turns : List (Turn Value)) (state : Rendezvous Value)
    (ran : (turn build).run (.start true) turns = some state) (alive : state.crashed = none) :
    Exists fun slot => Exists fun onward => Exists fun next =>
      (Exists fun fifo => state.fifo = some fifo ∧ Represents fifo slot) ∧
      onward.length ≤ 9 ∧
      (forall id data allocated, Turn.push id data allocated ∉ onward) ∧
      (turn build).run state onward = some next ∧ next.crashed = none ∧
      next.consumer = .after slot ∧
      Exists fun fifo => next.fifo = some fifo ∧ Represents fifo none := by
  rcases tended_of_run ran with ⟨slot, tended⟩
  rcases tended.content with ⟨fifo, present, represents⟩
  rcases run_leaving build tended alive with ⟨middle, left, same, running, free⟩
  have arrived := run_towardsPop build (same.trans present) running free
  rcases @content_pop Value { middle with syncMutex := none, consumer := .popping } fifo slot
    (same.trans present) represents with ⟨popped, empty, result⟩
  refine ⟨slot, leaving state ++ towardsPop middle.consumer, _, ⟨fifo, present, represents⟩, ?_, ?_,
    PartialStep.run_append_eq_some.mpr ⟨middle, left, arrived⟩, ?_, ?_, ?_⟩
  · have first := length_leaving_le state
    have second := length_towardsPop_le middle.consumer
    rw [List.length_append]
    omega
  · exact push_not_mem_onward state middle.consumer
  · rw [result]
    exact running
  · rw [result]
  · rw [result]
    exact ⟨popped, rfl, empty⟩

/-- A consumer that sleeps on a statement whose signal was lost takes it in the end. -/
theorem queue_never_stuck_earlyPush :
    Exists fun state => (turn .release).run (.start true) earlyPush = some state ∧
      state.consumer = .blocked ∧
      Exists fun onward => Exists fun next => onward.length ≤ 9 ∧
        (turn .release).run state onward = some next ∧ next.consumer = .executing 7 := by
  refine ⟨_, rfl, rfl, ?_⟩
  rcases queue_never_stuck .release earlyPush _ rfl rfl with
    ⟨slot, onward, next, ⟨fifo, present, represents⟩, short, _, ran, _, taken, _⟩
  refine ⟨onward, next, short, ran, ?_⟩
  cases Option.some.inj present
  have queued : slot = some 7 := by
    apply represents.unique
    exact ⟨100, none, rfl, rfl, rfl⟩
  rw [taken, queued]
  rfl

end Queue
end PdnsLogger
