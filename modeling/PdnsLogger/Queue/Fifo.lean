import PdnsLogger.Foundation.PartialRuns
import PdnsLogger.Program.Basic
import Mathlib.Logic.Function.Basic

namespace PdnsLogger
namespace Queue

open Foundation Program

/-!
# The statement queue

`pdns-logger-queue.c` keeps a linked list of items between the client threads,
which push statements, and the background thread, which pops them.  The model
keeps the heap: an item is an address, `malloc` supplies one that is not in
use, and the `next` field it leaves uninitialized holds a stale value.

Each critical section under `fifo->lock` is one step.  The signal sent by a
push and the bounded wait before a pop do not touch the list and are left out
here; they have a module of their own.

The three branches of `fifo_push` are kept as they are written.  The first
requires both ends to be null and the second accepts every other state, so the
third, which would link the item, is dead.  `Represents` records the
consequence: the list never holds more than one item.
-/

variable {Value : Type}

abbrev Address := Nat

structure FifoItem (Value : Type) where
  data : Value
  next : Option Address

/-- `fifo_t`, with the items the allocator has handed out and not taken back. -/
structure Fifo (Value : Type) where
  head : Option Address
  tail : Option Address
  heap : Address -> Option (FifoItem Value)

/-- `fifo_init`.  A failed allocation leaves the null pointer. -/
def fifoInit (allocated : Bool) : Option (Fifo Value) :=
  if allocated then some ⟨none, none, fun _ => none⟩ else none

namespace Fifo

def load (fifo : Fifo Value) : Option Address -> Except Fault (FifoItem Value)
  | none => .error .danglingPointer
  | some address =>
      match fifo.heap address with
      | none => .error .danglingPointer
      | some item => .ok item

def store (fifo : Fifo Value) (address : Address) (item : FifoItem Value) : Fifo Value :=
  { fifo with heap := Function.update fifo.heap address (some item) }

def free (fifo : Fifo Value) (address : Address) : Fifo Value :=
  { fifo with heap := Function.update fifo.heap address none }

/-- The condition under which `fifo_push` reaches its `assert(0)`. -/
def Misplaced (fifo : Fifo Value) : Prop :=
  ¬ (fifo.tail = none ∧ fifo.head = none) ∧ (fifo.tail ≠ none ∨ fifo.head ≠ none)

instance (fifo : Fifo Value) : Decidable fifo.Misplaced :=
  inferInstanceAs (Decidable (_ ∧ _))

/-- The critical section of `fifo_push`. -/
def link (build : Build) (fifo : Fifo Value) (item : Address) (value : Value) :
    Except Fault (Fifo Value) :=
  if fifo.tail = none ∧ fifo.head = none then
    .ok { fifo with head := some item, tail := some item }
  else if fifo.tail ≠ none ∨ fifo.head ≠ none then do
    assertZero build .fifoPush
    return fifo
  else
    .ok { fifo.store item ⟨value, fifo.head⟩ with head := some item }

/-- The critical section of `fifo_pop`: the item taken, if any. -/
def unlink (fifo : Fifo Value) : Except Fault (Option Address × Fifo Value) :=
  if fifo.head = none ∧ fifo.tail = none then
    .ok (none, fifo)
  else if fifo.head ≠ none ∧ fifo.tail = fifo.head then
    .ok (fifo.head, { fifo with head := none, tail := none })
  else do
    let item ← fifo.load fifo.head
    return (fifo.head, { fifo with head := item.next })

end Fifo

/-- `fifo_push`.  The allocation answers with an address and the stale `next`
field found there, or with the null pointer. -/
def fifoPush (build : Build) :
    Option (Fifo Value) -> Option Value -> Option (Address × Option Address) ->
      Except Fault (PdnsStatus × Option (Fifo Value))
  | some fifo, some value, some (item, stale) => do
      let linked ← (fifo.store item ⟨value, stale⟩).link build item value
      return (.ok, some linked)
  | fifo, _, _ => .ok (.no, fifo)

def fifoPop : Option (Fifo Value) -> Except Fault (Option Value × Option (Fifo Value))
  | none => .ok (none, none)
  | some fifo => do
      let unlinked ← fifo.unlink
      match unlinked with
      | (none, rest) => return (none, some rest)
      | (some address, rest) =>
          let item ← rest.load (some address)
          return (some item.data, some (rest.free address))

def fifoPushItem (build : Build) (fifo : Option (Fifo Value)) (data : Option Value)
    (allocated : Option (Address × Option Address)) :
    Except Fault (PdnsStatus × Option (Fifo Value)) :=
  if fifo.isNone ∨ data.isNone then
    .ok (.no, fifo)
  else do
    let pushed ← fifoPush build fifo data allocated
    if pushed.1 = .ok then return (.ok, pushed.2) else return (.no, pushed.2)

def fifoPopItem (fifo : Option (Fifo Value)) : Except Fault (Option Value × Option (Fifo Value)) :=
  if fifo.isNone then .ok (none, fifo) else fifoPop fifo

/-! ## The queue as a single place -/

/-- The list is empty, or its head and tail are the same live item. -/
def Represents (fifo : Fifo Value) : Option Value -> Prop
  | none => fifo.head = none ∧ fifo.tail = none
  | some value => Exists fun address => Exists fun stale =>
      fifo.head = some address ∧ fifo.tail = some address ∧
        fifo.heap address = some ⟨value, stale⟩

theorem represents_init (Value : Type) : Exists fun fifo : Fifo Value =>
    fifoInit true = some fifo ∧ Represents fifo none :=
  ⟨_, rfl, rfl, rfl⟩

/-- A queue that represents one content represents no other. -/
theorem Represents.unique {fifo : Fifo Value} {first second : Option Value}
    (one : Represents fifo first) (other : Represents fifo second) : first = second := by
  cases first with
  | none =>
      cases second with
      | none => rfl
      | some value =>
          rcases other with ⟨address, _, present, _, _⟩
          rw [one.1] at present
          cases present
  | some value =>
      rcases one with ⟨address, stale, present, _, live⟩
      cases second with
      | none =>
          rw [other.1] at present
          cases present
      | some value' =>
          rcases other with ⟨address', stale', present', _, live'⟩
          cases Option.some.inj (present.symm.trans present')
          cases Option.some.inj (live.symm.trans live')
          rfl

/-- Only a push on an occupied queue reaches the assertion. -/
theorem Represents.misplaced_iff {fifo : Fifo Value} {slot : Option Value}
    (represents : Represents fifo slot) : fifo.Misplaced ↔ slot.isSome = true := by
  cases slot with
  | none =>
      constructor
      · rintro ⟨occupied, _⟩
        exact absurd ⟨represents.2, represents.1⟩ occupied
      · intro impossible
        cases impossible
  | some value =>
      rcases represents with ⟨address, _, head, tail, _⟩
      constructor
      · intro _
        rfl
      · intro _
        have nonnull : fifo.head ≠ none := by
          rw [head]
          exact Option.some_ne_none address
        exact ⟨fun both => nonnull both.2, .inr nonnull⟩

theorem fifoPushItem_empty (build : Build) {fifo : Fifo Value} (represents : Represents fifo none)
    (value : Value) (item : Address) (stale : Option Address) :
    Exists fun pushed : Fifo Value =>
      fifoPushItem build (some fifo) (some value) (some (item, stale)) = .ok (.ok, some pushed) ∧
        Represents pushed (some value) := by
  refine ⟨{ fifo.store item ⟨value, stale⟩ with head := some item, tail := some item }, ?_, ?_⟩
  · have empty : (fifo.store item ⟨value, stale⟩).tail = none ∧
        (fifo.store item ⟨value, stale⟩).head = none := ⟨represents.2, represents.1⟩
    simp only [fifoPushItem, fifoPush, Fifo.link, if_pos empty]
    rfl
  · exact ⟨item, stale, rfl, rfl, Function.update_self _ _ _⟩

/-- A push on an occupied queue aborts with assertions, and without them
reports success while the new item is dropped. -/
theorem fifoPushItem_occupied {fifo : Fifo Value} {kept : Value}
    (represents : Represents fifo (some kept)) (value : Value) (item : Address)
    (stale : Option Address) (unused : fifo.heap item = none) :
    fifoPushItem .debug (some fifo) (some value) (some (item, stale)) =
        .error (.assertion .fifoPush) ∧
      Exists fun pushed : Fifo Value =>
        fifoPushItem .release (some fifo) (some value) (some (item, stale)) =
            .ok (.ok, some pushed) ∧
          Represents pushed (some kept) := by
  rcases represents with ⟨address, old, head, tail, live⟩
  have different : address ≠ item := by
    intro same
    rw [same, unused] at live
    cases live
  have occupied : ¬ ((fifo.store item ⟨value, stale⟩).tail = none ∧
      (fifo.store item ⟨value, stale⟩).head = none) := by
    rintro ⟨_, impossible⟩
    cases head.symm.trans impossible
  have second : (fifo.store item ⟨value, stale⟩).tail ≠ none ∨
      (fifo.store item ⟨value, stale⟩).head ≠ none := by
    refine .inr ?_
    intro impossible
    cases head.symm.trans impossible
  refine ⟨?_, fifo.store item ⟨value, stale⟩, ?_, ?_⟩
  · simp only [fifoPushItem, fifoPush, Fifo.link, if_neg occupied, if_pos second]
    rfl
  · simp only [fifoPushItem, fifoPush, Fifo.link, if_neg occupied, if_pos second]
    rfl
  · refine ⟨address, old, head, tail, ?_⟩
    exact (Function.update_of_ne different _ _).trans live

/-- A pop returns the content and leaves the queue empty. -/
theorem fifoPopItem_represents {fifo : Fifo Value} {slot : Option Value}
    (represents : Represents fifo slot) :
    Exists fun popped : Fifo Value =>
      fifoPopItem (some fifo) = .ok (slot, some popped) ∧ Represents popped none := by
  cases slot with
  | none =>
      refine ⟨fifo, ?_, represents⟩
      have empty : fifo.head = none ∧ fifo.tail = none := represents
      simp only [fifoPopItem, fifoPop, Fifo.unlink, if_pos empty]
      rfl
  | some value =>
      rcases represents with ⟨address, stale, head, tail, live⟩
      refine ⟨Fifo.free { fifo with head := none, tail := none } address, ?_, rfl, rfl⟩
      have occupied : ¬ (fifo.head = none ∧ fifo.tail = none) := by
        rintro ⟨impossible, _⟩
        cases head.symm.trans impossible
      have single : fifo.head ≠ none ∧ fifo.tail = fifo.head := by
        rw [head, tail]
        exact ⟨Option.some_ne_none address, rfl⟩
      simp only [fifoPopItem, fifoPop, Fifo.unlink, if_neg occupied, if_pos single]
      simp only [head, Fifo.load, live, bind, Except.bind]
      rfl

/-! ## Runs of producers and the consumer -/

/-- One critical section, with the answer of the allocator to a push. -/
inductive Operation (Value : Type) where
  | push (producer : Nat) (value : Value) (item : Address) (stale : Option Address)
  | pop

/-- What a caller gets back. -/
inductive Response (Value : Type) where
  | pushed (status : PdnsStatus)
  | popped (item : Option Value)
  deriving DecidableEq

/-- The queue, the responses so far, whether some push reached the assertion,
and the fault that ended the process. -/
structure Exchange (Value : Type) where
  fifo : Option (Fifo Value)
  responses : List (Response Value)
  misplaced : Bool
  crashed : Option Fault

def Exchange.start : Exchange Value :=
  ⟨fifoInit true, [], false, none⟩

def Exchange.record (state : Exchange Value) (misplaced : Bool)
    (result : Except Fault (Response Value × Option (Fifo Value))) : Exchange Value :=
  match result with
  | .error fault =>
      { state with misplaced := state.misplaced || misplaced, crashed := some fault }
  | .ok (response, fifo) =>
      { state with
        fifo := fifo
        responses := state.responses ++ [response]
        misplaced := state.misplaced || misplaced }

/-- One step.  The allocator never hands out an address that is in use, and
nothing moves after a crash. -/
def step (build : Build) : PartialStep (Exchange Value) (Operation Value) :=
  fun state operation =>
    match state.fifo, state.crashed, operation with
    | some fifo, none, .push _ value item stale =>
        if (fifo.heap item).isNone then
          some (state.record (decide fifo.Misplaced)
            ((fifoPushItem build state.fifo (some value) (some (item, stale))).map
              fun pushed => (.pushed pushed.1, pushed.2)))
        else none
    | some _, none, .pop =>
        some (state.record false
          ((fifoPopItem state.fifo).map fun popped => (.popped popped.1, popped.2)))
    | _, _, _ => none

/-! ## The contract -/

/-- The answers of an unbounded first-in first-out queue. -/
def answers : List Value -> List (Operation Value) -> List (Response Value)
  | _, [] => []
  | queue, .push _ value _ _ :: operations =>
      .pushed .ok :: answers (queue ++ [value]) operations
  | [], .pop :: operations => .popped none :: answers [] operations
  | value :: queue, .pop :: operations => .popped (some value) :: answers queue operations

/-- The run behaved as such a queue, and no push reached the assertion. -/
structure RefinesQueue (operations : List (Operation Value)) (state : Exchange Value) : Prop where
  alive : state.crashed = none
  responses : state.responses = answers [] operations
  unreached : state.misplaced = false

/-- Between any two pushes there is a pop. -/
def Separated : Bool -> List (Operation Value) -> Prop
  | _, [] => True
  | occupied, .push _ _ _ _ :: operations => occupied = false ∧ Separated true operations
  | _, .pop :: operations => Separated false operations

theorem misplaced_stays {build : Build} {state final : Exchange Value}
    {operations : List (Operation Value)}
    (ran : (step build).run state operations = some final)
    (already : state.misplaced = true) : final.misplaced = true := by
  have kept : forall (state : Exchange Value) misplaced result, state.misplaced = true ->
      (state.record misplaced result).misplaced = true := by
    intro state misplaced result reached
    cases result with
    | error fault => simp only [Exchange.record, reached, Bool.true_or]
    | ok pair => simp only [Exchange.record, reached, Bool.true_or]
  have keeps : forall (state : Exchange Value) operation next,
      step build state operation = some next -> state.misplaced = true ->
        next.misplaced = true := by
    intro state operation next taken reached
    unfold step at taken
    split at taken
    · split at taken
      · cases Option.some.inj taken
        exact kept _ _ _ reached
      · cases taken
    · cases Option.some.inj taken
      exact kept _ _ _ reached
    · cases taken
  exact PartialStep.run_invariant keeps ran already

theorem step_push_empty {build : Build} {state next : Exchange Value} {fifo : Fifo Value}
    {producer : Nat} {value : Value} {item : Address} {stale : Option Address}
    (taken : step build state (.push producer value item stale) = some next)
    (present : state.fifo = some fifo) (represents : Represents fifo none)
    (alive : state.crashed = none) :
    Exists fun pushed => Represents pushed (some value) ∧
      next = { state with
        fifo := some pushed, responses := state.responses ++ [.pushed .ok] } := by
  rcases fifoPushItem_empty build represents value item stale with ⟨pushed, answered, holds⟩
  have placed : decide fifo.Misplaced = false := by
    apply decide_eq_false
    intro reached
    cases represents.misplaced_iff.mp reached
  refine ⟨pushed, holds, ?_⟩
  simp only [step, present, alive] at taken
  by_cases unused : (fifo.heap item).isNone = true
  · rw [if_pos unused, answered, placed] at taken
    simpa only [Exchange.record, Except.map, Bool.or_false, alive] using
      (Option.some.inj taken).symm
  · rw [if_neg unused] at taken
    cases taken

/-- A push on an occupied queue reaches the assertion, in either build. -/
theorem step_push_occupied {build : Build} {state next : Exchange Value} {fifo : Fifo Value}
    {producer : Nat} {value kept : Value} {item : Address} {stale : Option Address}
    (taken : step build state (.push producer value item stale) = some next)
    (present : state.fifo = some fifo) (represents : Represents fifo (some kept))
    (alive : state.crashed = none) : next.misplaced = true := by
  have reached : decide fifo.Misplaced = true := by
    apply decide_eq_true
    exact represents.misplaced_iff.mpr rfl
  simp only [step, present, alive] at taken
  by_cases unused : (fifo.heap item).isNone = true
  · rw [if_pos unused, reached] at taken
    rw [← Option.some.inj taken]
    cases fifoPushItem build (some fifo) (some value) (some (item, stale)) with
    | error fault => exact Bool.or_true _
    | ok pair => exact Bool.or_true _
  · rw [if_neg unused] at taken
    cases taken

theorem step_pop {build : Build} {state next : Exchange Value} {fifo : Fifo Value}
    {slot : Option Value} (taken : step build state .pop = some next)
    (present : state.fifo = some fifo) (represents : Represents fifo slot)
    (alive : state.crashed = none) :
    Exists fun popped => Represents popped none ∧
      next = { state with
        fifo := some popped, responses := state.responses ++ [.popped slot] } := by
  rcases fifoPopItem_represents represents with ⟨popped, answered, holds⟩
  refine ⟨popped, holds, ?_⟩
  simp only [step, present, alive] at taken
  rw [answered] at taken
  simpa only [Exchange.record, Except.map, Bool.or_false, alive] using
    (Option.some.inj taken).symm

theorem answers_pop (slot : Option Value) (operations : List (Operation Value)) :
    answers slot.toList (.pop :: operations) = .popped slot :: answers [] operations := by
  cases slot with
  | none => rfl
  | some value => rfl

/-- While pushes are separated by pops the queue answers as it should; the
first push that is not reaches the assertion. -/
theorem run_represents {build : Build} {state final : Exchange Value} {fifo : Fifo Value}
    {slot : Option Value} {operations : List (Operation Value)}
    (ran : (step build).run state operations = some final)
    (present : state.fifo = some fifo) (represents : Represents fifo slot)
    (alive : state.crashed = none) :
    (Separated slot.isSome operations ->
      final.crashed = none ∧ final.misplaced = state.misplaced ∧
        final.responses = state.responses ++ answers slot.toList operations) ∧
    (¬ Separated slot.isSome operations -> final.misplaced = true) := by
  induction operations generalizing state fifo slot with
  | nil =>
      cases Option.some.inj ran
      constructor
      · intro _
        exact ⟨alive, rfl, (List.append_nil _).symm⟩
      · intro crowded
        exact absurd trivial crowded
  | cons operation operations ih =>
      rcases PartialStep.run_cons_eq_some.mp ran with ⟨next, taken, rest⟩
      cases operation with
      | push producer value item stale =>
          cases slot with
          | none =>
              rcases step_push_empty taken present represents alive with ⟨pushed, holds, rfl⟩
              have later := ih rest rfl holds alive
              constructor
              · intro separated
                rcases later.1 separated.2 with ⟨alive', placed, answered⟩
                refine ⟨alive', placed, ?_⟩
                rw [answered, List.append_assoc]
                rfl
              · intro crowded
                apply later.2
                intro separated
                exact crowded ⟨rfl, separated⟩
          | some kept =>
              constructor
              · intro separated
                cases separated.1
              · intro _
                exact misplaced_stays rest (step_push_occupied taken present represents alive)
      | pop =>
          rcases step_pop taken present represents alive with ⟨popped, holds, rfl⟩
          have later := ih rest rfl holds alive
          constructor
          · intro separated
            rcases later.1 separated with ⟨alive', placed, answered⟩
            refine ⟨alive', placed, ?_⟩
            rw [answers_pop, answered, List.append_assoc]
            rfl
          · intro crowded
            exact later.2 crowded

/-- In either build the queue behaves as an unbounded first-in first-out queue
exactly on the schedules in which no push follows another without a pop
between them. -/
theorem fifo_refines_queue_iff (build : Build) (operations : List (Operation Value))
    (final : Exchange Value) (ran : (step build).run .start operations = some final) :
    RefinesQueue operations final ↔ Separated false operations := by
  rcases represents_init Value with ⟨fifo, present, represents⟩
  have spec := run_represents ran present represents rfl
  constructor
  · intro refines
    by_contra crowded
    have reached := spec.2 crowded
    rw [refines.unreached] at reached
    cases reached
  · intro separated
    rcases spec.1 separated with ⟨alive, placed, answered⟩
    exact ⟨alive, answered, placed⟩

/-- Two producers, the second one after the first statement was taken. -/
def separatedPushes : List (Operation Nat) :=
  [.push 0 7 100 none, .pop, .push 1 8 100 (some 100), .pop, .pop]

theorem fifo_refines_queue_iff_separatedPushes :
    Exists fun final => (step .debug).run .start separatedPushes = some final ∧
      RefinesQueue separatedPushes final := by
  have enabled : ((step .debug).run .start separatedPushes).isSome = true := by decide
  rcases Option.isSome_iff_exists.mp enabled with ⟨final, ran⟩
  refine ⟨final, ran, ?_⟩
  apply (fifo_refines_queue_iff .debug separatedPushes final ran).mpr
  exact ⟨rfl, rfl, trivial⟩

/-- Without assertions the second of two pushes in a row is reported as stored
and is never returned. -/
theorem crowded_push_dropped :
    Exists fun final =>
      (step .release).run .start
          [.push 0 7 100 none, .push 1 8 200 none, .pop, .pop] = some final ∧
        final.responses = [.pushed .ok, .pushed .ok, .popped (some 7), .popped none] ∧
        ¬ RefinesQueue [.push 0 7 100 none, .push 1 8 200 none, .pop, .pop] final := by
  refine ⟨_, rfl, rfl, ?_⟩
  intro refines
  have impossible := refines.responses
  revert impossible
  decide

end Queue
end PdnsLogger
