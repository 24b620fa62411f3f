import PdnsLogger.Queue.Locking

namespace PdnsLogger
namespace Queue

open Foundation Program

/-!
# Critical sections are atomic

The runs of `Locking`, in which a critical section is taken statement by statement
and any thread may be interrupted in the middle of one, are compared with the runs
of `Exchange`, in which it is one step.  A call takes effect when it unlocks.

`Midway` relates the two ends of the list in the middle of a section with what they
were when the section began.  The items fall into those the atomic queue knows and
those that belong to one thread alone: an item that is allocated and not yet pushed,
or popped and not yet freed.
-/

variable {Value : Type}

/-! ## Calls and answers by thread -/

def Operation.party : Operation Value -> Party
  | .push producer _ _ _ => .producer producer
  | .pop => .consumer

def PushCall.operation (call : PushCall Value) : Operation Value :=
  .push call.producer call.value call.item call.stale

def LockMove.operation : LockMove Value -> Option (Operation Value)
  | .push call => some call.operation
  | .pop => some .pop
  | _ => none

def callsBy (party : Party) (operations : List (Operation Value)) : List (Operation Value) :=
  operations.filter fun operation => operation.party = party

def answersBy (party : Party) (answers : List (Party × Response Value)) : List (Response Value) :=
  (answers.filter fun answer => answer.1 = party).map Prod.snd

def answersOf (history : List (Operation Value × Response Value)) : List (Party × Response Value) :=
  history.map fun entry => (entry.1.party, entry.2)

/-- The call of a thread that has not taken effect yet. -/
def Point.underway : Point Value -> List (Operation Value)
  | .pushing call _ => [call.operation]
  | .lockingToWait => [.pop]
  | .waiting => [.pop]
  | .blocked => [.pop]
  | .relocking => [.pop]
  | .unlockingAfterWait => [.pop]
  | .popping _ => [.pop]
  | _ => []

/-- The answer to a call that has taken effect and not returned yet. -/
def Point.owed (heap : Address -> Option (FifoItem Value)) : Point Value -> List (Response Value)
  | .lockingToSignal => [.pushed .ok]
  | .signalling => [.pushed .ok]
  | .unlockingAfterSignal => [.pushed .ok]
  | .reading item => [.popped ((heap item).map FifoItem.data)]
  | .freeing _ value => [.popped (some value)]
  | _ => []

/-- The call that takes effect with the next statement of a thread, and its answer. -/
def Point.effect (heap : Address -> Option (FifoItem Value)) :
    Point Value -> Option (Operation Value × Response Value)
  | .pushing call .unlocking => some (call.operation, .pushed .ok)
  | .popping (.unlocking none) => some (.pop, .popped none)
  | .popping (.unlocking (some item)) => some (.pop, .popped ((heap item).map FifoItem.data))
  | _ => none

def Locking.effect (state : Locking Value) :
    LockMove Value -> Option (Operation Value × Response Value)
  | .advance party =>
      match state.handlers party with
      | .idle => (state.points party).effect state.fifo.heap
      | _ => none
  | _ => none

theorem Locking.effect_eq_some {state : Locking Value} {move : LockMove Value}
    {entry : Operation Value × Response Value} (effect : state.effect move = some entry) :
    Exists fun party => move = .advance party ∧ state.handlers party = .idle ∧
      (state.points party).effect state.fifo.heap = some entry := by
  cases move with
  | advance party =>
      simp only [Locking.effect] at effect
      split at effect
      next idle => exact ⟨party, rfl, idle, effect⟩
      next => cases effect
  | _ => cases effect

/-- The calls begun in a run. -/
def callsBegun (build : Build) : Locking Value -> List (LockMove Value) -> List (Operation Value) :=
  (act build).collected fun _ move => move.operation

/-- The calls that take effect in a run, in the order of their unlocks. -/
def callsEffected (build : Build) :
    Locking Value -> List (LockMove Value) -> List (Operation Value × Response Value) :=
  (act build).collected Locking.effect

/-! ## In the middle of a section -/

def SameEnds (before now : Fifo Value) : Prop :=
  now.head = before.head ∧ now.tail = before.tail

def PushPoint.Midway (build : Build) (item : Address) (before now : Fifo Value) :
    PushPoint -> Prop
  | .locking => True
  | .testing => SameEnds before now
  | .writingTail => before.head = none ∧ SameEnds before now
  | .writingHead => before.head = none ∧ now.head = none ∧ now.tail = some item
  | .retesting => before.head ≠ none ∧ SameEnds before now
  | .asserting => before.head ≠ none ∧ SameEnds before now
  | .linkingNext => False
  | .linkingHead => False
  | .unlocking =>
      before.head = none ∧ now.head = some item ∧ now.tail = some item ∨
        before.head ≠ none ∧ build = .release ∧ SameEnds before now

def PopPoint.Midway (before now : Fifo Value) : PopPoint -> Prop
  | .locking => True
  | .testingEmpty => SameEnds before now
  | .testingSingle => before.head ≠ none ∧ SameEnds before now
  | .taking => before.head ≠ none ∧ SameEnds before now
  | .clearingTail item => before.head = some item ∧ SameEnds before now
  | .clearingHead item => before.head = some item ∧ now.head = some item ∧ now.tail = none
  | .takingFirst => False
  | .advancing _ => False
  | .unlocking none => before.head = none ∧ SameEnds before now
  | .unlocking (some item) => before.head = some item ∧ now.head = none ∧ now.tail = none

def Point.Midway (build : Build) (before now : Fifo Value) : Point Value -> Prop
  | .pushing call point => point.Midway build call.item before now
  | .popping point => point.Midway before now
  | _ => True

theorem Represents.ends {fifo : Fifo Value} {slot : Option Value}
    (represents : Represents fifo slot) : fifo.tail = fifo.head := by
  cases slot with
  | none => exact represents.2.trans represents.1.symm
  | some value =>
      rcases represents with ⟨address, _, head, tail, _⟩
      exact tail.trans head.symm

/-- An item that is not in the list may be written to memory. -/
theorem Represents.store {fifo : Fifo Value} {slot : Option Value}
    (represents : Represents fifo slot) {item : Address} (unused : fifo.heap item = none)
    (stored : FifoItem Value) : Represents (fifo.store item stored) slot := by
  cases slot with
  | none => exact represents
  | some value =>
      rcases represents with ⟨address, stale, head, tail, live⟩
      have different : address ≠ item := by
        rintro rfl
        rw [unused] at live
        cases live
      exact ⟨address, stale, head, tail, (Function.update_of_ne different _ _).trans live⟩

/-- A statement of `fifo_push`.  The branch that would link the item is not
reached. -/
theorem PushPoint.Midway.next {build : Build} {call : PushCall Value}
    {before now after : Fifo Value} {point next : PushPoint} (ends : before.tail = before.head)
    (midway : point.Midway build call.item before now)
    (inside : point.locks = 1 ∧ point ≠ .unlocking)
    (moved : point.next build call now = .ok (next, after)) :
    next.Midway build call.item before after ∧ after.heap = now.heap := by
  cases point with
  | locking => cases inside.1
  | unlocking => exact absurd rfl inside.2
  | linkingNext => exact midway.elim
  | linkingHead => exact midway.elim
  | testing =>
      cases Except.ok.inj moved
      rcases midway with ⟨head, tail⟩
      split
      next empty => exact ⟨⟨head.symm.trans empty.2, head, tail⟩, rfl⟩
      next occupied =>
        refine ⟨⟨?_, head, tail⟩, rfl⟩
        intro null
        exact occupied ⟨tail.trans (ends.trans null), head.trans null⟩
  | writingTail =>
      cases Except.ok.inj moved
      exact ⟨⟨midway.1, midway.2.1.trans midway.1, rfl⟩, rfl⟩
  | writingHead =>
      cases Except.ok.inj moved
      exact ⟨.inl ⟨midway.1, rfl, midway.2.2⟩, rfl⟩
  | retesting =>
      cases Except.ok.inj moved
      rw [if_pos (.inr (midway.2.1.symm ▸ midway.1))]
      exact ⟨midway, rfl⟩
  | asserting =>
      cases build with
      | debug => cases moved
      | release =>
          cases Except.ok.inj moved
          exact ⟨.inr ⟨midway.1, rfl, midway.2⟩, rfl⟩

theorem PushPoint.Midway.failed {build : Build} {call : PushCall Value} {before now : Fifo Value}
    {point : PushPoint} {fault : Fault} (midway : point.Midway build call.item before now)
    (failed : point.next build call now = .error fault) :
    before.head ≠ none ∧ build = .debug ∧ fault = .assertion .fifoPush := by
  cases point with
  | asserting =>
      cases build with
      | debug =>
          cases failed
          exact ⟨midway.1, rfl, rfl⟩
      | release => cases failed
  | _ => cases failed

/-- A statement of `fifo_pop`.  The branch for a longer list is not reached. -/
theorem PopPoint.Midway.next {before now : Fifo Value} {point : PopPoint}
    (ends : before.tail = before.head) (midway : point.Midway before now)
    (inside : point.locks = 1 ∧ forall item, point ≠ .unlocking item) :
    Exists fun next => Exists fun after => point.next now = .ok (next, after) ∧
      next.Midway before after ∧ after.heap = now.heap := by
  cases point with
  | locking => cases inside.1
  | unlocking item => exact absurd rfl (inside.2 item)
  | takingFirst => exact midway.elim
  | advancing item => exact midway.elim
  | testingEmpty =>
      refine ⟨_, _, rfl, ?_, rfl⟩
      rcases midway with ⟨head, tail⟩
      split
      next empty => exact ⟨head.symm.trans empty.1, head, tail⟩
      next occupied =>
        refine ⟨?_, head, tail⟩
        intro null
        exact occupied ⟨head.trans null, tail.trans (ends.trans null)⟩
  | testingSingle =>
      refine ⟨_, _, rfl, ?_, rfl⟩
      rcases midway with ⟨nonnull, head, tail⟩
      have single : now.head ≠ none ∧ now.tail = now.head := by
        rw [head, tail]
        exact ⟨nonnull, ends⟩
      rw [if_pos single]
      exact ⟨nonnull, head, tail⟩
  | taking =>
      rcases midway with ⟨nonnull, head, tail⟩
      cases first : before.head with
      | none => exact absurd first nonnull
      | some item =>
          rw [first] at head
          simp only [PopPoint.next, head]
          exact ⟨_, _, rfl, ⟨first, head.trans first.symm, tail⟩, rfl⟩
  | clearingTail item => exact ⟨_, _, rfl, ⟨midway.1, midway.2.1.trans midway.1, rfl⟩, rfl⟩
  | clearingHead item => exact ⟨_, _, rfl, ⟨midway.1, rfl, midway.2.2⟩, rfl⟩

/-! ## The items of the threads -/

/-- The item that belongs to a thread alone. -/
def Point.owned : Point Value -> Option Address
  | .pushing call _ => some call.item
  | .reading item => some item
  | .freeing item _ => some item
  | _ => none

/-- The item is in memory as the thread expects it. -/
def Point.Filled (heap : Address -> Option (FifoItem Value)) : Point Value -> Prop
  | .pushing call _ => heap call.item = some ⟨call.value, call.stale⟩
  | .reading item => (heap item).isSome = true
  | .freeing item _ => (heap item).isSome = true
  | _ => True

/-- A thread looks at no item but its own. -/
theorem Point.Filled.congr {heap other : Address -> Option (FifoItem Value)} {point : Point Value}
    (filled : point.Filled heap)
    (same : forall address, point.owned = some address -> other address = heap address) :
    point.Filled other := by
  cases point with
  | pushing call => exact (same call.item rfl).trans filled
  | reading item =>
      change (other item).isSome = true
      rw [same item rfl]
      exact filled
  | freeing item =>
      change (other item).isSome = true
      rw [same item rfl]
      exact filled
  | _ => trivial

theorem Point.Filled.isSome {heap : Address -> Option (FifoItem Value)} {point : Point Value}
    (filled : point.Filled heap) {address : Address} (owned : point.owned = some address) :
    (heap address).isSome = true := by
  cases point with
  | pushing call =>
      cases Option.some.inj owned
      exact congrArg Option.isSome filled
  | reading item =>
      cases Option.some.inj owned
      exact filled
  | freeing item =>
      cases Option.some.inj owned
      exact filled
  | _ => cases owned

/-- The ends of the list do not depend on the items. -/
theorem Point.Midway.heap {build : Build} {before now : Fifo Value} {point : Point Value}
    (midway : point.Midway build before now) (heap : Address -> Option (FifoItem Value)) :
    point.Midway build before { now with heap := heap } := by
  cases point with
  | pushing call point => cases point <;> exact midway
  | popping point =>
      cases point with
      | unlocking item => cases item <;> exact midway
      | _ => exact midway
  | _ => trivial

/-- A queue whose sections are atomic, and one in the middle of its sections.  The
two ends agree when nobody is in a section, and are midway to the next agreement when
somebody is.  The items agree but for those of single threads: such an item does not
exist yet in the atomic queue, or does not any more. -/
structure Simulates (build : Build) (state : Locking Value) (fifo : Fifo Value)
    (slot : Option Value) : Prop where
  content : Represents fifo slot
  settled : (forall party, (state.points party).locks = 0) -> SameEnds fifo state.fifo
  midway : forall party, 0 < (state.points party).locks ->
    (state.points party).Midway build fifo state.fifo
  shared : forall address, (forall party, (state.points party).owned ≠ some address) ->
    fifo.heap address = state.fifo.heap address
  hidden : forall party address, (state.points party).owned = some address ->
    fifo.heap address = none
  apart : forall one other address, (state.points one).owned = some address ->
    (state.points other).owned = some address -> one = other
  filled : forall party, (state.points party).Filled state.fifo.heap

/-- A move that a thread makes alone: it leaves the sections and the items as they
are. -/
structure Alike (old new : Point Value) : Prop where
  locks : new.locks = old.locks
  owned : new.owned = old.owned
  midway : forall {build : Build} {before now : Fifo Value}, old.Midway build before now ->
    new.Midway build before now
  filled : forall {heap : Address -> Option (FifoItem Value)}, old.Filled heap -> new.Filled heap

theorem Alike.refl (point : Point Value) : Alike point point :=
  ⟨rfl, rfl, id, id⟩

section Updates

variable {points : Party -> Point Value} {party : Party} {point : Point Value}

theorem locks_update (locks : point.locks = (points party).locks) (other : Party) :
    (Function.update points party point other).locks = (points other).locks := by
  by_cases here : other = party
  · subst here
    rw [Function.update_self, locks]
  · rw [Function.update_of_ne here]

theorem owned_update (owned : point.owned = (points party).owned) (other : Party) :
    (Function.update points party point other).owned = (points other).owned := by
  by_cases here : other = party
  · subst here
    rw [Function.update_self, owned]
  · rw [Function.update_of_ne here]

theorem owned_update_cases {other : Party} {address : Address}
    (owned : (Function.update points party point other).owned = some address) :
    other = party ∧ point.owned = some address ∨
      other ≠ party ∧ (points other).owned = some address := by
  by_cases here : other = party
  · rw [here, Function.update_self] at owned
    exact .inl ⟨here, owned⟩
  · rw [Function.update_of_ne here] at owned
    exact .inr ⟨here, owned⟩

/-- What nobody owns after a move was not owned by the other threads before. -/
theorem unowned_of_update {address : Address}
    (free : forall other, (Function.update points party point other).owned ≠ some address)
    (mine : (points party).owned ≠ some address) (other : Party) :
    (points other).owned ≠ some address := by
  by_cases here : other = party
  · rw [here]
    exact mine
  · have still := free other
    rw [Function.update_of_ne here] at still
    exact still

/-- A thread takes an item that nobody owns. -/
theorem apart_update {item : Address} (taken : point.owned = some item)
    (unowned : forall other, (points other).owned ≠ some item)
    (apart : forall one other address, (points one).owned = some address ->
      (points other).owned = some address -> one = other)
    (one other : Party) (address : Address)
    (first : (Function.update points party point one).owned = some address)
    (second : (Function.update points party point other).owned = some address) :
    one = other := by
  have elsewhere : forall {who : Party}, (points who).owned = some address -> address ≠ item := by
    rintro who owned rfl
    exact unowned who owned
  rcases owned_update_cases first with ⟨self, mine⟩ | ⟨_, before⟩
  · rcases owned_update_cases second with ⟨too, _⟩ | ⟨_, later⟩
    · exact self.trans too.symm
    · exact absurd (Option.some.inj (mine.symm.trans taken)) (elsewhere later)
  · rcases owned_update_cases second with ⟨_, mine⟩ | ⟨_, later⟩
    · exact absurd (Option.some.inj (mine.symm.trans taken)) (elsewhere before)
    · exact apart one other address before later

theorem alike_update (alike : Alike (points party) point) (other : Party) :
    Alike (points other) (Function.update points party point other) := by
  by_cases here : other = party
  · subst here
    rw [Function.update_self]
    exact alike
  · rw [Function.update_of_ne here]
    exact .refl _

end Updates

namespace Simulates

variable {build : Build} {state next : Locking Value} {fifo : Fifo Value} {slot : Option Value}
  {party : Party}

theorem start : Simulates build (Locking.start : Locking Value) ⟨none, none, fun _ => none⟩
    none where
  content := ⟨rfl, rfl⟩
  settled := fun _ => ⟨rfl, rfl⟩
  midway := fun _ => nofun
  shared := fun _ _ => rfl
  hidden := fun _ _ => nofun
  apart := fun _ _ _ => nofun
  filled := fun _ => trivial

theorem alike (simulates : Simulates build state fifo slot) (same : next.fifo = state.fifo)
    (alike : forall party, Alike (state.points party) (next.points party)) :
    Simulates build next fifo slot where
  content := simulates.content
  settled := by
    intro outside
    rw [same]
    exact simulates.settled fun party => (alike party).locks ▸ outside party
  midway := by
    intro party inside
    rw [same]
    rw [(alike party).locks] at inside
    exact (alike party).midway (simulates.midway party inside)
  shared := by
    intro address unowned
    rw [same]
    exact simulates.shared address fun party => (alike party).owned ▸ unowned party
  hidden := fun party address owned =>
    simulates.hidden party address ((alike party).owned ▸ owned)
  apart := fun one other address first second =>
    simulates.apart one other address ((alike one).owned ▸ first) ((alike other).owned ▸ second)
  filled := by
    intro party
    rw [same]
    exact (alike party).filled (simulates.filled party)

/-- A thread moves on with the item that it owns, and the items stay as they are. -/
theorem keeps {point : Point Value} (simulates : Simulates build state fifo slot)
    (points : next.points = Function.update state.points party point)
    (heap : next.fifo.heap = state.fifo.heap)
    (owned : point.owned = (state.points party).owned) (filled : point.Filled state.fifo.heap)
    (settled : (forall party, (next.points party).locks = 0) -> SameEnds fifo next.fifo)
    (midway : forall party, 0 < (next.points party).locks ->
      (next.points party).Midway build fifo next.fifo) : Simulates build next fifo slot where
  content := simulates.content
  settled := settled
  midway := midway
  shared := by
    intro address unowned
    rw [heap]
    apply simulates.shared
    intro other
    rw [← owned_update owned other, ← points]
    exact unowned other
  hidden := by
    intro other address
    rw [points, owned_update owned]
    exact simulates.hidden other address
  apart := by
    intro one other address
    rw [points, owned_update owned, owned_update owned]
    exact simulates.apart one other address
  filled := by
    rw [points, heap]
    exact (Function.forall_update_iff _ _).mpr ⟨filled, fun other _ => simulates.filled other⟩

theorem inside {point : Point Value} (simulates : Simulates build state fifo slot)
    (disciplined : Disciplined next)
    (points : next.points = Function.update state.points party point)
    (heap : next.fifo.heap = state.fifo.heap) (locks : point.locks = 1)
    (owned : point.owned = (state.points party).owned)
    (midway : point.Midway build fifo next.fifo)
    (filled : point.Filled state.fifo.heap) : Simulates build next fifo slot := by
  have here : (next.points party).locks = 1 := by
    rw [points, Function.update_self, locks]
  apply simulates.keeps points heap owned filled
  · intro outside
    rw [outside party] at here
    cases here
  · intro other entered
    rw [disciplined.alone entered (Nat.lt_of_lt_of_eq Nat.one_pos here.symm), points,
      Function.update_self]
    exact midway

section Unlock

variable {after : Fifo Value} {point : Point Value}

/-- Behind the unlock nobody is in a section. -/
theorem vacated (disciplined : Disciplined state) (inside : 0 < (state.points party).locks)
    (points : next.points = Function.update state.points party point) (locks : point.locks = 0)
    (other : Party) : (next.points other).locks = 0 := by
  rw [points]
  by_cases here : other = party
  · subst here
    rw [Function.update_self, locks]
  · rw [Function.update_of_ne here]
    by_contra entered
    exact here (disciplined.alone (Nat.pos_of_ne_zero entered) inside)

/-- The end of a section that leaves the items as they are. -/
theorem unlocks (simulates : Simulates build state fifo slot) (disciplined : Disciplined state)
    (inside : 0 < (state.points party).locks)
    (points : next.points = Function.update state.points party point) (locks : point.locks = 0)
    (same : next.fifo = state.fifo) (ends : SameEnds fifo state.fifo)
    (owned : point.owned = (state.points party).owned) (filled : point.Filled state.fifo.heap) :
    Simulates build next fifo slot := by
  apply simulates.keeps points (congrArg Fifo.heap same) owned filled
  · intro _
    rw [same]
    exact ends
  · intro other entered
    rw [vacated disciplined inside points locks other] at entered
    cases entered

/-- The end of a push: the item becomes known to the atomic queue, whether it is
linked or not. -/
theorem publishes {call : PushCall Value} {kept : Option Value}
    (simulates : Simulates build state fifo slot) (disciplined : Disciplined state)
    (here : state.points party = .pushing call .unlocking)
    (points : next.points = Function.update state.points party .lockingToSignal)
    (same : next.fifo = state.fifo) (content : Represents after kept)
    (ends : SameEnds after state.fifo)
    (heap : after.heap = Function.update fifo.heap call.item (some ⟨call.value, call.stale⟩)) :
    Simulates build next after kept := by
  have inside : 0 < (state.points party).locks := by
    rw [here]
    exact Nat.one_pos
  have mine : (state.points party).owned = some call.item := by
    rw [here]
    rfl
  have stored : state.fifo.heap call.item = some ⟨call.value, call.stale⟩ := by
    have filled := simulates.filled party
    rw [here] at filled
    exact filled
  -- The other threads own what they owned, and none of it is this item.
  have others : forall other address, (next.points other).owned = some address ->
      (state.points other).owned = some address ∧ address ≠ call.item := by
    intro other address owned
    rw [points] at owned
    rcases owned_update_cases owned with ⟨_, none⟩ | ⟨self, before⟩
    · cases none
    · refine ⟨before, ?_⟩
      rintro rfl
      exact self (simulates.apart other party _ before mine)
  refine ⟨content, fun _ => same ▸ ends, ?_, ?_, ?_, ?_, ?_⟩
  · intro other entered
    rw [vacated disciplined inside points rfl other] at entered
    cases entered
  · intro address unowned
    rw [same, heap]
    by_cases item : address = call.item
    · rw [item, Function.update_self, stored]
    · rw [Function.update_of_ne item]
      rw [points] at unowned
      apply simulates.shared
      apply unowned_of_update unowned
      rw [mine]
      exact fun same => item (Option.some.inj same).symm
  · intro other address owned
    have before := others other address owned
    rw [heap, Function.update_of_ne before.2]
    exact simulates.hidden other address before.1
  · intro one other address first second
    exact simulates.apart one other address (others one address first).1
      (others other address second).1
  · rw [points, same]
    exact (Function.forall_update_iff _ _).mpr ⟨trivial, fun other _ => simulates.filled other⟩

/-- The end of a pop that took an item, which the atomic queue has freed. -/
theorem withdraws {item : Address} {stored : FifoItem Value}
    (simulates : Simulates build state fifo slot) (disciplined : Disciplined state)
    (here : state.points party = .popping (.unlocking (some item)))
    (points : next.points = Function.update state.points party (.reading item))
    (same : next.fifo = state.fifo) (live : fifo.heap item = some stored)
    (ends : state.fifo.head = none ∧ state.fifo.tail = none) :
    state.fifo.heap item = some stored ∧
      Simulates build next (Fifo.free { fifo with head := none, tail := none } item) none := by
  have inside : 0 < (state.points party).locks := by
    rw [here]
    exact Nat.one_pos
  have unowned : forall other, (state.points other).owned ≠ some item := by
    intro other owned
    have hidden := simulates.hidden other item owned
    rw [live] at hidden
    cases hidden
  have present : state.fifo.heap item = some stored :=
    (simulates.shared item unowned).symm.trans live
  refine ⟨present, ⟨rfl, rfl⟩, fun _ => same ▸ ends, ?_, ?_, ?_, ?_, ?_⟩
  · intro other entered
    rw [vacated disciplined inside points rfl other] at entered
    cases entered
  · intro address free
    have other : address ≠ item := by
      rintro rfl
      exact free party (by rw [points, Function.update_self]; rfl)
    rw [points] at free
    rw [same]
    apply (Function.update_of_ne other _ _).trans
    apply simulates.shared
    apply unowned_of_update free
    rw [here]
    nofun
  · intro other address owned
    rw [points] at owned
    rcases owned_update_cases owned with ⟨_, ⟨⟩⟩ | ⟨_, before⟩
    · exact Function.update_self _ _ _
    · have distinct : address ≠ item := by
        rintro rfl
        exact unowned other before
      exact (Function.update_of_ne distinct _ _).trans (simulates.hidden other address before)
  · rw [points]
    exact apart_update rfl unowned simulates.apart
  · rw [points, same]
    refine (Function.forall_update_iff _ _).mpr ⟨?_, fun other _ => simulates.filled other⟩
    change (state.fifo.heap item).isSome = true
    rw [present]
    rfl

end Unlock

theorem allocates {call : PushCall Value} (simulates : Simulates build state fifo slot)
    (outside : state.points party = .outside)
    (points : next.points = Function.update state.points party (.pushing call .locking))
    (stored : next.fifo = state.fifo.store call.item ⟨call.value, call.stale⟩)
    (fresh : state.fifo.heap call.item = none) : Simulates build next fifo slot := by
  have locks : forall other, (next.points other).locks = (state.points other).locks := by
    rw [points]
    exact locks_update (by rw [outside]; rfl)
  have unowned : forall other, (state.points other).owned ≠ some call.item := by
    intro other owned
    have present := (simulates.filled other).isSome owned
    rw [fresh] at present
    cases present
  have elsewhere : forall address, address ≠ call.item ->
      next.fifo.heap address = state.fifo.heap address := by
    intro address other
    rw [stored]
    exact Function.update_of_ne other _ _
  refine ⟨simulates.content, ?_, ?_, ?_, ?_, ?_, ?_⟩
  · intro nobody
    rw [stored]
    exact simulates.settled fun other => (locks other).symm.trans (nobody other)
  · intro other inside
    rw [locks other] at inside
    have self : other ≠ party := by
      rintro rfl
      rw [outside] at inside
      cases inside
    rw [points, Function.update_of_ne self, stored]
    exact (simulates.midway other inside).heap _
  · intro address free
    have other : address ≠ call.item := by
      rintro rfl
      exact free party (by rw [points, Function.update_self]; rfl)
    rw [points] at free
    rw [elsewhere address other]
    apply simulates.shared
    apply unowned_of_update free
    rw [outside]
    nofun
  · intro other address owned
    rw [points] at owned
    rcases owned_update_cases owned with ⟨_, ⟨⟩⟩ | ⟨_, before⟩
    · exact (simulates.shared _ unowned).trans fresh
    · exact simulates.hidden other address before
  · rw [points]
    exact apart_update rfl unowned simulates.apart
  · rw [points]
    refine (Function.forall_update_iff _ _).mpr ⟨?_, ?_⟩
    · rw [stored]
      exact Function.update_self _ _ _
    · intro other _
      refine (simulates.filled other).congr fun address owned => elsewhere address ?_
      rintro rfl
      exact unowned other owned

theorem frees {item : Address} {value : Value} (simulates : Simulates build state fifo slot)
    (here : state.points party = .freeing item value)
    (points : next.points = Function.update state.points party .outside)
    (freed : next.fifo = state.fifo.free item) : Simulates build next fifo slot := by
  have mine : (state.points party).owned = some item := by
    rw [here]
    rfl
  have elsewhere : forall address, address ≠ item ->
      next.fifo.heap address = state.fifo.heap address := by
    intro address other
    rw [freed]
    exact Function.update_of_ne other _ _
  have owners : forall other address, (next.points other).owned = some address ->
      other ≠ party ∧ (state.points other).owned = some address := by
    intro other address owned
    rw [points] at owned
    rcases owned_update_cases owned with ⟨_, none⟩ | before
    · cases none
    · exact before
  have locks : forall other, (next.points other).locks = (state.points other).locks := by
    rw [points]
    exact locks_update (by rw [here]; rfl)
  refine ⟨simulates.content, ?_, ?_, ?_, ?_, ?_, ?_⟩
  · intro nobody
    rw [freed]
    exact simulates.settled fun other => (locks other).symm.trans (nobody other)
  · intro other inside
    rw [locks other] at inside
    have self : other ≠ party := by
      rintro rfl
      rw [here] at inside
      cases inside
    rw [points, Function.update_of_ne self, freed]
    exact (simulates.midway other inside).heap _
  · intro address free
    by_cases same : address = item
    · subst same
      rw [simulates.hidden party _ mine, freed]
      change none = Function.update state.fifo.heap address none address
      rw [Function.update_self]
    · rw [points] at free
      rw [elsewhere address same]
      apply simulates.shared
      apply unowned_of_update free
      rw [mine]
      exact fun equal => same (Option.some.inj equal).symm
  · intro other address owned
    exact simulates.hidden other address (owners other address owned).2
  · intro one other address first second
    exact simulates.apart one other address (owners one address first).2
      (owners other address second).2
  · rw [points]
    refine (Function.forall_update_iff _ _).mpr ⟨trivial, ?_⟩
    intro other self
    refine (simulates.filled other).congr fun address owned => elsewhere address ?_
    rintro rfl
    exact self (simulates.apart other party _ owned mine)

end Simulates

/-! ## The sections of the atomic queue -/

section Atomic

variable {build : Build} {atomic : Exchange Value} {fifo : Fifo Value} {call : PushCall Value}

theorem step_linked (present : atomic.fifo = some fifo) (alive : atomic.crashed = none)
    (empty : fifo.head = none ∧ fifo.tail = none) (unused : fifo.heap call.item = none) :
    Exists fun next => step build atomic call.operation = some next ∧
      next.fifo = some { fifo.store call.item ⟨call.value, call.stale⟩ with
        head := some call.item, tail := some call.item } ∧
      next.crashed = none ∧ next.responses = atomic.responses ++ [.pushed .ok] := by
  have free : (fifo.heap call.item).isNone = true := by
    rw [unused]
    rfl
  simp only [step, PushCall.operation, present, alive, if_pos free,
    fifoPushItem_of_empty build empty.1 empty.2]
  exact ⟨_, rfl, rfl, alive, rfl⟩

theorem step_dropped {address : Address} (present : atomic.fifo = some fifo)
    (alive : atomic.crashed = none) (occupied : fifo.head = some address)
    (unused : fifo.heap call.item = none) :
    Exists fun next => step .release atomic call.operation = some next ∧
      next.fifo = some (fifo.store call.item ⟨call.value, call.stale⟩) ∧
      next.crashed = none ∧ next.responses = atomic.responses ++ [.pushed .ok] := by
  have free : (fifo.heap call.item).isNone = true := by
    rw [unused]
    rfl
  simp only [step, PushCall.operation, present, alive, if_pos free,
    fifoPushItem_of_occupied occupied]
  exact ⟨_, rfl, rfl, alive, rfl⟩

/-- With assertions a push onto an occupied queue ends the process. -/
theorem step_asserted {kept : Value} (present : atomic.fifo = some fifo)
    (alive : atomic.crashed = none) (content : Represents fifo (some kept))
    (unused : fifo.heap call.item = none) :
    Exists fun next => step .debug atomic call.operation = some next ∧
      next.crashed = some (.assertion .fifoPush) := by
  have free : (fifo.heap call.item).isNone = true := by
    rw [unused]
    rfl
  have failed := (fifoPushItem_occupied content call.value call.item call.stale unused).1
  simp only [step, PushCall.operation, present, alive, if_pos free, failed]
  exact ⟨_, rfl, rfl⟩

theorem step_popped (build : Build) {slot : Option Value} {after : Fifo Value}
    (present : atomic.fifo = some fifo) (alive : atomic.crashed = none)
    (answered : fifoPopItem (some fifo) = .ok (slot, some after)) :
    Exists fun next => step build atomic .pop = some next ∧ next.fifo = some after ∧
      next.crashed = none ∧ next.responses = atomic.responses ++ [.popped slot] := by
  simp only [step, present, alive, answered]
  exact ⟨_, rfl, rfl, alive, rfl⟩

/-- The atomic queue has no other crash than the assertion. -/
theorem step_crashed {slot : Option Value} {next : Exchange Value} {operation : Operation Value}
    {fault : Fault} (present : atomic.fifo = some fifo) (alive : atomic.crashed = none)
    (content : Represents fifo slot) (stepped : step build atomic operation = some next)
    (dead : next.crashed = some fault) : build = .debug ∧ fault = .assertion .fifoPush := by
  cases operation with
  | pop =>
      rcases fifoPopItem_represents content with ⟨_, answered, _⟩
      rcases step_popped build present alive answered with ⟨_, again, _, survived, _⟩
      cases Option.some.inj (stepped.symm.trans again)
      cases survived.symm.trans dead
  | push producer value item stale =>
      let call : PushCall Value := ⟨producer, value, item, stale⟩
      have unused : fifo.heap call.item = none := by
        by_contra used
        simp only [step, present, alive, Option.isNone_iff_eq_none] at stepped
        rw [if_neg used] at stepped
        cases stepped
      cases slot with
      | none =>
          rcases step_linked present alive content unused with ⟨_, again, _, survived, _⟩
          cases Option.some.inj (stepped.symm.trans again)
          cases survived.symm.trans dead
      | some kept =>
          cases build with
          | debug =>
              rcases step_asserted present alive content unused with ⟨_, again, crashed⟩
              cases Option.some.inj (stepped.symm.trans again)
              exact ⟨rfl, Option.some.inj (dead.symm.trans crashed)⟩
          | release =>
              rcases content with ⟨_, _, head, _, _⟩
              rcases step_dropped present alive head unused with ⟨_, again, _, survived, _⟩
              cases Option.some.inj (stepped.symm.trans again)
              cases survived.symm.trans dead

end Atomic

/-! ## Histories -/

/-- The calls that have taken effect, in this order with these answers, make the
atomic queue what it is; every other call is under way, and every answer has been
returned or is owed. -/
structure Recorded (build : Build) (calls : List (Operation Value)) (state : Locking Value)
    (history : List (Operation Value × Response Value)) (atomic : Exchange Value) : Prop where
  ran : (step build).run .start (history.map Prod.fst) = some atomic
  alive : atomic.crashed = none
  responses : atomic.responses = history.map Prod.snd
  calls : forall party, callsBy party calls =
    callsBy party (history.map Prod.fst) ++ (state.points party).underway
  returns : forall party, answersBy party state.returns ++
    (state.points party).owed state.fifo.heap = answersBy party (answersOf history)

theorem callsBy_concat (party : Party) (operations : List (Operation Value))
    (operation : Operation Value) :
    callsBy party (operations ++ [operation]) =
      callsBy party operations ++ if operation.party = party then [operation] else [] := by
  rw [callsBy, List.filter_append]
  congr 1
  by_cases mine : operation.party = party
  · simp [mine]
  · simp [mine]

theorem answersBy_concat (party owner : Party) (answers : List (Party × Response Value))
    (response : Response Value) :
    answersBy party (answers ++ [(owner, response)]) =
      answersBy party answers ++ if owner = party then [response] else [] := by
  rw [answersBy, List.filter_append, List.map_append]
  congr 1
  by_cases mine : owner = party
  · simp [mine]
  · simp [mine]

namespace Recorded

variable {build : Build} {calls : List (Operation Value)} {state next : Locking Value}
  {history : List (Operation Value × Response Value)} {atomic later : Exchange Value}
  {party : Party} {point : Point Value}

theorem start : Recorded build [] (Locking.start : Locking Value) [] .start where
  ran := rfl
  alive := rfl
  responses := rfl
  calls := fun _ => rfl
  returns := fun _ => rfl

theorem alike (recorded : Recorded build calls state history atomic)
    (returns : next.returns = state.returns)
    (underway : forall party, (next.points party).underway = (state.points party).underway)
    (owed : forall party, (next.points party).owed next.fifo.heap =
      (state.points party).owed state.fifo.heap) :
    Recorded build calls next history atomic where
  ran := recorded.ran
  alive := recorded.alive
  responses := recorded.responses
  calls := by
    intro party
    rw [underway]
    exact recorded.calls party
  returns := by
    intro party
    rw [returns, owed]
    exact recorded.returns party

theorem begins {operation : Operation Value} (recorded : Recorded build calls state history atomic)
    (points : next.points = Function.update state.points operation.party point)
    (idle : (state.points operation.party).underway = [])
    (underway : point.underway = [operation]) (returns : next.returns = state.returns)
    (owed : forall party, (next.points party).owed next.fifo.heap =
      (state.points party).owed state.fifo.heap) :
    Recorded build (calls ++ [operation]) next history atomic where
  ran := recorded.ran
  alive := recorded.alive
  responses := recorded.responses
  calls := by
    intro party
    rw [callsBy_concat, recorded.calls party, points]
    by_cases mine : operation.party = party
    · subst mine
      rw [if_pos rfl, idle, Function.update_self, underway, List.append_nil]
    · rw [if_neg mine, Function.update_of_ne (Ne.symm mine), List.append_nil]
  returns := by
    intro party
    rw [returns, owed]
    exact recorded.returns party

/-- A call takes effect, and its answer is returned at once or owed. -/
theorem takesEffect {operation : Operation Value} {response : Response Value}
    (recorded : Recorded build calls state history atomic)
    (stepped : step build atomic operation = some later) (alive : later.crashed = none)
    (responses : later.responses = atomic.responses ++ [response])
    (points : next.points = Function.update state.points operation.party point)
    (underway : (state.points operation.party).underway = [operation] ∧ point.underway = [])
    (heap : next.fifo.heap = state.fifo.heap)
    (unowed : (state.points operation.party).owed state.fifo.heap = [])
    (answered : next.returns = state.returns ∧ point.owed state.fifo.heap = [response] ∨
      next.returns = state.returns ++ [(operation.party, response)] ∧
        point.owed state.fifo.heap = []) :
    Recorded build calls next (history ++ [(operation, response)]) later where
  ran := by
    rw [List.map_append]
    refine PartialStep.run_append_eq_some.mpr ⟨atomic, recorded.ran, ?_⟩
    exact PartialStep.run_cons_eq_some.mpr ⟨later, stepped, rfl⟩
  alive := alive
  responses := by
    rw [responses, recorded.responses, List.map_append]
    rfl
  calls := by
    intro party
    rw [recorded.calls party, List.map_append, List.map_cons, List.map_nil, callsBy_concat, points]
    by_cases mine : operation.party = party
    · subst mine
      rw [if_pos rfl, underway.1, Function.update_self, underway.2, List.append_nil]
    · rw [if_neg mine, Function.update_of_ne (Ne.symm mine), List.append_nil]
  returns := by
    intro party
    have entry : answersOf (history ++ [(operation, response)]) =
        answersOf history ++ [(operation.party, response)] := List.map_append
    rw [entry, answersBy_concat, ← recorded.returns party, points, heap]
    by_cases mine : operation.party = party
    · subst mine
      rw [if_pos rfl, unowed, Function.update_self, List.append_nil]
      rcases answered with ⟨same, owed⟩ | ⟨returned, owed⟩
      · rw [same, owed]
      · rw [returned, owed, answersBy_concat, if_pos rfl, List.append_nil]
    · rw [if_neg mine, Function.update_of_ne (Ne.symm mine), List.append_nil]
      rcases answered with ⟨same, _⟩ | ⟨returned, _⟩
      · rw [same]
      · rw [returned, answersBy_concat, if_neg mine, List.append_nil]

theorem answers {response : Response Value} (recorded : Recorded build calls state history atomic)
    (points : next.points = Function.update state.points party .outside)
    (underway : (state.points party).underway = [])
    (owed : (state.points party).owed state.fifo.heap = [response])
    (returned : next.returns = state.returns ++ [(party, response)])
    (others : forall other, other ≠ party -> (state.points other).owed next.fifo.heap =
      (state.points other).owed state.fifo.heap) :
    Recorded build calls next history atomic where
  ran := recorded.ran
  alive := recorded.alive
  responses := recorded.responses
  calls := by
    intro other
    rw [recorded.calls other, points]
    by_cases self : other = party
    · rw [self, Function.update_self, underway]
      rfl
    · rw [Function.update_of_ne self]
  returns := by
    intro other
    rw [← recorded.returns other, returned, answersBy_concat, points]
    by_cases self : other = party
    · rw [self, Function.update_self, if_pos rfl, owed]
      exact List.append_nil _
    · rw [Function.update_of_ne self, if_neg (Ne.symm self), others other self, List.append_nil]

end Recorded

/-! ## The comparison -/

/-- The run so far is a run of the atomic queue, and a crash is one of its
crashes. -/
structure Linearizes (build : Build) (calls : List (Operation Value)) (state : Locking Value)
    (history : List (Operation Value × Response Value)) (atomic : Exchange Value)
    (fifo : Fifo Value) (slot : Option Value) : Prop where
  present : atomic.fifo = some fifo
  simulates : Simulates build state fifo slot
  recorded : Recorded build calls state history atomic
  explained : forall fault, state.crashed = some fault ->
    Exists fun party => Exists fun operation => Exists fun next =>
      (state.points party).underway = [operation] ∧ step build atomic operation = some next ∧
        next.crashed = some fault

/-- The statements around the waits and signals. -/
inductive Passes : Point Value -> Point Value -> Prop where
  | lockToSignal : Passes .lockingToSignal .signalling
  | signal : Passes .signalling .unlockingAfterSignal
  | lockToWait : Passes .lockingToWait .waiting
  | wait : Passes .waiting .blocked
  | wake : Passes .blocked .relocking
  | relock : Passes .relocking .unlockingAfterWait
  | unlock : Passes .unlockingAfterWait (.popping .locking)

theorem Passes.alike {old new : Point Value} (passes : Passes old new) :
    Alike old new ∧ new.underway = old.underway ∧ forall heap, new.owed heap = old.owed heap := by
  cases passes <;> exact ⟨⟨rfl, rfl, fun _ => trivial, fun _ => trivial⟩, rfl, fun _ => rfl⟩

theorem Point.owed_congr {heap other : Address -> Option (FifoItem Value)} {point : Point Value}
    (same : forall address, point.owned = some address -> other address = heap address) :
    point.owed other = point.owed heap := by
  cases point with
  | reading item =>
      rw [Point.owed, Point.owed, same item rfl]
  | _ => rfl

theorem owed_update {points : Party -> Point Value} {party : Party} {point : Point Value}
    {heap other : Address -> Option (FifoItem Value)}
    (self : point.owed other = (points party).owed heap)
    (others : forall who, who ≠ party -> (points who).owed other = (points who).owed heap)
    (who : Party) :
    (Function.update points party point who).owed other = (points who).owed heap := by
  by_cases here : who = party
  · rw [here, Function.update_self, self]
  · rw [Function.update_of_ne here, others who here]

theorem underway_update {points : Party -> Point Value} {party : Party} {point : Point Value}
    (same : point.underway = (points party).underway) (other : Party) :
    (Function.update points party point other).underway = (points other).underway := by
  by_cases here : other = party
  · rw [here, Function.update_self, same]
  · rw [Function.update_of_ne here]

namespace Linearizes

variable {build : Build} {calls : List (Operation Value)} {state next : Locking Value}
  {history : List (Operation Value × Response Value)} {atomic : Exchange Value}
  {fifo : Fifo Value} {slot : Option Value} {party : Party} {point : Point Value}

theorem start : Linearizes build [] (Locking.start : Locking Value) [] .start
    ⟨none, none, fun _ => none⟩ none where
  present := rfl
  simulates := .start
  recorded := .start
  explained := nofun

theorem handled (linearizes : Linearizes build calls state history atomic fifo slot)
    (points : next.points = state.points) (same : next.fifo = state.fifo)
    (returns : next.returns = state.returns) (crashed : next.crashed = state.crashed) :
    Linearizes build calls next history atomic fifo slot where
  present := linearizes.present
  simulates := by
    refine linearizes.simulates.alike same fun party => ?_
    rw [points]
    exact .refl _
  recorded := by
    refine linearizes.recorded.alike returns ?_ ?_
    · rw [points]
      exact fun _ => rfl
    · rw [points, same]
      exact fun _ => rfl
  explained := by
    rw [crashed, points]
    exact linearizes.explained

theorem passes (linearizes : Linearizes build calls state history atomic fifo slot)
    (alive : next.crashed = none)
    (points : next.points = Function.update state.points party point)
    (passes : Passes (state.points party) point) (same : next.fifo = state.fifo)
    (returns : next.returns = state.returns) :
    Linearizes build calls next history atomic fifo slot where
  present := linearizes.present
  simulates := by
    refine linearizes.simulates.alike same ?_
    rw [points]
    exact alike_update passes.alike.1
  recorded := by
    refine linearizes.recorded.alike returns ?_ ?_
    · rw [points]
      intro other
      by_cases here : other = party
      · rw [here, Function.update_self, passes.alike.2.1]
      · rw [Function.update_of_ne here]
    · rw [points, same]
      intro other
      by_cases here : other = party
      · rw [here, Function.update_self, passes.alike.2.2]
      · rw [Function.update_of_ne here]
  explained := by
    intro fault dead
    rw [alive] at dead
    cases dead

theorem inside (linearizes : Linearizes build calls state history atomic fifo slot)
    (disciplined : Disciplined next) (alive : next.crashed = none)
    (points : next.points = Function.update state.points party point)
    (heap : next.fifo.heap = state.fifo.heap) (returns : next.returns = state.returns)
    (locks : point.locks = 1) (owned : point.owned = (state.points party).owned)
    (midway : point.Midway build fifo next.fifo) (filled : point.Filled state.fifo.heap)
    (underway : point.underway = (state.points party).underway)
    (owed : point.owed state.fifo.heap = (state.points party).owed state.fifo.heap) :
    Linearizes build calls next history atomic fifo slot where
  present := linearizes.present
  simulates := linearizes.simulates.inside disciplined points heap locks owned midway filled
  recorded := by
    refine linearizes.recorded.alike returns ?_ ?_
    · rw [points]
      intro other
      by_cases here : other = party
      · rw [here, Function.update_self, underway]
      · rw [Function.update_of_ne here]
    · rw [points, heap]
      intro other
      by_cases here : other = party
      · rw [here, Function.update_self, owed]
      · rw [Function.update_of_ne here]
  explained := by
    intro fault dead
    rw [alive] at dead
    cases dead

theorem called {call : PushCall Value}
    (linearizes : Linearizes build calls state history atomic fifo slot)
    (alive : state.crashed = none) (outside : state.points (.producer call.producer) = .outside)
    (fresh : state.fifo.heap call.item = none) :
    Linearizes build (calls ++ [call.operation])
      { state.goto (.producer call.producer) (.pushing call .locking) with
        fifo := state.fifo.store call.item ⟨call.value, call.stale⟩ }
      history atomic fifo slot where
  present := linearizes.present
  simulates := linearizes.simulates.allocates outside rfl rfl fresh
  recorded := by
    refine linearizes.recorded.begins rfl ?_ rfl rfl (owed_update ?_ ?_)
    · rw [PushCall.operation, Operation.party, outside]
      rfl
    · rw [outside]
      rfl
    · intro other here
      apply Point.owed_congr
      intro address owned
      refine Function.update_of_ne ?_ _ _
      rintro rfl
      have present := (linearizes.simulates.filled other).isSome owned
      rw [fresh] at present
      cases present
  explained := by
    intro fault dead
    cases alive.symm.trans dead

theorem asked (linearizes : Linearizes build calls state history atomic fifo slot)
    (alive : state.crashed = none) (outside : state.points .consumer = .outside) :
    Linearizes build (calls ++ [.pop]) (state.goto .consumer .lockingToWait) history atomic fifo
      slot where
  present := linearizes.present
  simulates := by
    refine linearizes.simulates.alike rfl (alike_update ?_)
    rw [outside]
    exact ⟨rfl, rfl, fun _ => trivial, fun _ => trivial⟩
  recorded := by
    refine linearizes.recorded.begins rfl (by rw [Operation.party, outside]; rfl) rfl rfl
      (owed_update ?_ fun _ _ => rfl)
    rw [outside]
    rfl
  explained := by
    intro fault dead
    cases alive.symm.trans dead

/-- A thread that goes on behind its lock finds the ends as the last section left
them. -/
theorem undisturbed (linearizes : Linearizes build calls state history atomic fifo slot)
    (disciplined : Disciplined next) (outside : (state.points party).locks = 0)
    (points : next.points = Function.update state.points party point) (locks : point.locks = 1) :
    SameEnds fifo state.fifo := by
  apply linearizes.simulates.settled
  intro other
  by_cases here : other = party
  · rw [here]
    exact outside
  · by_contra entered
    have behind : 0 < (next.points other).locks := by
      rw [points, Function.update_of_ne here]
      exact Nat.pos_of_ne_zero entered
    have inside : 0 < (next.points party).locks := by
      rw [points, Function.update_self, locks]
      exact Nat.one_pos
    exact here (disciplined.alone behind inside)

theorem midway (linearizes : Linearizes build calls state history atomic fifo slot)
    (here : state.points party = point) (inside : point.locks = 1) :
    point.Midway build fifo state.fifo := by
  subst here
  exact linearizes.simulates.midway party (inside.symm ▸ Nat.one_pos)

theorem filled (linearizes : Linearizes build calls state history atomic fifo slot)
    (here : state.points party = point) : point.Filled state.fifo.heap :=
  here ▸ linearizes.simulates.filled party

/-- The assertion of `fifo_push`, which the atomic queue fails as well. -/
theorem asserted {call : PushCall Value} {stage : PushPoint} {fault : Fault}
    (linearizes : Linearizes build calls state history atomic fifo slot)
    (here : state.points party = .pushing call stage) (inside : stage.locks = 1)
    (failed : stage.next build call state.fifo = .error fault) :
    Linearizes build calls { state with crashed := some fault } history atomic fifo slot where
  present := linearizes.present
  simulates := linearizes.simulates.alike rfl fun _ => .refl _
  recorded := linearizes.recorded.alike rfl (fun _ => rfl) fun _ => rfl
  explained := by
    intro reported dead
    cases Option.some.inj dead
    rcases PushPoint.Midway.failed (linearizes.midway here inside) failed with
      ⟨occupied, rfl, rfl⟩
    have unused : fifo.heap call.item = none :=
      linearizes.simulates.hidden party call.item (by rw [here]; rfl)
    have content := linearizes.simulates.content
    cases slot with
    | none => exact absurd content.1 occupied
    | some kept =>
        rcases step_asserted linearizes.present linearizes.recorded.alive content unused with
          ⟨later, stepped, crashed⟩
        exact ⟨party, call.operation, later, by rw [here]; rfl, stepped, crashed⟩

section Effects

variable {call : PushCall Value} {item : Address} {value : Value} {lock : RecursiveLock Party}

/-- The unlock of `fifo_push`: the item is linked, or lost. -/
theorem pushed (linearizes : Linearizes build calls state history atomic fifo slot)
    (disciplined : Disciplined state) (alive : state.crashed = none)
    (here : state.points party = .pushing call .unlocking) :
    Exists fun later => Exists fun after => Exists fun kept =>
      Linearizes build calls { state.goto party .lockingToSignal with lock := lock }
        (history ++ [(call.operation, .pushed .ok)]) later after kept := by
  have unused : fifo.heap call.item = none :=
    linearizes.simulates.hidden party call.item (by rw [here]; rfl)
  cases (disciplined.role here : party = .producer call.producer)
  -- The atomic queue takes the branch that this section has taken.
  have effect : Exists fun later => Exists fun after => Exists fun kept =>
      step build atomic call.operation = some later ∧ later.fifo = some after ∧
        later.crashed = none ∧ later.responses = atomic.responses ++ [.pushed .ok] ∧
        Represents after kept ∧ SameEnds after state.fifo ∧
        after.heap = Function.update fifo.heap call.item (some ⟨call.value, call.stale⟩) := by
    rcases linearizes.midway here rfl with ⟨empty, head, tail⟩ | ⟨occupied, rfl, ends⟩
    · have both : fifo.head = none ∧ fifo.tail = none :=
        ⟨empty, linearizes.simulates.content.ends.trans empty⟩
      rcases step_linked linearizes.present linearizes.recorded.alive both unused with
        ⟨later, stepped, present, survived, responses⟩
      refine ⟨later, _, some call.value, stepped, present, survived, responses, ?_, ⟨head, tail⟩,
        rfl⟩
      exact ⟨call.item, call.stale, rfl, rfl, Function.update_self _ _ _⟩
    · rcases Option.ne_none_iff_exists'.mp occupied with ⟨address, first⟩
      rcases step_dropped linearizes.present linearizes.recorded.alive first unused with
        ⟨later, stepped, present, survived, responses⟩
      exact ⟨later, _, slot, stepped, present, survived, responses,
        linearizes.simulates.content.store unused _, ends, rfl⟩
  rcases effect with
    ⟨later, after, kept, stepped, present, survived, responses, content, ends, heap⟩
  refine ⟨later, after, kept, present, ?_, ?_, ?_⟩
  · exact linearizes.simulates.publishes disciplined here rfl rfl content ends heap
  · refine linearizes.recorded.takesEffect stepped survived responses rfl ⟨?_, rfl⟩ rfl ?_
      (.inl ⟨rfl, rfl⟩)
    · rw [PushCall.operation, Operation.party, here]
      rfl
    · rw [PushCall.operation, Operation.party, here]
      rfl
  · intro fault dead
    cases alive.symm.trans dead

/-- The unlock of `fifo_pop` on an empty queue. -/
theorem poppedNothing (linearizes : Linearizes build calls state history atomic fifo slot)
    (disciplined : Disciplined state) (alive : state.crashed = none)
    (here : state.points party = .popping (.unlocking none)) :
    Exists fun later =>
      Linearizes build calls { state.answer party (.popped none) with lock := lock }
        (history ++ [(.pop, .popped none)]) later fifo slot := by
  cases (disciplined.role here : party = .consumer)
  rcases linearizes.midway here rfl with ⟨empty, ends⟩
  have both : fifo.tail = none := linearizes.simulates.content.ends.trans empty
  rcases step_popped build linearizes.present linearizes.recorded.alive
    (fifoPopItem_of_empty empty both) with ⟨later, stepped, present, survived, responses⟩
  refine ⟨later, present, ?_, ?_, ?_⟩
  · refine linearizes.simulates.unlocks disciplined ?_ rfl rfl rfl ends ?_ trivial
    · rw [here]
      exact Nat.one_pos
    · rw [here]
      rfl
  · refine linearizes.recorded.takesEffect stepped survived responses rfl ⟨?_, rfl⟩ rfl ?_
      (.inr ⟨rfl, rfl⟩)
    · rw [Operation.party, here]
      rfl
    · rw [Operation.party, here]
      rfl
  · intro fault dead
    cases alive.symm.trans dead

/-- The unlock of `fifo_pop` with an item, whose data are still to be read. -/
theorem popped (linearizes : Linearizes build calls state history atomic fifo slot)
    (disciplined : Disciplined state) (alive : state.crashed = none)
    (here : state.points party = .popping (.unlocking (some item))) :
    Exists fun later => Exists fun after =>
      Linearizes build calls { state.goto party (.reading item) with lock := lock }
        (history ++ [(.pop, .popped ((state.fifo.heap item).map FifoItem.data))]) later after
        none := by
  cases (disciplined.role here : party = .consumer)
  rcases linearizes.midway here rfl with ⟨first, ends⟩
  have content := linearizes.simulates.content
  cases slot with
  | none => cases content.1.symm.trans first
  | some value =>
      rcases content with ⟨address, stale, head, tail, live⟩
      cases Option.some.inj (head.symm.trans first)
      rcases step_popped build linearizes.present linearizes.recorded.alive
        (fifoPopItem_of_occupied head tail live) with ⟨later, stepped, present, survived, responses⟩
      have withdrawn : _ ∧
          Simulates build { state.goto .consumer (.reading item) with lock := lock } _ none :=
        linearizes.simulates.withdraws disciplined here rfl rfl live ends
      rcases withdrawn with ⟨kept, simulates⟩
      rw [kept]
      refine ⟨later, _, present, simulates, ?_, ?_⟩
      · refine linearizes.recorded.takesEffect stepped survived responses rfl ⟨?_, rfl⟩ rfl ?_
          (.inl ⟨rfl, ?_⟩)
        · rw [Operation.party, here]
          rfl
        · rw [Operation.party, here]
          rfl
        · rw [Point.owed, kept]
      · intro fault dead
        cases alive.symm.trans dead

/-- The data are read behind the unlock.  Nobody else has touched the item. -/
theorem read {found : FifoItem Value}
    (linearizes : Linearizes build calls state history atomic fifo slot)
    (alive : state.crashed = none) (here : state.points party = .reading item)
    (loaded : state.fifo.load (some item) = .ok found) :
    Linearizes build calls (state.goto party (.freeing item found.data)) history atomic fifo
      slot := by
  have present := linearizes.filled here
  rcases Option.isSome_iff_exists.mp present with ⟨stored, live⟩
  simp only [Fifo.load, live] at loaded
  cases Except.ok.inj loaded
  refine ⟨linearizes.present, ?_, ?_, ?_⟩
  · refine linearizes.simulates.alike rfl (alike_update ?_)
    rw [here]
    exact ⟨rfl, rfl, fun _ => trivial, id⟩
  · refine linearizes.recorded.alike rfl (underway_update ?_) (owed_update ?_ fun _ _ => rfl)
    · rw [here]
      rfl
    · rw [here, Point.owed, Point.owed, live]
      rfl
  · intro fault dead
    cases alive.symm.trans dead

theorem freed (linearizes : Linearizes build calls state history atomic fifo slot)
    (alive : state.crashed = none) (here : state.points party = .freeing item value) :
    Linearizes build calls
      { state.answer party (.popped (some value)) with fifo := state.fifo.free item }
      history atomic fifo slot := by
  refine ⟨linearizes.present, linearizes.simulates.frees here rfl rfl, ?_, ?_⟩
  · refine linearizes.recorded.answers rfl (by rw [here]; rfl) (by rw [here]; rfl) rfl ?_
    intro other different
    apply Point.owed_congr
    intro address owned
    refine Function.update_of_ne ?_ _ _
    rintro rfl
    exact different (linearizes.simulates.apart other party _ owned (by rw [here]; rfl))
  · intro fault dead
    cases alive.symm.trans dead

theorem pushReturned (linearizes : Linearizes build calls state history atomic fifo slot)
    (alive : state.crashed = none) (here : state.points party = .unlockingAfterSignal) :
    Linearizes build calls (state.unlockSync.answer party (.pushed .ok)) history atomic fifo
      slot := by
  refine ⟨linearizes.present, ?_, ?_, ?_⟩
  · refine linearizes.simulates.alike rfl (alike_update ?_)
    rw [here]
    exact ⟨rfl, rfl, fun _ => trivial, fun _ => trivial⟩
  · exact linearizes.recorded.answers rfl (by rw [here]; rfl) (by rw [here]; rfl) rfl
      fun _ _ => rfl
  · intro fault dead
    cases alive.symm.trans dead

theorem notified (linearizes : Linearizes build calls state history atomic fifo slot)
    (alive : state.crashed = none) :
    Linearizes build calls state.notify history atomic fifo slot ∧ state.notify.crashed = none := by
  unfold Locking.notify
  split
  next blocked => exact ⟨linearizes.passes alive rfl (blocked.symm ▸ .wake) rfl rfl, alive⟩
  next => exact ⟨linearizes, alive⟩

end Effects

end Linearizes

/-- The calls that have taken effect explain the run so far. -/
def Linearized (build : Build) (calls : List (Operation Value))
    (history : List (Operation Value × Response Value)) (state : Locking Value) : Prop :=
  Exists fun atomic => Exists fun fifo => Exists fun slot =>
    Linearizes build calls state history atomic fifo slot

namespace Linearized

variable {build : Build} {calls : List (Operation Value)}
  {history : List (Operation Value × Response Value)} {state next : Locking Value}
  {move : LockMove Value}

theorem continued (linearized : Linearized build calls history state)
    (disciplined : Disciplined state) (alive : state.crashed = none)
    (acted : Acted build state move next) (nothing : move.operation = none)
    (silent : state.effect move = none) : Linearized build calls history next := by
  have kept := disciplined.step acted
  rcases linearized with ⟨atomic, fifo, slot, linearizes⟩
  cases acted with
  | called => cases nothing
  | asked => cases nothing
  | woke blocked =>
      exact ⟨atomic, fifo, slot, linearizes.passes alive rfl (blocked.symm ▸ .wake) rfl rfl⟩
  | interrupted => exact ⟨atomic, fifo, slot, linearizes.handled rfl rfl rfl rfl⟩
  | handlerLocked => exact ⟨atomic, fifo, slot, linearizes.handled rfl rfl rfl rfl⟩
  | handlerClosed => exact ⟨atomic, fifo, slot, linearizes.handled rfl rfl rfl rfl⟩
  | handlerOpened => exact ⟨atomic, fifo, slot, linearizes.handled rfl rfl rfl rfl⟩
  | handlerUnlocked => exact ⟨atomic, fifo, slot, linearizes.handled rfl rfl rfl rfl⟩
  | pushLocked party call lock here acquired =>
      have ends := linearizes.undisturbed kept (by rw [here]; rfl) rfl rfl
      have stored := linearizes.filled here
      exact ⟨atomic, fifo, slot, linearizes.inside kept alive rfl rfl rfl rfl
        (by rw [here]; rfl) ends stored (by rw [here]; rfl) (by rw [here]; rfl)⟩
  | pushMoved party call point after memory here inside moved =>
      have ends := linearizes.simulates.content.ends
      have stored := linearizes.filled here
      rcases (linearizes.midway here inside.1).next ends inside moved with ⟨midway, heap⟩
      exact ⟨atomic, fifo, slot, linearizes.inside kept alive rfl heap rfl
        (PushPoint.next_follows inside moved).locks (by rw [here]; rfl) midway stored
        (by rw [here]; rfl) (by rw [here]; rfl)⟩
  | pushFailed party call point fault here inside failed =>
      exact ⟨atomic, fifo, slot, linearizes.asserted here inside.1 failed⟩
  | pushUnlocked party call lock idle here =>
      rw [Locking.effect, idle, here] at silent
      cases silent
  | popLocked party lock here acquired =>
      have ends := linearizes.undisturbed kept (by rw [here]; rfl) rfl rfl
      exact ⟨atomic, fifo, slot, linearizes.inside kept alive rfl rfl rfl rfl
        (by rw [here]; rfl) ends trivial (by rw [here]; rfl) (by rw [here]; rfl)⟩
  | popMoved party point after memory here inside moved =>
      have ends := linearizes.simulates.content.ends
      rcases (linearizes.midway here inside.1).next ends inside with
        ⟨reached, left, taken, midway, heap⟩
      cases Except.ok.inj (moved.symm.trans taken)
      exact ⟨atomic, fifo, slot, linearizes.inside kept alive rfl heap rfl
        (PopPoint.next_follows inside moved).locks (by rw [here]; rfl) midway trivial
        (by rw [here]; rfl) (by rw [here]; rfl)⟩
  | popFailed party point fault here inside failed =>
      have ends := linearizes.simulates.content.ends
      rcases (linearizes.midway here inside.1).next ends inside with ⟨_, _, taken, _⟩
      cases failed.symm.trans taken
  | popUnlockedEmpty party lock idle here =>
      rw [Locking.effect, idle, here] at silent
      cases silent
  | popUnlocked party item lock idle here =>
      rw [Locking.effect, idle, here] at silent
      cases silent
  | syncLocked party point after here behind free =>
      have passes : Passes (state.points party) after := by
        rw [here]
        cases point <;> cases behind <;> constructor
      exact ⟨atomic, fifo, slot, linearizes.passes alive rfl passes rfl rfl⟩
  | signalled party here =>
      rcases linearizes.notified alive with ⟨notified, still⟩
      have passes : Passes (state.notify.points party) .unlockingAfterSignal := by
        rw [disciplined.notify.2 party (disciplined.role here), here]
        exact .signal
      exact ⟨atomic, fifo, slot, notified.passes still rfl passes rfl rfl⟩
  | pushReturned party here => exact ⟨atomic, fifo, slot, linearizes.pushReturned alive here⟩
  | waited party here =>
      exact ⟨atomic, fifo, slot, linearizes.passes alive rfl (here.symm ▸ .wait) rfl rfl⟩
  | syncUnlocked party here =>
      exact ⟨atomic, fifo, slot, linearizes.passes alive rfl (here.symm ▸ .unlock) rfl rfl⟩
  | read party item found here loaded =>
      exact ⟨atomic, fifo, slot, linearizes.read alive here loaded⟩
  | readFailed party item fault here failed =>
      rcases Option.isSome_iff_exists.mp (linearizes.filled here) with ⟨stored, live⟩
      simp only [Fifo.load, live] at failed
      cases failed
  | freed party item value here => exact ⟨atomic, fifo, slot, linearizes.freed alive here⟩

theorem unlocked {entry : Operation Value × Response Value}
    (linearized : Linearized build calls history state) (disciplined : Disciplined state)
    (alive : state.crashed = none) (taken : act build state move = some next)
    (effect : state.effect move = some entry) :
    Linearized build calls (history ++ [entry]) next := by
  rcases linearized with ⟨atomic, fifo, slot, linearizes⟩
  rcases Locking.effect_eq_some effect with ⟨party, rfl, idle, effect⟩
  rw [act_advance alive idle, Locking.advancePoint] at taken
  unfold Point.effect at effect
  split at effect
  next call here =>
    rw [here] at taken
    rcases Option.map_eq_some_iff.mp taken with ⟨lock, _, rfl⟩
    cases Option.some.inj effect
    exact linearizes.pushed disciplined alive here
  next here =>
    rw [here] at taken
    rcases Option.map_eq_some_iff.mp taken with ⟨lock, _, rfl⟩
    cases Option.some.inj effect
    rcases linearizes.poppedNothing disciplined alive here with ⟨later, popped⟩
    exact ⟨later, fifo, slot, popped⟩
  next item here =>
    rw [here] at taken
    rcases Option.map_eq_some_iff.mp taken with ⟨lock, _, rfl⟩
    cases Option.some.inj effect
    rcases linearizes.popped disciplined alive here with ⟨later, after, popped⟩
    exact ⟨later, after, none, popped⟩
  next => cases effect

theorem step (linearized : Linearized build calls history state) (disciplined : Disciplined state)
    (taken : act build state move = some next) :
    Linearized build (calls ++ move.operation.toList) (history ++ (state.effect move).toList)
      next := by
  have alive := alive_of_act taken
  have acted := act_acted taken
  cases begun : move.operation with
  | none =>
      rw [Option.toList_none, List.append_nil]
      cases effect : state.effect move with
      | none =>
          rw [Option.toList_none, List.append_nil]
          exact linearized.continued disciplined alive acted begun effect
      | some entry => exact linearized.unlocked disciplined alive taken effect
  | some operation =>
      rcases linearized with ⟨atomic, fifo, slot, linearizes⟩
      cases acted with
      | called call outside fresh =>
          cases Option.some.inj begun
          rw [show state.effect _ = none from rfl, Option.toList_none, List.append_nil]
          exact ⟨atomic, fifo, slot, linearizes.called alive outside fresh⟩
      | asked outside =>
          cases Option.some.inj begun
          rw [show state.effect _ = none from rfl, Option.toList_none, List.append_nil]
          exact ⟨atomic, fifo, slot, linearizes.asked alive outside⟩
      | _ => cases begun

theorem start : Linearized build [] [] (Locking.start : Locking Value) :=
  ⟨_, _, _, .start⟩

theorem run {moves : List (LockMove Value)} (ran : (act build).run .start moves = some state) :
    Linearized build (callsBegun build .start moves) (callsEffected build .start moves) state := by
  have linearized := PartialStep.run_collects
    (fun calls history state => Disciplined state ∧ Linearized build calls history state)
    (fun _ _ _ _ _ taken kept => ⟨kept.1.step (act_acted taken), kept.2.step kept.1 taken⟩)
    ran ⟨.start, start⟩
  exact linearized.2

end Linearized

/-! ## Every run -/

/-- Only the assertion ends the process, in a build that has it. -/
theorem Linearized.crashed {build : Build} {calls : List (Operation Value)}
    {history : List (Operation Value × Response Value)} {state : Locking Value} {fault : Fault}
    (linearized : Linearized build calls history state) (dead : state.crashed = some fault) :
    build = .debug ∧ fault = .assertion .fifoPush := by
  rcases linearized with ⟨atomic, fifo, slot, linearizes⟩
  rcases linearizes.explained fault dead with ⟨_, _, _, _, stepped, crashed⟩
  exact step_crashed linearizes.present linearizes.recorded.alive linearizes.simulates.content
    stepped crashed

/-- What a run of the atomic queue says about the run of the threads. -/
structure Atomically (build : Build) (calls : List (Operation Value))
    (history : List (Operation Value × Response Value)) (state : Locking Value)
    (atomic : Exchange Value) : Prop where
  recorded : Recorded build calls state history atomic
  ends : (forall party, (state.points party).locks = 0) ->
    Exists fun fifo => atomic.fifo = some fifo ∧ SameEnds fifo state.fifo
  crashed : forall fault, state.crashed = some fault ->
    Exists fun party => Exists fun operation => Exists fun next =>
      (state.points party).underway = [operation] ∧ step build atomic operation = some next ∧
        next.crashed = some fault

theorem Linearized.atomically {build : Build} {calls : List (Operation Value)}
    {history : List (Operation Value × Response Value)} {state : Locking Value}
    (linearized : Linearized build calls history state) :
    Exists fun atomic => Atomically build calls history state atomic := by
  rcases linearized with ⟨atomic, fifo, slot, linearizes⟩
  refine ⟨atomic, linearizes.recorded, ?_, linearizes.explained⟩
  intro outside
  exact ⟨fifo, linearizes.present, linearizes.simulates.settled outside⟩

theorem callsBy_append (party : Party) (first second : List (Operation Value)) :
    callsBy party (first ++ second) = callsBy party first ++ callsBy party second :=
  List.filter_append ..

/-- The critical sections are atomic, whatever the schedule of the statements and
however often a thread is interrupted by a rotation, in the middle of a section too.
At every moment of every run the calls that have taken effect, in the order of their
unlocks, are a run of the queue whose sections are single steps, with the answers
that the threads have got or will get; every other call is still under way.  A call
that begins later than a given moment also takes effect later.  A crash is one that
the atomic queue has at this call, and when no thread is in a section the two ends
of the list are the same. -/
theorem critical_sections_atomic (build : Build) (first second : List (LockMove Value))
    (final : Locking Value) (ran : (act build).run .start (first ++ second) = some final) :
    Exists fun middle => Exists fun before => Exists fun after =>
      (act build).run .start first = some middle ∧
      Atomically build (callsBegun build .start first) (callsEffected build .start first) middle
        before ∧
      Atomically build (callsBegun build .start (first ++ second))
        (callsEffected build .start first ++ callsEffected build middle second) final after ∧
      forall party,
        (middle.points party).underway ++ callsBy party (callsBegun build middle second) =
          callsBy party ((callsEffected build middle second).map Prod.fst) ++
            (final.points party).underway := by
  rcases PartialStep.run_append_eq_some.mp ran with ⟨middle, begun, ended⟩
  rcases (Linearized.run begun).atomically with ⟨before, early⟩
  have late := Linearized.run ran
  rw [callsEffected, PartialStep.collected_append begun] at late
  rcases late.atomically with ⟨after, late⟩
  refine ⟨middle, before, after, begun, early, late, ?_⟩
  intro party
  have calls := late.recorded.calls party
  rw [callsBegun, PartialStep.collected_append begun, callsBy_append, List.map_append,
    callsBy_append] at calls
  have earlier := early.recorded.calls party
  rw [callsBegun] at earlier
  rw [earlier, List.append_assoc, List.append_assoc] at calls
  exact List.append_cancel_left calls

/-- A client thread is interrupted between the two assignments of `fifo_push`, and the
rotation locks the mutex once more, closes the database and opens it again. -/
def interruptedPush : List (LockMove Nat) :=
  [.pop, .push ⟨0, 7, 100, none⟩, .advance (.producer 0), .advance (.producer 0),
    .advance (.producer 0), .interrupt (.producer 0), .advance (.producer 0),
    .advance (.producer 0)]

def finishedPush : List (LockMove Nat) :=
  List.replicate 7 (.advance (.producer 0)) ++ [.advance .consumer, .advance .consumer, .timeout] ++
    List.replicate 11 (.advance .consumer)

theorem critical_sections_atomic_interruptedPush :
    Exists fun final => Exists fun middle => Exists fun after =>
      (act .release).run .start (interruptedPush ++ finishedPush) = some final ∧
      (act .release).run .start interruptedPush = some middle ∧
      (middle.points (.producer 0)).locks = 1 ∧ middle.handlers (.producer 0) = .opening ∧
      Atomically .release (callsBegun .release .start (interruptedPush ++ finishedPush))
        (callsEffected .release .start interruptedPush ++
          callsEffected .release middle finishedPush) final after ∧
      final.returns = [(.producer 0, .pushed .ok), (.consumer, .popped (some 7))] := by
  have enabled : (((act .release).run .start (interruptedPush ++ finishedPush)).map
      Locking.returns) = some [(.producer 0, .pushed .ok), (.consumer, .popped (some 7))] := by
    decide +kernel
  have halfway : (((act .release).run .start interruptedPush).map fun middle =>
      ((middle.points (.producer 0)).locks, middle.handlers (.producer 0))) =
        some (1, .opening) := by
    decide +kernel
  rcases Option.map_eq_some_iff.mp enabled with ⟨final, ran, returns⟩
  rcases critical_sections_atomic .release interruptedPush finishedPush final ran with
    ⟨middle, _, after, begun, _, late, _⟩
  rw [begun] at halfway
  have inside := Option.some.inj halfway
  exact ⟨final, middle, after, ran, begun, congrArg Prod.fst inside, congrArg Prod.snd inside, late,
    returns⟩

end Queue
end PdnsLogger
