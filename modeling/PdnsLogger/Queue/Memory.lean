import PdnsLogger.Queue.Fifo
import Mathlib.Data.List.Nodup

namespace PdnsLogger
namespace Queue

open Foundation Program

/-!
# A single place and the memory behind it

On schedules that crowd the queue it is no queue, but with assertions compiled out
it is still something definite: a single place that keeps its content and reports
success for every push.  `placeAnswers` states this behaviour by itself.

A push that finds the place taken has already allocated its item and drops the only
pointer to it.  The items in use are therefore the queued one and one for every push
of that kind, each still pointing to its statement; a pop frees the queued item and
nothing else, and never touches memory that was freed.
-/

variable {Value : Type}

/-! ## The behaviour by itself -/

/-- The answers of a single place that accepts every push and keeps the first. -/
def placeAnswers : Option Value -> List (Operation Value) -> List (Response Value)
  | _, [] => []
  | none, .push _ value _ _ :: operations =>
      .pushed .ok :: placeAnswers (some value) operations
  | some kept, .push _ _ _ _ :: operations => .pushed .ok :: placeAnswers (some kept) operations
  | slot, .pop :: operations => .popped slot :: placeAnswers none operations

/-- The items and statements of the pushes that find the place taken. -/
def dropped : Bool -> List (Operation Value) -> List (Address × Value)
  | _, [] => []
  | false, .push _ _ _ _ :: operations => dropped true operations
  | true, .push _ value item _ :: operations => (item, value) :: dropped true operations
  | _, .pop :: operations => dropped false operations

/-! ## The calls -/

theorem fifoPushItem_of_empty (build : Build) {fifo : Fifo Value} (head : fifo.head = none)
    (tail : fifo.tail = none) (value : Value) (item : Address) (stale : Option Address) :
    fifoPushItem build (some fifo) (some value) (some (item, stale)) =
      .ok (.ok, some { fifo.store item ⟨value, stale⟩ with
        head := some item, tail := some item }) := by
  have empty : (fifo.store item ⟨value, stale⟩).tail = none ∧
      (fifo.store item ⟨value, stale⟩).head = none := ⟨tail, head⟩
  simp only [fifoPushItem, fifoPush, Fifo.link, if_pos empty]
  rfl

theorem fifoPushItem_of_occupied {fifo : Fifo Value} {address : Address}
    (head : fifo.head = some address) (value : Value) (item : Address) (stale : Option Address) :
    fifoPushItem .release (some fifo) (some value) (some (item, stale)) =
      .ok (.ok, some (fifo.store item ⟨value, stale⟩)) := by
  have nonnull : (fifo.store item ⟨value, stale⟩).head ≠ none := by
    change fifo.head ≠ none
    rw [head]
    exact Option.some_ne_none address
  have occupied : ¬ ((fifo.store item ⟨value, stale⟩).tail = none ∧
      (fifo.store item ⟨value, stale⟩).head = none) := fun both => nonnull both.2
  simp only [fifoPushItem, fifoPush, Fifo.link, if_neg occupied, if_pos (Or.inr nonnull)]
  rfl

theorem fifoPopItem_of_empty {fifo : Fifo Value} (head : fifo.head = none)
    (tail : fifo.tail = none) : fifoPopItem (some fifo) = .ok (none, some fifo) := by
  simp only [fifoPopItem, fifoPop, Fifo.unlink, if_pos (And.intro head tail)]
  rfl

theorem fifoPopItem_of_occupied {fifo : Fifo Value} {address : Address} {item : FifoItem Value}
    (head : fifo.head = some address) (tail : fifo.tail = some address)
    (live : fifo.heap address = some item) :
    fifoPopItem (some fifo) =
      .ok (some item.data, some (Fifo.free { fifo with head := none, tail := none } address)) := by
  have occupied : ¬ (fifo.head = none ∧ fifo.tail = none) := by
    rintro ⟨impossible, _⟩
    cases head.symm.trans impossible
  have single : fifo.head ≠ none ∧ fifo.tail = fifo.head := by
    rw [head, tail]
    exact ⟨Option.some_ne_none address, rfl⟩
  simp only [fifoPopItem, fifoPop, Fifo.unlink, if_neg occupied, if_pos single]
  simp only [head, Fifo.load, live, bind, Except.bind]
  rfl

/-! ## Items in use -/

/-- The queued item and the lost ones are all that is in use, and no two of them are
the same. -/
structure Remembers (fifo : Fifo Value) (slot : Option Value) (lost : List (Address × Value)) :
    Prop where
  content : Represents fifo slot
  distinct : (lost.map Prod.fst).Nodup
  apart : forall address, fifo.head = some address -> address ∉ lost.map Prod.fst
  live : forall address, (fifo.heap address).isSome = true ↔
    fifo.head = some address ∨ address ∈ lost.map Prod.fst
  kept : forall address value, (address, value) ∈ lost ->
    (fifo.heap address).map FifoItem.data = some value

namespace Remembers

variable {fifo : Fifo Value} {slot : Option Value} {lost : List (Address × Value)}

/-- An address that is not in use is neither queued nor lost. -/
theorem unused (remembers : Remembers fifo slot lost) {item : Address}
    (free : fifo.heap item = none) : fifo.head ≠ some item ∧ item ∉ lost.map Prod.fst := by
  rw [← not_or, ← remembers.live item, free]
  exact Bool.false_ne_true

theorem pushed (remembers : Remembers fifo none lost) {item : Address}
    (free : fifo.heap item = none) (value : Value) (stale : Option Address) :
    Remembers { fifo.store item ⟨value, stale⟩ with head := some item, tail := some item }
      (some value) lost := by
  have fresh := (remembers.unused free).2
  have empty : fifo.head = none := remembers.content.1
  refine ⟨⟨item, stale, rfl, rfl, Function.update_self _ _ _⟩, remembers.distinct, ?_, ?_, ?_⟩
  · rintro address ⟨⟩
    exact fresh
  · intro address
    by_cases same : address = item
    · subst same
      simp [Fifo.store]
    · have before := remembers.live address
      rw [empty] at before
      simp only [Fifo.store, Function.update_of_ne same, Option.some.injEq, Ne.symm same, false_or]
      simpa using before
  · intro address value member
    have other : address ≠ item := fun same => fresh (same ▸ List.mem_map_of_mem member)
    simp only [Fifo.store, Function.update_of_ne other]
    exact remembers.kept address value member

/-- A push onto a taken place loses its item. -/
theorem lose {kept : Value} (remembers : Remembers fifo (some kept) lost) {item : Address}
    (free : fifo.heap item = none) (value : Value) (stale : Option Address) :
    Remembers (fifo.store item ⟨value, stale⟩) (some kept) (lost ++ [(item, value)]) := by
  have fresh := remembers.unused free
  rcases remembers.content with ⟨address, old, head, tail, live⟩
  have different : address ≠ item := by
    intro same
    rw [same, free] at live
    cases live
  refine ⟨⟨address, old, head, tail, (Function.update_of_ne different _ _).trans live⟩, ?_, ?_, ?_,
    ?_⟩
  · rw [List.map_append]
    apply List.nodup_append.mpr
    refine ⟨remembers.distinct, List.nodup_singleton _, ?_⟩
    intro first inLost second last same
    rw [same, List.mem_singleton.mp last] at inLost
    exact fresh.2 inLost
  · intro other here
    rw [List.map_append, List.mem_append, not_or]
    refine ⟨remembers.apart other here, ?_⟩
    intro last
    rw [List.mem_singleton.mp last] at here
    exact fresh.1 here
  · intro other
    rw [List.map_append, List.mem_append]
    by_cases same : other = item
    · subst same
      simp [Fifo.store]
    · simp only [Fifo.store, Function.update_of_ne same, remembers.live other, List.map_cons,
        List.map_nil, List.mem_singleton, same, or_false]
  · intro other data member
    rcases List.mem_append.mp member with earlier | last
    · have elsewhere : other ≠ item :=
        fun same => fresh.2 (same ▸ List.mem_map_of_mem earlier)
      simp only [Fifo.store, Function.update_of_ne elsewhere]
      exact remembers.kept other data earlier
    · cases List.mem_singleton.mp last
      simp [Fifo.store]

theorem freed {address : Address} (remembers : Remembers fifo slot lost)
    (head : fifo.head = some address) :
    Remembers (Fifo.free { fifo with head := none, tail := none } address) none lost := by
  have apart := remembers.apart address head
  refine ⟨⟨rfl, rfl⟩, remembers.distinct, nofun, ?_, ?_⟩
  · intro other
    by_cases same : other = address
    · subst same
      simp only [Fifo.free, Function.update_self, Option.isSome_none, Bool.false_eq_true, false_iff,
        not_or]
      exact ⟨nofun, apart⟩
    · simp only [Fifo.free, Function.update_of_ne same, remembers.live other, head,
        Option.some.injEq, Ne.symm same, false_or]
      simp
  · intro other value member
    have elsewhere : other ≠ address := fun same => apart (same ▸ List.mem_map_of_mem member)
    simp only [Fifo.free, Function.update_of_ne elsewhere]
    exact remembers.kept other value member

end Remembers

/-! ## Runs -/

theorem step_push_ok {state next : Exchange Value} {fifo result : Fifo Value} {producer : Nat}
    {value : Value} {item : Address} {stale : Option Address} (present : state.fifo = some fifo)
    (alive : state.crashed = none)
    (answered : fifoPushItem .release (some fifo) (some value) (some (item, stale)) =
      .ok (.ok, some result))
    (taken : step .release state (.push producer value item stale) = some next) :
    fifo.heap item = none ∧ next.fifo = some result ∧ next.crashed = none ∧
      next.responses = state.responses ++ [.pushed .ok] := by
  simp only [step, present, alive] at taken
  split at taken
  next free =>
    rw [answered] at taken
    cases Option.some.inj taken
    exact ⟨Option.isNone_iff_eq_none.mp free, rfl, alive, rfl⟩
  next => cases taken

theorem step_pop_ok {state next : Exchange Value} {fifo result : Fifo Value} {slot : Option Value}
    (present : state.fifo = some fifo) (alive : state.crashed = none)
    (answered : fifoPopItem (some fifo) = .ok (slot, some result))
    (taken : step .release state .pop = some next) :
    next.fifo = some result ∧ next.crashed = none ∧
      next.responses = state.responses ++ [.popped slot] := by
  simp only [step, present, alive] at taken
  rw [answered] at taken
  cases Option.some.inj taken
  exact ⟨rfl, alive, rfl⟩

theorem run_remembers {state final : Exchange Value} {fifo : Fifo Value} {slot : Option Value}
    {lost : List (Address × Value)} {operations : List (Operation Value)}
    (ran : (step .release).run state operations = some final) (present : state.fifo = some fifo)
    (alive : state.crashed = none) (remembers : Remembers fifo slot lost) :
    Exists fun result : Fifo Value => Exists fun after =>
      final.fifo = some result ∧ final.crashed = none ∧
      final.responses = state.responses ++ placeAnswers slot operations ∧
      Remembers result after (lost ++ dropped slot.isSome operations) := by
  induction operations generalizing state fifo slot lost with
  | nil =>
      cases Option.some.inj ran
      refine ⟨fifo, slot, present, alive, ?_, ?_⟩
      · rw [placeAnswers, List.append_nil]
      · rw [dropped, List.append_nil]
        exact remembers
  | cons operation operations ih =>
      rcases PartialStep.run_cons_eq_some.mp ran with ⟨next, taken, rest⟩
      have onward : forall {fifo : Fifo Value} {slot : Option Value} {lost : List (Address × Value)}
          {response : Response Value}, next.fifo = some fifo -> next.crashed = none ->
          next.responses = state.responses ++ [response] -> Remembers fifo slot lost ->
          Exists fun result : Fifo Value => Exists fun after =>
            final.fifo = some result ∧ final.crashed = none ∧
            final.responses = state.responses ++ response :: placeAnswers slot operations ∧
            Remembers result after (lost ++ dropped slot.isSome operations) := by
        intro fifo slot lost response present alive responses remembers
        rcases ih rest present alive remembers with ⟨result, after, held, running, answered, later⟩
        refine ⟨result, after, held, running, ?_, later⟩
        rw [answered, responses, List.append_assoc]
        rfl
      cases operation with
      | push producer value item stale =>
          cases slot with
          | none =>
              rcases step_push_ok present alive (fifoPushItem_of_empty .release
                remembers.content.1 remembers.content.2 value item stale) taken with
                ⟨free, held, running, responses⟩
              exact onward held running responses (remembers.pushed free value stale)
          | some kept =>
              rcases remembers.content with ⟨address, _, head, _, _⟩
              rcases step_push_ok present alive
                (fifoPushItem_of_occupied head value item stale) taken with
                ⟨free, held, running, responses⟩
              have later := onward held running responses (remembers.lose free value stale)
              rw [List.append_assoc] at later
              exact later
      | pop =>
          cases slot with
          | none =>
              rcases step_pop_ok present alive
                (fifoPopItem_of_empty remembers.content.1 remembers.content.2) taken with
                ⟨held, running, responses⟩
              exact onward held running responses remembers
          | some kept =>
              rcases remembers.content with ⟨address, _, head, tail, live⟩
              rcases step_pop_ok present alive (fifoPopItem_of_occupied head tail live) taken with
                ⟨held, running, responses⟩
              exact onward held running responses (remembers.freed head)

/-- Without assertions the queue answers every schedule as a single place that
reports success for every push, and never follows a pointer to freed memory.  In use
are exactly the queued item and one item for each push that found the place taken,
all at different addresses and still holding their statements. -/
theorem queue_is_single_place (operations : List (Operation Value)) (final : Exchange Value)
    (ran : (step .release).run .start operations = some final) :
    final.crashed = none ∧ final.responses = placeAnswers none operations ∧
    Exists fun fifo => final.fifo = some fifo ∧
      ((dropped false operations).map Prod.fst).Nodup ∧
      (forall address, fifo.head = some address ->
        address ∉ (dropped false operations).map Prod.fst) ∧
      (forall address, (fifo.heap address).isSome = true ↔
        fifo.head = some address ∨ address ∈ (dropped false operations).map Prod.fst) ∧
      forall address value, (address, value) ∈ dropped false operations ->
        (fifo.heap address).map FifoItem.data = some value := by
  have start : Remembers (⟨none, none, fun _ => none⟩ : Fifo Value) none [] :=
    ⟨⟨rfl, rfl⟩, List.nodup_nil, nofun, fun _ => by simp, nofun⟩
  rcases run_remembers ran rfl rfl start with ⟨fifo, _, held, running, answered, remembers⟩
  rw [List.nil_append] at remembers
  exact ⟨running, answered, fifo, held, remembers.distinct, remembers.apart, remembers.live,
    remembers.kept⟩

/-- Three pushes in a row, a pop, and one more push. -/
def crowdedPushes : List (Operation Nat) :=
  [.push 0 7 100 none, .push 1 8 200 none, .push 2 9 300 (some 100), .pop, .push 0 10 100 none]

theorem queue_is_single_place_crowdedPushes :
    Exists fun final => (step .release).run .start crowdedPushes = some final ∧
      Exists fun fifo => final.fifo = some fifo ∧
        (fifo.heap 200).isSome = true ∧ (fifo.heap 300).isSome = true := by
  have enabled : ((step .release).run .start crowdedPushes).isSome = true := by decide
  rcases Option.isSome_iff_exists.mp enabled with ⟨final, ran⟩
  rcases queue_is_single_place crowdedPushes final ran with ⟨_, _, fifo, held, _, _, live, _⟩
  exact ⟨final, ran, fifo, held, (live 200).mpr (.inr (by decide)),
    (live 300).mpr (.inr (by decide))⟩

end Queue
end PdnsLogger
