import Mathlib.Data.Nat.Init

namespace PdnsLogger
namespace Foundation

universe u v w

/-!
# Unbounded loops with a supply of iterations

The body of a `while (1)` loop either continues with a new state or leaves the
loop with a result, and it may fail.  `boundedLoop` executes such a body with
a supply of iterations and reports `diverged` when the supply is exhausted.

The bounded loop is a faithful reading of the unbounded one as soon as its
result is the same for every sufficient supply.  A specification of a loop
built on it therefore quantifies over the supply.
-/

variable {State : Type u} {Result : Type v} {Failure : Type w}

/-- Execute a loop body at most `fuel` times. -/
def boundedLoop (diverged : Failure) (body : State -> Except Failure (State ⊕ Result)) :
    Nat -> State -> Except Failure Result
  | 0, _ => .error diverged
  | fuel + 1, state =>
      match body state with
      | .error failure => .error failure
      | .ok (.inl next) => boundedLoop diverged body fuel next
      | .ok (.inr result) => .ok result

/-- When every continuing iteration lowers a measure, any two supplies above the
measure give the same result. -/
theorem boundedLoop_supply_irrelevant {diverged : Failure}
    {body : State -> Except Failure (State ⊕ Result)} (measure : State -> Nat)
    (lowers : forall state next, body state = .ok (.inl next) -> measure next < measure state)
    (fuel more : Nat) (state : State) (enough : measure state < fuel)
    (larger : measure state < more) :
    boundedLoop diverged body fuel state = boundedLoop diverged body more state := by
  induction fuel generalizing more state with
  | zero => omega
  | succ fuel ih =>
      cases more with
      | zero => omega
      | succ more =>
          cases iterated : body state with
          | error failure => simp only [boundedLoop, iterated]
          | ok outcome =>
              cases outcome with
              | inr result => simp only [boundedLoop, iterated]
              | inl next =>
                  have lower := lowers state next iterated
                  simp only [boundedLoop, iterated]
                  exact ih more next (by omega) (by omega)

end Foundation
end PdnsLogger
