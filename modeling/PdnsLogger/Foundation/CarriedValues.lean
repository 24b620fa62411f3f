import Mathlib.Data.List.Perm.Basic

namespace PdnsLogger
namespace Foundation

universe u v

/-!
# Values carried from one element to the next

A loop that assigns a variable only where the current element supplies a value
leaves it as it was everywhere else.  `carried` is the sequence of values seen
by such a loop.

What each element by itself would give is the value it supplies, or else the
default.  The two agree for every order of the elements exactly when no element
lacks a value that another one supplies differently from the default; one
order in which they disagree is that where the supplier comes right before.
-/

variable {Element : Type u} {Value : Type v}

/-- The value of the variable at each element.  An element that supplies nothing
leaves to the next one what it has found. -/
def carried (current : Value) : List (Option Value) -> List Value
  | [] => []
  | supplied :: rest => supplied.getD current :: carried (supplied.getD current) rest

theorem getElem?_carried {current value : Value} {supplied : List (Option Value)} {k : Nat}
    (given : supplied[k]? = some (some value)) : (carried current supplied)[k]? = some value := by
  induction supplied generalizing current k with
  | nil => cases given
  | cons first rest ih =>
      cases k with
      | zero =>
          cases Option.some.inj given
          rfl
      | succ k => exact ih given

/-- Nothing but the default is carried to an element without a value. -/
theorem carried_eq_map {default current : Value} {supplied : List (Option Value)}
    (harmless : none ∈ supplied ->
      current = default ∧ forall value, some value ∈ supplied -> value = default) :
    carried current supplied = supplied.map fun value => value.getD default := by
  induction supplied generalizing current with
  | nil => rfl
  | cons first rest ih =>
      rw [carried, List.map_cons]
      cases first with
      | none =>
          have settled := harmless List.mem_cons_self
          rw [Option.getD_none, Option.getD_none, settled.1]
          congr 1
          apply ih
          intro _
          exact ⟨rfl, fun value member => settled.2 value (List.mem_cons_of_mem _ member)⟩
      | some value =>
          rw [Option.getD_some, Option.getD_some]
          congr 1
          apply ih
          intro missing
          have settled := harmless (List.mem_cons_of_mem _ missing)
          exact ⟨settled.2 value List.mem_cons_self,
            fun other member => settled.2 other (List.mem_cons_of_mem _ member)⟩

/-- Carrying a value along never adds to the defaults that are seen. -/
theorem count_carried_le [DecidableEq Value] (default current : Value)
    (supplied : List (Option Value)) :
    (carried current supplied).count default ≤
      (supplied.map fun value => value.getD default).count default := by
  induction supplied generalizing current with
  | nil => exact Nat.le_refl 0
  | cons first rest ih =>
      rw [carried, List.map_cons, List.count_cons, List.count_cons]
      have later := ih (first.getD current)
      cases first with
      | none =>
          simp only [Option.getD_none, beq_self_eq_true, if_true] at later ⊢
          split <;> omega
      | some value =>
          simp only [Option.getD_some] at later ⊢
          omega

/-- If each element sees its own value and reordering the elements only
reorders the values, then whatever an element lacks the others supply only as
the default. -/
theorem eq_default_of_permuted [DecidableEq Element] [DecidableEq Value]
    {supply : Element -> Option Value} {default : Value} {elements : List Element}
    (own : carried default (elements.map supply) =
      (elements.map supply).map fun value => value.getD default)
    (permuted : forall other : List Element, other.Perm elements ->
      (carried default (other.map supply)).Perm (carried default (elements.map supply)))
    {lacking supplying : Element} (lacks : lacking ∈ elements) (supplies : supplying ∈ elements)
    (missing : supply lacking = none) {value : Value} (given : supply supplying = some value) :
    value = default := by
  by_contra different
  have distinct : lacking ≠ supplying := by
    intro same
    rw [same, given] at missing
    cases missing
  let rest := (elements.erase supplying).erase lacking
  have reordered : (supplying :: lacking :: rest).Perm elements :=
    ((List.perm_cons_erase supplies).trans
      ((List.perm_cons_erase ((List.mem_erase_of_ne distinct).mpr lacks)).cons supplying)).symm
  have seen := (permuted _ reordered).count_eq default
  have alone := ((reordered.map supply).map fun value => value.getD default).count_eq default
  rw [own, ← alone] at seen
  simp only [List.map_cons, carried, given, missing, Option.getD_some, Option.getD_none,
    List.count_cons_self, List.count_cons_of_ne different] at seen
  have fewer := count_carried_le default value (rest.map supply)
  omega

end Foundation
end PdnsLogger
