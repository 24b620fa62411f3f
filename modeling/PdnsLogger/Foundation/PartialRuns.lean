import Mathlib.Data.List.Basic

namespace PdnsLogger
namespace Foundation

universe u v w x

/-!
# Finite runs of partial labelled steps

A concurrent component is presented by one partial step function.  The label
says which thread moves and what its environment answered, and `none` means
that this thread cannot take this step in the current state.  An interleaving
is then nothing more than a list of labels, so a statement about every
schedule is a statement about every list.

A few rules carry all later safety proofs.  `run_invariant` transports a
property along every run.  `run_invariant_of_respects` does the same when the
property survives only those steps that meet a condition on the state before
the step; `Respects` records that every step of the run meets it.
`Throughout` speaks about all states of a run.  Two rules show that a condition
is exact: `throughout_iff_respects` when breaking it shows at once, and
`respects_or_spoiled` when breaking it cannot be mended.

A run is also seen through what its steps produce, without the states having to
keep a record of it.  `collected` gathers the products in order, and `run_collects`
is the rule for a property that speaks about them.
-/

/-- A step that is disabled when it returns `none`. -/
abbrev PartialStep (State : Type u) (Label : Type v) :=
  State -> Label -> Option State

namespace PartialStep

variable {State : Type u} {Label : Type v}

/-- Execute the labels in order, requiring every one of them to be enabled. -/
def run (step : PartialStep State Label) : State -> List Label -> Option State
  | state, [] => some state
  | state, label :: labels => (step state label).bind fun next => run step next labels

theorem run_cons_eq_some {step : PartialStep State Label} {state final : State}
    {label : Label} {labels : List Label} :
    step.run state (label :: labels) = some final ↔
      Exists fun next => step state label = some next ∧ step.run next labels = some final := by
  simp only [run, Option.bind_eq_some_iff]

theorem run_append (step : PartialStep State Label) (state : State)
    (first second : List Label) :
    step.run state (first ++ second) =
      (step.run state first).bind fun middle => step.run middle second := by
  induction first generalizing state with
  | nil => rfl
  | cons label labels ih =>
      simp only [List.cons_append, run]
      cases taken : step state label with
      | none => rfl
      | some next => exact ih next

/-- Split a run at any point of its schedule. -/
theorem run_append_eq_some {step : PartialStep State Label} {state final : State}
    {first second : List Label} :
    step.run state (first ++ second) = some final ↔
      Exists fun middle =>
        step.run state first = some middle ∧ step.run middle second = some final := by
  rw [run_append, Option.bind_eq_some_iff]

/-- A property kept by every enabled step holds at the end of every run. -/
theorem run_invariant {step : PartialStep State Label} {holds : State -> Prop}
    (keeps : forall state label next, step state label = some next -> holds state -> holds next)
    {state final : State} {labels : List Label}
    (runs : step.run state labels = some final) (start : holds state) : holds final := by
  induction labels generalizing state with
  | nil => exact Option.some.inj runs ▸ start
  | cons label labels ih =>
      rcases run_cons_eq_some.mp runs with ⟨next, taken, rest⟩
      exact ih rest (keeps state label next taken start)

/-- What the steps of a run produce, in order.  What a step produces
depends on its label and on the state that it starts from, so that the record of a
run need not be part of the state. -/
def collected {Value : Type w} (step : PartialStep State Label)
    (select : State -> Label -> Option Value) : State -> List Label -> List Value
  | _, [] => []
  | state, label :: labels =>
      match step state label with
      | none => []
      | some next => (select state label).toList ++ collected step select next labels

theorem collected_cons {Value : Type w} {step : PartialStep State Label} {state next : State}
    {label : Label} (taken : step state label = some next)
    (select : State -> Label -> Option Value) (labels : List Label) :
    step.collected select state (label :: labels) =
      (select state label).toList ++ step.collected select next labels := by
  simp only [collected, taken]

theorem collected_append {Value : Type w} {step : PartialStep State Label} {state middle : State}
    {first : List Label} (runs : step.run state first = some middle)
    (select : State -> Label -> Option Value) (second : List Label) :
    step.collected select state (first ++ second) =
      step.collected select state first ++ step.collected select middle second := by
  induction first generalizing state with
  | nil =>
      cases Option.some.inj runs
      rfl
  | cons label labels ih =>
      rcases run_cons_eq_some.mp runs with ⟨next, taken, rest⟩
      rw [List.cons_append, collected_cons taken, collected_cons taken, ih rest, List.append_assoc]

/-- A relation between a state and two kinds of products that every step extends. -/
theorem run_collects {First : Type w} {Second : Type x} {step : PartialStep State Label}
    {first : State -> Label -> Option First} {second : State -> Label -> Option Second}
    (holds : List First -> List Second -> State -> Prop)
    (keeps : forall firsts seconds state label next, step state label = some next ->
      holds firsts seconds state ->
      holds (firsts ++ (first state label).toList) (seconds ++ (second state label).toList) next)
    {state final : State} {labels : List Label} (runs : step.run state labels = some final)
    {firsts : List First} {seconds : List Second} (start : holds firsts seconds state) :
    holds (firsts ++ step.collected first state labels)
      (seconds ++ step.collected second state labels) final := by
  induction labels generalizing state firsts seconds with
  | nil =>
      cases Option.some.inj runs
      simpa only [collected, List.append_nil] using start
  | cons label labels ih =>
      rcases run_cons_eq_some.mp runs with ⟨next, taken, rest⟩
      rw [collected_cons taken, collected_cons taken, ← List.append_assoc, ← List.append_assoc]
      exact ih rest (keeps firsts seconds state label next taken start)

/-- Every step of the run meets a condition on the state in which it is taken. -/
def Respects (step : PartialStep State Label) (condition : State -> Label -> Prop) :
    State -> List Label -> Prop
  | _, [] => True
  | state, label :: labels =>
      condition state label ∧
        forall next, step state label = some next -> Respects step condition next labels

/-- An enabled step has one successor, so that it is enough to go on from it. -/
theorem respects_cons {step : PartialStep State Label} {condition : State -> Label -> Prop}
    {state next : State} {label : Label} {labels : List Label}
    (taken : step state label = some next) (met : condition state label)
    (rest : step.Respects condition next labels) :
    step.Respects condition state (label :: labels) := by
  refine ⟨met, ?_⟩
  intro other same
  cases Option.some.inj (taken.symm.trans same)
  exact rest

/-- The conditional form of `run_invariant`. -/
theorem run_invariant_of_respects {step : PartialStep State Label}
    {condition : State -> Label -> Prop} {holds : State -> Prop}
    (keeps : forall state label next, step state label = some next ->
      condition state label -> holds state -> holds next)
    {state final : State} {labels : List Label}
    (runs : step.run state labels = some final)
    (respects : step.Respects condition state labels) (start : holds state) : holds final := by
  induction labels generalizing state with
  | nil => exact Option.some.inj runs ▸ start
  | cons label labels ih =>
      rcases run_cons_eq_some.mp runs with ⟨next, taken, rest⟩
      exact ih rest (respects.2 next taken)
        (keeps state label next taken respects.1 start)

theorem respects_of_invariant {step : PartialStep State Label}
    {condition : State -> Label -> Prop} {holds : State -> Prop}
    (keeps : forall state label next, step state label = some next -> holds state -> holds next)
    (meets : forall state label, holds state -> condition state label)
    {state : State} (start : holds state) (labels : List Label) :
    step.Respects condition state labels := by
  induction labels generalizing state with
  | nil => trivial
  | cons label labels ih =>
      refine ⟨meets state label start, ?_⟩
      intro next taken
      exact ih (keeps state label next taken start)

/-- The property holds in every state of the run, the first and the last
included. -/
def Throughout (step : PartialStep State Label) (holds : State -> Prop) :
    State -> List Label -> Prop
  | state, [] => holds state
  | state, label :: labels =>
      holds state ∧ forall next, step state label = some next -> Throughout step holds next labels

theorem Throughout.head {step : PartialStep State Label} {holds : State -> Prop} {state : State}
    {labels : List Label} (throughout : step.Throughout holds state labels) : holds state := by
  cases labels with
  | nil => exact throughout
  | cons label labels => exact throughout.1

/-- A property holds throughout a run exactly when every step of the run meets
a condition, provided that the condition keeps it and that a step against the
condition breaks it.  Both may rely on an invariant of all runs. -/
theorem throughout_iff_respects {step : PartialStep State Label}
    {condition : State -> Label -> Prop} {always good holds : State -> Prop}
    (stays : forall state label next, step state label = some next ->
      always state -> always next)
    (keeps : forall state label next, step state label = some next -> always state ->
      condition state label -> good state -> good next)
    (implies : forall state, always state -> good state -> holds state)
    (breaks : forall state label next, step state label = some next -> always state ->
      ¬ condition state label -> ¬ holds next)
    {state final : State} {labels : List Label} (runs : step.run state labels = some final)
    (base : always state) (start : good state) :
    step.Throughout holds state labels ↔ step.Respects condition state labels := by
  induction labels generalizing state with
  | nil => exact ⟨fun _ => trivial, fun _ => implies state base start⟩
  | cons label labels ih =>
      rcases run_cons_eq_some.mp runs with ⟨next, taken, rest⟩
      have onward : condition state label ->
          (step.Throughout holds next labels ↔ step.Respects condition next labels) := by
        intro met
        exact ih rest (stays state label next taken base)
          (keeps state label next taken base met start)
      constructor
      · intro throughout
        have later := throughout.2 next taken
        by_cases met : condition state label
        · exact respects_cons taken met ((onward met).mp later)
        · exact absurd later.head (breaks state label next taken base met)
      · intro respects
        refine ⟨implies state base start, ?_⟩
        intro other same
        cases Option.some.inj (taken.symm.trans same)
        exact (onward respects.1).mpr (respects.2 next taken)

/-- A run meets the condition throughout, or the first step against it leaves a
mark that no later step removes.  The run may be restricted to allowed steps. -/
theorem respects_or_spoiled {step : PartialStep State Label}
    {allowed condition : State -> Label -> Prop} {always spoiled : State -> Prop}
    (keeps : forall state label next, step state label = some next -> allowed state label ->
      condition state label -> always state -> always next)
    (spoils : forall state label next, step state label = some next -> allowed state label ->
      ¬ condition state label -> always state -> spoiled next)
    (persists : forall state label next, step state label = some next -> allowed state label ->
      spoiled state -> spoiled next)
    {state final : State} {labels : List Label} (runs : step.run state labels = some final)
    (permitted : step.Respects allowed state labels) (start : always state) :
    step.Respects condition state labels ∨ spoiled final := by
  induction labels generalizing state with
  | nil => exact .inl trivial
  | cons label labels ih =>
      rcases run_cons_eq_some.mp runs with ⟨next, taken, rest⟩
      have later := permitted.2 next taken
      by_cases met : condition state label
      · rcases ih rest later (keeps state label next taken permitted.1 met start) with
          respects | spoiled
        · exact .inl (respects_cons taken met respects)
        · exact .inr spoiled
      · apply Or.inr
        apply run_invariant_of_respects persists rest later
        exact spoils state label next taken permitted.1 met start

end PartialStep

end Foundation
end PdnsLogger
