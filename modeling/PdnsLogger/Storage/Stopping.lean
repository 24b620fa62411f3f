import PdnsLogger.Storage.Worker

namespace PdnsLogger
namespace Storage

open Foundation Program Queue

/-!
# What stopping leaves behind

`bg_thread_stop` clears the run flag and waits for the background thread.  The
thread tests the flag before every pop and leaves at the first test that finds
it cleared, so whether a queued statement is still executed depends on where
the thread is at that moment.

Between its test and its pop the thread is committed to one more pop; the
queue holds at most one statement, and that one is executed.  Everywhere else
the next thing the thread does about the queue is to test the flag, and the
statement stays behind.  A thread that has not begun sets the flag again, and
then the join never returns.
-/

variable {Row : Type} {env : Settings Row}

/-- The statement is about to be popped, is being executed, or has been. -/
def Delivering (statement : Statement Row) (state : Worker Row)
    (slot : Option (Statement Row)) : Prop :=
  (state.background = .popping ∧ slot = some statement) ∨
    state.background = .executing statement ∨ statement.ticket ∈ state.executed.map Prod.fst

/-- The statement is queued, and the background thread will not pop again. -/
structure Abandoned (statement : Statement Row) (state : Worker Row)
    (slot : Option (Statement Row)) : Prop where
  queued : slot = some statement
  cleared : state.bgrunning = false
  started : state.background ≠ .notStarted
  past : state.background ≠ .popping

/-- The background thread set the run flag after it was cleared, or will. -/
structure Restarted (state : Worker Row) : Prop where
  flagged : state.stopping ≠ .idle
  looping : state.background = .notStarted ∨
    (state.bgrunning = true ∧ state.background ≠ .exited)

theorem Delivering.transition {statement : Statement Row} {state next : Worker Row}
    {slot after : Option (Statement Row)} {move : Move Row}
    (taken : Transition env state slot move next after)
    (delivering : Delivering statement state slot) : Delivering statement next after := by
  rcases delivering with ⟨popping, queued⟩ | executing | done
  · cases taken with
    | stored => cases queued
    | began _ fresh => cases popping.symm.trans fresh
    | tested _ testing => cases popping.symm.trans testing
    | poppedNothing => cases queued
    | poppedStatement =>
        cases Option.some.inj queued
        exact .inr (.inl rfl)
    | executed _ _ executing => cases popping.symm.trans executing
    | _ => exact .inl ⟨popping, queued⟩
  · cases taken with
    | began _ fresh => cases executing.symm.trans fresh
    | tested _ testing => cases executing.symm.trans testing
    | poppedNothing _ popping => cases executing.symm.trans popping
    | poppedStatement _ _ popping => cases executing.symm.trans popping
    | executed _ other executing' =>
        cases BackgroundPhase.executing.inj (executing.symm.trans executing')
        refine .inr (.inr ?_)
        rw [Worker.exec, List.map_append]
        exact List.mem_append_right _ List.mem_cons_self
    | _ => exact .inr (.inl executing)
  · cases taken with
    | executed =>
        refine .inr (.inr ?_)
        rw [Worker.exec, List.map_append]
        exact List.mem_append_left _ done
    | _ => exact .inr (.inr done)

theorem Abandoned.transition {statement : Statement Row} {state next : Worker Row}
    {slot after : Option (Statement Row)} {move : Move Row}
    (taken : Transition env state slot move next after)
    (abandoned : Abandoned statement state slot) : Abandoned statement next after := by
  rcases abandoned with ⟨queued, cleared, started, past⟩
  cases taken with
  | stored => cases queued
  | began _ fresh => exact absurd fresh started
  | tested _ testing =>
      refine ⟨queued, cleared, ?_, ?_⟩
      · rw [cleared]
        exact nofun
      · rw [cleared]
        exact nofun
  | poppedNothing _ popping => exact absurd popping past
  | poppedStatement _ _ popping => exact absurd popping past
  | executed => exact ⟨queued, cleared, nofun, nofun⟩
  | flagged => exact ⟨queued, rfl, started, past⟩
  | _ => exact ⟨queued, cleared, started, past⟩

theorem Restarted.transition {state next : Worker Row} {slot after : Option (Statement Row)}
    {move : Move Row} (taken : Transition env state slot move next after)
    (restarted : Restarted state) : Restarted next := by
  rcases restarted with ⟨flagged, looping⟩
  cases taken with
  | began => exact ⟨flagged, .inr ⟨rfl, nofun⟩⟩
  | tested _ testing =>
      refine ⟨flagged, .inr ?_⟩
      rcases looping with fresh | ⟨running, _⟩
      · cases testing.symm.trans fresh
      · refine ⟨running, ?_⟩
        rw [running]
        exact nofun
  | poppedNothing _ popping =>
      refine ⟨flagged, .inr ?_⟩
      rcases looping with fresh | ⟨running, _⟩
      · cases popping.symm.trans fresh
      · exact ⟨running, nofun⟩
  | poppedStatement _ _ popping =>
      refine ⟨flagged, .inr ?_⟩
      rcases looping with fresh | ⟨running, _⟩
      · cases popping.symm.trans fresh
      · exact ⟨running, nofun⟩
  | executed _ _ executing =>
      refine ⟨flagged, .inr ?_⟩
      rcases looping with fresh | ⟨running, _⟩
      · cases executing.symm.trans fresh
      · exact ⟨running, nofun⟩
  | flagged _ idle => exact absurd idle flagged
  | joined => exact ⟨nofun, looping⟩
  | stopClosed => exact ⟨nofun, looping⟩
  | _ => exact ⟨flagged, looping⟩

/-! ## Runs after the flag is cleared -/

section Runs

variable {build : Build} {state final : Worker Row} {statement : Statement Row}
  {moves : List (Move Row)}

theorem executed_of_delivering (ran : (work build env).run state moves = some final)
    {slot : Option (Statement Row)} (content : state.Holds slot) (ledger : Ledger state slot)
    (delivering : Delivering statement state slot) (reached : final.stopping = .joined) :
    (final.executed.map Prod.fst).count statement.ticket = 1 := by
  have keeps : forall state slot move next after, Transition env state slot move next after ->
      Ledger state slot ∧ Delivering statement state slot ->
        Ledger next after ∧ Delivering statement next after :=
    fun _ _ _ _ _ taken both => ⟨both.1.transition taken, both.2.transition taken⟩
  rcases work_invariant_always keeps ran content ⟨ledger, delivering⟩ with
    ⟨last, _, ledgerLast, delivered⟩
  have exited := ledgerLast.exits (.inl reached)
  apply (ledgerLast.count_executed statement.ticket).1
  rcases delivered with ⟨impossible, _⟩ | impossible | done
  · cases impossible.symm.trans exited
  · cases impossible.symm.trans exited
  · exact done

theorem unexecuted_of_abandoned (ran : (work build env).run state moves = some final)
    {slot : Option (Statement Row)} (content : state.Holds slot) (ledger : Ledger state slot)
    (abandoned : Abandoned statement state slot) :
    (final.executed.map Prod.fst).count statement.ticket = 0 := by
  have keeps : forall state slot move next after, Transition env state slot move next after ->
      Ledger state slot ∧ Abandoned statement state slot ->
        Ledger next after ∧ Abandoned statement next after :=
    fun _ _ _ _ _ taken both => ⟨both.1.transition taken, both.2.transition taken⟩
  rcases work_invariant_always keeps ran content ⟨ledger, abandoned⟩ with
    ⟨last, _, ledgerLast, left⟩
  exact (ledgerLast.count_executed statement.ticket).2
    (ledgerLast.waiting statement left.queued).2

theorem not_joined_of_restarted (ran : (work build env).run state moves = some final)
    {slot : Option (Statement Row)} (content : state.Holds slot) (ledger : Ledger state slot)
    (restarted : Restarted state) : final.stopping ≠ .joined := by
  have keeps : forall state slot move next after, Transition env state slot move next after ->
      Ledger state slot ∧ Restarted state -> Ledger next after ∧ Restarted next :=
    fun _ _ _ _ _ taken both => ⟨both.1.transition taken, both.2.transition taken⟩
  rcases work_invariant_always keeps ran content ⟨ledger, restarted⟩ with
    ⟨last, _, ledgerLast, _, looping⟩
  intro reached
  have exited := ledgerLast.exits (.inl reached)
  rcases looping with fresh | ⟨_, running⟩
  · cases fresh.symm.trans exited
  · exact running exited

end Runs

/-- Every statement that is queued when the flag is cleared has been executed
exactly once when `logsqlite_stop` reaches its `db_close`, if and only if the
queue was empty or the background thread was between its test and its pop. -/
theorem stop_drains_iff (build : Build) (env : Settings Row) (answer : OpenAnswer)
    (before after : List (Move Row)) (middle final : Worker Row)
    (called : (work build env).run (.start env answer) before = some middle)
    (ran : (work build env).run middle (.stopFlag :: after) = some final)
    (reached : final.stopping = .joined) :
    (forall statement, middle.Holds (some statement) ->
      (final.executed.map Prod.fst).count statement.ticket = 1) ↔
    middle.Holds none ∨ middle.background = .popping := by
  rcases Ledger.of_run called with ⟨slot, content, ledger⟩
  rcases PartialStep.run_cons_eq_some.mp ran with ⟨cleared, taken, rest⟩
  rcases work_transition taken content with ⟨slot', content', transition⟩
  have ledger' := ledger.transition transition
  cases transition with
  | flagged _ idle =>
      constructor
      · intro every
        cases slot with
        | none => exact .inl content
        | some statement =>
            by_cases popping : middle.background = .popping
            · exact .inr popping
            · by_cases fresh : middle.background = .notStarted
              · exact absurd reached
                  (not_joined_of_restarted rest content' ledger' ⟨nofun, .inl fresh⟩)
              · have never := unexecuted_of_abandoned rest content' ledger'
                  ⟨rfl, rfl, fresh, popping⟩
                have once := every statement content
                rw [never] at once
                cases once
      · intro lucky statement queued
        cases content.unique queued
        rcases lucky with empty | popping
        · cases content.unique empty
        · exact executed_of_delivering rest content' ledger' (.inl ⟨popping, rfl⟩) reached

theorem stop_drains_iff_between_test_and_pop :
    Exists fun middle => Exists fun final =>
      (work .debug (obliging true)).run (.start (obliging true) .opened)
          [.begin, .test, .push 0 7 100 none] = some middle ∧
      (work .debug (obliging true)).run middle [.stopFlag, .pop, .exec, .test, .join] = some final ∧
      (final.executed.map Prod.fst).count 0 = 1 := by
  refine ⟨_, _, rfl, rfl, ?_⟩
  exact (stop_drains_iff .debug (obliging true) .opened [.begin, .test, .push 0 7 100 none]
    [.pop, .exec, .test, .join] _ _ rfl rfl rfl).mpr (.inr rfl) ⟨0, 7⟩
    ⟨_, rfl, 100, none, rfl, rfl, rfl⟩

/-- A statement queued while another is being executed stays behind. -/
theorem stop_abandons_queued_statement :
    Exists fun middle => Exists fun final =>
      (work .debug (obliging true)).run (.start (obliging true) .opened)
          [.begin, .push 0 7 100 none, .test, .pop, .push 1 8 200 none] = some middle ∧
      middle.Holds (some ⟨1, 8⟩) ∧
      (work .debug (obliging true)).run middle [.stopFlag, .exec, .test, .join] = some final ∧
      final.stopping = .joined ∧ (final.executed.map Prod.fst).count 1 = 0 :=
  ⟨_, _, rfl, ⟨_, rfl, 200, none, rfl, rfl, rfl⟩, rfl, rfl, rfl⟩

end Storage
end PdnsLogger
