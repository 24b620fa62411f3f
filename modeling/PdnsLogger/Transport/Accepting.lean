import PdnsLogger.Foundation.PartialRuns
import Mathlib.Data.List.Basic
import Mathlib.Data.List.Nodup
import Mathlib.Data.List.Perm.Basic

namespace PdnsLogger
namespace Transport

open Foundation

/-!
# Handing over accepted connections

`socket_loop` accepts a connection and calls `socket_start_thread` with its
descriptor.  The descriptor is a parameter there, and the new thread is given
the address of that parameter.  The call returns without waiting, and the next
call finds its parameter at the same place of the stack.  The model has one
cell for it.  A thread reads the cell in its first step, whenever that comes,
and closes what it has read when it is done.

That the cell keeps its value once `socket_start_thread` has returned is an
assumption.  The place is then no longer its own, and other calls of the loop
may write over it before the thread has run; C says nothing about such a read.
Only the next call of the same function is modelled as changing it.

The result of `pthread_create` is not looked at, so a thread that could not be
created looks to the loop like any other.
-/

abbrev Descriptor := Nat

/-- The program point of the main thread: in `socket_loop`, or in one of the
three steps of `socket_start_thread`. -/
inductive AcceptPhase where
  | accepting
  | storing (new : Descriptor)
  | creating
  | returning
  deriving DecidableEq, Repr

/-- The accept loop and the threads it has created.  `socket` is the cell of
the parameter, assumed to keep its value after `socket_start_thread` returns
and until the next call stores its own.  A pending thread has not run yet, and a
serving one has read its descriptor and not closed it.  `accepted` and `served`
are records. -/
structure Acceptor where
  phase : AcceptPhase
  socket : Descriptor
  created : Nat
  pending : List Nat
  serving : List (Nat × Descriptor)
  opened : List Descriptor
  accepted : List Descriptor
  served : List (Nat × Descriptor)
  deriving DecidableEq

/-- The steps of the loop, with the answers of the system, and of the threads. -/
inductive AcceptMove where
  | accept (answer : Option Descriptor)
  | store
  | create (succeeded : Bool)
  | leave
  | begin (thread : Nat)
  | close (thread : Nat) (socket : Descriptor)
  deriving DecidableEq, Repr

namespace Acceptor

/-- Nothing accepted yet; the stack holds some old value. -/
def start (stale : Descriptor) : Acceptor where
  phase := .accepting
  socket := stale
  created := 0
  pending := []
  serving := []
  opened := []
  accepted := []
  served := []

/-- One step of the loop or of a thread. -/
def step : PartialStep Acceptor AcceptMove
  | state, .accept answer =>
      if state.phase = .accepting then
        match answer with
        | none => some state
        | some new =>
            some { state with
              phase := .storing new
              opened := new :: state.opened
              accepted := new :: state.accepted }
      else none
  | state, .store =>
      match state.phase with
      | .storing new => some { state with phase := .creating, socket := new }
      | _ => none
  | state, .create succeeded =>
      if state.phase = .creating then
        if succeeded then
          some { state with
            phase := .returning
            created := state.created + 1
            pending := state.created :: state.pending }
        else some { state with phase := .returning }
      else none
  | state, .leave =>
      if state.phase = .returning then some { state with phase := .accepting } else none
  | state, .begin thread =>
      if thread ∈ state.pending then
        some { state with
          pending := state.pending.erase thread
          serving := (thread, state.socket) :: state.serving
          served := (thread, state.socket) :: state.served }
      else none
  | state, .close thread socket =>
      if (thread, socket) ∈ state.serving then
        some { state with
          serving := state.serving.erase (thread, socket)
          opened := state.opened.erase socket }
      else none

/-! ## What one step can do -/

/-- The steps with their guards. -/
inductive Took (state : Acceptor) : AcceptMove -> Acceptor -> Prop where
  | refused (accepting : state.phase = .accepting) : Took state (.accept none) state
  | accepted (new) (accepting : state.phase = .accepting) :
      Took state (.accept (some new))
        { state with
          phase := .storing new
          opened := new :: state.opened
          accepted := new :: state.accepted }
  | stored (new) (storing : state.phase = .storing new) :
      Took state .store { state with phase := .creating, socket := new }
  | created (creating : state.phase = .creating) :
      Took state (.create true)
        { state with
          phase := .returning
          created := state.created + 1
          pending := state.created :: state.pending }
  | uncreated (creating : state.phase = .creating) :
      Took state (.create false) { state with phase := .returning }
  | returned (returning : state.phase = .returning) :
      Took state .leave { state with phase := .accepting }
  | began (thread) (pending : thread ∈ state.pending) :
      Took state (.begin thread)
        { state with
          pending := state.pending.erase thread
          serving := (thread, state.socket) :: state.serving
          served := (thread, state.socket) :: state.served }
  | closed (thread socket) (serving : (thread, socket) ∈ state.serving) :
      Took state (.close thread socket)
        { state with
          serving := state.serving.erase (thread, socket)
          opened := state.opened.erase socket }

theorem step_took {state next : Acceptor} {move : AcceptMove}
    (taken : step state move = some next) : Took state move next := by
  cases move with
  | accept answer =>
      simp only [step] at taken
      split at taken
      next accepting =>
        cases answer with
        | none =>
            cases Option.some.inj taken
            exact .refused accepting
        | some new =>
            cases Option.some.inj taken
            exact .accepted new accepting
      next => cases taken
  | store =>
      simp only [step] at taken
      split at taken
      next new storing =>
        cases Option.some.inj taken
        exact .stored new storing
      next => cases taken
  | create succeeded =>
      simp only [step] at taken
      split at taken
      next creating =>
        cases succeeded with
        | true =>
            cases Option.some.inj taken
            exact .created creating
        | false =>
            cases Option.some.inj taken
            exact .uncreated creating
      next => cases taken
  | leave =>
      simp only [step] at taken
      split at taken
      next returning =>
        cases Option.some.inj taken
        exact .returned returning
      next => cases taken
  | begin thread =>
      simp only [step] at taken
      split at taken
      next pending =>
        cases Option.some.inj taken
        exact .began thread pending
      next => cases taken
  | close thread socket =>
      simp only [step] at taken
      split at taken
      next serving =>
        cases Option.some.inj taken
        exact .closed thread socket serving
      next => cases taken

/-! ## Counting descriptors -/

/-- The descriptor on its way to a thread that does not exist yet. -/
def inFlight (state : Acceptor) : List Descriptor :=
  match state.phase with
  | .accepting => []
  | .storing new => [new]
  | .creating => [state.socket]
  | .returning => []

/-- The descriptors still to be read: once for every pending thread what is in
the cell now, and the one in flight. -/
def unread (state : Acceptor) : List Descriptor :=
  (state.pending.map fun _ => state.socket) ++ state.inFlight

/-- The parameter is overwritten only after every thread has read it, and
every thread is created. -/
def Handed (state : Acceptor) : AcceptMove -> Prop
  | .store => state.pending = []
  | .create succeeded => succeeded = true
  | _ => True

def Unused (state : Acceptor) : AcceptMove -> Prop
  | .accept (some new) => new ∉ state.opened
  | _ => True

/-- Between two rounds of the loop, with every thread past its first step. -/
structure Settled (state : Acceptor) : Prop where
  accepting : state.phase = .accepting
  begun : state.pending = []

/-- The threads serve the accepted descriptors, each exactly once. -/
def ServesAccepted (state : Acceptor) : Prop :=
  (state.served.map Prod.snd).Perm state.accepted

/-- An accepted descriptor has been read or is still to be read. -/
def Accounted (state : Acceptor) : Prop :=
  state.accepted.Perm (state.served.map Prod.snd ++ state.unread)

/-- The open descriptors are told apart, and each is in one pair of hands. -/
structure Tracked (state : Acceptor) : Prop where
  distinct : state.opened.Nodup
  owned : state.opened.Perm (state.serving.map Prod.snd ++ state.unread)

theorem unread_of_settled {state : Acceptor} (settled : state.Settled) : state.unread = [] := by
  simp [unread, inFlight, settled.accepting, settled.begun]

/-- How a step that hands over properly changes what is still to be read. -/
theorem unread_took {state next : Acceptor} {move : AcceptMove} (took : Took state move next)
    (handed : state.Handed move) :
    match move with
    | .accept (some new) => next.unread.Perm (new :: state.unread)
    | .begin _ => state.unread.Perm (state.socket :: next.unread)
    | _ => next.unread.Perm state.unread := by
  cases took with
  | refused accepting => exact .refl _
  | accepted new accepting =>
      simp only [unread, inFlight, accepting, List.append_nil]
      exact List.perm_append_singleton _ _
  | stored new storing =>
      have begun : state.pending = [] := handed
      simp only [unread, inFlight, storing, begun, List.map_nil]
      exact .refl _
  | created creating =>
      simp only [unread, inFlight, creating, List.map_cons, List.append_nil]
      exact (List.perm_append_singleton _ _).symm
  | uncreated creating => cases handed
  | returned returning =>
      simp only [unread, inFlight, returning]
      exact .refl _
  | began thread pending =>
      have read := (List.perm_cons_erase pending).map fun _ => state.socket
      exact read.append_right _
  | closed thread socket serving => exact .refl _

theorem perm_accept {known reads rest rest' : List Descriptor} {new : Descriptor}
    (counted : known.Perm (reads ++ rest)) (grown : rest'.Perm (new :: rest)) :
    (new :: known).Perm (reads ++ rest') := by
  have placed : (new :: known).Perm (reads ++ new :: rest) :=
    (counted.cons new).trans List.perm_middle.symm
  exact placed.trans (grown.symm.append_left reads)

theorem perm_begin {known reads rest rest' : List Descriptor} {socket : Descriptor}
    (counted : known.Perm (reads ++ rest)) (shrunk : rest.Perm (socket :: rest')) :
    known.Perm (socket :: reads ++ rest') := by
  have read : known.Perm (reads ++ socket :: rest') := counted.trans (shrunk.append_left reads)
  exact read.trans List.perm_middle

theorem accounted_took {state next : Acceptor} {move : AcceptMove} (took : Took state move next)
    (handed : state.Handed move) (accounted : state.Accounted) : next.Accounted := by
  have change := unread_took took handed
  cases took with
  | accepted new accepting => exact perm_accept accounted change
  | began thread pending => exact perm_begin accounted change
  | refused | stored | created | uncreated | returned | closed =>
      exact accounted.trans (change.symm.append_left _)

theorem tracked_took {state next : Acceptor} {move : AcceptMove} (took : Took state move next)
    (unused : state.Unused move) (handed : state.Handed move) (tracked : state.Tracked) :
    next.Tracked := by
  have change := unread_took took handed
  cases took with
  | accepted new accepting =>
      exact ⟨List.nodup_cons.mpr ⟨unused, tracked.distinct⟩, perm_accept tracked.owned change⟩
  | began thread pending => exact ⟨tracked.distinct, perm_begin tracked.owned change⟩
  | closed thread socket serving =>
      refine ⟨tracked.distinct.erase socket, ?_⟩
      have released : (state.serving.map Prod.snd).Perm
          (socket :: (state.serving.erase (thread, socket)).map Prod.snd) :=
        (List.perm_cons_erase serving).map Prod.snd
      have remaining := (tracked.owned.trans (released.append_right _)).erase socket
      rw [List.cons_append, List.erase_cons_head] at remaining
      exact remaining
  | refused | stored | created | uncreated | returned =>
      exact ⟨tracked.distinct, tracked.owned.trans (change.symm.append_left _)⟩

/-! ## Losing a descriptor -/

/-- The descriptor was accepted more often than it was read, nobody is going to
read it, and nobody is going to close it either. -/
structure Lost (socket : Descriptor) (state : Acceptor) : Prop where
  opened : socket ∈ state.opened
  unowned : socket ∉ state.serving.map Prod.snd
  short : (state.served.map Prod.snd).count socket < state.accepted.count socket
  elsewhere : state.phase ≠ .storing socket
  overwritten : state.socket = socket -> state.pending = [] ∧ state.phase ≠ .creating

theorem Lost.not_servesAccepted {socket : Descriptor} {state : Acceptor}
    (lost : Lost socket state) : ¬ state.ServesAccepted := by
  intro serves
  have equal := serves.count_eq socket
  have short := lost.short
  omega

/-- A lost descriptor stays lost: it is open, so that it is not given out again,
and no thread that serves it could close it. -/
theorem lost_took {socket : Descriptor} {state next : Acceptor} {move : AcceptMove}
    (took : Took state move next) (unused : state.Unused move) (lost : Lost socket state) :
    Lost socket next := by
  cases took with
  | refused accepting => exact lost
  | accepted new accepting =>
      have different : new ≠ socket := by
        intro same
        rw [← same] at lost
        exact unused lost.opened
      refine ⟨List.mem_cons_of_mem _ lost.opened, lost.unowned, ?_, ?_, ?_⟩
      · rw [List.count_cons_of_ne different]
        exact lost.short
      · intro same
        exact different (AcceptPhase.storing.inj same)
      · intro same
        exact ⟨(lost.overwritten same).1, AcceptPhase.noConfusion⟩
  | stored new storing =>
      have different : new ≠ socket := by
        intro same
        rw [same] at storing
        exact lost.elsewhere storing
      exact ⟨lost.opened, lost.unowned, lost.short, AcceptPhase.noConfusion,
        fun same => absurd same different⟩
  | created creating =>
      refine ⟨lost.opened, lost.unowned, lost.short, AcceptPhase.noConfusion, ?_⟩
      intro same
      exact absurd creating (lost.overwritten same).2
  | uncreated creating =>
      refine ⟨lost.opened, lost.unowned, lost.short, AcceptPhase.noConfusion, ?_⟩
      intro same
      exact absurd creating (lost.overwritten same).2
  | returned returning =>
      refine ⟨lost.opened, lost.unowned, lost.short, AcceptPhase.noConfusion, ?_⟩
      intro same
      exact ⟨(lost.overwritten same).1, AcceptPhase.noConfusion⟩
  | began thread pending =>
      have different : state.socket ≠ socket := by
        intro same
        rw [(lost.overwritten same).1] at pending
        cases pending
      refine ⟨lost.opened, ?_, ?_, lost.elsewhere, fun same => absurd same different⟩
      · rw [List.map_cons, List.mem_cons]
        rintro (same | member)
        · exact different same.symm
        · exact lost.unowned member
      · rw [List.map_cons, List.count_cons_of_ne different]
        exact lost.short
  | closed thread other serving =>
      have different : socket ≠ other := by
        intro same
        apply lost.unowned
        rw [same]
        exact List.mem_map_of_mem serving
      refine ⟨?_, ?_, lost.short, lost.elsewhere, lost.overwritten⟩
      · exact (List.mem_erase_of_ne different).mpr lost.opened
      · intro member
        apply lost.unowned
        exact (List.erase_sublist.map Prod.snd).subset member

/-- A descriptor still to be read is open, is served by nobody, is short of one
reading, and is to be read only once. -/
theorem unread_facts {state : Acceptor} {socket : Descriptor} {rest : List Descriptor}
    (accounted : state.Accounted) (tracked : state.Tracked)
    (unread : state.unread.Perm (socket :: rest)) :
    socket ∈ state.opened ∧ socket ∉ state.serving.map Prod.snd ∧
      (state.served.map Prod.snd).count socket < state.accepted.count socket ∧
      socket ∉ rest := by
  have owned : state.opened.Perm (socket :: (state.serving.map Prod.snd ++ rest)) :=
    perm_begin tracked.owned unread
  have alone := (List.nodup_cons.mp (owned.nodup_iff.mp tracked.distinct)).1
  rw [List.mem_append] at alone
  refine ⟨owned.mem_iff.mpr List.mem_cons_self, fun served => alone (.inl served), ?_,
    fun again => alone (.inr again)⟩
  have counted := accounted.count_eq socket
  rw [List.count_append, unread.count_eq, List.count_cons_self] at counted
  omega

/-- A step that does not hand over properly loses a descriptor: the one that is
overwritten, or the one whose thread was not created. -/
theorem lost_of_unhanded {state next : Acceptor} {move : AcceptMove}
    (took : Took state move next) (accounted : state.Accounted) (tracked : state.Tracked)
    (unhanded : ¬ state.Handed move) : Exists fun socket => Lost socket next := by
  cases took with
  | stored new storing =>
      cases pending : state.pending with
      | nil => exact absurd pending unhanded
      | cons thread threads =>
          have unread : state.unread.Perm
              (state.socket :: ((threads.map fun _ => state.socket) ++ [new])) := by
            simp only [Acceptor.unread, inFlight, storing, pending, List.map_cons]
            exact .refl _
          rcases unread_facts accounted tracked unread with ⟨opened, unowned, short, once⟩
          refine ⟨state.socket, opened, unowned, short, AcceptPhase.noConfusion, ?_⟩
          intro same
          refine absurd ?_ once
          exact List.mem_append_right _ (List.mem_singleton.mpr same.symm)
  | uncreated creating =>
      have unread : state.unread.Perm
          (state.socket :: state.pending.map fun _ => state.socket) := by
        simp only [Acceptor.unread, inFlight, creating]
        exact List.perm_append_singleton _ _
      rcases unread_facts accounted tracked unread with ⟨opened, unowned, short, once⟩
      refine ⟨state.socket, opened, unowned, short, AcceptPhase.noConfusion, ?_⟩
      intro _
      refine ⟨?_, AcceptPhase.noConfusion⟩
      cases pending : state.pending with
      | nil => rfl
      | cons thread threads =>
          rw [pending, List.map_cons] at once
          exact absurd List.mem_cons_self once
  | created => exact absurd rfl unhanded
  | refused | accepted | returned | began | closed => exact absurd trivial unhanded

theorem accounted_start (stale : Descriptor) : (start stale).Accounted := .refl _

theorem tracked_start (stale : Descriptor) : (start stale).Tracked := ⟨List.nodup_nil, .refl _⟩

end Acceptor

/-- Whenever the loop is back at `accept` and all created threads have begun,
the descriptors they serve are those accepted, provided that the parameter was
never overwritten under a pending thread and every thread was created.  In
runs in which the system gives out no descriptor that is still open this is
also necessary. -/
theorem connections_served_iff (stale : Descriptor) (moves : List AcceptMove) (final : Acceptor)
    (ran : Acceptor.step.run (.start stale) moves = some final) (settled : final.Settled) :
    (Acceptor.step.Respects Acceptor.Handed (.start stale) moves -> final.ServesAccepted) ∧
    (Acceptor.step.Respects Acceptor.Unused (.start stale) moves ->
      (final.ServesAccepted ↔
        Acceptor.step.Respects Acceptor.Handed (.start stale) moves)) := by
  have enough : Acceptor.step.Respects Acceptor.Handed (.start stale) moves ->
      final.ServesAccepted := by
    intro handed
    have accounted : final.Accounted := by
      apply PartialStep.run_invariant_of_respects _ ran handed (Acceptor.accounted_start stale)
      intro state move next taken met
      exact Acceptor.accounted_took (Acceptor.step_took taken) met
    have read : final.accepted.Perm (final.served.map Prod.snd ++ []) :=
      Acceptor.unread_of_settled settled ▸ accounted
    rw [List.append_nil] at read
    exact read.symm
  refine ⟨enough, ?_⟩
  intro unused
  refine ⟨?_, enough⟩
  intro serves
  have keeps : forall (state : Acceptor) move next, Acceptor.step state move = some next ->
      state.Unused move -> state.Handed move -> state.Accounted ∧ state.Tracked ->
        next.Accounted ∧ next.Tracked := by
    intro state move next taken fresh handed both
    have took := Acceptor.step_took taken
    exact ⟨Acceptor.accounted_took took handed both.1,
      Acceptor.tracked_took took fresh handed both.2⟩
  have spoils : forall (state : Acceptor) move next, Acceptor.step state move = some next ->
      state.Unused move -> ¬ state.Handed move -> state.Accounted ∧ state.Tracked ->
        Exists fun socket => Acceptor.Lost socket next := by
    intro state move next taken _ unhanded both
    exact Acceptor.lost_of_unhanded (Acceptor.step_took taken) both.1 both.2 unhanded
  have persists : forall (state : Acceptor) move next, Acceptor.step state move = some next ->
      state.Unused move -> (Exists fun socket => Acceptor.Lost socket state) ->
        Exists fun socket => Acceptor.Lost socket next := by
    rintro state move next taken fresh ⟨socket, lost⟩
    exact ⟨socket, Acceptor.lost_took (Acceptor.step_took taken) fresh lost⟩
  rcases PartialStep.respects_or_spoiled keeps spoils persists ran unused
      ⟨Acceptor.accounted_start stale, Acceptor.tracked_start stale⟩ with handed | ⟨socket, lost⟩
  · exact handed
  · exact absurd serves lost.not_servesAccepted

/-- Two connections, the second accepted after the first thread has run. -/
def patientAccepts : List AcceptMove :=
  [.accept (some 5), .store, .create true, .leave, .begin 0,
    .accept (some 6), .store, .create true, .leave, .begin 1]

theorem connections_served_iff_patientAccepts :
    Exists fun final => Acceptor.step.run (.start 0) patientAccepts = some final ∧
      final.Settled ∧ final.ServesAccepted := by
  refine ⟨_, rfl, ⟨rfl, rfl⟩, ?_⟩
  apply (connections_served_iff 0 patientAccepts _ rfl ⟨rfl, rfl⟩).1
  iterate 2
    apply PartialStep.respects_cons rfl trivial
    refine PartialStep.respects_cons rfl rfl ?_
    refine PartialStep.respects_cons rfl rfl ?_
    apply PartialStep.respects_cons rfl trivial
    apply PartialStep.respects_cons rfl trivial
  trivial

/-- Two connections, the second accepted before the first thread has run. -/
def hastyAccepts : List AcceptMove :=
  [.accept (some 5), .store, .create true, .leave,
    .accept (some 6), .store, .create true, .leave, .begin 0, .begin 1]

/-- Both threads then serve the second connection, and nobody the first. -/
theorem hasty_accept_loses_connection :
    Exists fun final => Acceptor.step.run (.start 0) hastyAccepts = some final ∧
      final.Settled ∧ final.accepted = [6, 5] ∧ final.served = [(1, 6), (0, 6)] ∧
        ¬ final.ServesAccepted := by
  refine ⟨_, rfl, ⟨rfl, rfl⟩, rfl, rfl, ?_⟩
  intro serves
  have impossible := serves.mem_iff.mpr (List.mem_cons_of_mem 6 List.mem_cons_self : 5 ∈ [6, 5])
  revert impossible
  decide

end Transport
end PdnsLogger
