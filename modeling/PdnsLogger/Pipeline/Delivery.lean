import PdnsLogger.Pipeline.Threads

namespace PdnsLogger
namespace Pipeline

open Foundation Program Engines Transport Queue Storage

/-!
# What reaches `write_log`, syslog and the table

Whatever the order in which the threads move, the effects of one client's thread
are those of the frames its client has sent, in their order and each of them
once: those performed so far, followed by those still to come.  The lines handed to
`write_log` are a merge of such sequences, and none of them is torn or foreign.

The table holds less: a selection of each client's statements, still in their
order.  What is missing was dropped by the queue, refused by SQLite or rolled
back.
-/

/-! ## What a client's frames ask for -/

section Reference

variable (env : Environment)

/-- The lines that a payload gives for `write_log`. -/
def fileLinesOf (payload : Bytes) : List Bytes :=
  match env.unpack payload with
  | none => []
  | some msg =>
      (logfileLog env.build env.inetNtop env.engines.logfile (some msg)).toOption.getD []

/-- The lines for syslog, unless the process has ended before. -/
def systemLinesOf (payload : Bytes) : List Bytes :=
  match env.unpack payload with
  | none => []
  | some msg =>
      match logfileLog env.build env.inetNtop env.engines.logfile (some msg) with
      | .error _ => []
      | .ok _ => (syslogLog env.build env.inetNtop env.engines.syslog (some msg)).toOption.getD []

/-- The statements for the queue, unless the process has ended before. -/
def statementsOf (payload : Bytes) : List Bytes :=
  match env.unpack payload with
  | none => []
  | some msg =>
      match logfileLog env.build env.inetNtop env.engines.logfile (some msg),
          syslogLog env.build env.inetNtop env.engines.syslog (some msg) with
      | .ok _, .ok _ => logsqliteLog env.inetNtop env.engines.sqlite (some msg)
      | _, _ => []

/-- The effects of everything a client has sent. -/
def streamEffects (received : Bytes) : List Effect :=
  (frames.items received).flatMap (payloadEffects env)

end Reference

theorem payloadEffects_kinds (env : Environment) (payload : Bytes) :
    (payloadEffects env payload).filterMap Effect.fileLine = fileLinesOf env payload ∧
      (payloadEffects env payload).filterMap Effect.systemLine = systemLinesOf env payload ∧
      (payloadEffects env payload).filterMap Effect.statement = statementsOf env payload := by
  unfold payloadEffects fileLinesOf systemLinesOf statementsOf
  cases env.unpack payload with
  | none =>
      cases env.build with
      | debug => exact ⟨rfl, rfl, rfl⟩
      | release => exact ⟨rfl, rfl, rfl⟩
  | some msg =>
      simp only [messageEffects]
      cases logfileLog env.build env.inetNtop env.engines.logfile (some msg) with
      | error fault => exact ⟨rfl, rfl, rfl⟩
      | ok file =>
          cases syslogLog env.build env.inetNtop env.engines.syslog (some msg) with
          | error fault =>
              simp [List.filterMap_map, Function.comp_def, Effect.fileLine, Effect.systemLine,
                Effect.statement, Except.toOption]
          | ok system =>
              simp [List.filterMap_map, Function.comp_def, Effect.fileLine, Effect.systemLine,
                Effect.statement, Except.toOption]

theorem streamEffects_filterMap {env : Environment} {kind : Effect -> Option Bytes}
    {linesOf : Bytes -> List Bytes}
    (kinds : forall payload, (payloadEffects env payload).filterMap kind = linesOf payload)
    (received : Bytes) :
    (streamEffects env received).filterMap kind = (frames.items received).flatMap linesOf := by
  rw [streamEffects, List.filterMap_flatMap]
  exact List.flatMap_congr fun payload _ => kinds payload

def performedBy (client : Nat) (performed : List (Nat × Effect)) : List Effect :=
  (performed.filter fun entry => entry.1 == client).map Prod.snd

theorem performedBy_concat_self (client : Nat) (performed : List (Nat × Effect))
    (effect : Effect) :
    performedBy client (performed ++ [(client, effect)]) =
      performedBy client performed ++ [effect] := by
  simp [performedBy]

theorem performedBy_concat_of_ne {client other : Nat} (different : other ≠ client)
    (performed : List (Nat × Effect)) (effect : Effect) :
    performedBy client (performed ++ [(other, effect)]) = performedBy client performed := by
  simp [performedBy, different]

def statementsIn (performed : List (Nat × Effect)) : List Bytes :=
  performed.filterMap fun entry => entry.2.statement

theorem delivered_of_ne {client other : Nat} (different : other ≠ client) (event : Event) :
    delivered client (other, event) = [] := by
  cases event with
  | setup succeeded => rfl
  | testFull => rfl
  | read result =>
      cases result with
      | bytes content => exact if_neg different
      | endOfFile => rfl
      | error => rfl

/-! ## One read -/

theorem feed_collect (env : Environment) (payloads handed : List Bytes)
    (effects : List Effect) :
    feed (collect env) payloads (handed, effects) =
      .ok (handed ++ payloads, effects ++ payloads.flatMap (payloadEffects env)) := by
  induction payloads generalizing handed effects with
  | nil => simp [feed]
  | cons payload payloads ih => simp [feed, collect, bind, Except.bind, ih]

/-- A `read` leaves the effects of the frames that it completed. -/
theorem Thread.receive_ok {thread : Thread} {received : Bytes}
    (tracks : Tracks thread.connection received) (env : Environment) {content : Bytes}
    (fits : content.length ≤ maxBufferSize - thread.connection.bsize) :
    Exists fun next => thread.receive env content = .ok next ∧
      Tracks next.connection (received ++ content) ∧
      streamEffects env (received ++ content) = streamEffects env received ++ next.todo := by
  have bounded := tracks.bounded
  have room : thread.connection.bsize + content.length ≤ maxBufferSize := by omega
  rcases thread.connection.buffer.store_ok thread.connection.bsize content room with
    ⟨stored, wrote, visible⟩
  rw [tracks.unconsumed] at visible
  have spec := protobufExtract_spec (collect env)
    ⟨stored, thread.connection.bsize + content.length, thread.connection.handed, []⟩ room
  simp only [visible, Deframes, feed_collect, List.nil_append] at spec
  rcases spec with ⟨buf, kept, extracted⟩
  refine ⟨⟨⟨.loopHead, buf, (frames.remainder (frames.remainder received ++ content)).length,
    thread.connection.handed ++ frames.items (frames.remainder received ++ content)⟩,
    (frames.items (frames.remainder received ++ content)).flatMap (payloadEffects env)⟩,
    ?_, ?_, ?_⟩
  · simp only [Thread.receive, wrote, extracted, bind, Except.bind]
    by_cases emptied : frames.remainder (frames.remainder received ++ content) = [] ∧
        frames.remainder received ++ content ≠ []
    · simp only [if_pos emptied, Connection.dispatchStatus]
      rfl
    · simp only [if_neg emptied, Connection.dispatchStatus]
      rfl
  · have shorter := length_remainder_le (frames.remainder received ++ content)
    rw [List.length_append, tracks.length_remainder] at shorter
    refine ⟨?_, ?_, ?_, fun away => absurd rfl away⟩
    · change (frames.remainder (frames.remainder received ++ content)).length ≤ maxBufferSize
      omega
    · rw [frames.items_append received content, ← tracks.handed]
    · rw [frames.remainder_append received content]
      exact kept
  · rw [streamEffects, frames.items_append received content, List.flatMap_append]
    rfl

/-- A thread by itself: its bytes, and the effects of the new ones. -/
theorem Thread.step_cases {env : Environment} {thread : Thread} {event : Event} {received : Bytes}
    {result : Except Fault Thread} (tracks : Tracks thread.connection received)
    (client : Nat)
    (taken : Thread.step env thread event = some result) :
    thread.todo = [] ∧ Exists fun next => result = .ok next ∧
      Tracks next.connection (received ++ delivered client (client, event)) ∧
      streamEffects env (received ++ delivered client (client, event)) =
        streamEffects env received ++ next.todo := by
  have silent : forall connection, Tracks connection received ->
      Exists fun next => Except.ok (⟨connection, []⟩ : Thread) = (.ok next : Except Fault Thread) ∧
        Tracks next.connection (received ++ []) ∧
        streamEffects env (received ++ []) = streamEffects env received ++ next.todo := by
    intro connection kept
    simp only [List.append_nil]
    exact ⟨_, rfl, kept, (List.append_nil _).symm⟩
  simp only [Thread.step] at taken
  split at taken
  next idle =>
    refine ⟨idle, ?_⟩
    split at taken
    next starting =>
      cases taken
      exact silent _ (tracks.setup starting _)
    next =>
      cases taken
      exact silent _ tracks.testFull
    next reading =>
      cases taken
      exact silent _ (tracks.finish (by rw [reading]; nofun) (by rw [reading]; nofun) nofun)
    next reading =>
      cases taken
      exact silent _ (tracks.finish (by rw [reading]; nofun) (by rw [reading]; nofun) nofun)
    next content reading =>
      split at taken
      next fits =>
        cases taken
        have here : delivered client (client, .read (.bytes content)) = content := if_pos rfl
        rw [here]
        exact Thread.receive_ok tracks env fits.2
      next => cases taken
    next => cases taken
  next => cases taken

/-! ## The invariant of the process -/

/-- Every thread accounts for the bytes of its client, and the table holds a
selection of the statements that were performed. -/
structure Accounted (env : Environment) (received : Nat -> Bytes) (state : Process) : Prop where
  tracks : forall client, Tracks (state.threads client).connection (received client)
  effects : forall client, performedBy client state.performed ++ (state.threads client).todo =
    streamEffects env (received client)
  table : Exists fun pushed => Exists fun slot =>
    List.Sublist pushed (statementsIn state.performed) ∧ state.worker.Holds slot ∧
      Selected pushed state.worker slot

theorem accounted_start (env : Environment) (settings : Settings Bytes) (answer : OpenAnswer)
    (stack : Nat -> Buffer) :
    Accounted env (fun _ => []) (Process.start settings answer stack) where
  tracks client := Tracks.start (stack client)
  effects _ := rfl
  table := ⟨[], none, List.Sublist.refl _, Worker.start_holds settings answer,
    Selected.start settings answer⟩

namespace Accounted

variable {env : Environment} {settings : Settings Bytes} {received : Nat -> Bytes}
  {state next : Process}

/-- The end of the process changes no account. -/
theorem abort (accounted : Accounted env received state) (fault : Fault) :
    Accounted env received { state with aborted := some fault } :=
  ⟨accounted.tracks, accounted.effects, accounted.table⟩

theorem thread {client : Nat} {event : Event} {result : Except Fault Thread}
    (accounted : Accounted env received state)
    (taken : Thread.step env (state.threads client) event = some result) :
    Exists fun thread => result = .ok thread ∧
      Accounted env (fun i => received i ++ delivered i (client, event))
        (state.set client thread) := by
  rcases Thread.step_cases (accounted.tracks client) client taken with
    ⟨idle, thread, rfl, tracked, streamed⟩
  refine ⟨thread, rfl, ?_, ?_, accounted.table⟩
  · intro other
    by_cases same : other = client
    · subst same
      simp only [Process.set, Function.update_self]
      exact tracked
    · have nothing : delivered other (client, event) = [] := delivered_of_ne (Ne.symm same) event
      simp only [Process.set, Function.update_of_ne same, nothing, List.append_nil]
      exact accounted.tracks other
  · intro other
    by_cases same : other = client
    · subst same
      have before := accounted.effects other
      rw [idle, List.append_nil] at before
      simp only [Process.set, Function.update_self, before, streamed]
    · have nothing : delivered other (client, event) = [] := delivered_of_ne (Ne.symm same) event
      simp only [Process.set, Function.update_of_ne same, nothing, List.append_nil]
      exact accounted.effects other

theorem performs {client : Nat} {effect : Effect} {todo : List Effect} {worker : Worker Bytes}
    (accounted : Accounted env received state)
    (head : (state.threads client).todo = effect :: todo)
    (table : Exists fun pushed => Exists fun slot =>
      List.Sublist pushed (statementsIn (state.performed ++ [(client, effect)])) ∧
        worker.Holds slot ∧ Selected pushed worker slot) :
    Accounted env received { state.set client ⟨(state.threads client).connection, todo⟩ with
      performed := state.performed ++ [(client, effect)], worker := worker } := by
  refine ⟨?_, ?_, table⟩
  · intro other
    by_cases same : other = client
    · subst same
      simp only [Process.set, Function.update_self]
      exact accounted.tracks other
    · simp only [Process.set, Function.update_of_ne same]
      exact accounted.tracks other
  · intro other
    by_cases same : other = client
    · subst same
      have before := accounted.effects other
      rw [head] at before
      simp only [Process.set, Function.update_self, performedBy_concat_self, List.append_assoc,
        List.singleton_append]
      exact before
    · simp only [Process.set, Function.update_of_ne same,
        performedBy_concat_of_ne (Ne.symm same)]
      exact accounted.effects other

theorem table_concat (accounted : Accounted env received state) (client : Nat)
    (effect : Effect) :
    Exists fun pushed => Exists fun slot =>
      List.Sublist pushed (statementsIn (state.performed ++ [(client, effect)])) ∧
        state.worker.Holds slot ∧ Selected pushed state.worker slot := by
  rcases accounted.table with ⟨pushed, slot, sublist, holds, selected⟩
  refine ⟨pushed, slot, sublist.trans ?_, holds, selected⟩
  rw [statementsIn, statementsIn, List.filterMap_append]
  exact List.sublist_append_left _ _

theorem perform {client : Nat} {allocated : Option (Address × Option Address)}
    (accounted : Accounted env received state) (alive : state.worker.crashed = none)
    (taken : state.perform env client allocated = some next) : Accounted env received next := by
  unfold Process.perform at taken
  split at taken
  next => cases taken
  next effect todo head =>
    have plain := accounted.performs head (accounted.table_concat client effect)
    cases effect with
    | file line =>
        cases taken
        exact plain
    | system line =>
        cases taken
        exact plain
    | abort fault =>
        cases taken
        exact accounted.abort fault
    | push statement =>
        cases allocated with
        | none =>
            cases taken
            exact plain
        | some block =>
            rcases Option.map_eq_some_iff.mp taken with ⟨worker, pushing, rfl⟩
            rcases accounted.table with ⟨pushed, slot, sublist, holds, selected⟩
            rcases selected.push holds pushing with
              ⟨after, content, ⟨crashed, kept⟩ | ⟨same, more⟩⟩
            · rw [if_pos crashed]
              exact ⟨accounted.tracks, accounted.effects, pushed, after, sublist, content, kept⟩
            · rw [if_neg (by rw [same, alive]; nofun)]
              refine accounted.performs head ⟨pushed ++ [statement], after, ?_, content, more⟩
              rw [statementsIn, List.filterMap_append]
              exact sublist.append (List.Sublist.refl _)

theorem engine {move : Move Bytes} {worker : Worker Bytes}
    (accounted : Accounted env received state)
    (taken : work env.build settings state.worker move = some worker)
    (other : forall client row item stale, move ≠ .push client row item stale) :
    Accounted env received { state with worker := worker } := by
  rcases accounted.table with ⟨pushed, slot, sublist, holds, selected⟩
  rcases selected.move holds taken other with ⟨after, content, kept⟩
  exact ⟨accounted.tracks, accounted.effects, pushed, after, sublist, content, kept⟩

theorem step {turn : Turn} (accounted : Accounted env received state)
    (taken : Process.step env settings state turn = some next) :
    Accounted env (fun i => received i ++ receivedOf i (clientEvents [turn])) next := by
  simp only [Process.step] at taken
  split at taken
  next => cases taken
  next running =>
    rw [not_or] at running
    have alive : state.worker.crashed = none := Option.not_isSome_iff_eq_none.mp running.2
    have silent : forall {turn : Turn}, clientEvents [turn] = [] ->
        (fun i => received i ++ receivedOf i (clientEvents [turn])) = received := by
      intro turn none
      funext i
      rw [none]
      exact List.append_nil _
    cases turn with
    | thread client event =>
        rcases Option.map_eq_some_iff.mp taken with ⟨result, moved, rfl⟩
        rcases accounted.thread moved with ⟨thread, rfl, kept⟩
        have bytes : (fun i => received i ++ receivedOf i (clientEvents [.thread client event])) =
            fun i => received i ++ delivered i (client, event) := by
          funext i
          exact congrArg (received i ++ ·) (List.append_nil _)
        rw [bytes]
        exact kept
    | effect client allocated =>
        rw [silent rfl]
        exact accounted.perform alive taken
    | engine move =>
        rw [silent rfl]
        cases move with
        | push client row item stale => cases taken
        | _ =>
            rcases Option.map_eq_some_iff.mp taken with ⟨worker, moved, rfl⟩
            exact accounted.engine moved (fun _ _ _ _ => nofun)

theorem receivedOf_clientEvents_cons (client : Nat) (turn : Turn) (turns : List Turn) :
    receivedOf client (clientEvents (turn :: turns)) =
      receivedOf client (clientEvents [turn]) ++ receivedOf client (clientEvents turns) := by
  have divided : clientEvents ([turn] ++ turns) = clientEvents [turn] ++ clientEvents turns :=
    List.filterMap_append
  rw [List.singleton_append] at divided
  rw [divided, receivedOf, receivedOf, receivedOf, List.flatMap_append]

theorem run {turns : List Turn} (accounted : Accounted env received state)
    (ran : (Process.step env settings).run state turns = some next) :
    Accounted env (fun i => received i ++ receivedOf i (clientEvents turns)) next := by
  induction turns generalizing state received with
  | nil =>
      cases Option.some.inj ran
      have same : (fun i => received i ++ receivedOf i (clientEvents [])) = received := by
        funext i
        exact List.append_nil _
      rw [same]
      exact accounted
  | cons turn turns ih =>
      rcases PartialStep.run_cons_eq_some.mp ran with ⟨middle, taken, rest⟩
      have later := ih (accounted.step taken) rest
      have bytes : (fun i => received i ++ receivedOf i (clientEvents [turn]) ++
          receivedOf i (clientEvents turns)) =
            fun i => received i ++ receivedOf i (clientEvents (turn :: turns)) := by
        funext i
        rw [receivedOf_clientEvents_cons i turn turns, List.append_assoc]
      rw [bytes] at later
      exact later

end Accounted

/-! ## The shared output -/

/-- The effects of one kind, each with the client it comes from. -/
def tagged (kind : Effect -> Option Bytes) (performed : List (Nat × Effect)) :
    List (Nat × Bytes) :=
  performed.filterMap fun entry => (kind entry.2).map fun text => (entry.1, text)

def textsBy (client : Nat) (texts : List (Nat × Bytes)) : List Bytes :=
  (texts.filter fun entry => entry.1 == client).map Prod.snd

/-- The lines handed to `write_log`, in this order. -/
def Process.fileLog (state : Process) : List (Nat × Bytes) :=
  tagged Effect.fileLine state.performed

def Process.systemLog (state : Process) : List (Nat × Bytes) :=
  tagged Effect.systemLine state.performed

theorem textsBy_tagged (kind : Effect -> Option Bytes) (client : Nat)
    (performed : List (Nat × Effect)) :
    textsBy client (tagged kind performed) = (performedBy client performed).filterMap kind := by
  induction performed with
  | nil => rfl
  | cons entry performed ih =>
      rcases entry with ⟨other, effect⟩
      by_cases same : other = client
      · cases text : kind effect with
        | none => simpa [textsBy, tagged, performedBy, same, text] using ih
        | some text => simpa [textsBy, tagged, performedBy, same, text] using ih
      · cases text : kind effect with
        | none => simpa [textsBy, tagged, performedBy, same, text] using ih
        | some text => simpa [textsBy, tagged, performedBy, same, text] using ih

theorem statementsIn_eq (performed : List (Nat × Effect)) :
    statementsIn performed = (tagged Effect.statement performed).map Prod.snd := by
  rw [statementsIn, tagged, List.map_filterMap]
  congr 1
  funext entry
  cases entry.2.statement <;> rfl

theorem Accounted.texts {env : Environment} {received : Nat -> Bytes} {state : Process}
    (accounted : Accounted env received state) {kind : Effect -> Option Bytes}
    {linesOf : Bytes -> List Bytes}
    (kinds : forall payload, (payloadEffects env payload).filterMap kind = linesOf payload)
    (client : Nat) :
    textsBy client (tagged kind state.performed) ++
        (state.threads client).todo.filterMap kind =
      (frames.items (received client)).flatMap linesOf := by
  rw [textsBy_tagged, ← List.filterMap_append, accounted.effects client,
    streamEffects_filterMap kinds]

theorem accounted_of_run {env : Environment} {settings : Settings Bytes} {answer : OpenAnswer}
    {stack : Nat -> Buffer} {turns : List Turn} {final : Process}
    (ran : (Process.step env settings).run (.start settings answer stack) turns = some final) :
    Accounted env (fun client => receivedOf client (clientEvents turns)) final :=
  (accounted_start env settings answer stack).run ran

/-- Three enabled engines, and an unpacker that knows one message. -/
def rewritingEnvironment : Environment where
  build := .release
  inetNtop := rewrittenAnswerAddresses
  unpack := fun payload => if payload = [8, 1] then some rewrittenAnswer else none
  engines := ⟨⟨false, true, true⟩, ⟨false, true⟩, ⟨false, true⟩⟩

/-- Two clients send the message and write their lines in turns.  The first one
pushes both of its statements, and the first of these is executed. -/
def takingTurns : List Turn :=
  [.thread 0 (.setup true), .thread 1 (.setup true), .thread 0 .testFull, .thread 1 .testFull,
    .thread 0 (.read (.bytes [0, 2, 8, 1])), .thread 1 (.read (.bytes [0, 2, 8, 1])),
    .effect 0 none, .effect 1 none, .effect 1 none, .effect 0 none, .effect 0 none,
    .effect 0 none, .effect 0 (some (7, none)), .engine .begin, .engine .test, .engine .pop,
    .effect 0 (some (8, none)), .engine .exec]

/-- In every interleaving, and whatever SQLite answers, the rows of the table and
of the open transaction are a merge of selections from the statements of the
clients' frames, each client's in their order, and every one of them is a single
`INSERT` of the values collected from such a frame. -/
theorem table_merges_selections (env : Environment) (settings : Settings Bytes)
    (answer : OpenAnswer) (stack : Nat -> Buffer) (turns : List Turn) (final : Process)
    (ran : (Process.step env settings).run (.start settings answer stack) turns = some final) :
    Exists fun chosen : List (Nat × Bytes) =>
      chosen.map Prod.snd = storedRows final.worker.db.store ∧
      (forall client, (textsBy client chosen).Sublist
        ((frames.items (receivedOf client (clientEvents turns))).flatMap (statementsOf env))) ∧
      forall client row, (client, row) ∈ chosen ->
        Exists fun payload => Exists fun msg => Exists fun vars =>
          payload ∈ frames.items (receivedOf client (clientEvents turns)) ∧
            env.unpack payload = some msg ∧
            vars ∈ env.engines.sqlite.rows env.inetNtop (some msg) ∧
            parseInsert (tokenize row) = some vars.insert := by
  have accounted := accounted_of_run ran
  rcases accounted.table with ⟨pushed, slot, sublist, _, selected⟩
  have rows := (selected.rows.trans (List.take_sublist _ _)).trans sublist
  rw [statementsIn_eq] at rows
  rcases List.sublist_map_iff.mp rows with ⟨chosen, among, same⟩
  have ordered : forall client, (textsBy client chosen).Sublist
      ((frames.items (receivedOf client (clientEvents turns))).flatMap (statementsOf env)) := by
    intro client
    rw [← accounted.texts (fun payload => (payloadEffects_kinds env payload).2.2) client]
    exact ((among.filter _).map _).trans (List.sublist_append_left _ _)
  refine ⟨chosen, same.symm, ordered, ?_⟩
  intro client row member
  have mine : row ∈ textsBy client chosen :=
    List.mem_map.mpr ⟨(client, row), List.mem_filter.mpr ⟨member, beq_self_eq_true client⟩, rfl⟩
  rcases List.mem_flatMap.mp ((ordered client).subset mine) with ⟨payload, sent, stated⟩
  unfold statementsOf at stated
  cases unpacked : env.unpack payload with
  | none =>
      rw [unpacked] at stated
      cases stated
  | some msg =>
      rw [unpacked] at stated
      simp only at stated
      split at stated
      next =>
        rcases List.mem_map.mp stated with ⟨vars, listed, rfl⟩
        exact ⟨payload, msg, vars, sent, unpacked, listed, prepareSql_parses vars⟩
      next => cases stated

theorem table_merges_selections_takingTurns :
    Exists fun final =>
      (Process.step rewritingEnvironment (obliging true)).run
        (.start (obliging true) .opened staleStack) takingTurns = some final ∧
      Exists fun row => row ∈ storedRows final.worker.db.store ∧
        Exists fun vars : SqlVars => parseInsert (tokenize row) = some vars.insert := by
  have enabled : (((Process.step rewritingEnvironment (obliging true)).run
      (.start (obliging true) .opened staleStack) takingTurns).map fun final =>
        (storedRows final.worker.db.store).length) = some 1 := by
    decide +kernel
  rcases Option.map_eq_some_iff.mp enabled with ⟨final, ran, counted⟩
  rcases table_merges_selections rewritingEnvironment (obliging true) .opened staleStack
    takingTurns final ran with ⟨chosen, same, _, meaning⟩
  rcases List.length_eq_one_iff.mp counted with ⟨row, only⟩
  have member : row ∈ chosen.map Prod.snd := by
    rw [same, only]
    exact List.mem_singleton_self row
  rcases List.mem_map.mp member with ⟨⟨client, _⟩, inside, rfl⟩
  rcases meaning client _ inside with ⟨payload, msg, vars, _, _, _, parsed⟩
  refine ⟨final, ran, _, ?_, vars, parsed⟩
  rw [only]
  exact List.mem_singleton_self _

end Pipeline
end PdnsLogger
