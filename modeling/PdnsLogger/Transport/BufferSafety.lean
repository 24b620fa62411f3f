import PdnsLogger.Transport.Connections

namespace PdnsLogger
namespace Transport

open Foundation Program Engines

/-!
# Safety of the client buffer

`protobuf_extract` tests for a complete header once, before its loop, and then
reads two header bytes on every iteration.  When a single valid byte is left,
the second byte it reads is stale.  The declared length is nevertheless at
least zero, so that the test against `blen` fails whatever the stale byte is.

Everything a call shows to its caller is therefore a function of the valid
bytes.  `protobufExtract_observed` states this as an equation, and the other
properties of a call are read off its right-hand side.  The accesses
themselves cannot be read off the valid bytes; for them the model's faults are
used, and it is shown that a call has no fault of its own.
-/

section Extract

variable {Session : Type}

/-! ## What a call shows to its caller -/

/-- The status, the new length, the valid bytes and the effect of the callee. -/
def observed (result : PdnsStatus × Extraction Session) : PdnsStatus × Nat × Bytes × Session :=
  (result.1, result.2.blen, result.2.buf.valid result.2.blen, result.2.session)

/-- The same four things, from the valid bytes alone. -/
def deframed (parse : Parse Session) (input : Bytes) (session : Session) :
    Except Fault (PdnsStatus × Nat × Bytes × Session) :=
  (feed parse (frames.items input) session).map fun final =>
    (if frames.remainder input = [] ∧ input ≠ [] then .ok else .retry,
      (frames.remainder input).length, frames.remainder input, final)

/-- A call depends on its valid bytes only. -/
theorem protobufExtract_observed (parse : Parse Session) (buf : Buffer) (blen : Nat)
    (session : Session) (bounded : blen ≤ maxBufferSize) :
    (protobufExtract parse ⟨buf, blen, session⟩).map observed =
      deframed parse (buf.valid blen) session := by
  have spec := protobufExtract_spec parse ⟨buf, blen, session⟩ bounded
  unfold deframed
  cases fed : feed parse (frames.items (buf.valid blen)) session with
  | error fault =>
      simp only [Deframes, fed] at spec
      rw [spec]
      rfl
  | ok final =>
      simp only [Deframes, fed] at spec
      rcases spec with ⟨kept, visible, returned⟩
      rw [returned]
      simp only [Except.map, observed, visible]

/-- The payloads a call hands to its callee, whatever the callee does with
them. -/
def HandsOver (buf : Buffer) (blen : Nat) (payloads : List Bytes) : Prop :=
  forall (Session : Type) (parse : Parse Session) (session : Session),
    (protobufExtract parse ⟨buf, blen, session⟩).map (fun result => result.2.session) =
      feed parse payloads session

theorem handsOver_items (buf : Buffer) {blen : Nat} (bounded : blen ≤ maxBufferSize) :
    HandsOver buf blen (frames.items (buf.valid blen)) := by
  intro Session parse session
  have seen := protobufExtract_observed parse buf blen session bounded
  unfold deframed at seen
  cases returned : protobufExtract parse ⟨buf, blen, session⟩ with
  | error fault =>
      cases fed : feed parse (frames.items (buf.valid blen)) session with
      | error other => simpa only [returned, fed, Except.map, Except.error.injEq] using seen
      | ok final => simp only [returned, fed, Except.map, reduceCtorEq] at seen
  | ok result =>
      cases fed : feed parse (frames.items (buf.valid blen)) session with
      | error other => simp only [returned, fed, Except.map, reduceCtorEq] at seen
      | ok final =>
          simp only [returned, fed, Except.map, Except.ok.injEq, observed, Prod.mk.injEq] at seen
          simp only [Except.map, seen.2.2.2]

/-! ## Faults -/

theorem feed_error {parse : Parse Session} {payloads : List Bytes} {session : Session}
    {fault : Fault} (faulted : feed parse payloads session = .error fault) :
    Exists fun payload => Exists fun reached =>
      payload ∈ payloads ∧ parse payload reached = .error fault := by
  induction payloads generalizing session with
  | nil => cases faulted
  | cons payload payloads ih =>
      cases called : parse payload session with
      | error other =>
          simp only [feed, called, bind, Except.bind] at faulted
          cases faulted
          exact ⟨payload, session, List.mem_cons_self, called⟩
      | ok parsed =>
          simp only [feed, called, bind, Except.bind] at faulted
          rcases ih faulted with ⟨later, reached, member, same⟩
          exact ⟨later, reached, List.mem_cons_of_mem _ member, same⟩

/-- A call neither leaves the buffer nor runs out of iterations: every fault is
one of the callee. -/
theorem protobufExtract_error {parse : Parse Session} {buf : Buffer} {blen : Nat}
    {session : Session} {fault : Fault} (bounded : blen ≤ maxBufferSize)
    (faulted : protobufExtract parse ⟨buf, blen, session⟩ = .error fault) :
    Exists fun payload => Exists fun reached =>
      payload ∈ frames.items (buf.valid blen) ∧ parse payload reached = .error fault := by
  apply feed_error
  rw [← handsOver_items buf bounded Session parse session, faulted]
  rfl

/-! ## The length -/

/-- The variables after an iteration, whether or not it leaves the loop. -/
def afterIteration : Extraction Session ⊕ (PdnsStatus × Extraction Session) -> Extraction Session
  | .inl next => next
  | .inr (_, last) => last

/-- An iteration leaves the loop for more bytes with everything as it was, or
takes exactly one frame off the length.  The subtraction is exact. -/
theorem extractIteration_length {parse : Parse Session} {state : Extraction Session}
    {outcome : Extraction Session ⊕ (PdnsStatus × Extraction Session)}
    (iterated : extractIteration parse state = .ok outcome) :
    outcome = .inr (.retry, state) ∨ Exists fun plen => state.buf.ntohs = .ok plen ∧
      (afterIteration outcome).blen + (plen + 2) = state.blen := by
  rcases state.buf.exists_header with ⟨high, low, tail, header⟩
  simp only [extractIteration, Buffer.ntohs_eq header, bind, Except.bind] at iterated
  by_cases complete : declaredLength high low + 2 ≤ state.blen
  · rw [if_pos complete] at iterated
    refine .inr ⟨declaredLength high low, Buffer.ntohs_eq header, ?_⟩
    split at iterated
    · cases iterated
    · split at iterated
      · cases iterated
      · split at iterated
        · cases iterated
        · split at iterated
          · cases Except.ok.inj iterated
            simp only [afterIteration]
            omega
          · cases Except.ok.inj iterated
            simp only [afterIteration]
            omega
  · rw [if_neg complete] at iterated
    exact .inl (Except.ok.inj iterated).symm

theorem extractIteration_lowers (parse : Parse Session) (state next : Extraction Session)
    (iterated : extractIteration parse state = .ok (.inl next)) : next.blen < state.blen := by
  rcases extractIteration_length iterated with stuck | ⟨plen, _, exact⟩
  · cases stuck
  · simp only [afterIteration] at exact
    omega

/-- What a call keeps is no longer than what it was given. -/
theorem length_kept_le (buf : Buffer) {blen : Nat} (bounded : blen ≤ maxBufferSize) :
    (frames.remainder (buf.valid blen)).length ≤ blen :=
  calc (frames.remainder (buf.valid blen)).length
      ≤ (buf.valid blen).length := length_remainder_le _
    _ = blen := buf.length_valid bounded

end Extract

/-! ## The bytes that are kept -/

/-- The bytes are the beginning of a frame and not all of it. -/
def BeginsFrame (input : Bytes) : Prop :=
  Exists fun payload => Exists fun missing =>
    payload.length < 65536 ∧ missing ≠ [] ∧ frame payload = input ++ missing

/-- Bytes that fit the buffer and hold no complete frame begin one. -/
theorem beginsFrame_of_next_none {input : Bytes} (stuck : frames.next input = none)
    (bounded : input.length ≤ maxBufferSize) : BeginsFrame input := by
  match input, stuck, bounded with
  | [], _, _ => exact ⟨[], [0, 0], by decide, by decide, rfl⟩
  | [high], _, _ =>
      have sized : (List.replicate (declaredLength high 0) (0 : UInt8)).length =
          declaredLength high 0 := List.length_replicate
      refine ⟨List.replicate (declaredLength high 0) 0,
        0 :: List.replicate (declaredLength high 0) 0, ?_, List.cons_ne_nil _ _, frame_eq sized⟩
      have bound := high.toNat_lt
      rw [sized, declaredLength]
      simp only [UInt8.toNat_zero]
      omega
  | high :: low :: rest, stuck, bounded =>
      have incomplete : rest.length < declaredLength high low := by
        rw [List.length_cons, List.length_cons] at bounded
        by_contra enough
        rw [frames_next, nextFrame, if_pos ⟨by omega, by omega⟩] at stuck
        cases stuck
      have sized : (rest ++ List.replicate (declaredLength high low - rest.length) (0 : UInt8)).length
          = declaredLength high low := by
        rw [List.length_append, List.length_replicate]
        omega
      refine ⟨rest ++ List.replicate (declaredLength high low - rest.length) 0,
        List.replicate (declaredLength high low - rest.length) 0, ?_, ?_, frame_eq sized⟩
      · have highBound := high.toNat_lt
        have lowBound := low.toNat_lt
        rw [sized, declaredLength]
        omega
      · intro nothing
        have none_missing := congrArg List.length nothing
        rw [List.length_replicate, List.length_nil] at none_missing
        omega

/-! ## One call -/

/-- How a call of `protobuf_extract` treats its buffer, for any callee. -/
structure ExtractsSafely {Session : Type} (parse : Parse Session) (buf : Buffer) (blen : Nat)
    (session : Session) : Prop where
  terminates : 2 ≤ blen -> forall fuel, blen < fuel ->
    boundedLoop .diverged (extractIteration parse) fuel ⟨buf, blen, session⟩ =
      protobufExtract parse ⟨buf, blen, session⟩
  contained : forall fault, protobufExtract parse ⟨buf, blen, session⟩ = .error fault ->
    Exists fun payload => Exists fun reached => parse payload reached = .error fault
  exactLength : forall state outcome, extractIteration parse state = .ok outcome ->
    outcome = .inr (.retry, state) ∨ Exists fun plen => state.buf.ntohs = .ok plen ∧
      (afterIteration outcome).blen + (plen + 2) = state.blen
  neverIncreases : forall status last,
    protobufExtract parse ⟨buf, blen, session⟩ = .ok (status, last) -> last.blen ≤ blen
  emptied : forall last,
    protobufExtract parse ⟨buf, blen, session⟩ = .ok (.ok, last) -> last.blen = 0
  kept : forall last, protobufExtract parse ⟨buf, blen, session⟩ = .ok (.retry, last) ->
    BeginsFrame (last.buf.valid last.blen)
  staleIgnored : forall other : Buffer, other.valid blen = buf.valid blen ->
    (protobufExtract parse ⟨other, blen, session⟩).map observed =
        (protobufExtract parse ⟨buf, blen, session⟩).map observed ∧
      Exists fun payloads => HandsOver buf blen payloads ∧ HandsOver other blen payloads

theorem protobufExtract_ok {Session : Type} {parse : Parse Session} {buf : Buffer} {blen : Nat}
    {session : Session} {status : PdnsStatus} {last : Extraction Session}
    (bounded : blen ≤ maxBufferSize)
    (returned : protobufExtract parse ⟨buf, blen, session⟩ = .ok (status, last)) :
    (status = .ok ↔ frames.remainder (buf.valid blen) = [] ∧ buf.valid blen ≠ []) ∧
      last.blen = (frames.remainder (buf.valid blen)).length ∧
      last.buf.valid last.blen = frames.remainder (buf.valid blen) := by
  have seen := protobufExtract_observed parse buf blen session bounded
  rw [returned] at seen
  unfold deframed at seen
  cases fed : feed parse (frames.items (buf.valid blen)) session with
  | error fault => simp only [fed, Except.map, reduceCtorEq] at seen
  | ok final =>
      simp only [fed, Except.map, Except.ok.injEq, observed, Prod.mk.injEq] at seen
      refine ⟨?_, seen.2.1, seen.2.2.1⟩
      rw [seen.1]
      by_cases emptied : frames.remainder (buf.valid blen) = [] ∧ buf.valid blen ≠ []
      · simp only [if_pos emptied, true_iff]
        exact emptied
      · simp only [if_neg emptied, reduceCtorEq, false_iff]
        exact emptied

theorem extractsSafely {Session : Type} (parse : Parse Session) (buf : Buffer) (blen : Nat)
    (session : Session) (bounded : blen ≤ maxBufferSize) :
    ExtractsSafely parse buf blen session where
  terminates := by
    intro header fuel enough
    rw [protobufExtract, if_neg (Nat.not_lt.mpr header)]
    exact boundedLoop_supply_irrelevant Extraction.blen (extractIteration_lowers parse) fuel
      (blen + 1) ⟨buf, blen, session⟩ enough (Nat.lt_succ_self blen)
  contained := by
    intro fault faulted
    rcases protobufExtract_error bounded faulted with ⟨payload, reached, _, called⟩
    exact ⟨payload, reached, called⟩
  exactLength := fun _ _ => extractIteration_length
  neverIncreases := by
    intro status last returned
    rw [(protobufExtract_ok bounded returned).2.1]
    exact length_kept_le buf bounded
  emptied := by
    intro last returned
    have result := protobufExtract_ok bounded returned
    rw [result.2.1, (result.1.mp rfl).1, List.length_nil]
  kept := by
    intro last returned
    rw [(protobufExtract_ok bounded returned).2.2]
    exact beginsFrame_of_next_none (frames.next_remainder _)
      (Nat.le_trans (length_kept_le buf bounded) bounded)
  staleIgnored := by
    intro other agree
    refine ⟨?_, frames.items (buf.valid blen), handsOver_items buf bounded, ?_⟩
    · rw [protobufExtract_observed parse other blen session bounded,
        protobufExtract_observed parse buf blen session bounded, agree]
    · rw [← agree]
      exact handsOver_items other bounded

/-! ## The calls of `read` -/

/-- The third argument of `read`, `sizeof(buffer) - bsize`. -/
def Connection.readCount (connection : Connection) : Nat :=
  maxBufferSize - connection.bsize

/-- A thread calls `read` with room in its buffer, and ends with an end of file
only when there was room as well. -/
theorem Tracks.room {connection : Connection} {received : Bytes}
    (tracks : Tracks connection received)
    (asked : connection.phase = .reading ∨ connection.phase = .finished .endOfFile) :
    connection.bsize < maxBufferSize := by
  have bounded := tracks.bounded
  have elsewhere : connection.phase ≠ .loopHead ∧ connection.phase ≠ .finished .bufferFull := by
    rcases asked with reading | ended
    · rw [reading]
      decide
    · rw [ended]
      decide
  have notFull := mt (tracks.settled elsewhere.1).mpr elsewhere.2
  omega

/-- Every call of `protobuf_extract` stays inside the buffer, terminates and
ignores the stale bytes.  In every run of the threads `read` is called with a
positive count that ends at the end of the buffer, so that its zero is an end
of file. -/
theorem client_buffer_safe :
    (forall (Session : Type) (parse : Parse Session) (buf : Buffer) (blen : Nat)
      (session : Session), blen ≤ maxBufferSize -> ExtractsSafely parse buf blen session) ∧
    (forall (env : Environment) (stack : Nat -> Buffer) (events : List (Nat × Event))
      (server : Server) (i : Nat),
      (step env).run (.start stack) events = some (.running server) ->
      ((server.connections i).phase = .reading ->
        1 ≤ (server.connections i).readCount ∧
          (server.connections i).bsize + (server.connections i).readCount = maxBufferSize) ∧
      ((server.connections i).phase = .finished .endOfFile ->
        (server.connections i).bsize < maxBufferSize)) := by
  constructor
  · intro Session parse buf blen session bounded
    exact extractsSafely parse buf blen session bounded
  · intro env stack events server i ran
    have tracks := (run_consistent ran (consistent_start env stack) i).1
    constructor
    · intro reading
      have room := tracks.room (.inl reading)
      unfold Connection.readCount
      omega
    · intro ended
      exact tracks.room (.inr ended)

/-- One complete frame and the first byte of another, in front of stale bytes. -/
def singleByteLeft (stale : UInt8) : Buffer :=
  ⟨[0, 1, 9, 0] ++ List.replicate 8188 stale, by
    rw [List.length_append, List.length_replicate]
    rfl⟩

theorem client_buffer_safe_singleByteLeft :
    (protobufExtract (protobufParse (bareEnvironment .release))
        ⟨singleByteLeft 0, 4, ⟨⟨[], [], []⟩, []⟩⟩).map observed =
      (protobufExtract (protobufParse (bareEnvironment .release))
        ⟨singleByteLeft 255, 4, ⟨⟨[], [], []⟩, []⟩⟩).map observed ∧
    Exists fun server : Server =>
      (step (bareEnvironment .release)).run (.start staleStack)
        [(0, .setup true), (0, .testFull)] = some (.running server) ∧
      1 ≤ (server.connections 0).readCount := by
  constructor
  · have safe := client_buffer_safe.1 Session (protobufParse (bareEnvironment .release))
      (singleByteLeft 255) 4 ⟨⟨[], [], []⟩, []⟩ (by decide)
    exact (safe.staleIgnored (singleByteLeft 0) rfl).1
  · refine ⟨_, rfl, ?_⟩
    exact ((client_buffer_safe.2 (bareEnvironment .release) staleStack
      [(0, .setup true), (0, .testFull)] _ 0 rfl).1 rfl).1

end Transport
end PdnsLogger
