import PdnsLogger.Foundation.BoundedLoop
import PdnsLogger.Foundation.IncrementalDecoding
import PdnsLogger.Program.Basic

namespace PdnsLogger
namespace Transport

open Foundation Program

/-!
# Deframing one client buffer

A client sends frames: a two-byte big-endian length followed by that many
payload bytes.  `protobuf_extract` removes complete frames from the front of a
fixed 8192-byte buffer, passes each payload to `protobuf_parse`, and shifts
the rest of the valid bytes to the front in place.

The buffer keeps its full size and its stale contents.  Every access states
the range it touches and faults outside the buffer, so that safety is a
theorem about the result and not a convention of the model.  The header is
read on every iteration, also when a single valid byte is left; the byte after
it is then stale.

`frames` is the reference division of a byte stream.  It knows neither the
buffer nor the loop.  `protobufExtract_spec` states that one call hands over
exactly the items of the valid bytes and leaves exactly their remainder.
-/

def maxBufferSize : Nat := 8192

/-! ## The reference division into frames -/

/-- The length declared by the two header bytes. -/
def declaredLength (high low : UInt8) : Nat :=
  high.toNat * 256 + low.toNat

/-- The leading frame of a stream.  A frame that cannot fit the buffer together
with its header is never complete, and nothing after it is reached. -/
def nextFrame : Bytes -> Option (Bytes × Bytes)
  | high :: low :: rest =>
      if declaredLength high low + 2 ≤ maxBufferSize ∧ declaredLength high low ≤ rest.length then
        some (rest.take (declaredLength high low), rest.drop (declaredLength high low))
      else none
  | _ => none

/-- A payload as it is sent. -/
def frame (payload : Bytes) : Bytes :=
  UInt8.ofNat (payload.length / 256) :: UInt8.ofNat (payload.length % 256) :: payload

theorem nextFrame_eq_some {input payload rest : Bytes}
    (taken : nextFrame input = some (payload, rest)) :
    Exists fun high => Exists fun low => input = high :: low :: (payload ++ rest) ∧
      payload.length = declaredLength high low ∧ payload.length + 2 ≤ maxBufferSize := by
  match input, taken with
  | high :: low :: tail, taken =>
      simp only [nextFrame] at taken
      by_cases fits : declaredLength high low + 2 ≤ maxBufferSize ∧
          declaredLength high low ≤ tail.length
      · rw [if_pos fits] at taken
        have parts := Prod.mk.inj (Option.some.inj taken)
        refine ⟨high, low, ?_, ?_, ?_⟩
        · rw [← parts.1, ← parts.2, List.take_append_drop]
        · rw [← parts.1, List.length_take, Nat.min_eq_left fits.2]
        · rw [← parts.1, List.length_take, Nat.min_eq_left fits.2]
          exact fits.1
      · rw [if_neg fits] at taken
        cases taken

theorem nextFrame_cons {high low : UInt8} {payload rest : Bytes}
    (sized : payload.length = declaredLength high low)
    (fits : payload.length + 2 ≤ maxBufferSize) :
    nextFrame (high :: low :: (payload ++ rest)) = some (payload, rest) := by
  have enough : declaredLength high low ≤ (payload ++ rest).length := by
    rw [List.length_append]
    omega
  rw [nextFrame, if_pos ⟨by omega, enough⟩, ← sized, List.take_left, List.drop_left]

theorem frame_eq {high low : UInt8} {payload : Bytes}
    (sized : payload.length = declaredLength high low) :
    frame payload = high :: low :: payload := by
  have lowBound := low.toNat_lt
  have quotient : payload.length / 256 = high.toNat := by
    rw [sized, declaredLength]
    omega
  have residue : payload.length % 256 = low.toNat := by
    rw [sized, declaredLength]
    omega
  rw [frame, quotient, residue, UInt8.ofNat_toNat, UInt8.ofNat_toNat]

/-- The reference decoder for the transport. -/
def frames : Decoder UInt8 Bytes where
  next := nextFrame
  consumes := by
    intro input payload rest taken
    rcases nextFrame_eq_some taken with ⟨high, low, same, _, _⟩
    rw [same, List.length_cons, List.length_cons, List.length_append]
    omega
  stable := by
    intro input payload rest more taken
    rcases nextFrame_eq_some taken with ⟨high, low, same, sized, fits⟩
    rw [same, List.cons_append, List.cons_append, List.append_assoc]
    exact nextFrame_cons sized fits

theorem frames_next (input : Bytes) : frames.next input = nextFrame input :=
  rfl

/-- A stream is its complete frames, as they were sent, followed by the bytes
not yet consumed. -/
theorem framed_items_append_remainder (input : Bytes) :
    (frames.items input).flatMap frame ++ frames.remainder input = input := by
  apply frames.encoded_items_append_remainder
  intro input payload rest taken
  rcases nextFrame_eq_some taken with ⟨high, low, same, sized, _⟩
  rw [same, frame_eq sized]
  rfl

theorem length_remainder_le (input : Bytes) :
    (frames.remainder input).length ≤ input.length := by
  have whole := congrArg List.length (framed_items_append_remainder input)
  rw [List.length_append] at whole
  omega

/-! ## The buffer -/

/-- `unsigned char buffer[MAX_BUFFER_SIZE]`, stale bytes included. -/
structure Buffer where
  bytes : Bytes
  size : bytes.length = maxBufferSize

namespace Buffer

def load (buffer : Buffer) (offset : Nat) : Except Fault UInt8 :=
  match buffer.bytes[offset]? with
  | some byte => .ok byte
  | none => .error .outOfBounds

/-- The `count` bytes at an offset, as seen by a callee that reads them all. -/
def slice (buffer : Buffer) (offset count : Nat) : Except Fault Bytes :=
  if offset + count ≤ maxBufferSize then .ok ((buffer.bytes.drop offset).take count)
  else .error .outOfBounds

def store (buffer : Buffer) (offset : Nat) (content : Bytes) : Except Fault Buffer :=
  if fits : offset + content.length ≤ maxBufferSize then
    .ok
      { bytes := buffer.bytes.take offset ++ content ++ buffer.bytes.drop (offset + content.length)
        size := by
          have whole := buffer.size
          simp only [List.length_append, List.length_take, List.length_drop]
          omega }
  else .error .outOfBounds

/-- `memmove` within the buffer: the source is read completely first. -/
def memmove (buffer : Buffer) (dest src count : Nat) : Except Fault Buffer := do
  let content ← buffer.slice src count
  buffer.store dest content

def valid (buffer : Buffer) (count : Nat) : Bytes :=
  buffer.bytes.take count

theorem length_valid (buffer : Buffer) {count : Nat} (fits : count ≤ maxBufferSize) :
    (buffer.valid count).length = count := by
  rw [valid, List.length_take, buffer.size, Nat.min_eq_left fits]

theorem store_ok (buffer : Buffer) (offset : Nat) (content : Bytes)
    (fits : offset + content.length ≤ maxBufferSize) :
    Exists fun stored : Buffer => buffer.store offset content = .ok stored ∧
      stored.valid (offset + content.length) = buffer.valid offset ++ content := by
  refine ⟨_, dif_pos fits, ?_⟩
  have before : (buffer.valid offset).length = offset := buffer.length_valid (by omega)
  simp only [valid] at before ⊢
  rw [List.take_append_of_le_length (by rw [List.length_append, before]),
    List.take_of_length_le (by rw [List.length_append, before])]

/-- Moving the tail of the valid bytes to the front makes it the valid part. -/
theorem memmove_front_ok (buffer : Buffer) (offset count : Nat)
    (fits : offset + count ≤ maxBufferSize) :
    Exists fun moved : Buffer => buffer.memmove 0 offset count = .ok moved ∧
      moved.valid count = (buffer.valid (offset + count)).drop offset := by
  have whole := buffer.size
  have sized : ((buffer.bytes.drop offset).take count).length = count := by
    rw [List.length_take, List.length_drop]
    omega
  rcases buffer.store_ok 0 ((buffer.bytes.drop offset).take count) (by omega) with
    ⟨moved, stored, contents⟩
  refine ⟨moved, ?_, ?_⟩
  · simp only [memmove, slice, if_pos fits]
    exact stored
  · rw [Nat.zero_add, sized] at contents
    rw [contents, valid, valid, List.take_zero, List.nil_append, List.take_drop]

theorem exists_header (buffer : Buffer) :
    Exists fun high => Exists fun low => Exists fun tail =>
      buffer.bytes = high :: low :: tail := by
  have whole := buffer.size
  match buffer.bytes, whole with
  | high :: low :: tail, _ => exact ⟨high, low, tail, rfl⟩

/-- `ntohs` of the first two bytes, whether or not both are valid. -/
def ntohs (buffer : Buffer) : Except Fault Nat := do
  let high ← buffer.load 0
  let low ← buffer.load 1
  return declaredLength high low

theorem ntohs_eq {buffer : Buffer} {high low : UInt8} {tail : Bytes}
    (header : buffer.bytes = high :: low :: tail) :
    buffer.ntohs = .ok (declaredLength high low) := by
  simp only [ntohs, load, header]
  rfl

end Buffer

/-! ## `protobuf_extract` -/

section Extract

variable {Session : Type}

/-- A call of `protobuf_parse` on a payload, acting on the state it can reach. -/
abbrev Parse (Session : Type) :=
  Bytes -> Session -> Except Fault (PdnsStatus × Session)

/-- The variables of `protobuf_extract`, and the state its callee acts on. -/
structure Extraction (Session : Type) where
  buf : Buffer
  blen : Nat
  session : Session

/-- One pass through the loop.  The status of `protobuf_parse` is discarded. -/
def extractIteration (parse : Parse Session) (state : Extraction Session) :
    Except Fault (Extraction Session ⊕ (PdnsStatus × Extraction Session)) := do
  let plen ← state.buf.ntohs
  if plen + 2 ≤ state.blen then
    let pbuf ← state.buf.slice 2 plen
    let parsed ← parse pbuf state.session
    let buf ← state.buf.memmove 0 (plen + 2) (state.blen - plen - 2)
    let blen := state.blen - plen - 2
    if blen = 0 then
      return .inr (.ok, ⟨buf, blen, parsed.2⟩)
    else
      return .inl ⟨buf, blen, parsed.2⟩
  else
    return .inr (.retry, state)

/-- `protobuf_extract`.  Each continuing iteration shortens `blen`. -/
def protobufExtract (parse : Parse Session) (state : Extraction Session) :
    Except Fault (PdnsStatus × Extraction Session) :=
  if state.blen < 2 then .ok (.retry, state)
  else boundedLoop .diverged (extractIteration parse) (state.blen + 1) state

/-- Hand payloads over in order, stopping at the first fault. -/
def feed (parse : Parse Session) : List Bytes -> Session -> Except Fault Session
  | [], session => .ok session
  | payload :: payloads, session => do
      let parsed ← parse payload session
      feed parse payloads parsed.2

/-- The outcome of removing all complete frames from some valid bytes.  The
callee's faults pass through unchanged, and only it can fault. -/
def Deframes (parse : Parse Session) (input : Bytes) (session : Session)
    (outcome : Except Fault (PdnsStatus × Extraction Session)) : Prop :=
  match feed parse (frames.items input) session with
  | .error fault => outcome = .error fault
  | .ok final =>
      Exists fun buf : Buffer =>
        buf.valid (frames.remainder input).length = frames.remainder input ∧
        outcome = .ok (if frames.remainder input = [] ∧ input ≠ [] then .ok else .retry,
          ⟨buf, (frames.remainder input).length, final⟩)

/-- An iteration that finds no complete frame leaves the loop and changes
nothing.  With one valid byte left the header's second byte is stale, but no
declared length is small enough to be satisfied by a single byte. -/
theorem extractIteration_stuck (parse : Parse Session) (state : Extraction Session)
    (bounded : state.blen ≤ maxBufferSize)
    (stuck : frames.next (state.buf.valid state.blen) = none) :
    extractIteration parse state = .ok (.inr (.retry, state)) := by
  rcases state.buf.exists_header with ⟨high, low, tail, header⟩
  have incomplete : ¬ declaredLength high low + 2 ≤ state.blen := by
    intro complete
    have whole := state.buf.size
    rw [header, List.length_cons, List.length_cons] at whole
    have visible : state.buf.valid state.blen = high :: low :: tail.take (state.blen - 2) := by
      rw [Buffer.valid, header]
      obtain ⟨extra, same⟩ := Nat.exists_eq_add_of_le' (show 2 ≤ state.blen by omega)
      rw [same]
      rfl
    have enough : declaredLength high low ≤ (tail.take (state.blen - 2)).length := by
      rw [List.length_take]
      omega
    rw [visible, frames_next, nextFrame, if_pos ⟨by omega, enough⟩] at stuck
    cases stuck
  simp only [extractIteration, Buffer.ntohs_eq header, bind, Except.bind, if_neg incomplete]
  rfl

/-- An iteration at a complete frame parses its payload and leaves the rest of
the valid bytes at the front. -/
theorem extractIteration_frame (parse : Parse Session) (state : Extraction Session)
    {payload rest : Bytes} (bounded : state.blen ≤ maxBufferSize)
    (taken : frames.next (state.buf.valid state.blen) = some (payload, rest)) :
    Exists fun buf : Buffer => buf.valid rest.length = rest ∧
      extractIteration parse state =
        (parse payload state.session).map fun parsed =>
          if rest.length = 0 then .inr (.ok, ⟨buf, rest.length, parsed.2⟩)
          else .inl ⟨buf, rest.length, parsed.2⟩ := by
  rcases nextFrame_eq_some taken with ⟨high, low, visible, sized, fits⟩
  have count := state.buf.length_valid bounded
  rw [visible, List.length_cons, List.length_cons, List.length_append] at count
  rcases state.buf.exists_header with ⟨first, second, tail, header⟩
  have sameHeader : first = high ∧ second = low := by
    rw [Buffer.valid, header] at visible
    obtain ⟨extra, same⟩ := Nat.exists_eq_add_of_le' (show 2 ≤ state.blen by omega)
    rw [same] at visible
    have heads := List.cons.inj visible
    exact ⟨heads.1, (List.cons.inj heads.2).1⟩
  rcases sameHeader with ⟨rfl, rfl⟩
  have remaining : state.blen - declaredLength first second - 2 = rest.length := by omega
  rcases state.buf.memmove_front_ok (declaredLength first second + 2) rest.length (by omega) with
    ⟨moved, shifted, contents⟩
  have window : state.buf.slice 2 (declaredLength first second) = .ok payload := by
    rw [Buffer.slice, if_pos (by omega), ← sized]
    have inside : (state.buf.bytes.drop 2).take payload.length =
        ((state.buf.valid state.blen).drop 2).take payload.length := by
      rw [Buffer.valid, List.drop_take, List.take_take, Nat.min_eq_left (by omega)]
    rw [inside, visible]
    exact congrArg Except.ok List.take_left
  refine ⟨moved, ?_, ?_⟩
  · rw [contents]
    have total : declaredLength first second + 2 + rest.length = state.blen := by omega
    rw [total, visible, ← sized]
    exact List.drop_left
  · simp only [extractIteration, Buffer.ntohs_eq header, bind, Except.bind, window,
      if_pos (show declaredLength first second + 2 ≤ state.blen by omega), remaining, shifted]
    cases parse payload state.session with
    | error fault => rfl
    | ok parsed =>
        by_cases empty : rest.length = 0 <;> simp only [empty, if_true, if_false] <;> rfl

namespace Deframes

variable {parse : Parse Session} {input : Bytes} {session : Session}

/-- Without a complete frame the valid bytes are kept as they are. -/
theorem of_stuck {buf : Buffer} {blen : Nat} (visible : buf.valid blen = input)
    (count : input.length = blen) (stuck : frames.next input = none) :
    Deframes parse input session (.ok (.retry, ⟨buf, blen, session⟩)) := by
  have notBoth : ¬ (input = [] ∧ input ≠ []) := fun both => both.2 both.1
  simp only [Deframes, frames.items_of_next_none stuck, frames.remainder_of_next_none stuck,
    feed, if_neg notBoth, count]
  exact ⟨buf, visible, rfl⟩

theorem of_fault {payload rest : Bytes} {fault : Fault}
    (recognized : frames.next input = some (payload, rest))
    (faulted : parse payload session = .error fault) :
    Deframes parse input session (.error fault) := by
  simp only [Deframes, frames.items_of_next_some recognized, feed, bind, Except.bind, faulted]

private theorem input_ne_nil {payload rest : Bytes}
    (recognized : frames.next input = some (payload, rest)) : input ≠ [] := by
  intro empty
  rw [empty] at recognized
  cases recognized

/-- The last frame of the valid bytes empties the buffer. -/
theorem of_last {payload : Bytes} {parsed : PdnsStatus × Session} {buf : Buffer}
    (recognized : frames.next input = some (payload, []))
    (accepted : parse payload session = .ok parsed) :
    Deframes parse input session (.ok (.ok, ⟨buf, 0, parsed.2⟩)) := by
  have nothing : frames.next [] = none := rfl
  simp only [Deframes, frames.items_of_next_some recognized,
    frames.remainder_of_next_some recognized, frames.items_of_next_none nothing,
    frames.remainder_of_next_none nothing, feed, bind, Except.bind, accepted]
  refine ⟨buf, rfl, ?_⟩
  rw [if_pos ⟨trivial, input_ne_nil recognized⟩]
  rfl

/-- A frame followed by more valid bytes leaves the outcome to the rest. -/
theorem of_frame {payload rest : Bytes} {parsed : PdnsStatus × Session}
    {outcome : Except Fault (PdnsStatus × Extraction Session)}
    (recognized : frames.next input = some (payload, rest)) (more : rest ≠ [])
    (accepted : parse payload session = .ok parsed)
    (later : Deframes parse rest parsed.2 outcome) :
    Deframes parse input session outcome := by
  have nonempty := input_ne_nil recognized
  simp only [Deframes, frames.items_of_next_some recognized,
    frames.remainder_of_next_some recognized, feed, bind, Except.bind, accepted]
  simpa only [Deframes, ne_eq, more, nonempty, not_false_eq_true, and_true] using later

end Deframes

/-- The loop of `protobuf_extract`, by induction along the frames of the valid
bytes.  The supply of iterations is never exhausted. -/
theorem extractLoop_deframes (parse : Parse Session) (input : Bytes) :
    forall (buf : Buffer) (blen : Nat) (session : Session) (fuel : Nat),
      buf.valid blen = input -> blen ≤ maxBufferSize -> blen < fuel ->
      Deframes parse input session
        (boundedLoop .diverged (extractIteration parse) fuel ⟨buf, blen, session⟩) := by
  induction input using frames.induction with
  | stuck input none_left =>
      intro buf blen session fuel visible bounded enough
      have left := extractIteration_stuck parse ⟨buf, blen, session⟩ bounded (visible ▸ none_left)
      have count := buf.length_valid bounded
      rw [visible] at count
      cases fuel with
      | zero => omega
      | succ fuel =>
          simp only [boundedLoop, left]
          exact .of_stuck visible count none_left
  | taken input payload rest recognized ih =>
      intro buf blen session fuel visible bounded enough
      rcases extractIteration_frame parse ⟨buf, blen, session⟩ bounded (visible ▸ recognized) with
        ⟨moved, kept, iteration⟩
      have count := buf.length_valid bounded
      have shorter := frames.consumes recognized
      rw [visible] at count
      cases fuel with
      | zero => omega
      | succ fuel =>
          cases called : parse payload session with
          | error fault =>
              simp only [boundedLoop, iteration, called, Except.map]
              exact .of_fault recognized called
          | ok parsed =>
              by_cases empty : rest.length = 0
              · have restNil : rest = [] := List.length_eq_zero_iff.mp empty
                subst restNil
                simp only [boundedLoop, iteration, called, Except.map, List.length_nil, if_true]
                exact .of_last recognized called
              · have more : rest ≠ [] := fun restNil => empty (by rw [restNil]; rfl)
                simp only [boundedLoop, iteration, called, Except.map, if_neg empty]
                exact .of_frame recognized more called
                  (ih moved rest.length parsed.2 fuel kept (by omega) (by omega))

/-- One call of `protobuf_extract` hands over exactly the complete frames among
the valid bytes and keeps exactly the bytes after them. -/
theorem protobufExtract_spec (parse : Parse Session) (state : Extraction Session)
    (bounded : state.blen ≤ maxBufferSize) :
    Deframes parse (state.buf.valid state.blen) state.session (protobufExtract parse state) := by
  by_cases short : state.blen < 2
  · have count := state.buf.length_valid bounded
    have stuck : frames.next (state.buf.valid state.blen) = none := by
      match visible : state.buf.valid state.blen with
      | [] => rfl
      | [_] => rfl
      | high :: low :: rest =>
          rw [visible, List.length_cons, List.length_cons] at count
          omega
    rw [protobufExtract, if_pos short]
    exact .of_stuck rfl count stuck
  · rw [protobufExtract, if_neg short]
    exact extractLoop_deframes parse _ state.buf state.blen state.session _ rfl bounded
      (Nat.lt_succ_self _)

end Extract

end Transport
end PdnsLogger
