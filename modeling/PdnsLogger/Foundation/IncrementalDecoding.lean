import Mathlib.Data.List.Basic

namespace PdnsLogger
namespace Foundation

universe u v

/-!
# Incremental decoding of a stream

A decoder that recognizes one item at the front of a sequence determines the
items of every finite sequence, together with the undecoded remainder.  Two
properties of the single-item decoder make this division insensitive to how
the sequence arrives: it consumes something, and bytes that arrive later do
not change an item that was already recognized.  Both are fields of `Decoder`,
so that no later statement has to assume them.

`decode_append` is the resulting law.  Decoding a prefix, keeping only its
remainder, and decoding the remainder followed by the rest gives exactly the
items and the remainder of the whole sequence.
-/

/-- A prefix-stable recognizer of one leading item. -/
structure Decoder (Symbol : Type u) (Item : Type v) where
  next : List Symbol -> Option (Item × List Symbol)
  consumes : forall {input item rest}, next input = some (item, rest) ->
    rest.length < input.length
  stable : forall {input item rest} (more : List Symbol), next input = some (item, rest) ->
    next (input ++ more) = some (item, rest ++ more)

namespace Decoder

variable {Symbol : Type u} {Item : Type v} (decoder : Decoder Symbol Item)

/-- Recognize at most `fuel` leading items. -/
def drain : Nat -> List Symbol -> List Item × List Symbol
  | 0, input => ([], input)
  | fuel + 1, input =>
      match decoder.next input with
      | none => ([], input)
      | some (item, rest) => (item :: (drain fuel rest).1, (drain fuel rest).2)

/-- All leading items of a sequence, and the remainder after them.  Every item
consumes at least one symbol, so the length is a sufficient supply. -/
def decode (input : List Symbol) : List Item × List Symbol :=
  decoder.drain input.length input

def items (input : List Symbol) : List Item :=
  (decoder.decode input).1

def remainder (input : List Symbol) : List Symbol :=
  (decoder.decode input).2

theorem drain_fuel_irrelevant (fuel more : Nat) (input : List Symbol)
    (enough : input.length ≤ fuel) (larger : input.length ≤ more) :
    decoder.drain fuel input = decoder.drain more input := by
  induction fuel generalizing input more with
  | zero =>
      have empty : input = [] := List.length_eq_zero_iff.mp (Nat.le_zero.mp enough)
      subst input
      cases more with
      | zero => rfl
      | succ more =>
          cases taken : decoder.next [] with
          | none => simp only [drain, taken]
          | some pair => exact absurd (decoder.consumes taken) (Nat.not_lt_zero _)
  | succ fuel ih =>
      cases taken : decoder.next input with
      | none => cases more <;> simp only [drain, taken]
      | some pair =>
          have shorter := decoder.consumes taken
          cases more with
          | zero => omega
          | succ more => simp only [drain, taken, ih more pair.2 (by omega) (by omega)]

theorem decode_of_next_none {input : List Symbol} (stuck : decoder.next input = none) :
    decoder.decode input = ([], input) := by
  rw [decode]
  cases input.length <;> simp only [drain, stuck]

theorem decode_of_next_some {input rest : List Symbol} {item : Item}
    (taken : decoder.next input = some (item, rest)) :
    decoder.decode input = (item :: (decoder.decode rest).1, (decoder.decode rest).2) := by
  have shorter := decoder.consumes taken
  rw [decode, decode]
  cases sized : input.length with
  | zero => omega
  | succ size =>
      simp only [drain, taken]
      rw [decoder.drain_fuel_irrelevant size rest.length rest (by omega) (Nat.le_refl _)]

/-- Induction along the leading items of a sequence. -/
theorem induction {holds : List Symbol -> Prop}
    (stuck : forall input, decoder.next input = none -> holds input)
    (taken : forall input item rest, decoder.next input = some (item, rest) ->
      holds rest -> holds input)
    (input : List Symbol) : holds input := by
  generalize sized : input.length = size
  induction size using Nat.strongRecOn generalizing input with
  | _ size ih =>
      cases recognized : decoder.next input with
      | none => exact stuck input recognized
      | some pair =>
          have shorter := decoder.consumes recognized
          exact taken input pair.1 pair.2 recognized
            (ih pair.2.length (by omega) pair.2 rfl)

theorem next_remainder (input : List Symbol) :
    decoder.next (decoder.remainder input) = none := by
  induction input using decoder.induction with
  | stuck input none_left =>
      rw [remainder, decoder.decode_of_next_none none_left]
      exact none_left
  | taken input item rest recognized ih =>
      rw [remainder, decoder.decode_of_next_some recognized]
      exact ih

/-- Decoding is insensitive to the point at which a sequence is cut. -/
theorem decode_append (first second : List Symbol) :
    decoder.decode (first ++ second) =
      (decoder.items first ++ decoder.items (decoder.remainder first ++ second),
        decoder.remainder (decoder.remainder first ++ second)) := by
  induction first using decoder.induction with
  | stuck first none_left =>
      simp only [items, remainder, decoder.decode_of_next_none none_left, List.nil_append]
  | taken first item rest recognized ih =>
      rw [decoder.decode_of_next_some (decoder.stable second recognized), ih]
      simp only [items, remainder, decoder.decode_of_next_some recognized, List.cons_append]

theorem items_append (first second : List Symbol) :
    decoder.items (first ++ second) =
      decoder.items first ++ decoder.items (decoder.remainder first ++ second) := by
  rw [items, decode_append]

theorem remainder_append (first second : List Symbol) :
    decoder.remainder (first ++ second) =
      decoder.remainder (decoder.remainder first ++ second) := by
  rw [remainder, decode_append]

theorem items_of_next_none {input : List Symbol} (stuck : decoder.next input = none) :
    decoder.items input = [] := by
  rw [items, decode_of_next_none decoder stuck]

theorem remainder_of_next_none {input : List Symbol} (stuck : decoder.next input = none) :
    decoder.remainder input = input := by
  rw [remainder, decode_of_next_none decoder stuck]

theorem items_of_next_some {input rest : List Symbol} {item : Item}
    (taken : decoder.next input = some (item, rest)) :
    decoder.items input = item :: decoder.items rest := by
  rw [items, decode_of_next_some decoder taken, items]

theorem remainder_of_next_some {input rest : List Symbol} {item : Item}
    (taken : decoder.next input = some (item, rest)) :
    decoder.remainder input = decoder.remainder rest := by
  rw [remainder, decode_of_next_some decoder taken, remainder]

/-- When every recognized item is the front of its input in encoded form, a
sequence is its encoded items followed by its remainder: nothing is skipped. -/
theorem encoded_items_append_remainder {encode : Item -> List Symbol}
    (sound : forall {input item rest}, decoder.next input = some (item, rest) ->
      input = encode item ++ rest)
    (input : List Symbol) :
    (decoder.items input).flatMap encode ++ decoder.remainder input = input := by
  induction input using decoder.induction with
  | stuck input none_left =>
      rw [decoder.items_of_next_none none_left, decoder.remainder_of_next_none none_left]
      rfl
  | taken input item rest recognized ih =>
      rw [decoder.items_of_next_some recognized, decoder.remainder_of_next_some recognized,
        List.flatMap_cons, List.append_assoc, ih]
      exact (sound recognized).symm

end Decoder

end Foundation
end PdnsLogger
