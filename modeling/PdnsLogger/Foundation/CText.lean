import Mathlib.Data.Nat.Digits.Defs
import Mathlib.Data.Nat.Digits.Lemmas
import Mathlib.Data.List.TakeWhile

namespace PdnsLogger
namespace Foundation

/-!
# Byte strings as C reads and prints them

Text reaches a C program as memory and leaves it through `printf`-style
conversions.  `CString` is the text found by following a non-null `char *`:
the bytes before the first zero byte.  Its proof field excludes a zero byte,
so a value of this type is never longer or shorter than C's own reading of it.
A possibly null pointer is an `Option CString`.

Formatting keeps the conversions separate from the bytes they produce.  This
matters where the arguments themselves are the subject, for example when a
null `%s` argument must be recognized.  `snprintf` truncates what it stores
but reports the untruncated length, and `strncat` takes an unsigned bound;
both conventions are stated here without reference to a particular caller.
-/

abbrev Bytes := List UInt8

/-- The bytes of an ASCII literal. -/
def ascii (text : String) : Bytes :=
  text.toList.map fun char => UInt8.ofNat char.toNat

/-- The text at a non-null `char *`. -/
structure CString where
  bytes : Bytes
  noNul : forall byte, byte ∈ bytes -> byte ≠ 0
  deriving DecidableEq

namespace CString

/-- Follow a pointer into memory up to the first zero byte. -/
def read (memory : Bytes) : CString where
  bytes := memory.takeWhile (· != 0)
  noNul := fun _byte member => by simpa using List.mem_takeWhile_imp member

def literal (text : String) : CString :=
  read (ascii text)

theorem ext {first second : CString} (same : first.bytes = second.bytes) : first = second := by
  cases first
  cases second
  cases same
  rfl

/-- A string that ends within a block of memory does not read past it. -/
theorem read_append_of_mem {block : Bytes} (ended : 0 ∈ block) (rest : Bytes) :
    read (block ++ rest) = read block := by
  apply ext
  simp only [read]
  rw [List.takeWhile_append, if_neg]
  intro whole
  have kept := List.takeWhile_eq_self_iff.mp ((List.takeWhile_prefix _).eq_of_length whole)
  exact absurd (kept 0 ended) (by decide)

/-- A string that does not end within a block continues behind it. -/
theorem bytes_read_append {block : Bytes} (open_ : 0 ∉ block) (rest : Bytes) :
    (read (block ++ rest)).bytes = block ++ (read rest).bytes := by
  apply List.takeWhile_append_of_pos
  intro byte member
  apply bne_iff_ne.mpr
  intro zero
  exact open_ (zero ▸ member)

end CString

/-! ## Numerals -/

def decimal (number : Nat) : Bytes :=
  if number = 0 then [48]
  else (Nat.digits 10 number).reverse.map fun digit => UInt8.ofNat (48 + digit)

/-- A numeral determines its number. -/
theorem decimal_injective {first second : Nat} (same : decimal first = decimal second) :
    first = second := by
  have read : forall number, Nat.ofDigits 10 ((decimal number).reverse.map fun byte =>
      byte.toNat - 48) = number := by
    intro number
    unfold decimal
    by_cases zero : number = 0
    · rw [if_pos zero, zero]
      rfl
    · rw [if_neg zero, ← List.map_reverse, List.reverse_reverse, List.map_map]
      have digits : (Nat.digits 10 number).map
          ((fun byte : UInt8 => byte.toNat - 48) ∘ fun digit => UInt8.ofNat (48 + digit)) =
            Nat.digits 10 number := by
        refine (List.map_congr_left ?_).trans (List.map_id _)
        intro digit member
        have small := Nat.digits_lt_base (by decide) member
        simp only [Function.comp_apply, UInt8.toNat_ofNat', id]
        omega
      rw [digits, Nat.ofDigits_digits]
  rw [← read first, same, read second]

/-- The decimal numeral of an integer, with a leading minus sign when negative. -/
def signedDecimal : Int -> Bytes
  | .ofNat number => decimal number
  | .negSucc number => 45 :: decimal (number + 1)

/-- The value of a 32-bit word read as a two's-complement `int`. -/
def toInt32 (word : UInt32) : Int :=
  word.toBitVec.toInt

/-! ## Formatted output -/

/-- One element of a format together with the argument it consumes. -/
inductive Conversion where
  | text (literal : String)
  | d (value : Int)
  | zu (value : Nat)
  | s (value : Option CString)
  deriving DecidableEq

namespace Conversion

/-- A null `%s` argument prints as `(null)`, the convention of glibc. -/
def render : Conversion -> Bytes
  | text literal => ascii literal
  | d value => signedDecimal value
  | zu value => decimal value
  | s none => ascii "(null)"
  | s (some value) => value.bytes

end Conversion

/-- The complete, untruncated output of a format. -/
def formatted (format : List Conversion) : Bytes :=
  format.flatMap Conversion.render

/-- The string stored by `snprintf` and its return value, which is the length
before truncation. -/
def snprintf (size : Nat) (format : List Conversion) : Bytes × Nat :=
  ((formatted format).take (size - 1), (formatted format).length)

/-- Conversion of an `int` to a 64-bit `size_t`. -/
def toSizeT (value : Int) : Nat :=
  (value % 2 ^ 64).toNat

def strncat (dest src : Bytes) (bound : Nat) : Bytes :=
  dest ++ src.take bound

end Foundation
end PdnsLogger
