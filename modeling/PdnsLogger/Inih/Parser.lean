import PdnsLogger.Foundation.LineReading
import PdnsLogger.Program.Configuration
import Mathlib.Data.List.DropRight

namespace PdnsLogger
namespace Inih

open Foundation Program

/-!
# The INI parser

`ini_parse_stream` reads lines of at most 199 bytes and looks at one line at a
time.  Between lines it keeps the current section, the last name, the number of
the line and the number of the first line in error.  It does not stop at an
error.  Both texts it keeps are arrays of fifty characters, filled by a
`strncpy` that always leaves room for the terminating zero byte; their length is
a field of `CharArray`.

A line is a C string, so that a zero byte in the file hides the rest of its line.
A pointer into the line is the text from there on.  `classify` is the chain of
tests in the loop body and `IniState.act` what its branches do.

The parser is built with the defaults of `ini.h`: continuation lines, a byte
order mark and inline comments are allowed, and `;` begins an inline comment
after a space.
-/

/-! ## Text -/

structure CharArray (size : Nat) where
  text : CString
  fits : text.bytes.length < size
  deriving DecidableEq

/-- `MAX_SECTION` and `MAX_NAME`. -/
def maxText : Nat := 50

def iniMaxLine : Nat := 200

def CharArray.empty : CharArray maxText :=
  ⟨.read [], by decide⟩

def strncpy0 (src : Bytes) : CharArray maxText where
  text := .read (src.take (maxText - 1))
  fits := by
    have cut := (List.takeWhile_prefix (· != 0) (l := src.take (maxText - 1))).length_le
    rw [List.length_take] at cut
    change ((src.take (maxText - 1)).takeWhile (· != 0)).length < 50
    rw [maxText] at cut ⊢
    omega

def rstrip (s : Bytes) : Bytes :=
  s.rdropWhile isspace

def lskip (s : Bytes) : Bytes :=
  s.dropWhile isspace

/-- The test that ends the loop of `find_chars_or_comment`. -/
def stopsAt (chars : Option Bytes) (wasSpace : Bool) (char : UInt8) : Bool :=
  (chars.elim false fun chars => chars.contains char) || (wasSpace && char == 59)

/-- The loop of `find_chars_or_comment`, with the text passed over and the text
from the pointer on. -/
def findFrom (chars : Option Bytes) : Bool -> Bytes -> Bytes × Bytes
  | _, [] => ([], [])
  | wasSpace, char :: s =>
      if stopsAt chars wasSpace char then ([], char :: s)
      else (char :: (findFrom chars (isspace char) s).1, (findFrom chars (isspace char) s).2)

def findCharsOrComment (s : Bytes) (chars : Option Bytes) : Bytes × Bytes :=
  findFrom chars false s

/-! ## One line -/

/-- What the tests in the loop body make of a line. -/
inductive Item where
  | nothing
  | continuation (value : Bytes)
  | heading (name : Bytes)
  | option (name value : Bytes)
  | malformed
  deriving DecidableEq, Repr

/-- The UTF-8 byte order mark. -/
def byteOrderMark : Bytes :=
  [0xEF, 0xBB, 0xBF]

/-- `start` when the tests begin, and whether it is past the start of the
line. -/
def lineStart (lineno : Nat) (line : Bytes) : Bool × Bytes :=
  let text := (CString.read line).bytes
  let marked := lineno == 1 && byteOrderMark.isPrefixOf text
  let stripped := rstrip (if marked then text.drop 3 else text)
  let start := lskip stripped
  (marked || decide (start.length < stripped.length), start)

/-- The tests of the loop body.  `continuing` is `*prev_name` and `moved` is
`start > line`. -/
def classify (continuing moved : Bool) (start : Bytes) : Item :=
  match start with
  | [] => .nothing
  | first :: after =>
      if first = 59 ∨ first = 35 then .nothing
      else if continuing && moved then .continuation start
      else if first = 91 then
        let (name, found) := findCharsOrComment after (some [93])
        if found.head? = some 93 then .heading name else .malformed
      else
        let (name, found) := findCharsOrComment start (some [61, 58])
        match found with
        | [] => .malformed
        | stop :: rest =>
            if stop = 61 ∨ stop = 58 then
              .option (rstrip name) (rstrip (lskip (findCharsOrComment rest none).1))
            else .malformed

/-- A handler, with its result and the data behind `user`. -/
abbrev IniHandler (User : Type) :=
  User -> Triple -> Nat -> Bool × User

/-- The variables of `ini_parse_stream` that live through the loop.  `lineno`
and `error` are of type `int` there.  They are natural numbers here, which is
the same for files of fewer than 2^31 lines; what a longer file makes of the
counter is not modelled. -/
structure IniState (User : Type) where
  section_ : CharArray maxText
  prevName : CharArray maxText
  lineno : Nat
  error : Nat
  user : User

namespace IniState

variable {User : Type}

def start (user : User) : IniState User :=
  ⟨.empty, .empty, 0, 0, user⟩

/-- The first error is kept. -/
def fail (state : IniState User) : IniState User :=
  { state with error := if state.error = 0 then state.lineno else state.error }

/-- A call of the handler. -/
def call (handler : IniHandler User) (state : IniState User) (name value : CString) :
    IniState User :=
  let (accepted, user) := handler state.user ⟨state.section_.text, name, value⟩ state.lineno
  if accepted then { state with user := user } else fail { state with user := user }

/-- The branches of the loop body. -/
def act (handler : IniHandler User) (state : IniState User) : Item -> IniState User
  | .nothing => state
  | .continuation value => state.call handler state.prevName.text (.read value)
  | .heading name => { state with section_ := strncpy0 name, prevName := .empty }
  | .option name value =>
      call handler { state with prevName := strncpy0 name } (.read name) (.read value)
  | .malformed => state.fail

/-- The state that the tests of the next line read. -/
def continuing (state : IniState User) : Bool :=
  !state.prevName.text.bytes.isEmpty

/-- What the next line is taken for. -/
def item (state : IniState User) (line : Bytes) : Item :=
  let (moved, start) := lineStart (state.lineno + 1) line
  classify state.continuing moved start

def parseLine (handler : IniHandler User) (state : IniState User) (line : Bytes) :
    IniState User :=
  act handler { state with lineno := state.lineno + 1 } (state.item line)

end IniState

/-! ## Readers -/

/-- A function that fills a buffer of the given size with the next line. -/
abbrev IniReader (Stream : Type) :=
  Nat -> Stream -> Option (Bytes × Stream)

def fgets : IniReader Bytes := fun size stream =>
  if stream = [] then none else some (takeLine (· == 10) (size - 1) stream)

/-- `ini_parse_string_ctx`.  The string does not end before the bytes that are
left. -/
structure IniParseStringCtx where
  ptr : Bytes
  numLeft : Nat
  valid : numLeft ≤ ptr.length

/-- The copying loop of `ini_reader_string`. -/
def copyLine : Nat -> IniParseStringCtx -> Bytes × IniParseStringCtx
  | num + 2, ⟨char :: ptr, left + 1, valid⟩ =>
      let rest : IniParseStringCtx := ⟨ptr, left, Nat.le_of_succ_le_succ valid⟩
      if char = 10 then ([char], rest)
      else
        let (copied, ctx) := copyLine (num + 1) rest
        (char :: copied, ctx)
  | _, ctx => ([], ctx)

def iniReaderString : IniReader IniParseStringCtx := fun num ctx =>
  if ctx.numLeft = 0 ∨ num < 2 then none else some (copyLine num ctx)

/-! ## The parser -/

section Parsing

variable {Stream User : Type}

def iniParseStream (fuel : Nat) (reader : IniReader Stream) (stream : Stream)
    (handler : IniHandler User) (user : User) : Except Fault (Nat × User) :=
  (boundedLoop .diverged
    (fun state => .ok (readingRound (reader iniMaxLine) (IniState.parseLine handler) state))
    fuel (stream, IniState.start user)).map fun state => (state.error, state.user)

def iniParseFile (fuel : Nat) (file : Bytes) (handler : IniHandler User) (user : User) :
    Except Fault (Nat × User) :=
  iniParseStream fuel fgets file handler user

def iniParse (fuel : Nat) (file : Option Bytes) (handler : IniHandler User) (user : User) :
    Except Fault (Int × User) :=
  match file with
  | none => .ok (-1, user)
  | some file => (iniParseFile fuel file handler user).map fun result => (result.1, result.2)

def iniParseString (fuel : Nat) (string : CString) (handler : IniHandler User) (user : User) :
    Except Fault (Nat × User) :=
  iniParseStream fuel iniReaderString
    ⟨string.bytes ++ [0], string.bytes.length, by simp⟩ handler user

end Parsing

end Inih
end PdnsLogger
