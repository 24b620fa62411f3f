import PdnsLogger.Program.DnsNames

namespace PdnsLogger
namespace Engines

open Foundation Program

/-!
# The line buffer of the text engines

`logfile_log` and `syslog_log` build a line in `char str[1024]` by a sequence
of guarded appends.  Each append is the same three statements:

    pc = snprintf(tmp, sizeof(tmp), ...);
    strncat(str, tmp, sz);
    sz -= pc;

The guards depend on the message alone, never on the line built so far.  An
engine is therefore modelled as the list of statements it performs for a
message, and `execute` gives these statements their meaning on the buffer.
Keeping the two apart leaves the format arguments visible to statements about
them, while the counter `sz` and the line keep their own, separate history.

The line is a byte list without a fixed capacity.  A negative `sz` is passed
on as the large `size_t` that C converts it to.
-/

/-- `sizeof(str)` and `sizeof(tmp)`. -/
def lineCapacity : Nat := 1024

/-- A statement of a text engine that affects its buffer or its output. -/
inductive TextOp where
  | append (format : List Conversion)
  | writeLog
  | assertZero
  deriving DecidableEq

/-- The line under construction, the space counter, and the lines written. -/
structure TextLine where
  str : Bytes
  sz : Int
  lines : List Bytes
  deriving DecidableEq

namespace TextLine

/-- `char str[1024] = ""` with `sz = sizeof(str) - 1`. -/
def start : TextLine :=
  ⟨[], lineCapacity - 1, []⟩

/-- Format into `tmp`, append at most `sz` bytes, and account for the
untruncated length. -/
def append (line : TextLine) (format : List Conversion) : TextLine :=
  { line with
    str := strncat line.str (snprintf lineCapacity format).1 (toSizeT line.sz)
    sz := line.sz - (snprintf lineCapacity format).2 }

/-- The engine's `write_log`, where `sink` tells whether anything receives it. -/
def writeLog (sink : Bool) (line : TextLine) : TextLine :=
  if sink then { line with lines := line.lines ++ [line.str] } else line

end TextLine

/-- Execute the statements of an engine whose `assert(0)` is at `site`. -/
def execute (build : Build) (site : AssertSite) (sink : Bool) :
    List TextOp -> TextLine -> Except Fault TextLine
  | [], line => .ok line
  | .append format :: ops, line => execute build site sink ops (line.append format)
  | .writeLog :: ops, line => execute build site sink ops (line.writeLog sink)
  | .assertZero :: ops, line => do
      assertZero build site
      execute build site sink ops line

/-- Statements guarded by the presence of an optional field. -/
def whenPresent {Field : Type} (field : Option Field) (ops : Field -> List TextOp) : List TextOp :=
  match field with
  | some value => ops value
  | none => []

/-- The loop counter `unsigned int t` printed with `%d`. -/
def counter (t : Nat) : Conversion :=
  .d (toInt32 (UInt32.ofNat t))

/-! ## Blocks of appends

Apart from `write_log` and the assertion, an engine only appends.  The blocks
that do nothing else are recognized once, by the rules below. -/

/-- Every statement of the block is an append. -/
def AppendsOnly (ops : List TextOp) : Prop :=
  forall op, op ∈ ops -> Exists fun format => op = .append format

namespace AppendsOnly

theorem nil : AppendsOnly [] :=
  fun _op member => absurd member List.not_mem_nil

theorem single (format : List Conversion) : AppendsOnly [.append format] :=
  fun _op member => ⟨format, List.mem_singleton.mp member⟩

theorem append {first second : List TextOp} (firstOnly : AppendsOnly first)
    (secondOnly : AppendsOnly second) : AppendsOnly (first ++ second) := by
  intro op member
  rcases List.mem_append.mp member with inFirst | inSecond
  · exact firstOnly op inFirst
  · exact secondOnly op inSecond

theorem whenPresent {Field : Type} {ops : Field -> List TextOp} (field : Option Field)
    (only : forall value, AppendsOnly (ops value)) : AppendsOnly (whenPresent field ops) := by
  cases field with
  | none => exact nil
  | some value => exact only value

theorem ite {condition : Prop} [Decidable condition] {first second : List TextOp}
    (firstOnly : AppendsOnly first) (secondOnly : AppendsOnly second) :
    AppendsOnly (if condition then first else second) := by
  by_cases holds : condition
  · rw [if_pos holds]
    exact firstOnly
  · rw [if_neg holds]
    exact secondOnly

variable {ops : List TextOp}

theorem assertZero_not_mem (only : AppendsOnly ops) : TextOp.assertZero ∉ ops := by
  intro member
  rcases only _ member with ⟨format, same⟩
  cases same

theorem count_writeLog (only : AppendsOnly ops) : ops.count .writeLog = 0 := by
  apply List.count_eq_zero.mpr
  intro member
  rcases only _ member with ⟨format, same⟩
  cases same

end AppendsOnly

/-! ## Execution without and with assertions -/

/-- The effect of the statements on the line, assertions aside. -/
def perform (sink : Bool) : List TextOp -> TextLine -> TextLine
  | [], line => line
  | .append format :: ops, line => perform sink ops (line.append format)
  | .writeLog :: ops, line => perform sink ops (line.writeLog sink)
  | .assertZero :: ops, line => perform sink ops line

/-- An engine faults exactly when it performs an `assert(0)` in a debug build,
and otherwise has the plain effect of its statements. -/
theorem execute_eq (build : Build) (site : AssertSite) (sink : Bool) (ops : List TextOp)
    (line : TextLine) :
    execute build site sink ops line =
      if build = .debug ∧ TextOp.assertZero ∈ ops then .error (.assertion site)
      else .ok (perform sink ops line) := by
  induction ops generalizing line with
  | nil => simp [execute, perform]
  | cons op ops ih =>
      cases op with
      | append format => simp [execute, perform, ih]
      | writeLog => simp [execute, perform, ih]
      | assertZero =>
          cases build with
          | debug => simp [execute, assertZero, bind, Except.bind]
          | release => simpa [execute, assertZero, bind, Except.bind, perform] using ih line

/-- A closed sink receives nothing. -/
theorem lines_perform_closed (ops : List TextOp) (line : TextLine) :
    (perform false ops line).lines = line.lines := by
  induction ops generalizing line with
  | nil => rfl
  | cons op ops ih =>
      cases op with
      | append format => exact ih (line.append format)
      | writeLog => exact ih line
      | assertZero => exact ih line

/-- An open sink receives one line for every `write_log`. -/
theorem length_lines_perform (ops : List TextOp) (line : TextLine) :
    (perform true ops line).lines.length = line.lines.length + ops.count .writeLog := by
  induction ops generalizing line with
  | nil => rfl
  | cons op ops ih =>
      cases op with
      | append format =>
          rw [perform, ih, List.count_cons_of_ne (by intro same; cases same)]
          rfl
      | writeLog =>
          rw [perform, ih, List.count_cons_self, TextLine.writeLog, if_pos rfl, List.length_append]
          simp only [List.length_singleton]
          omega
      | assertZero => rw [perform, ih, List.count_cons_of_ne (by intro same; cases same)]

end Engines
end PdnsLogger
