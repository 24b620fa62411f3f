import PdnsLogger.Foundation.CText

namespace PdnsLogger
namespace Program

open Foundation

/-!
# Status codes, builds and faults

The vocabulary shared by every translation unit: the status enumeration of
`pdns-logger.h`, the macro `zstr`, and the ways in which a modelled function
may fail to return.

An `assert(0)` depends on the build.  With assertions enabled it aborts the
process, and a debug build is what the build system selects when no type is
given.  In a release build it is absent and control simply continues.  The
model keeps both, so that a statement names the build it is about.
-/

inductive PdnsStatus where
  | no
  | ok
  | fork
  | retry
  deriving DecidableEq, Repr

/-- Whether `assert` is compiled in. -/
inductive Build where
  | debug
  | release
  deriving DecidableEq, Repr

/-- The `assert(0)` statements that modelled code can reach. -/
inductive AssertSite where
  | protobufParse
  | socketThreadExec
  | logfileLog
  | syslogLog
  | fifoPush
  deriving DecidableEq, Repr

/-- Why a modelled function does not return a value. -/
inductive Fault where
  | outOfBounds
  | danglingPointer
  | diverged
  | assertion (site : AssertSite)
  deriving DecidableEq, Repr

def assertZero (build : Build) (site : AssertSite) : Except Fault Unit :=
  match build with
  | .debug => .error (.assertion site)
  | .release => .ok ()

/-- The macro `zstr`: a null or empty string. -/
def zstr : Option CString -> Bool
  | none => true
  | some text => text.bytes.isEmpty

end Program
end PdnsLogger
