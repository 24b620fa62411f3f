import PdnsLogger.Program.Basic

namespace PdnsLogger
namespace Program

open Foundation

/-!
# The unpacked protobuf message

The structures generated from `dnsmessage.proto`, restricted to the fields
that the log engines read.  A `has_x` flag with its value is an `Option`, and
so is a pointer that may be null.

A `bytes` field is counted and carries no terminator.  Code that nevertheless
follows its data pointer as a C string continues into whatever the allocator
placed behind it.  `BinaryData` therefore records those neighbouring bytes
next to the field's own.  A field of length zero has a null data pointer.
-/

/-- `ProtobufCBinaryData` in its surroundings. -/
structure BinaryData where
  data : Bytes
  beyond : Bytes
  deriving DecidableEq

namespace BinaryData

def len (field : BinaryData) : Nat :=
  field.data.length

/-- The result of using the data pointer as a `char *`. -/
def asCString (field : BinaryData) : Option CString :=
  if field.data = [] then none else some (CString.read (field.data ++ field.beyond))

end BinaryData

structure DNSQuestion where
  qname : Option CString
  qtype : Option UInt32
  qclass : Option UInt32
  deriving DecidableEq

structure DNSRR where
  name : Option CString
  type : Option UInt32
  class_ : Option UInt32
  ttl : Option UInt32
  rdata : Option BinaryData
  deriving DecidableEq

/-- `PBDNSMessage__DNSResponse`.  The pair `n_rrs`, `rrs` is one list. -/
structure DNSResponse where
  rcode : Option UInt32
  rrs : List DNSRR
  appliedpolicy : Option CString
  deriving DecidableEq

structure PBDNSMessage where
  timesec : Option UInt32
  from_ : Option BinaryData
  id : Option UInt32
  question : Option DNSQuestion
  response : Option DNSResponse
  originalrequestorsubnet : Option BinaryData
  deriving DecidableEq

/-! ## Surroundings

The same message in another memory has the same fields, with other bytes behind
them. -/

namespace BinaryData

/-- The same field with these bytes behind it. -/
def within (beyond : Bytes) (field : BinaryData) : BinaryData :=
  ⟨field.data, beyond⟩

@[simp] theorem within_within (beyond other : Bytes) (field : BinaryData) :
    (field.within beyond).within other = field.within other := rfl

@[simp] theorem len_within (beyond : Bytes) (field : BinaryData) :
    (field.within beyond).len = field.len := rfl

/-- A zero byte among the data ends the string there. -/
theorem asCString_within {field : BinaryData} (ended : field.data = [] ∨ 0 ∈ field.data)
    (beyond : Bytes) : (field.within beyond).asCString = field.asCString := by
  unfold asCString within
  by_cases empty : field.data = []
  · rw [if_pos empty, if_pos empty]
  · have inside := ended.resolve_left empty
    rw [if_neg empty, if_neg empty, CString.read_append_of_mem inside,
      CString.read_append_of_mem inside]

end BinaryData

def DNSRR.within (beyond : Bytes) (rr : DNSRR) : DNSRR :=
  { rr with rdata := rr.rdata.map (BinaryData.within beyond) }

@[simp] theorem DNSRR.within_within (beyond other : Bytes) (rr : DNSRR) :
    (rr.within beyond).within other = rr.within other := by
  simp [within, Function.comp_def]

def DNSResponse.within (beyond : Bytes) (r : DNSResponse) : DNSResponse :=
  { r with rrs := r.rrs.map (DNSRR.within beyond) }

@[simp] theorem DNSResponse.within_within (beyond other : Bytes) (r : DNSResponse) :
    (r.within beyond).within other = r.within other := by
  simp [within, Function.comp_def]

/-- The same message with these bytes behind each of its fields. -/
def PBDNSMessage.within (beyond : Bytes) (msg : PBDNSMessage) : PBDNSMessage :=
  { msg with
    from_ := msg.from_.map (BinaryData.within beyond)
    response := msg.response.map (DNSResponse.within beyond)
    originalrequestorsubnet := msg.originalrequestorsubnet.map (BinaryData.within beyond) }

def SameBytes (first second : PBDNSMessage) : Prop :=
  first.within [] = second.within []

theorem sameBytes_within (beyond : Bytes) (msg : PBDNSMessage) :
    SameBytes (msg.within beyond) msg := by
  simp [SameBytes, PBDNSMessage.within, Function.comp_def]

/-- The address families passed to `inet_ntop`. -/
inductive AddressFamily where
  | inet
  | inet6
  deriving DecidableEq, Repr

/-- The presentation form produced by the C library's `inet_ntop`. -/
abbrev InetNtop := AddressFamily -> Bytes -> CString

end Program
end PdnsLogger
