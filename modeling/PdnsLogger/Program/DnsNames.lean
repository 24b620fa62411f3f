import PdnsLogger.Program.Message

namespace PdnsLogger
namespace Program

open Foundation

/-!
# Names of DNS classes, types and response codes

The three tables of `pdns-logger-dns.c`, terminators included, and the lookup
functions over them.  A lookup uses its argument as a position in the table,
bounded by the table's total size, and returns the `name` stored there.  The
`val` column is never consulted by the lookups.
-/

structure DnsNameval where
  val : Nat
  name : Option CString
  deriving DecidableEq

def dnsClasstab : List DnsNameval :=
  [⟨0, some (.literal "INVALID")⟩, ⟨1, some (.literal "IN")⟩, ⟨3, some (.literal "CH")⟩,
   ⟨4, some (.literal "HS")⟩, ⟨255, some (.literal "ANY")⟩, ⟨0, none⟩]

def dnsTypetab : List DnsNameval :=
  [⟨0, some (.literal "INVALID")⟩, ⟨1, some (.literal "A")⟩, ⟨2, some (.literal "NS")⟩,
   ⟨3, some (.literal "MD")⟩, ⟨4, some (.literal "MF")⟩, ⟨5, some (.literal "CNAME")⟩,
   ⟨6, some (.literal "SOA")⟩, ⟨7, some (.literal "MB")⟩, ⟨8, some (.literal "MG")⟩,
   ⟨9, some (.literal "MR")⟩, ⟨10, some (.literal "NULL")⟩, ⟨11, some (.literal "WKS")⟩,
   ⟨12, some (.literal "PTR")⟩, ⟨13, some (.literal "HINFO")⟩, ⟨14, some (.literal "MINFO")⟩,
   ⟨15, some (.literal "MX")⟩, ⟨16, some (.literal "TXT")⟩, ⟨17, some (.literal "RP")⟩,
   ⟨18, some (.literal "AFSDB")⟩, ⟨19, some (.literal "X25")⟩, ⟨20, some (.literal "ISDN")⟩,
   ⟨21, some (.literal "RT")⟩, ⟨22, some (.literal "NSAP")⟩, ⟨23, some (.literal "NSAP_PTR")⟩,
   ⟨24, some (.literal "SIG")⟩, ⟨25, some (.literal "KEY")⟩, ⟨26, some (.literal "PX")⟩,
   ⟨27, some (.literal "GPOS")⟩, ⟨28, some (.literal "AAAA")⟩, ⟨29, some (.literal "LOC")⟩,
   ⟨30, some (.literal "NXT")⟩, ⟨31, some (.literal "EID")⟩, ⟨32, some (.literal "NIMLOC")⟩,
   ⟨33, some (.literal "SRV")⟩, ⟨34, some (.literal "ATMA")⟩, ⟨35, some (.literal "NAPTR")⟩,
   ⟨36, some (.literal "KX")⟩, ⟨37, some (.literal "CERT")⟩, ⟨38, some (.literal "A6")⟩,
   ⟨39, some (.literal "DNAME")⟩, ⟨40, some (.literal "SINK")⟩, ⟨41, some (.literal "OPT")⟩,
   ⟨250, some (.literal "TSIG")⟩, ⟨251, some (.literal "IXFR")⟩, ⟨252, some (.literal "AXFR")⟩,
   ⟨253, some (.literal "MAILB")⟩, ⟨254, some (.literal "MAILA")⟩, ⟨255, some (.literal "ANY")⟩,
   ⟨256, some (.literal "ZXFR")⟩, ⟨65536, some (.literal "MAX")⟩, ⟨0, none⟩]

def dnsRcodetab : List DnsNameval :=
  [⟨0, some (.literal "NOERROR")⟩, ⟨1, some (.literal "FORMERR")⟩, ⟨2, some (.literal "SERVFAIL")⟩,
   ⟨3, some (.literal "NXDOMAIN")⟩, ⟨4, some (.literal "NOTIMPL")⟩, ⟨5, some (.literal "REFUSED")⟩,
   ⟨6, some (.literal "YXDOMAIN")⟩, ⟨7, some (.literal "YXRRSET")⟩, ⟨8, some (.literal "NXRRSET")⟩,
   ⟨9, some (.literal "NOTAUTH")⟩, ⟨10, some (.literal "NOTZONE")⟩, ⟨16, some (.literal "BADSIG")⟩,
   ⟨17, some (.literal "BADKEY")⟩, ⟨18, some (.literal "BADTIME")⟩, ⟨0, none⟩]

/-- Positional lookup: `i < sizeof(tab) / sizeof(tab[0]) ? tab[i].name : NULL`. -/
def nameAt (table : List DnsNameval) (i : UInt32) : Option CString :=
  match table[i.toNat]? with
  | some entry => entry.name
  | none => none

def pdnsLoggerRcode2p (i : UInt32) : Option CString :=
  nameAt dnsRcodetab i

def pdnsLoggerType2p (i : UInt32) : Option CString :=
  nameAt dnsTypetab i

def pdnsLoggerClass2p (i : UInt32) : Option CString :=
  nameAt dnsClasstab i

/-! ## Where a lookup finds a name

Every entry but the terminator has a name, so that a lookup succeeds exactly
below the position of the terminator. -/

theorem nameAt_eq_none_iff (entries : List DnsNameval) {terminator : DnsNameval}
    (named : forall entry, entry ∈ entries -> entry.name ≠ none) (last : terminator.name = none)
    (i : UInt32) : nameAt (entries ++ [terminator]) i = none ↔ entries.length ≤ i.toNat := by
  unfold nameAt
  by_cases inside : i.toNat < entries.length
  · rw [List.getElem?_append_left inside, List.getElem?_eq_getElem inside]
    constructor
    · intro absent
      exact absurd absent (named _ (List.getElem_mem inside))
    · intro outside
      omega
  · rw [List.getElem?_append_right (Nat.le_of_not_lt inside)]
    refine ⟨fun _ => Nat.le_of_not_lt inside, fun _ => ?_⟩
    cases beyond : i.toNat - entries.length with
    | zero => exact last
    | succ beyond => rfl

theorem pdnsLoggerRcode2p_eq_none_iff (i : UInt32) :
    pdnsLoggerRcode2p i = none ↔ 14 ≤ i.toNat :=
  nameAt_eq_none_iff dnsRcodetab.dropLast (by decide +kernel) rfl i

theorem pdnsLoggerType2p_eq_none_iff (i : UInt32) :
    pdnsLoggerType2p i = none ↔ 50 ≤ i.toNat :=
  nameAt_eq_none_iff dnsTypetab.dropLast (by decide +kernel) rfl i

theorem pdnsLoggerClass2p_eq_none_iff (i : UInt32) :
    pdnsLoggerClass2p i = none ↔ 5 ≤ i.toNat :=
  nameAt_eq_none_iff dnsClasstab.dropLast (by decide +kernel) rfl i

/-! ## Lookup by value

The reference is a search of the `val` column.  It differs from the positional
lookup wherever the values have gaps: behind the first gap an entry is found
under its position and not under its value. -/

/-- The name of the entry with a given value.  The terminator is no entry. -/
def nameOfVal (table : List DnsNameval) (v : UInt32) : Option CString :=
  (table.dropLast.find? fun entry => entry.val == v.toNat).bind DnsNameval.name

/-- The values at which one of the two lookups can find anything. -/
def occupied (table : List DnsNameval) : List UInt32 :=
  (List.range table.length ++ table.map DnsNameval.val).map UInt32.ofNat

theorem mem_occupied {table : List DnsNameval} {v : UInt32}
    (found : v.toNat < table.length ∨ Exists fun entry => entry ∈ table ∧ entry.val = v.toNat) :
    v ∈ occupied table := by
  refine List.mem_map.mpr ⟨v.toNat, List.mem_append.mpr ?_, UInt32.ofNat_toNat⟩
  rcases found with inside | ⟨entry, member, same⟩
  · exact .inl (List.mem_range.mpr inside)
  · exact .inr (List.mem_map.mpr ⟨entry, member, same⟩)

/-- Everywhere else both lookups return nothing. -/
theorem lookups_none {table : List DnsNameval} {v : UInt32} (free : v ∉ occupied table) :
    nameAt table v = none ∧ nameOfVal table v = none := by
  constructor
  · have outside : table[v.toNat]? = none := by
      rw [List.getElem?_eq_none_iff]
      by_contra inside
      exact free (mem_occupied (.inl (Nat.lt_of_not_le inside)))
    rw [nameAt, outside]
  · have absent : (table.dropLast.find? fun entry => entry.val == v.toNat) = none := by
      rw [List.find?_eq_none]
      intro entry member same
      have valued : entry.val = v.toNat := eq_of_beq same
      exact free (mem_occupied (.inr ⟨entry, List.mem_of_mem_dropLast member, valued⟩))
    rw [nameOfVal, absent, Option.bind_none]

/-- Two finite lookups that differ at given values among the occupied ones
differ nowhere else. -/
theorem nameAt_eq_nameOfVal_iff {table : List DnsNameval} {displaced : List UInt32}
    (listed : (displaced.all fun v => decide (v ∈ occupied table)) = true)
    (checked : ((occupied table).all fun v =>
      decide (nameAt table v = nameOfVal table v ↔ v ∉ displaced)) = true) (v : UInt32) :
    nameAt table v = nameOfVal table v ↔ v ∉ displaced := by
  by_cases found : v ∈ occupied table
  · exact of_decide_eq_true (List.all_eq_true.mp checked v found)
  · have nothing := lookups_none found
    constructor
    · intro _ member
      exact found (of_decide_eq_true (List.all_eq_true.mp listed v member))
    · intro _
      rw [nothing.1, nothing.2]

/-- The types after the gap at 42, under their position and under their value. -/
def displacedTypes : List UInt32 :=
  [42, 43, 44, 45, 46, 47, 48, 49, 250, 251, 252, 253, 254, 255, 256, 65536]

/-- The classes after the gap at 2, under their position and under their value. -/
def displacedClasses : List UInt32 :=
  [2, 3, 4, 255]

/-- The response codes after the gap at 11, under their position and under
their value. -/
def displacedRcodes : List UInt32 :=
  [11, 12, 13, 16, 17, 18]

/-- The names are the right ones exactly away from the displaced entries. -/
theorem names_right_iff (v : UInt32) :
    (pdnsLoggerType2p v = nameOfVal dnsTypetab v ↔ v ∉ displacedTypes) ∧
    (pdnsLoggerClass2p v = nameOfVal dnsClasstab v ↔ v ∉ displacedClasses) ∧
    (pdnsLoggerRcode2p v = nameOfVal dnsRcodetab v ↔ v ∉ displacedRcodes) := by
  refine ⟨?_, ?_, ?_⟩
  · exact nameAt_eq_nameOfVal_iff (by decide +kernel) (by decide +kernel) v
  · exact nameAt_eq_nameOfVal_iff (by decide +kernel) (by decide +kernel) v
  · exact nameAt_eq_nameOfVal_iff (by decide +kernel) (by decide +kernel) v

/-- The class CH, which is 3, is printed as HS. -/
theorem class_chaos_named_hesiod :
    pdnsLoggerClass2p 3 = some (.literal "HS") ∧
      nameOfVal dnsClasstab 3 = some (.literal "CH") ∧
      ¬ (forall v, pdnsLoggerType2p v = nameOfVal dnsTypetab v ∧
        pdnsLoggerClass2p v = nameOfVal dnsClasstab v ∧
        pdnsLoggerRcode2p v = nameOfVal dnsRcodetab v) := by
  have printed : pdnsLoggerClass2p 3 = some (.literal "HS") := by decide +kernel
  have meant : nameOfVal dnsClasstab 3 = some (.literal "CH") := by decide +kernel
  refine ⟨printed, meant, ?_⟩
  intro right
  have same := (right 3).2.1
  rw [printed, meant] at same
  exact absurd same (by decide +kernel)

end Program
end PdnsLogger
