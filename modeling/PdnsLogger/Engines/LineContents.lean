import PdnsLogger.Engines.LineRoom
import PdnsLogger.Engines.Agreement
import Mathlib.Data.List.Infix

namespace PdnsLogger
namespace Engines

open Foundation Program

/-!
# What a log line says

The fields of a line are described here by themselves, without reference to
the buffer or to the order of statements: a header of the fields that belong
to the message, and for each record the fields that belong to it.  A field that
is absent contributes nothing, and a null string is shown as `(null)`.

Two results compare the engines with this description.  While all fields
together fit in the buffer, the lines written are the header followed by the
fields of the records so far, unabridged.  And every append stays inside the
buffer exactly when all fields but the last one fit; a longer message drives
the counter below zero and the next append past the end.
-/

/-! ## Fields -/

def shown : Option CString -> Bytes
  | none => ascii "(null)"
  | some text => text.bytes

def labelled (label value : Bytes) : Bytes :=
  label ++ ascii ": " ++ value ++ ascii " "

/-- `QID` and `from`, the latter only for an address of four or sixteen bytes. -/
def originTexts (inetNtop : InetNtop) (msg : PBDNSMessage) : List Bytes :=
  (msg.id.map fun id => labelled (ascii "QID") (signedDecimal (toInt32 id))).toList ++
  (msg.from_.bind fun addr =>
    if addr.len = 4 then some (labelled (ascii "from") (inetNtop .inet addr.data).bytes)
    else if addr.len = 16 then some (labelled (ascii "from") (inetNtop .inet6 addr.data).bytes)
    else none).toList

/-- `qtype`, `qclass` and `qname`. -/
def questionTexts (msg : PBDNSMessage) : List Bytes :=
  match msg.question with
  | none => []
  | some q =>
      (q.qtype.map fun qtype => labelled (ascii "qtype") (shown (pdnsLoggerType2p qtype))).toList ++
      (q.qclass.map fun qclass =>
        labelled (ascii "qclass") (shown (pdnsLoggerClass2p qclass))).toList ++
      [labelled (ascii "qname") (shown q.qname)]

/-- `rcode`, `rrcount` and `policy`. -/
def summaryTexts (r : DNSResponse) : List Bytes :=
  (r.rcode.map fun rcode => labelled (ascii "rcode") (shown (pdnsLoggerRcode2p rcode))).toList ++
  [labelled (ascii "rrcount") (decimal r.rrs.length)] ++
  (if zstr r.appliedpolicy then []
    else [ascii "policy: '" ++ shown r.appliedpolicy ++ ascii "' "])

def headerTexts (inetNtop : InetNtop) (msg : PBDNSMessage) (r : DNSResponse) : List Bytes :=
  originTexts inetNtop msg ++ questionTexts msg ++ summaryTexts r

def rdataText (inetNtop : InetNtop) (number : Bytes) (rr : DNSRR) (rdata : BinaryData) : Bytes :=
  if rr.type = some 1 ∧ rdata.len = 4 then
    labelled (ascii "rdata-" ++ number) (inetNtop .inet rdata.data).bytes
  else if rr.type = some 28 ∧ rdata.len = 16 then
    labelled (ascii "rdata-" ++ number) (inetNtop .inet6 rdata.data).bytes
  else if rr.type = some 2 ∨ rr.type = some 5 ∨ rr.type = some 6 ∨ rr.type = some 15 then
    labelled (ascii "rdata-" ++ number) (shown rdata.asCString)
  else ascii "rdata (not supported) "

def recordTexts (inetNtop : InetNtop) (number : Bytes) (rr : DNSRR) : List Bytes :=
  [labelled (ascii "rname-" ++ number) (shown rr.name)] ++
  (rr.type.map fun type =>
    labelled (ascii "rtype-" ++ number) (shown (pdnsLoggerType2p type))).toList ++
  (rr.class_.map fun class_ =>
    labelled (ascii "rclass-" ++ number) (shown (pdnsLoggerClass2p class_))).toList ++
  (rr.ttl.map fun ttl => labelled (ascii "rttl-" ++ number) (signedDecimal (toInt32 ttl))).toList ++
  (rr.rdata.map (rdataText inetNtop number rr)).toList

def recordParts (inetNtop : InetNtop) (numeral : Nat -> Bytes) : Nat -> List DNSRR -> List (List Bytes)
  | _, [] => []
  | t, rr :: rrs =>
      recordTexts inetNtop (numeral t) rr :: recordParts inetNtop numeral (t + 1) rrs

/-- The numeral that `%d` prints for the loop counter. -/
def printedCounter (t : Nat) : Bytes :=
  (counter t).render

/-- All fields that an engine formats for a message, in order.  With assertions
compiled in, a requestor subnet ends the call after the address. -/
def lineTexts (build : Build) (inetNtop : InetNtop) (msg : PBDNSMessage) (r : DNSResponse) :
    List Bytes :=
  originTexts inetNtop msg ++
    if build = .debug ∧ msg.originalrequestorsubnet ≠ none then []
    else questionTexts msg ++ summaryTexts r ++
      (recordParts inetNtop printedCounter 1 r.rrs).flatten

/-! ## The statements format these fields -/

section Statements

variable (build : Build) (inetNtop : InetNtop)

theorem render_shown (text : Option CString) : (Conversion.s text).render = shown text := by
  cases text <;> rfl

theorem formatted_shown (label : String) (text : Option CString) :
    formatted [.text label, .s text, .text " "] = ascii label ++ shown text ++ ascii " " := by
  cases text <;> simp [formatted, Conversion.render, shown]

theorem formatted_numbered (label : String) (t : Nat) (value : Conversion) :
    formatted [.text label, counter t, .text ": ", value, .text " "] =
      labelled (ascii label ++ printedCounter t) value.render := by
  simp only [formatted, labelled, printedCounter, List.flatMap_cons, List.flatMap_nil,
    List.append_nil, Conversion.render, List.append_assoc]

/-- A guarded append formats the text of its field, when there is one. -/
theorem reached_whenPresent {Field : Type} (field : Option Field)
    (format : Field -> List Conversion) (rest : List TextOp) :
    reached build (whenPresent field (fun value => [.append (format value)]) ++ rest) =
      (field.map fun value => formatted (format value)).toList ++ reached build rest := by
  cases field <;> rfl

theorem reached_headerOps (msg : PBDNSMessage) :
    reached build (Logfile.headerOps inetNtop msg) = originTexts inetNtop msg := by
  unfold Logfile.headerOps originTexts
  rw [reached_whenPresent]
  congr 1
  cases msg.from_ with
  | none => rfl
  | some addr =>
      by_cases four : addr.len = 4
      · simp only [whenPresent, if_pos four, Option.bind_some]
        rfl
      · by_cases sixteen : addr.len = 16
        · simp only [whenPresent, if_neg four, if_pos sixteen, Option.bind_some]
          rfl
        · simp only [whenPresent, if_neg four, if_neg sixteen, Option.bind_some]
          rfl

theorem reached_questionOps (msg : PBDNSMessage) :
    reached build (Logfile.questionOps msg) = questionTexts msg := by
  unfold Logfile.questionOps questionTexts
  cases msg.question with
  | none => rfl
  | some q =>
      simp only [List.append_assoc]
      rw [whenPresent, reached_whenPresent, reached_whenPresent]
      simp only [reached, formatted_shown]
      rfl

theorem reached_summaryOps (r : DNSResponse) :
    reached build (Logfile.summaryOps r) = summaryTexts r := by
  unfold Logfile.summaryOps summaryTexts
  simp only [List.append_assoc]
  rw [reached_whenPresent]
  simp only [formatted_shown]
  by_cases unnamed : zstr r.appliedpolicy = true
  · rw [if_pos unnamed, if_pos unnamed]
    rfl
  · rw [if_neg unnamed, if_neg unnamed, ← render_shown]
    rfl

theorem reached_rdataOps (t : Nat) (rr : DNSRR) (rdata : BinaryData) :
    reached build (Logfile.rdataOps inetNtop t rr rdata) =
      [rdataText inetNtop (printedCounter t) rr rdata] := by
  unfold Logfile.rdataOps rdataText
  split
  · rw [reached, formatted_numbered]
    rfl
  · split
    · rw [reached, formatted_numbered]
      rfl
    · split
      · rw [reached, formatted_numbered, render_shown]
        rfl
      · rfl

theorem reached_recordOps (t : Nat) (rr : DNSRR) :
    reached build (Logfile.recordOps inetNtop t rr) =
      recordTexts inetNtop (printedCounter t) rr := by
  unfold Logfile.recordOps recordTexts
  simp only [List.append_assoc]
  rw [List.singleton_append, reached, reached_whenPresent, reached_whenPresent,
    reached_whenPresent]
  simp only [formatted_numbered, render_shown]
  cases rr.rdata with
  | none => rfl
  | some rdata =>
      rw [whenPresent, reached_rdataOps]
      rfl

theorem reached_recordsOps (t : Nat) (rrs : List DNSRR) :
    reached build (Logfile.recordsOps inetNtop t rrs) =
      (recordParts inetNtop printedCounter t rrs).flatten := by
  induction rrs generalizing t with
  | nil => rfl
  | cons rr rrs ih =>
      rw [Logfile.recordsOps, List.append_assoc,
        reached_append (Logfile.recordOps_appendsOnly inetNtop t rr).assertZero_not_mem,
        reached_recordOps, recordParts, List.flatten_cons, ← ih]
      rfl

/-- An engine that logs a message formats the fields of the line, and nothing
else. -/
theorem reached_ops (engine : Logfile) {msg : PBDNSMessage} {r : DNSResponse}
    (enabled : engine.disabled = false) (unfiltered : ¬ Filtered engine.rewritesOnly msg)
    (present : msg.response = some r) :
    reached build (engine.ops inetNtop (some msg)) = lineTexts build inetNtop msg r := by
  have response : reached build (Logfile.responseOps inetNtop msg) =
      summaryTexts r ++ (recordParts inetNtop printedCounter 1 r.rrs).flatten := by
    simp only [Logfile.responseOps, present]
    rw [reached_append (Logfile.summaryOps_appendsOnly r).assertZero_not_mem, reached_summaryOps]
    by_cases some_record : 0 < r.rrs.length
    · rw [if_pos some_record, reached_recordsOps]
    · rw [if_neg some_record, List.length_eq_zero_iff.mp (Nat.eq_zero_of_not_pos some_record)]
      rfl
  have body : reached build (Logfile.questionOps msg ++ Logfile.responseOps inetNtop msg) =
      questionTexts msg ++ (summaryTexts r ++
        (recordParts inetNtop printedCounter 1 r.rrs).flatten) := by
    rw [reached_append (Logfile.questionOps_appendsOnly msg).assertZero_not_mem,
      reached_questionOps, response]
  rw [Logfile.ops_some, if_neg (by simp [enabled, unfiltered]), lineTexts]
  simp only [List.append_assoc]
  rw [reached_append (Logfile.headerOps_appendsOnly inetNtop msg).assertZero_not_mem,
    reached_headerOps]
  congr 1
  cases subnet : msg.originalrequestorsubnet with
  | none =>
      rw [if_neg (by simp), ← body]
      rfl
  | some field =>
      cases build with
      | debug =>
          rw [if_pos ⟨rfl, Option.some_ne_none field⟩]
          rfl
      | release =>
          rw [if_neg (by simp), ← body]
          rfl

end Statements

/-! ## Every append -/

/-- All fields but the last one that is formatted fit in the buffer. -/
def FieldsFit (build : Build) (inetNtop : InetNtop) (msg : PBDNSMessage) : Prop :=
  forall r, msg.response = some r ->
    (lineTexts build inetNtop msg r).dropLast.flatten.length ≤ lineCapacity - 1

theorem contained_logfile_iff (build : Build) (inetNtop : InetNtop) (engine : Logfile)
    (msg : PBDNSMessage) :
    Contained build engine.fpOpen (engine.ops inetNtop (some msg)) .start ↔
      (engine.disabled = false -> ¬ Filtered engine.rewritesOnly msg ->
        FieldsFit build inetNtop msg) := by
  by_cases silent : engine.disabled = true ∨ Filtered engine.rewritesOnly msg
  · rw [Logfile.ops_some, if_pos silent]
    constructor
    · intro _ enabled unfiltered
      rcases silent with disabled | filtered
      · cases enabled.symm.trans disabled
      · exact absurd filtered unfiltered
    · intro _ pair member
      cases member
  · rw [not_or, Bool.not_eq_true] at silent
    rcases silent with ⟨enabled, unfiltered⟩
    rcases Option.ne_none_iff_exists'.mp fun absent => unfiltered (.inl absent) with ⟨r, present⟩
    rw [contained_iff build _ _ TextLine.exact_start (by decide),
      reached_ops build inetNtop engine enabled unfiltered present]
    constructor
    · intro fits _ _ other same
      cases Option.some.inj (present.symm.trans same)
      exact Int.ofNat_le.mp fits
    · intro fits
      exact Int.ofNat_le.mpr (fits enabled unfiltered r present)

/-- In both text engines no append overruns the buffer exactly when all fields
but the last one fit in it; a message that is passed over appends nothing. -/
theorem line_contained_iff (build : Build) (inetNtop : InetNtop) (file : Logfile)
    (system : Syslog) (msg : PBDNSMessage) :
    (Contained build file.fpOpen (file.ops inetNtop (some msg)) .start ↔
      (file.disabled = false -> ¬ Filtered file.rewritesOnly msg ->
        FieldsFit build inetNtop msg)) ∧
    (Contained build true (system.ops inetNtop (some msg)) .start ↔
      (system.disabled = false -> ¬ Filtered system.rewritesOnly msg ->
        FieldsFit build inetNtop msg)) := by
  refine ⟨contained_logfile_iff build inetNtop file msg, ?_⟩
  have twin := contained_logfile_iff build inetNtop
    ⟨system.disabled, system.rewritesOnly, true⟩ msg
  rw [ops_eq _ system inetNtop (some msg) rfl rfl] at twin
  exact twin

/-- A response to a question whose name has two thousand characters. -/
def longQuestion : PBDNSMessage where
  timesec := none
  from_ := none
  id := none
  question := some
    { qname := some ⟨List.replicate 2000 97, fun _byte member => by
        rw [List.eq_of_mem_replicate member]
        decide⟩
      qtype := none
      qclass := none }
  response := some ⟨none, [], none⟩
  originalrequestorsubnet := none

/-- The record count is appended with a negative counter and past the end of
the buffer. -/
theorem long_name_overruns_line :
    Exists fun pair =>
      pair ∈ appends .release true
        (Logfile.ops ⟨false, false, true⟩ (fun _ _ => .literal "127.0.0.1") (some longQuestion))
        .start ∧
      pair.1.sz = -985 ∧ pair.2.str.length = 1034 := by
  refine ⟨_, List.mem_cons_of_mem _ List.mem_cons_self, ?_, ?_⟩
  · decide +kernel
  · decide +kernel

/-! ## Lines that fit -/

def lineHeader (inetNtop : InetNtop) (msg : PBDNSMessage) (r : DNSResponse) : Bytes :=
  (headerTexts inetNtop msg r).flatten

def lineParts (inetNtop : InetNtop) (r : DNSResponse) : List Bytes :=
  (recordParts inetNtop decimal 1 r.rrs).map List.flatten

/-- The line after each further part. -/
def growing : Bytes -> List Bytes -> List Bytes
  | _, [] => []
  | line, part :: parts => (line ++ part) :: growing (line ++ part) parts

theorem length_growing (line : Bytes) (parts : List Bytes) :
    (growing line parts).length = parts.length := by
  induction parts generalizing line with
  | nil => rfl
  | cons part parts ih => rw [growing, List.length_cons, List.length_cons, ih]

theorem getElem?_growing (line : Bytes) (parts : List Bytes) (k : Nat)
    (inside : k < parts.length) :
    (growing line parts)[k]? = some (line ++ (parts.take (k + 1)).flatten) := by
  induction parts generalizing line k with
  | nil => cases inside
  | cons part parts ih =>
      rw [growing, List.take_succ_cons, List.flatten_cons, ← List.append_assoc]
      cases k with
      | zero => rw [List.getElem?_cons_zero, List.take_zero, List.flatten_nil, List.append_nil]
      | succ k =>
          rw [List.getElem?_cons_succ]
          exact ih (line ++ part) k (Nat.lt_of_succ_lt_succ inside)

theorem growing_prefix {line : Bytes} {parts : List Bytes} {k : Nat} {first second : Bytes}
    (here : (growing line parts)[k]? = some first)
    (next : (growing line parts)[k + 1]? = some second) : first <+: second := by
  have inside : k + 1 < parts.length := by
    rw [← length_growing line parts]
    exact (List.getElem?_eq_some_iff.mp next).1
  rw [getElem?_growing line parts k (by omega)] at here
  rw [getElem?_growing line parts (k + 1) inside] at next
  rw [← Option.some.inj here, ← Option.some.inj next, List.prefix_append_right_inj]
  apply List.IsPrefix.flatten
  exact List.take_prefix_take_left (Nat.le_succ _)

theorem printedCounter_eq_decimal {t : Nat} (small : t < 2 ^ 31) : printedCounter t = decimal t := by
  have same : toInt32 (UInt32.ofNat t) = Int.ofNat t := by
    change (BitVec.ofNat 32 t).toInt = t
    rw [BitVec.toInt_ofNat', Int.bmod_eq_of_le] <;> omega
  change signedDecimal (toInt32 (UInt32.ofNat t)) = decimal t
  rw [same]
  rfl

theorem recordParts_congr (inetNtop : InetNtop) {first second : Nat -> Bytes} (t : Nat)
    (rrs : List DNSRR) (same : forall k, k < t + rrs.length -> first k = second k) :
    recordParts inetNtop first t rrs = recordParts inetNtop second t rrs := by
  induction rrs generalizing t with
  | nil => rfl
  | cons rr rrs ih =>
      rw [List.length_cons] at same
      rw [recordParts, recordParts, same t (by omega), ih (t + 1)]
      intro k below
      exact same k (by omega)

theorem length_recordParts (inetNtop : InetNtop) (numeral : Nat -> Bytes) (t : Nat)
    (rrs : List DNSRR) : (recordParts inetNtop numeral t rrs).length = rrs.length := by
  induction rrs generalizing t with
  | nil => rfl
  | cons rr rrs ih => rw [recordParts, List.length_cons, List.length_cons, ih]

theorem length_le_recordParts (inetNtop : InetNtop) (numeral : Nat -> Bytes) (t : Nat)
    (rrs : List DNSRR) : rrs.length ≤ (recordParts inetNtop numeral t rrs).flatten.flatten.length := by
  induction rrs generalizing t with
  | nil => exact Nat.le_refl 0
  | cons rr rrs ih =>
      have later := ih (t + 1)
      have named : 1 ≤ (recordTexts inetNtop (numeral t) rr).flatten.length := by
        simp [recordTexts, labelled, ascii]
      rw [recordParts, List.flatten_cons, List.flatten_append, List.length_append, List.length_cons]
      omega

theorem lines_recordsOps (inetNtop : InetNtop) (t : Nat) (rrs : List DNSRR) {line : TextLine}
    (counted : line.Exact)
    (fits : ((recordParts inetNtop printedCounter t rrs).flatten.flatten.length : Int) ≤ line.sz) :
    (perform true (Logfile.recordsOps inetNtop t rrs) line).lines =
      line.lines ++
        growing line.str ((recordParts inetNtop printedCounter t rrs).map List.flatten) := by
  induction rrs generalizing t line with
  | nil => exact (List.append_nil _).symm
  | cons rr rrs ih =>
      rw [recordParts, List.flatten_cons, List.flatten_append, List.length_append] at fits
      have only := Logfile.recordOps_appendsOnly inetNtop t rr
      have texts := reached_recordOps .release inetNtop t rr
      have block := perform_of_fits .release true only counted (by rw [texts]; omega)
      rw [texts] at block
      have later := ih (t + 1) (block.2.writeLog true) ?_
      · rw [Logfile.recordsOps, List.append_assoc, perform_append, List.singleton_append, perform,
          later, recordParts, List.map_cons, growing, block.1]
        simp only [TextLine.writeLog, if_true, List.append_assoc, List.singleton_append]
      · rw [TextLine.writeLog_sz, block.1]
        dsimp only
        omega

/-- The lines of a message that is logged, for statements that all fit. -/
theorem lines_ops (engine : Logfile) (inetNtop : InetNtop) {msg : PBDNSMessage} {r : DNSResponse}
    (enabled : engine.disabled = false) (unfiltered : ¬ Filtered engine.rewritesOnly msg)
    (noSubnet : msg.originalrequestorsubnet = none) (present : msg.response = some r)
    (fits : (lineHeader inetNtop msg r ++
      (recordParts inetNtop printedCounter 1 r.rrs).flatten.flatten).length ≤ lineCapacity - 1) :
    (perform true (engine.ops inetNtop (some msg)) .start).lines =
      if 0 < r.rrs.length then
        growing (lineHeader inetNtop msg r)
          ((recordParts inetNtop printedCounter 1 r.rrs).map List.flatten)
      else [lineHeader inetNtop msg r] := by
  let prologue := Logfile.headerOps inetNtop msg ++ Logfile.questionOps msg ++ Logfile.summaryOps r
  have only : AppendsOnly prologue :=
    ((Logfile.headerOps_appendsOnly inetNtop msg).append
      (Logfile.questionOps_appendsOnly msg)).append (Logfile.summaryOps_appendsOnly r)
  have texts : reached .release prologue = headerTexts inetNtop msg r := by
    simp only [prologue]
    rw [reached_append, reached_append, reached_headerOps, reached_questionOps,
      reached_summaryOps, headerTexts]
    · exact (Logfile.headerOps_appendsOnly inetNtop msg).assertZero_not_mem
    · exact ((Logfile.headerOps_appendsOnly inetNtop msg).append
        (Logfile.questionOps_appendsOnly msg)).assertZero_not_mem
  have statements : engine.ops inetNtop (some msg) = prologue ++
      (if 0 < r.rrs.length then Logfile.recordsOps inetNtop 1 r.rrs else [.writeLog]) := by
    rw [Logfile.ops_some, if_neg (by simp [enabled, unfiltered])]
    simp only [Logfile.responseOps, present, noSubnet, whenPresent, prologue, List.append_assoc,
      List.nil_append]
  rw [List.length_append] at fits
  have block := perform_of_fits .release true only TextLine.exact_start (by
    rw [texts]
    change ((lineHeader inetNtop msg r).length : Int) ≤ ((lineCapacity - 1 : Nat) : Int)
    omega)
  rw [texts] at block
  rw [statements, perform_append]
  by_cases some_record : 0 < r.rrs.length
  · rw [if_pos some_record, if_pos some_record, lines_recordsOps inetNtop 1 r.rrs block.2, block.1]
    · rfl
    · rw [block.1]
      change _ ≤ ((lineCapacity - 1 : Nat) : Int) - ((lineHeader inetNtop msg r).length : Int)
      omega
  · rw [if_neg some_record, if_neg some_record, block.1]
    rfl

/-- Records whose fields fit in the buffer are few, so that the numbers printed
for them are their own. -/
theorem recordParts_printedCounter {inetNtop : InetNtop} {rrs : List DNSRR}
    (fits : (recordParts inetNtop decimal 1 rrs).flatten.flatten.length ≤ 1023) :
    recordParts inetNtop printedCounter 1 rrs = recordParts inetNtop decimal 1 rrs := by
  have few := length_le_recordParts inetNtop decimal 1 rrs
  apply recordParts_congr
  intro k below
  apply printedCounter_eq_decimal
  omega

/-- While the header and the fields of all records fit in the buffer, the log
file receives one line for each record, or a single one without records.  Each
line is the header followed by the fields of the records so far, and after
every append the counter is the space left. -/
theorem lines_carry_fields (build : Build) (inetNtop : InetNtop) (engine : Logfile)
    (msg : PBDNSMessage) (r : DNSResponse) (enabled : engine.disabled = false)
    (opened : engine.fpOpen = true) (noSubnet : msg.originalrequestorsubnet = none)
    (present : msg.response = some r)
    (passes : ¬ (engine.rewritesOnly = true ∧ zstr r.appliedpolicy = true))
    (fits : (lineHeader inetNtop msg r ++ (lineParts inetNtop r).flatten).length ≤ 1023) :
    Exists fun lines : List Bytes =>
      logfileLog build inetNtop engine (some msg) = .ok lines ∧
      lines.length = max 1 r.rrs.length ∧
      (r.rrs = [] -> lines = [lineHeader inetNtop msg r]) ∧
      (forall k, k < r.rrs.length ->
        lines[k]? = some (lineHeader inetNtop msg r ++
          ((lineParts inetNtop r).take (k + 1)).flatten)) ∧
      (forall k first second, lines[k]? = some first -> lines[k + 1]? = some second ->
        first <+: second) ∧
      forall pair,
        pair ∈ appends build engine.fpOpen (engine.ops inetNtop (some msg)) .start ->
        pair.2.sz = 1023 - pair.2.str.length := by
  have unfiltered : ¬ Filtered engine.rewritesOnly msg := by
    simpa [Filtered, present] using passes
  have parts : (lineParts inetNtop r).flatten =
      (recordParts inetNtop decimal 1 r.rrs).flatten.flatten := List.flatten_flatten.symm
  have counters : recordParts inetNtop printedCounter 1 r.rrs =
      recordParts inetNtop decimal 1 r.rrs := by
    rw [parts, List.length_append] at fits
    exact recordParts_printedCounter (Nat.le_trans (Nat.le_add_left _ _) fits)
  have room : (lineHeader inetNtop msg r ++
      (recordParts inetNtop printedCounter 1 r.rrs).flatten.flatten).length ≤ lineCapacity - 1 := by
    rw [counters, ← parts]
    exact fits
  have lines := lines_ops engine inetNtop enabled unfiltered noSubnet present room
  rw [counters] at lines
  have free : TextOp.assertZero ∉ engine.ops inetNtop (some msg) := by
    intro member
    exact ((engine.assertZero_mem_ops_iff inetNtop msg).mp member).2.2 noSubnet
  have length : (recordParts inetNtop decimal 1 r.rrs).length = r.rrs.length :=
    length_recordParts inetNtop decimal 1 r.rrs
  refine ⟨(perform true (engine.ops inetNtop (some msg)) .start).lines, ?_, ?_, ?_, ?_, ?_, ?_⟩
  · rw [logfileLog, execute_eq, if_neg (fun both => free both.2), opened]
    rfl
  · rw [lines]
    by_cases some_record : 0 < r.rrs.length
    · rw [if_pos some_record, length_growing, List.length_map, length]
      omega
    · rw [if_neg some_record, List.length_singleton]
      omega
  · intro none_left
    rw [lines, none_left]
    rfl
  · intro k inside
    rw [lines, if_pos (Nat.zero_lt_of_lt inside)]
    apply getElem?_growing
    rw [List.length_map, length]
    exact inside
  · intro k first second here next
    rw [lines] at here next
    by_cases some_record : 0 < r.rrs.length
    · rw [if_pos some_record] at here next
      exact growing_prefix here next
    · rw [if_neg some_record] at next
      cases next
  · intro pair member
    have texts : reached build (engine.ops inetNtop (some msg)) =
        headerTexts inetNtop msg r ++ (recordParts inetNtop printedCounter 1 r.rrs).flatten := by
      rw [reached_ops build inetNtop engine enabled unfiltered present, lineTexts,
        if_neg (by simp [noSubnet]), headerTexts]
      simp only [List.append_assoc]
    refine exact_of_fits TextLine.exact_start ?_ member
    rw [texts, List.flatten_append]
    exact Int.ofNat_le.mpr room

theorem lines_carry_fields_rewrittenAnswer :
    Exists fun lines : List Bytes =>
      logfileLog .debug rewrittenAnswerAddresses ⟨false, true, true⟩ (some rewrittenAnswer) =
        .ok lines ∧
      lines.length = 2 ∧
      lines[0]? = some (ascii ("QID: 4711 from: 127.0.0.1 qtype: A qclass: IN " ++
        "qname: example.com. rcode: NOERROR rrcount: 2 policy: 'DBL' " ++
        "rname-1: example.com. rtype-1: CNAME rclass-1: IN rttl-1: 60 rdata-1: walled. ")) := by
  have fits : (lineHeader rewrittenAnswerAddresses rewrittenAnswer
      (rewrittenAnswer.response.get rfl) ++
      (lineParts rewrittenAnswerAddresses (rewrittenAnswer.response.get rfl)).flatten).length ≤
        1023 := by
    decide +kernel
  rcases lines_carry_fields .debug rewrittenAnswerAddresses ⟨false, true, true⟩ rewrittenAnswer _
    rfl rfl rfl rfl (by decide) fits with ⟨lines, logged, counted, _, each, _, _⟩
  refine ⟨lines, logged, counted, ?_⟩
  rw [each 0 (by decide)]
  decide +kernel

end Engines
end PdnsLogger
