import PdnsLogger.Engines.Dispatch
import PdnsLogger.Engines.LineContents
import PdnsLogger.Engines.RowContents

namespace PdnsLogger
namespace Engines

open Foundation Program

/-!
# What lies behind the data of a record

The data of a record is counted and carries no terminator, yet for NS, CNAME,
SOA and MX records the engines follow its pointer as a C string.  Such a string
ends at the first zero byte, wherever that is.

What the engines make of a message is compared between all memories that hold
it.  A zero byte among the data itself settles the string, and so does the null
pointer of an empty field; then nothing outside the message is ever read.
Without either, the bytes behind the data show up in the row, and in the line
as far as the message's own bytes leave room there.  A line that is full before
is the subject of its own module: what the appends behind it do to the buffer
is not a question of this one.
-/

/-- The record's data is printed as a C string. -/
def NamesTarget (rr : DNSRR) : Prop :=
  rr.type = some 2 ∨ rr.type = some 5 ∨ rr.type = some 6 ∨ rr.type = some 15

/-- Such a record is not printed as an address before. -/
theorem NamesTarget.not_address {rr : DNSRR} (named : NamesTarget rr) :
    rr.type ≠ some 1 ∧ rr.type ≠ some 28 := by
  rcases named with type | type | type | type <;> rw [type] <;> decide

/-- Data that is printed as a C string is empty or has its own end. -/
def Terminated (rr : DNSRR) : Prop :=
  NamesTarget rr -> forall rdata, rr.rdata = some rdata -> rdata.data = [] ∨ 0 ∈ rdata.data

def AllTerminated (msg : PBDNSMessage) : Prop :=
  forall r, msg.response = some r -> forall rr, rr ∈ r.rrs -> Terminated rr

/-- In every memory that holds the message, the engines emit the same. -/
def IgnoresSurroundings (build : Build) (inetNtop : InetNtop) (engines : Registered)
    (msg : PBDNSMessage) : Prop :=
  forall other, SameBytes other msg ->
    logfileLog build inetNtop engines.logfile (some other) =
      logfileLog build inetNtop engines.logfile (some msg) ∧
    syslogLog build inetNtop engines.syslog (some other) =
      syslogLog build inetNtop engines.syslog (some msg) ∧
    logsqliteLog inetNtop engines.sqlite (some other) =
      logsqliteLog inetNtop engines.sqlite (some msg)

/-! ## Terminated data -/

theorem terminated_within {rr : DNSRR} (beyond : Bytes) :
    Terminated (rr.within beyond) ↔ Terminated rr := by
  unfold Terminated
  cases data : rr.rdata with
  | none => simp [DNSRR.within, data]
  | some rdata => simp [DNSRR.within, data, NamesTarget, BinaryData.within]

theorem allTerminated_within (beyond : Bytes) (msg : PBDNSMessage) :
    AllTerminated (msg.within beyond) ↔ AllTerminated msg := by
  unfold AllTerminated
  cases present : msg.response with
  | none => simp [PBDNSMessage.within, present]
  | some r => simp [PBDNSMessage.within, present, DNSResponse.within, terminated_within]

/-- Memories that hold the same message agree on what is terminated. -/
theorem allTerminated_of_sameBytes {first second : PBDNSMessage} (same : SameBytes first second)
    (terminated : AllTerminated second) : AllTerminated first := by
  rw [← allTerminated_within [], same, allTerminated_within]
  exact terminated

section Engines

variable (inetNtop : InetNtop) (beyond : Bytes)

theorem rdataOps_within (t : Nat) {rr : DNSRR} {rdata : BinaryData}
    (ended : NamesTarget rr -> rdata.data = [] ∨ 0 ∈ rdata.data) :
    Logfile.rdataOps inetNtop t (rr.within beyond) (rdata.within beyond) =
      Logfile.rdataOps inetNtop t rr rdata := by
  unfold Logfile.rdataOps
  by_cases address4 : rr.type = some 1 ∧ rdata.len = 4
  · have same : (rr.within beyond).type = some 1 ∧ (rdata.within beyond).len = 4 := address4
    rw [if_pos address4, if_pos same]
    rfl
  · have same : ¬ ((rr.within beyond).type = some 1 ∧ (rdata.within beyond).len = 4) := address4
    rw [if_neg address4, if_neg same]
    by_cases address6 : rr.type = some 28 ∧ rdata.len = 16
    · have same : (rr.within beyond).type = some 28 ∧ (rdata.within beyond).len = 16 := address6
      rw [if_pos address6, if_pos same]
      rfl
    · have same : ¬ ((rr.within beyond).type = some 28 ∧ (rdata.within beyond).len = 16) := address6
      rw [if_neg address6, if_neg same]
      by_cases named : NamesTarget rr
      · rw [BinaryData.asCString_within (ended named) beyond]
        rfl
      · have same : ¬ NamesTarget (rr.within beyond) := named
        unfold NamesTarget at named same
        rw [if_neg named, if_neg same]

theorem recordOps_within (t : Nat) {rr : DNSRR} (terminated : Terminated rr) :
    Logfile.recordOps inetNtop t (rr.within beyond) = Logfile.recordOps inetNtop t rr := by
  unfold Logfile.recordOps
  cases data : rr.rdata with
  | none =>
      dsimp only [DNSRR.within]
      rw [data]
      rfl
  | some rdata =>
      have printed := rdataOps_within inetNtop beyond t fun named => terminated named rdata data
      dsimp only [DNSRR.within] at printed ⊢
      rw [data]
      dsimp only [Option.map_some, whenPresent]
      rw [data] at printed
      rw [← printed]
      rfl

theorem recordsOps_within (t : Nat) {rrs : List DNSRR}
    (terminated : forall rr, rr ∈ rrs -> Terminated rr) :
    Logfile.recordsOps inetNtop t (rrs.map (DNSRR.within beyond)) =
      Logfile.recordsOps inetNtop t rrs := by
  induction rrs generalizing t with
  | nil => rfl
  | cons rr rrs ih =>
      rw [List.map_cons, Logfile.recordsOps, Logfile.recordsOps,
        recordOps_within inetNtop beyond t (terminated rr List.mem_cons_self), ih]
      intro other member
      exact terminated other (List.mem_cons_of_mem _ member)

theorem recordVars_within (vars : SqlVars) {rr : DNSRR} (terminated : Terminated rr) :
    recordVars inetNtop vars (rr.within beyond) = recordVars inetNtop vars rr := by
  unfold recordVars
  cases data : rr.rdata with
  | none => simp only [DNSRR.within, data, Option.map_none]
  | some rdata =>
      simp only [DNSRR.within, data, Option.map_some, BinaryData.len_within]
      by_cases named : NamesTarget rr
      · rw [BinaryData.asCString_within (terminated named rdata data) beyond]
        rfl
      · have unnamed : ¬ (rr.type = some 2 ∨ rr.type = some 5 ∨ rr.type = some 6 ∨
            rr.type = some 15) := named
        simp only [if_neg unnamed]
        rfl

theorem recordRows_within (vars : SqlVars) {rrs : List DNSRR}
    (terminated : forall rr, rr ∈ rrs -> Terminated rr) :
    recordRows inetNtop vars (rrs.map (DNSRR.within beyond)) = recordRows inetNtop vars rrs := by
  induction rrs generalizing vars with
  | nil => rfl
  | cons rr rrs ih =>
      rw [List.map_cons, recordRows, recordRows,
        recordVars_within inetNtop beyond vars (terminated rr List.mem_cons_self), ih]
      intro other member
      exact terminated other (List.mem_cons_of_mem _ member)

theorem filtered_within (rewritesOnly : Bool) (msg : PBDNSMessage) :
    Filtered rewritesOnly (msg.within beyond) ↔ Filtered rewritesOnly msg := by
  cases present : msg.response with
  | none => simp [Filtered, PBDNSMessage.within, present]
  | some r => simp [Filtered, PBDNSMessage.within, present, DNSResponse.within]

theorem headerOps_within (msg : PBDNSMessage) :
    Logfile.headerOps inetNtop (msg.within beyond) = Logfile.headerOps inetNtop msg := by
  unfold Logfile.headerOps
  congr 1
  cases address : msg.from_ with
  | none => simp only [PBDNSMessage.within, address, Option.map_none]
  | some addr =>
      simp only [PBDNSMessage.within, address, Option.map_some]
      rfl

theorem responseOps_within {msg : PBDNSMessage} (terminated : AllTerminated msg) :
    Logfile.responseOps inetNtop (msg.within beyond) = Logfile.responseOps inetNtop msg := by
  unfold Logfile.responseOps
  cases present : msg.response with
  | none => simp only [PBDNSMessage.within, present, Option.map_none]
  | some r =>
      have records := recordsOps_within inetNtop beyond 1 (terminated r present)
      simp only [PBDNSMessage.within, present, Option.map_some, DNSResponse.within,
        List.length_map, records, Logfile.summaryOps]

/-- The statements of a text engine do not depend on the surroundings. -/
theorem ops_within (engine : Logfile) {msg : PBDNSMessage} (terminated : AllTerminated msg) :
    engine.ops inetNtop (some (msg.within beyond)) = engine.ops inetNtop (some msg) := by
  have subnet : whenPresent (msg.within beyond).originalrequestorsubnet
      (fun _ => [TextOp.assertZero]) =
        whenPresent msg.originalrequestorsubnet (fun _ => [TextOp.assertZero]) := by
    simp only [PBDNSMessage.within]
    cases msg.originalrequestorsubnet <;> rfl
  rw [Logfile.ops_some, Logfile.ops_some, headerOps_within, responseOps_within _ _ terminated,
    subnet]
  simp only [filtered_within]
  rfl

theorem messageVars_within (msg : PBDNSMessage) :
    messageVars inetNtop (msg.within beyond) = messageVars inetNtop msg := by
  have policy : (msg.response.map (DNSResponse.within beyond)).bind DNSResponse.appliedpolicy =
      msg.response.bind DNSResponse.appliedpolicy := by
    cases msg.response <;> rfl
  simp only [messageVars, PBDNSMessage.within, SqlVars.mk.injEq, true_and, policy, and_true]
  refine ⟨?_, ?_, ?_⟩
  · cases msg.from_ <;> rfl
  · cases msg.response <;> rfl
  · cases msg.response with
    | none => rfl
    | some r => simp only [Option.map_some, DNSResponse.within, List.length_map]

theorem logsqliteLog_within (engine : Sqlite) {msg : PBDNSMessage}
    (terminated : AllTerminated msg) :
    logsqliteLog inetNtop engine (some (msg.within beyond)) =
      logsqliteLog inetNtop engine (some msg) := by
  unfold logsqliteLog Sqlite.rows
  congr 1
  simp only [guarded_eq, filtered_within, messageVars_within]
  cases present : msg.response with
  | none => simp only [PBDNSMessage.within, present, Option.map_none]
  | some r =>
      have records := recordRows_within inetNtop beyond (messageVars inetNtop msg)
        (terminated r present)
      simp only [PBDNSMessage.within, present, Option.map_some, DNSResponse.within,
        List.length_map, records]

end Engines

/-- The output of either text engine, each with its own assertion. -/
def textOutput (build : Build) (site : AssertSite) (inetNtop : InetNtop) (engine : Logfile)
    (rawpb : Option PBDNSMessage) : Except Fault (List Bytes) := do
  let line ← execute build site engine.fpOpen (engine.ops inetNtop rawpb) .start
  return line.lines

theorem syslogLog_eq (build : Build) (inetNtop : InetNtop) (engine : Syslog)
    (rawpb : Option PBDNSMessage) :
    syslogLog build inetNtop engine rawpb =
      textOutput build .syslogLog inetNtop ⟨engine.disabled, engine.rewritesOnly, true⟩ rawpb := by
  rw [syslogLog, textOutput, ops_eq _ engine inetNtop rawpb rfl rfl]

/-- Where everything that is printed as a string has its own end, no engine
reads past the message. -/
theorem ignoresSurroundings_of_allTerminated (build : Build) (inetNtop : InetNtop)
    (engines : Registered) {msg : PBDNSMessage} (terminated : AllTerminated msg) :
    IgnoresSurroundings build inetNtop engines msg := by
  intro other same
  have otherTerminated := allTerminated_of_sameBytes same terminated
  have text : forall site (engine : Logfile), textOutput build site inetNtop engine (some other) =
      textOutput build site inetNtop engine (some msg) := by
    intro site engine
    rw [textOutput, textOutput, ← ops_within inetNtop [] engine otherTerminated, same,
      ops_within _ _ _ terminated]
  refine ⟨text .logfileLog engines.logfile, ?_, ?_⟩
  · rw [syslogLog_eq, syslogLog_eq]
    exact text .syslogLog _
  · rw [← logsqliteLog_within inetNtop [] _ otherTerminated, same,
      logsqliteLog_within _ _ _ terminated]

/-! ## Data without an end -/

theorem supplied_rdata (inetNtop : InetNtop) {rr : DNSRR} {rdata : BinaryData}
    (named : NamesTarget rr) (data : rr.rdata = some rdata) :
    RecordColumn.rdata.supplied inetNtop rr = some (.text (orEmpty rdata.asCString).bytes) := by
  have others := named.not_address
  have first : ¬ (rr.type = some 1 ∧ rdata.len = 4) := fun both => others.1 both.1
  have second : ¬ (rr.type = some 28 ∧ rdata.len = 16) := fun both => others.2 both.1
  unfold NamesTarget at named
  simp only [RecordColumn.supplied, data, Option.map_some, if_neg first, if_neg second,
    if_pos named]

/-- The row of a record without an end shows the bytes behind its data. -/
theorem row_shows_surroundings (inetNtop : InetNtop) {engine : Sqlite} {msg : PBDNSMessage}
    {r : DNSResponse} {rr : DNSRR} {rdata : BinaryData} {k : Nat}
    (enabled : engine.disabled = false) (present : msg.response = some r)
    (passes : ¬ (engine.rewritesOnly = true ∧ zstr r.appliedpolicy = true))
    (here : r.rrs[k]? = some rr) (named : NamesTarget rr) (data : rr.rdata = some rdata)
    (nonempty : rdata.data ≠ []) (open_ : 0 ∉ rdata.data) (beyond : Bytes) :
    ((logsqliteLog inetNtop engine (some (msg.within beyond))).filterMap (columnValue "rdata"))[k]? =
      some (.text (rdata.data ++ (CString.read beyond).bytes)) := by
  have placed : (msg.within beyond).response = some (r.within beyond) := by
    simp only [PBDNSMessage.within, present, Option.map_some]
  have moved : (r.within beyond).rrs[k]? = some (rr.within beyond) := by
    simp only [DNSResponse.within, List.getElem?_map, here, Option.map_some]
  have some_record : (r.within beyond).rrs ≠ [] := by
    intro empty
    rw [empty] at moved
    cases moved
  have fieldMoved : (rr.within beyond).rdata = some (rdata.within beyond) := by
    simp only [DNSRR.within, data, Option.map_some]
  have text : (orEmpty (rdata.within beyond).asCString).bytes =
      rdata.data ++ (CString.read beyond).bytes := by
    have followed : (rdata.within beyond).asCString = some (.read (rdata.data ++ beyond)) :=
      if_neg nonempty
    rw [followed, orEmpty, Option.getD_some, CString.bytes_read_append open_]
  rw [logsqliteLog_eq enabled placed passes some_record]
  change (List.filterMap (columnValue RecordColumn.rdata.name) _)[k]? = _
  rw [filterMap_columnValue, read_recordRows]
  apply getElem?_carried
  have still : NamesTarget (rr.within beyond) := named
  rw [List.getElem?_map, moved, Option.map_some, supplied_rdata inetNtop still fieldMoved, text]

/-- An engine configuration that stores the message ignores its surroundings
only if everything is terminated. -/
theorem allTerminated_of_ignoresSurroundings {build : Build} {inetNtop : InetNtop}
    {engines : Registered} {msg : PBDNSMessage} (enabled : engines.sqlite.disabled = false)
    (unfiltered : ¬ Filtered engines.sqlite.rewritesOnly msg)
    (ignores : IgnoresSurroundings build inetNtop engines msg) : AllTerminated msg := by
  intro r present rr member named rdata data
  by_contra unended
  rw [not_or] at unended
  have passes : ¬ (engines.sqlite.rewritesOnly = true ∧ zstr r.appliedpolicy = true) := by
    simpa [Filtered, present] using unfiltered
  rcases List.getElem?_of_mem member with ⟨k, here⟩
  have shows := row_shows_surroundings inetNtop enabled present passes here named data unended.1
    unended.2
  have quiet := shows [0]
  have noisy := shows [120]
  rw [(ignores _ (sameBytes_within [0] msg)).2.2] at quiet
  rw [(ignores _ (sameBytes_within [120] msg)).2.2, quiet] at noisy
  have lengths := congrArg List.length (SqlValue.text.inj (Option.some.inj noisy))
  rw [List.length_append, List.length_append] at lengths
  have apart : (CString.read [0]).bytes.length ≠ (CString.read [120]).bytes.length := by decide
  omega

/-! ## Lines without an end

A text engine shows the surroundings in the line that it writes right after an
unterminated record, as long as the message's own bytes leave room for them. -/

/-- The engine writes lines about the records of the message. -/
structure Logfile.Prints (build : Build) (engine : Logfile) (msg : PBDNSMessage) : Prop where
  enabled : engine.disabled = false
  opened : engine.fpOpen = true
  unfiltered : ¬ Filtered engine.rewritesOnly msg
  running : ¬ Stopped build msg

structure Syslog.Prints (build : Build) (engine : Syslog) (msg : PBDNSMessage) : Prop where
  enabled : engine.disabled = false
  unfiltered : ¬ Filtered engine.rewritesOnly msg
  running : ¬ Stopped build msg

/-- The engine makes statements about the records of the message. -/
structure Sqlite.Stores (engine : Sqlite) (msg : PBDNSMessage) : Prop where
  enabled : engine.disabled = false
  unfiltered : ¬ Filtered engine.rewritesOnly msg

/-- The fields of the message, read up to their own ends, fit in the buffer. -/
def OwnLineFits (build : Build) (inetNtop : InetNtop) (msg : PBDNSMessage) : Prop :=
  forall r, (msg.within []).response = some r ->
    (lineTexts build inetNtop (msg.within []) r).flatten.length ≤ lineCapacity - 1

theorem textOutput_eq (build : Build) (site : AssertSite) (inetNtop : InetNtop)
    (engine : Logfile) (msg : PBDNSMessage) :
    textOutput build site inetNtop engine (some msg) =
      if engine.disabled = false ∧ ¬ Filtered engine.rewritesOnly msg ∧ Stopped build msg then
        .error (.assertion site)
      else .ok (perform engine.fpOpen (engine.ops inetNtop (some msg)) .start).lines := by
  rw [textOutput, execute_eq]
  have trips : (build = .debug ∧ TextOp.assertZero ∈ engine.ops inetNtop (some msg)) ↔
      (engine.disabled = false ∧ ¬ Filtered engine.rewritesOnly msg ∧ Stopped build msg) := by
    rw [Logfile.assertZero_mem_ops_iff]
    unfold Stopped
    tauto
  by_cases stops : build = .debug ∧ TextOp.assertZero ∈ engine.ops inetNtop (some msg)
  · rw [if_pos stops, if_pos (trips.mp stops)]
    rfl
  · rw [if_neg stops, if_neg fun stopped => stops (trips.mpr stopped)]
    rfl

theorem stopped_within (build : Build) (beyond : Bytes) (msg : PBDNSMessage) :
    Stopped build (msg.within beyond) ↔ Stopped build msg := by
  simp [Stopped, PBDNSMessage.within]

/-- Whether an engine gets to the records is decided by the message alone. -/
theorem filtered_of_sameBytes {first second : PBDNSMessage} (same : SameBytes first second)
    (rewritesOnly : Bool) : Filtered rewritesOnly first ↔ Filtered rewritesOnly second := by
  rw [← filtered_within [], same, filtered_within]

theorem stopped_of_sameBytes {first second : PBDNSMessage} (same : SameBytes first second)
    (build : Build) : Stopped build first ↔ Stopped build second := by
  rw [← stopped_within build [], same, stopped_within]

/-- An engine that prints nothing about the records ignores what lies behind
them. -/
theorem textOutput_within (build : Build) (site : AssertSite) (inetNtop : InetNtop)
    {engine : Logfile} {msg : PBDNSMessage} (beyond : Bytes)
    (silent : ¬ engine.Prints build msg) :
    textOutput build site inetNtop engine (some (msg.within beyond)) =
      textOutput build site inetNtop engine (some msg) := by
  rw [textOutput_eq, textOutput_eq]
  simp only [filtered_within, stopped_within]
  by_cases stops : engine.disabled = false ∧ ¬ Filtered engine.rewritesOnly msg ∧
      Stopped build msg
  · rw [if_pos stops, if_pos stops]
  · rw [if_neg stops, if_neg stops]
    congr 1
    by_cases passed : engine.disabled = true ∨ Filtered engine.rewritesOnly msg
    · rw [Logfile.ops_some, Logfile.ops_some, if_pos passed,
        if_pos (passed.imp_right (filtered_within beyond _ msg).mpr)]
    · rw [not_or, Bool.not_eq_true] at passed
      have closed : engine.fpOpen = false := by
        by_contra opened
        exact silent ⟨passed.1, Bool.eq_true_of_not_eq_false opened, passed.2,
          fun stopped => stops ⟨passed.1, passed.2, stopped⟩⟩
      rw [closed, lines_perform_closed, lines_perform_closed]

/-! ### The line after an unterminated record -/

theorem recordsOps_append (inetNtop : InetNtop) (t : Nat) (first second : List DNSRR) :
    Logfile.recordsOps inetNtop t (first ++ second) =
      Logfile.recordsOps inetNtop t first ++
        Logfile.recordsOps inetNtop (t + first.length) second := by
  induction first generalizing t with
  | nil => rfl
  | cons rr first ih =>
      rw [List.cons_append, Logfile.recordsOps, ih, Logfile.recordsOps, List.length_cons]
      simp only [List.append_assoc, Nat.add_assoc, Nat.add_comm 1]

/-- The statements of a record that is printed as a C string, the last of them
for its data. -/
theorem recordOps_named (inetNtop : InetNtop) (t : Nat) {rr : DNSRR} {rdata : BinaryData}
    (named : NamesTarget rr) (data : rr.rdata = some rdata) :
    Logfile.recordOps inetNtop t rr =
      Logfile.recordOps inetNtop t { rr with rdata := none } ++
        [.append [.text "rdata-", counter t, .text ": ", .s rdata.asCString, .text " "]] := by
  have others := named.not_address
  have printed : Logfile.rdataOps inetNtop t rr rdata =
      [.append [.text "rdata-", counter t, .text ": ", .s rdata.asCString, .text " "]] := by
    unfold NamesTarget at named
    unfold Logfile.rdataOps
    rw [if_neg fun both => others.1 both.1, if_neg fun both => others.2 both.1, if_pos named]
  simp only [Logfile.recordOps, data, whenPresent, printed, List.append_nil]

/-- The statements before the data of a record with these records before it. -/
def opsBefore (inetNtop : InetNtop) (msg : PBDNSMessage) (r : DNSResponse) (first : List DNSRR)
    (rr : DNSRR) : List TextOp :=
  Logfile.headerOps inetNtop msg ++
  whenPresent msg.originalrequestorsubnet (fun _ => [.assertZero]) ++
  Logfile.questionOps msg ++ Logfile.summaryOps r ++
  Logfile.recordsOps inetNtop 1 first ++
  Logfile.recordOps inetNtop (1 + first.length) { rr with rdata := none }

theorem ops_around (inetNtop : InetNtop) {engine : Logfile} {msg : PBDNSMessage} {r : DNSResponse}
    {first last : List DNSRR} {rr : DNSRR} {rdata : BinaryData}
    (enabled : engine.disabled = false) (unfiltered : ¬ Filtered engine.rewritesOnly msg)
    (present : msg.response = some r) (records : r.rrs = first ++ rr :: last)
    (named : NamesTarget rr) (data : rr.rdata = some rdata) :
    engine.ops inetNtop (some msg) =
      opsBefore inetNtop msg r first rr ++
        .append [.text "rdata-", counter (1 + first.length), .text ": ", .s rdata.asCString,
          .text " "] ::
        .writeLog :: Logfile.recordsOps inetNtop (1 + first.length + 1) last := by
  have some_record : 0 < r.rrs.length := by
    rw [records, List.length_append, List.length_cons]
    omega
  rw [Logfile.ops_some, if_neg (by simp [enabled, unfiltered])]
  simp only [Logfile.responseOps, present, if_pos some_record]
  rw [records, recordsOps_append, Logfile.recordsOps, recordOps_named inetNtop _ named data,
    opsBefore]
  simp only [List.append_assoc, List.cons_append, List.nil_append]

/-- A memory that holds the message with these bytes behind the data of one
record, and nothing behind its other fields. -/
def memoryBehind (msg : PBDNSMessage) (r : DNSResponse) (first : List DNSRR) (rr : DNSRR)
    (last : List DNSRR) (beyond : Bytes) : PBDNSMessage :=
  withRecords (msg.within []) (r.within [])
    (first.map (DNSRR.within []) ++ rr.within beyond :: last.map (DNSRR.within []))

section Memories

variable {msg : PBDNSMessage} {r : DNSResponse} {first last : List DNSRR} {rr : DNSRR}
  (present : msg.response = some r) (records : r.rrs = first ++ rr :: last)

include present records

theorem memoryBehind_nil : memoryBehind msg r first rr last [] = msg.within [] := by
  simp [memoryBehind, withRecords, PBDNSMessage.within, DNSResponse.within, present, records]

theorem sameBytes_memoryBehind (beyond : Bytes) :
    SameBytes (memoryBehind msg r first rr last beyond) msg := by
  simp [SameBytes, memoryBehind, withRecords, PBDNSMessage.within, DNSResponse.within, present,
    records, Function.comp_def]

/-- All these memories are printed by the same statements, but for the one that
prints the data of the record. -/
theorem ops_memoryBehind (inetNtop : InetNtop) {engine : Logfile} {rdata : BinaryData}
    (enabled : engine.disabled = false) (unfiltered : ¬ Filtered engine.rewritesOnly msg)
    (named : NamesTarget rr) (data : rr.rdata = some rdata) (beyond : Bytes) :
    engine.ops inetNtop (some (memoryBehind msg r first rr last beyond)) =
      opsBefore inetNtop (msg.within []) (r.within []) (first.map (DNSRR.within [])) rr ++
        .append [.text "rdata-", counter (1 + first.length), .text ": ",
          .s (rdata.within beyond).asCString, .text " "] ::
        .writeLog ::
          Logfile.recordsOps inetNtop (1 + first.length + 1) (last.map (DNSRR.within [])) := by
  have same := sameBytes_memoryBehind present records beyond
  have passes : ¬ Filtered engine.rewritesOnly (memoryBehind msg r first rr last beyond) := by
    rw [filtered_of_sameBytes same]
    exact unfiltered
  have still : NamesTarget (rr.within beyond) := named
  have moved : (rr.within beyond).rdata = some (rdata.within beyond) := by
    simp only [DNSRR.within, data, Option.map_some]
  have summary : Logfile.summaryOps
      { r.within [] with
        rrs := first.map (DNSRR.within []) ++ rr.within beyond :: last.map (DNSRR.within []) } =
      Logfile.summaryOps (r.within []) := by
    simp [Logfile.summaryOps, DNSResponse.within, records]
  rw [ops_around inetNtop enabled passes rfl rfl still moved, List.length_map]
  unfold opsBefore
  rw [List.length_map, summary]
  rfl

end Memories

/-- The text that is printed for unterminated data goes on behind it. -/
theorem formatted_unterminated (t : Nat) {rdata : BinaryData} (nonempty : rdata.data ≠ [])
    (open_ : 0 ∉ rdata.data) (beyond : Bytes) :
    formatted [.text "rdata-", counter t, .text ": ", .s (rdata.within beyond).asCString,
        .text " "] =
      ascii "rdata-" ++ printedCounter t ++ ascii ": " ++ rdata.data ++
        ((CString.read beyond).bytes ++ ascii " ") := by
  have followed : (rdata.within beyond).asCString = some (.read (rdata.data ++ beyond)) :=
    if_neg nonempty
  rw [formatted_numbered, render_shown, followed, labelled, shown,
    CString.bytes_read_append open_]
  simp only [List.append_assoc]

section Room

variable {build : Build} {inetNtop : InetNtop} {engine : Logfile} {msg : PBDNSMessage}
  {r : DNSResponse} {first last : List DNSRR} {rr : DNSRR} {rdata : BinaryData}
  (prints : engine.Prints build msg) (present : msg.response = some r)
  (records : r.rrs = first ++ rr :: last) (named : NamesTarget rr) (data : rr.rdata = some rdata)
  (nonempty : rdata.data ≠ []) (open_ : 0 ∉ rdata.data)

include prints present records named data nonempty open_

/-- When the message's own bytes fit, there is room left behind the data. -/
theorem room_behind (fits : OwnLineFits build inetNtop msg) :
    (reached .release (opsBefore inetNtop (msg.within []) (r.within [])
        (first.map (DNSRR.within [])) rr)).flatten.length +
      (ascii "rdata-" ++ printedCounter (1 + first.length) ++ ascii ": " ++ rdata.data).length <
        lineCapacity - 1 := by
  have placed : (msg.within []).response = some (r.within []) := by
    simp only [PBDNSMessage.within, present, Option.map_some]
  have unfiltered : ¬ Filtered engine.rewritesOnly (msg.within []) := by
    rw [filtered_within]
    exact prints.unfiltered
  have texts : lineTexts build inetNtop (msg.within []) (r.within []) =
      lineTexts .release inetNtop (msg.within []) (r.within []) := by
    have running := prints.running
    rw [← stopped_within build []] at running
    unfold Stopped at running
    rw [lineTexts, lineTexts, if_neg running, if_neg (by simp)]
  have own := fits (r.within []) placed
  rw [texts, ← reached_ops .release inetNtop engine prints.enabled unfiltered placed,
    ← memoryBehind_nil present records,
    ops_memoryBehind present records inetNtop prints.enabled prints.unfiltered named data,
    reached_release_append, reached, formatted_unterminated _ nonempty open_, List.flatten_append,
    List.flatten_cons] at own
  simp only [List.length_append, show (ascii " ").length = 1 from rfl] at own ⊢
  omega

/-- The lines then differ between no byte behind the data and one. -/
theorem lines_show_surroundings (fits : OwnLineFits build inetNtop msg) :
    (perform true (engine.ops inetNtop (some (memoryBehind msg r first rr last []))) .start).lines ≠
      (perform true (engine.ops inetNtop (some (memoryBehind msg r first rr last [120])))
        .start).lines := by
  have statements := ops_memoryBehind present records inetNtop prints.enabled prints.unfiltered
    named data
  have room := room_behind prints present records named data nonempty open_ fits
  rw [statements, statements]
  refine lines_ne_of_apart TextLine.exact_start (by decide)
    (formatted_unterminated _ nonempty open_ []) (formatted_unterminated _ nonempty open_ [120]) ?_
  change (_ : Int) < ((lineCapacity - 1 : Nat) : Int)
  omega

end Room

/-- A text engine that prints the records ignores what lies behind them only if
everything is terminated. -/
theorem allTerminated_of_textOutput {build : Build} (site : AssertSite) {inetNtop : InetNtop}
    {engine : Logfile} {msg : PBDNSMessage} (prints : engine.Prints build msg)
    (fits : OwnLineFits build inetNtop msg)
    (ignores : forall other, SameBytes other msg ->
      textOutput build site inetNtop engine (some other) =
        textOutput build site inetNtop engine (some msg)) :
    AllTerminated msg := by
  intro r present rr member named rdata data
  by_contra unended
  rw [not_or] at unended
  rcases List.append_of_mem member with ⟨first, last, records⟩
  have printed : forall beyond,
      textOutput build site inetNtop engine (some (memoryBehind msg r first rr last beyond)) =
        .ok (perform true (engine.ops inetNtop
          (some (memoryBehind msg r first rr last beyond))) .start).lines := by
    intro beyond
    rw [textOutput_eq, if_neg, prints.opened]
    rintro ⟨-, -, stopped⟩
    rw [stopped_of_sameBytes (sameBytes_memoryBehind present records beyond)] at stopped
    exact prints.running stopped
  have equal := (ignores _ (sameBytes_memoryBehind present records [])).trans
    (ignores _ (sameBytes_memoryBehind present records [120])).symm
  rw [printed, printed] at equal
  exact lines_show_surroundings prints present records named data unended.1 unended.2 fits
    (Except.ok.inj equal)

/-! ## Every configuration -/

/-- An engine that prints nothing about the records emits the same in every
memory. -/
theorem textOutput_of_sameBytes (build : Build) (site : AssertSite) (inetNtop : InetNtop)
    {engine : Logfile} {msg other : PBDNSMessage} (silent : ¬ engine.Prints build msg)
    (same : SameBytes other msg) :
    textOutput build site inetNtop engine (some other) =
      textOutput build site inetNtop engine (some msg) := by
  have otherSilent : ¬ engine.Prints build other := by
    rintro ⟨enabled, opened, unfiltered, running⟩
    rw [filtered_of_sameBytes same] at unfiltered
    rw [stopped_of_sameBytes same] at running
    exact silent ⟨enabled, opened, unfiltered, running⟩
  rw [← textOutput_within build site inetNtop [] otherSilent, same,
    textOutput_within build site inetNtop [] silent]

theorem logsqliteLog_of_sameBytes (inetNtop : InetNtop) {engine : Sqlite}
    {msg other : PBDNSMessage} (silent : ¬ engine.Stores msg) (same : SameBytes other msg) :
    logsqliteLog inetNtop engine (some other) = logsqliteLog inetNtop engine (some msg) := by
  have passed : engine.disabled = true ∨ Filtered engine.rewritesOnly msg := by
    by_contra neither
    rw [not_or, Bool.not_eq_true] at neither
    exact silent ⟨neither.1, neither.2⟩
  have otherPassed : engine.disabled = true ∨ Filtered engine.rewritesOnly other := by
    rw [filtered_of_sameBytes same]
    exact passed
  have nothing : forall pbm, (engine.disabled = true ∨ Filtered engine.rewritesOnly pbm) ->
      engine.rows inetNtop (some pbm) = [] := by
    intro pbm pass
    have columns := assignments_rows inetNtop engine (some pbm)
    rw [describedRows, if_pos pass] at columns
    exact List.map_eq_nil_iff.mp columns
  rw [logsqliteLog, logsqliteLog, nothing other otherPassed, nothing msg passed]

theorem Syslog.prints_iff (build : Build) (engine : Syslog) (msg : PBDNSMessage) :
    Logfile.Prints build ⟨engine.disabled, engine.rewritesOnly, true⟩ msg ↔
      engine.Prints build msg :=
  ⟨fun prints => ⟨prints.enabled, prints.unfiltered, prints.running⟩,
    fun prints => ⟨prints.enabled, rfl, prints.unfiltered, prints.running⟩⟩

/-- The engines that print or store something about the records of a message
decide whether its data must be terminated. -/
theorem ignoresSurroundings_iff {build : Build} {inetNtop : InetNtop} {engines : Registered}
    {msg : PBDNSMessage}
    (visible : OwnLineFits build inetNtop msg ∨
      ¬ engines.logfile.Prints build msg ∧ ¬ engines.syslog.Prints build msg) :
    IgnoresSurroundings build inetNtop engines msg ↔
      (engines.logfile.Prints build msg ∨ engines.syslog.Prints build msg ∨
        engines.sqlite.Stores msg -> AllTerminated msg) := by
  constructor
  · rintro ignores (file | system | stores)
    · have fits := visible.resolve_right fun silent => silent.1 file
      exact allTerminated_of_textOutput .logfileLog file fits fun other same => (ignores other same).1
    · have fits := visible.resolve_right fun silent => silent.2 system
      refine allTerminated_of_textOutput .syslogLog ((Syslog.prints_iff _ _ _).mpr system) fits
        fun other same => ?_
      rw [← syslogLog_eq, ← syslogLog_eq]
      exact (ignores other same).2.1
    · exact allTerminated_of_ignoresSurroundings stores.enabled stores.unfiltered ignores
  · intro required
    by_cases terminated : AllTerminated msg
    · exact ignoresSurroundings_of_allTerminated build inetNtop engines terminated
    · intro other same
      refine ⟨?_, ?_, ?_⟩
      · exact textOutput_of_sameBytes build .logfileLog inetNtop
          (fun file => terminated (required (.inl file))) same
      · rw [syslogLog_eq, syslogLog_eq]
        refine textOutput_of_sameBytes build .syslogLog inetNtop (fun system => ?_) same
        exact terminated (required (.inr (.inl ((Syslog.prints_iff _ _ _).mp system))))
      · exact logsqliteLog_of_sameBytes inetNtop
          (fun stores => terminated (required (.inr (.inr stores)))) same

/-- Every engine configuration ignores the surroundings of a message exactly
when each of its NS, CNAME, SOA and MX records has data that is empty or
contains a zero byte; and for a configuration that stores the message in the
database this is already required by that configuration alone.  It is required
by each configuration with an engine that prints or stores the records, and by
no other; of the text engines this is said for messages whose own bytes fit in
the line. -/
theorem surroundings_ignored_iff (inetNtop : InetNtop) (msg : PBDNSMessage) :
    ((forall build engines, IgnoresSurroundings build inetNtop engines msg) ↔
      AllTerminated msg) ∧
    (forall build (engines : Registered), engines.sqlite.disabled = false ->
      ¬ Filtered engines.sqlite.rewritesOnly msg ->
      (IgnoresSurroundings build inetNtop engines msg ↔ AllTerminated msg)) ∧
    forall build (engines : Registered),
      (OwnLineFits build inetNtop msg ∨
        ¬ engines.logfile.Prints build msg ∧ ¬ engines.syslog.Prints build msg) ->
      (IgnoresSurroundings build inetNtop engines msg ↔
        (engines.logfile.Prints build msg ∨ engines.syslog.Prints build msg ∨
          engines.sqlite.Stores msg -> AllTerminated msg)) := by
  refine ⟨⟨?_, ?_⟩, ?_, ?_⟩
  · intro everywhere r present
    have stored : ¬ Filtered false msg := by
      simp [Filtered, present]
    exact allTerminated_of_ignoresSurroundings rfl stored
      (everywhere .release ⟨⟨false, false, true⟩, ⟨false, false⟩, ⟨false, false⟩⟩) r present
  · intro terminated build engines
    exact ignoresSurroundings_of_allTerminated build inetNtop engines terminated
  · intro build engines enabled unfiltered
    constructor
    · exact allTerminated_of_ignoresSurroundings enabled unfiltered
    · exact ignoresSurroundings_of_allTerminated build inetNtop engines
  · intro build engines visible
    exact ignoresSurroundings_iff visible

/-- A rewritten answer to a name, with these bytes behind the target. -/
def redirection (beyond : Bytes) : PBDNSMessage :=
  { rewrittenAnswer with
    response := some
      { rcode := some 0
        rrs := [⟨some (.literal "example.com."), some 5, some 1, some 60,
          some ⟨ascii "walled.", beyond⟩⟩]
        appliedpolicy := some (.literal "DBL") } }

/-- The same answer in two memories makes different lines and different rows. -/
theorem redirection_shows_surroundings :
    SameBytes (redirection (ascii "secret")) (redirection [0]) ∧
      logfileLog .debug rewrittenAnswerAddresses ⟨false, true, true⟩
          (some (redirection (ascii "secret"))) ≠
        logfileLog .debug rewrittenAnswerAddresses ⟨false, true, true⟩ (some (redirection [0])) ∧
      logsqliteLog rewrittenAnswerAddresses ⟨false, true⟩ (some (redirection (ascii "secret"))) ≠
        logsqliteLog rewrittenAnswerAddresses ⟨false, true⟩ (some (redirection [0])) := by
  refine ⟨rfl, ?_, ?_⟩
  · decide +kernel
  · decide +kernel

end Engines
end PdnsLogger
