import PdnsLogger.Engines.LogFile
import PdnsLogger.Engines.SysLog
import PdnsLogger.Engines.SqlStatements

namespace PdnsLogger
namespace Engines

open Foundation Program

/-!
# Agreement of the three engines

The two text engines are separate transcriptions of separate source files.
This module proves that they perform the same statements whenever their flags
agree, block by block, so that every later statement about one of them is a
statement about both.

It then counts what each engine emits for a message.  The three filters are
the same condition, and past the filter every engine emits one line or one
statement for every record, or a single one for a response without records.
-/

/-! ## The text engines perform the same statements -/

theorem recordsOps_eq (inetNtop : InetNtop) (t : Nat) (rrs : List DNSRR) :
    Logfile.recordsOps inetNtop t rrs = Syslog.recordsOps inetNtop t rrs := by
  induction rrs generalizing t with
  | nil => rfl
  | cons rr rrs ih =>
      have same : Logfile.recordOps inetNtop t rr = Syslog.recordOps inetNtop t rr := rfl
      rw [Logfile.recordsOps, Syslog.recordsOps, ih, same]

theorem responseOps_eq (inetNtop : InetNtop) (msg : PBDNSMessage) :
    Logfile.responseOps inetNtop msg = Syslog.responseOps inetNtop msg := by
  have same : forall r, Logfile.summaryOps r = Syslog.summaryOps r := fun _ => rfl
  rw [Logfile.responseOps, Syslog.responseOps]
  cases msg.response with
  | none => rfl
  | some r => simp only [same, recordsOps_eq]

theorem ops_eq (file : Logfile) (system : Syslog) (inetNtop : InetNtop)
    (rawpb : Option PBDNSMessage) (disabled : file.disabled = system.disabled)
    (rewritesOnly : file.rewritesOnly = system.rewritesOnly) :
    file.ops inetNtop rawpb = system.ops inetNtop rawpb := by
  have header : forall msg, Logfile.headerOps inetNtop msg = Syslog.headerOps inetNtop msg :=
    fun _ => rfl
  have question : forall msg, Logfile.questionOps msg = Syslog.questionOps msg := fun _ => rfl
  unfold Logfile.ops Syslog.ops
  rw [disabled, rewritesOnly]
  cases rawpb with
  | none => rfl
  | some msg => simp only [header, question, responseOps_eq]

/-! ## The filter -/

/-- A message that an engine with this `only-rewrites` setting passes over. -/
def Filtered (rewritesOnly : Bool) (msg : PBDNSMessage) : Prop :=
  msg.response = none ∨
    (rewritesOnly = true ∧ zstr (msg.response.bind DNSResponse.appliedpolicy) = true)

instance (rewritesOnly : Bool) (msg : PBDNSMessage) : Decidable (Filtered rewritesOnly msg) :=
  inferInstanceAs (Decidable (_ ∨ _))

def Below (bound : Nat) (field : Option UInt32) : Prop :=
  forall word, field = some word -> word.toNat < bound

/-- A call of a text engine that ends at its assertion, before the question and
the records. -/
def Stopped (build : Build) (msg : PBDNSMessage) : Prop :=
  build = .debug ∧ msg.originalrequestorsubnet ≠ none

instance (build : Build) (msg : PBDNSMessage) : Decidable (Stopped build msg) :=
  inferInstanceAs (Decidable (_ ∧ _))

/-- What an enabled engine emits is guarded by the filter alone. -/
theorem guarded_eq {Output : Type} (rewritesOnly : Bool) (msg : PBDNSMessage)
    (output : List Output) :
    (if msg.response.isNone then []
      else if rewritesOnly && zstr (msg.response.bind DNSResponse.appliedpolicy) then []
      else output) = if Filtered rewritesOnly msg then [] else output := by
  cases present : msg.response with
  | none => simp [Filtered, present]
  | some r => simp [Filtered, present]

/-! ## The statements of the log file engine -/

namespace Logfile

theorem headerOps_appendsOnly (inetNtop : InetNtop) (msg : PBDNSMessage) :
    AppendsOnly (headerOps inetNtop msg) :=
  .append (.whenPresent _ fun _ => .single _)
    (.whenPresent _ fun _ => .ite (.single _) (.ite (.single _) .nil))

theorem questionOps_appendsOnly (msg : PBDNSMessage) : AppendsOnly (questionOps msg) :=
  .whenPresent _ fun _ =>
    .append (.append (.whenPresent _ fun _ => .single _) (.whenPresent _ fun _ => .single _))
      (.single _)

theorem summaryOps_appendsOnly (r : DNSResponse) : AppendsOnly (summaryOps r) :=
  .append (.append (.whenPresent _ fun _ => .single _) (.single _)) (.ite .nil (.single _))

theorem rdataOps_appendsOnly (inetNtop : InetNtop) (t : Nat) (rr : DNSRR) (rdata : BinaryData) :
    AppendsOnly (rdataOps inetNtop t rr rdata) :=
  .ite (.single _) (.ite (.single _) (.ite (.single _) (.single _)))

theorem recordOps_appendsOnly (inetNtop : InetNtop) (t : Nat) (rr : DNSRR) :
    AppendsOnly (recordOps inetNtop t rr) :=
  .append
    (.append
      (.append (.append (.single _) (.whenPresent _ fun _ => .single _))
        (.whenPresent _ fun _ => .single _))
      (.whenPresent _ fun _ => .single _))
    (.whenPresent _ fun _ => rdataOps_appendsOnly _ _ _ _)

/-- Each record writes one line and reaches no assertion. -/
theorem recordsOps_counts (inetNtop : InetNtop) (t : Nat) (rrs : List DNSRR) :
    TextOp.assertZero ∉ recordsOps inetNtop t rrs ∧
      (recordsOps inetNtop t rrs).count .writeLog = rrs.length := by
  induction rrs generalizing t with
  | nil => exact ⟨List.not_mem_nil, rfl⟩
  | cons rr rrs ih =>
      have only := recordOps_appendsOnly inetNtop t rr
      rcases ih (t + 1) with ⟨laterFree, laterCount⟩
      constructor
      · simp [recordsOps, only.assertZero_not_mem, laterFree]
      · simp only [recordsOps, List.count_append, only.count_writeLog, laterCount,
          List.count_singleton_self, List.length_cons]
        omega

theorem responseOps_counts (inetNtop : InetNtop) (msg : PBDNSMessage) (r : DNSResponse)
    (present : msg.response = some r) :
    TextOp.assertZero ∉ responseOps inetNtop msg ∧
      (responseOps inetNtop msg).count .writeLog = max 1 r.rrs.length := by
  have only := summaryOps_appendsOnly r
  rcases recordsOps_counts inetNtop 1 r.rrs with ⟨recordsFree, recordsCount⟩
  simp only [responseOps, present]
  by_cases some_record : 0 < r.rrs.length
  · rw [if_pos some_record]
    constructor
    · simp [only.assertZero_not_mem, recordsFree]
    · rw [List.count_append, only.count_writeLog, recordsCount]
      omega
  · rw [if_neg some_record]
    constructor
    · simp [only.assertZero_not_mem]
    · rw [List.count_append, only.count_writeLog, List.count_singleton_self]
      omega

theorem ops_some (engine : Logfile) (inetNtop : InetNtop) (msg : PBDNSMessage) :
    engine.ops inetNtop (some msg) =
      if engine.disabled = true ∨ Filtered engine.rewritesOnly msg then []
      else
        headerOps inetNtop msg ++
        whenPresent msg.originalrequestorsubnet (fun _ => [.assertZero]) ++
        questionOps msg ++
        responseOps inetNtop msg := by
  unfold ops
  cases off : engine.disabled with
  | true => simp
  | false => simpa using guarded_eq engine.rewritesOnly msg _

/-- The assertion is performed exactly for an unfiltered message that carries
the requestor's subnet. -/
theorem assertZero_mem_ops_iff (engine : Logfile) (inetNtop : InetNtop) (msg : PBDNSMessage) :
    TextOp.assertZero ∈ engine.ops inetNtop (some msg) ↔
      engine.disabled = false ∧ ¬ Filtered engine.rewritesOnly msg ∧
        msg.originalrequestorsubnet ≠ none := by
  rw [ops_some]
  by_cases silent : engine.disabled = true ∨ Filtered engine.rewritesOnly msg
  · rw [if_pos silent]
    constructor
    · intro member
      exact absurd member List.not_mem_nil
    · rintro ⟨enabled, unfiltered, _⟩
      rcases silent with disabled | filtered
      · rw [enabled] at disabled
        cases disabled
      · exact absurd filtered unfiltered
  · rw [if_neg silent]
    rw [not_or] at silent
    have response : Exists fun r => msg.response = some r :=
      Option.ne_none_iff_exists'.mp fun absent => silent.2 (.inl absent)
    rcases response with ⟨r, present⟩
    have header := (headerOps_appendsOnly inetNtop msg).assertZero_not_mem
    have question := (questionOps_appendsOnly msg).assertZero_not_mem
    have tail := (responseOps_counts inetNtop msg r present).1
    cases subnet : msg.originalrequestorsubnet with
    | none => simp [whenPresent, header, question, tail]
    | some field => simp [whenPresent, silent]

/-- An unfiltered message writes one line per record, and at least one. -/
theorem count_writeLog_ops (engine : Logfile) (inetNtop : InetNtop) (msg : PBDNSMessage)
    (enabled : engine.disabled = false) :
    (engine.ops inetNtop (some msg)).count .writeLog =
      if Filtered engine.rewritesOnly msg then 0
      else max 1 ((msg.response.map DNSResponse.rrs).getD []).length := by
  rw [ops_some]
  by_cases filtered : Filtered engine.rewritesOnly msg
  · simp [filtered]
  · have response : Exists fun r => msg.response = some r :=
      Option.ne_none_iff_exists'.mp fun absent => filtered (.inl absent)
    rcases response with ⟨r, present⟩
    have assertion : (whenPresent msg.originalrequestorsubnet
        (fun _ => [TextOp.assertZero])).count .writeLog = 0 := by
      cases msg.originalrequestorsubnet <;> rfl
    rw [if_neg (by simp [enabled, filtered]), if_neg filtered]
    simp only [List.count_append, (headerOps_appendsOnly inetNtop msg).count_writeLog, assertion,
      (questionOps_appendsOnly msg).count_writeLog, (responseOps_counts inetNtop msg r present).2,
      present, Option.map_some, Option.getD_some]
    omega

end Logfile

/-! ## The statements of the sqlite engine -/

theorem length_recordRows (inetNtop : InetNtop) (vars : SqlVars) (rrs : List DNSRR) :
    (recordRows inetNtop vars rrs).length = rrs.length := by
  induction rrs generalizing vars with
  | nil => rfl
  | cons rr rrs ih => rw [recordRows, List.length_cons, List.length_cons, ih]

/-- An unfiltered message makes one row per record, and at least one. -/
theorem Sqlite.length_rows (engine : Sqlite) (inetNtop : InetNtop) (msg : PBDNSMessage)
    (enabled : engine.disabled = false) :
    (engine.rows inetNtop (some msg)).length =
      if Filtered engine.rewritesOnly msg then 0
      else max 1 ((msg.response.map DNSResponse.rrs).getD []).length := by
  unfold Sqlite.rows
  rw [enabled]
  simp only [Bool.false_eq_true, if_false, guarded_eq]
  by_cases filtered : Filtered engine.rewritesOnly msg
  · rw [if_pos filtered, if_pos filtered]
    rfl
  · rw [if_neg filtered, if_neg filtered]
    cases present : msg.response with
    | none => exact absurd (.inl present) filtered
    | some r =>
        simp only [Option.map_some, Option.getD_some]
        by_cases some_record : 0 < r.rrs.length
        · rw [if_pos some_record, length_recordRows]
          omega
        · rw [if_neg some_record, List.length_singleton]
          omega

/-! ## Agreement -/

/-- Both text engines emit the same lines, and as many as the sqlite engine
emits statements: none for a filtered message, otherwise one per record and at
least one. -/
theorem engines_agree (build : Build) (inetNtop : InetNtop) (rewritesOnly : Bool)
    (msg : PBDNSMessage) (noSubnet : msg.originalrequestorsubnet = none) :
    Exists fun lines : List Bytes =>
      logfileLog build inetNtop ⟨false, rewritesOnly, true⟩ (some msg) = .ok lines ∧
      syslogLog build inetNtop ⟨false, rewritesOnly⟩ (some msg) = .ok lines ∧
      lines.length = (logsqliteLog inetNtop ⟨false, rewritesOnly⟩ (some msg)).length ∧
      (lines.length = 0 ↔ msg.response = none ∨
        (rewritesOnly = true ∧ zstr (msg.response.bind DNSResponse.appliedpolicy) = true)) ∧
      forall r, msg.response = some r ->
        ¬ (rewritesOnly = true ∧ zstr r.appliedpolicy = true) ->
        lines.length = max 1 r.rrs.length := by
  let file : Logfile := ⟨false, rewritesOnly, true⟩
  let system : Syslog := ⟨false, rewritesOnly⟩
  have same : file.ops inetNtop (some msg) = system.ops inetNtop (some msg) :=
    ops_eq file system inetNtop (some msg) rfl rfl
  have free : TextOp.assertZero ∉ file.ops inetNtop (some msg) := by
    intro member
    exact ((file.assertZero_mem_ops_iff inetNtop msg).mp member).2.2 noSubnet
  have counted := file.count_writeLog_ops inetNtop msg rfl
  have emitted := length_lines_perform (file.ops inetNtop (some msg)) .start
  rw [counted] at emitted
  refine ⟨(perform true (file.ops inetNtop (some msg)) .start).lines, ?_, ?_, ?_, ?_, ?_⟩
  · rw [logfileLog, execute_eq, if_neg (fun both => free both.2)]
    rfl
  · rw [syslogLog, ← same, execute_eq, if_neg (fun both => free both.2)]
    rfl
  · rw [emitted, logsqliteLog, List.length_map, Sqlite.length_rows _ _ _ rfl]
    exact Nat.zero_add _
  · rw [emitted]
    change _ ↔ Filtered rewritesOnly msg
    by_cases filtered : Filtered rewritesOnly msg
    · simp [file, filtered, TextLine.start]
    · simp [file, filtered]
  · intro r present unfiltered
    have passes : ¬ Filtered rewritesOnly msg := by
      simpa [Filtered, present] using unfiltered
    rw [emitted, if_neg passes, present]
    exact Nat.zero_add _

/-- A rewritten answer with two records, as a client sends it. -/
def rewrittenAnswer : PBDNSMessage where
  timesec := some 1500000000
  from_ := some ⟨[127, 0, 0, 1], []⟩
  id := some 4711
  question := some ⟨some (.literal "example.com."), some 1, some 1⟩
  response := some
    { rcode := some 0
      rrs :=
        [⟨some (.literal "example.com."), some 5, some 1, some 60, some ⟨ascii "walled.", [0]⟩⟩,
          ⟨some (.literal "walled."), some 1, some 1, some 60, some ⟨[10, 0, 0, 1], []⟩⟩]
      appliedpolicy := some (.literal "DBL") }
  originalrequestorsubnet := none

/-- The library's answers for the two addresses in that message. -/
def rewrittenAnswerAddresses : InetNtop := fun _ address =>
  if address = [127, 0, 0, 1] then .literal "127.0.0.1" else .literal "10.0.0.1"

theorem engines_agree_rewrittenAnswer :
    Exists fun lines : List Bytes =>
      logfileLog .debug rewrittenAnswerAddresses ⟨false, true, true⟩
        (some rewrittenAnswer) = .ok lines ∧
      syslogLog .debug rewrittenAnswerAddresses ⟨false, true⟩
        (some rewrittenAnswer) = .ok lines ∧
      lines.length = 2 := by
  rcases engines_agree .debug rewrittenAnswerAddresses true rewrittenAnswer rfl with
    ⟨lines, file, system, _, _, counted⟩
  exact ⟨lines, file, system, counted _ rfl (by decide)⟩

end Engines
end PdnsLogger
