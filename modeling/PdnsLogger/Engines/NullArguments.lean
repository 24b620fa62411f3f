import PdnsLogger.Engines.Agreement

namespace PdnsLogger
namespace Engines

open Foundation Program

/-!
# Null strings in the text formats

A `%s` conversion needs a string.  The text engines pass it names that the
lookup functions may not find, optional names that may be absent, and the data
pointer of a field that may be empty; none of these is tested before it is
printed, while the sqlite engine tests all of them.

The arguments of a call are collected from its statements.  Block by block it
is then stated which fields of the message put a null pointer among them.
-/

/-- The `%s` arguments of a format. -/
def stringArguments (format : List Conversion) : List (Option CString) :=
  format.filterMap fun
    | .s value => some value
    | _ => none

/-- The `%s` arguments of the appends that execution reaches. -/
def printedStrings (build : Build) : List TextOp -> List (Option CString)
  | [] => []
  | .append format :: ops => stringArguments format ++ printedStrings build ops
  | .writeLog :: ops => printedStrings build ops
  | .assertZero :: ops =>
      match build with
      | .debug => []
      | .release => printedStrings build ops

/-! ## What must be there -/

/-- The name of the question is present, and its numbers have names. -/
structure QuestionNamed (q : DNSQuestion) : Prop where
  qtype : Below 50 q.qtype
  qclass : Below 5 q.qclass
  qname : q.qname ≠ none

/-- The name of the record is present, its numbers have names, and data that is
printed as text is not empty. -/
structure RecordNamed (rr : DNSRR) : Prop where
  name : rr.name ≠ none
  type : Below 50 rr.type
  class_ : Below 5 rr.class_
  rdata : forall rdata, rr.rdata = some rdata ->
    (rr.type = some 2 ∨ rr.type = some 5 ∨ rr.type = some 6 ∨ rr.type = some 15) ->
    rdata.data ≠ []

/-- Everything a text engine prints of a message with this response. -/
structure MessageNamed (msg : PBDNSMessage) (r : DNSResponse) : Prop where
  question : forall q, msg.question = some q -> QuestionNamed q
  rcode : Below 14 r.rcode
  records : forall rr, rr ∈ r.rrs -> RecordNamed rr

/-! ## Block by block -/

section Blocks

variable (build : Build)

theorem whenPresent_some {Field : Type} (value : Field) (ops : Field -> List TextOp) :
    whenPresent (some value) ops = ops value := rfl

theorem printedStrings_append {first : List TextOp} (unasserted : TextOp.assertZero ∉ first)
    (second : List TextOp) :
    printedStrings build (first ++ second) =
      printedStrings build first ++ printedStrings build second := by
  induction first with
  | nil => rfl
  | cons op ops ih =>
      rw [List.mem_cons, not_or] at unasserted
      cases op with
      | append format =>
          rw [List.cons_append, printedStrings, printedStrings, ih unasserted.2,
            List.append_assoc]
      | writeLog => exact ih unasserted.2
      | assertZero => exact absurd rfl unasserted.1

theorem none_not_mem_labelled {Field : Type} (field : Option Field) (label : String)
    (argument : Field -> Option CString) (rest : List TextOp) :
    none ∉ printedStrings build (whenPresent field (fun value =>
        [.append [.text label, .s (argument value), .text " "]]) ++ rest) ↔
      (forall value, field = some value -> argument value ≠ none) ∧
        none ∉ printedStrings build rest := by
  cases field with
  | none => simp [whenPresent]
  | some value => simp [whenPresent, printedStrings, stringArguments, eq_comm]

theorem none_not_mem_numbered {Field : Type} (field : Option Field) (label : String) (t : Nat)
    (argument : Field -> Option CString) (rest : List TextOp) :
    none ∉ printedStrings build (whenPresent field (fun value =>
        [.append [.text label, counter t, .text ": ", .s (argument value), .text " "]]) ++ rest) ↔
      (forall value, field = some value -> argument value ≠ none) ∧
        none ∉ printedStrings build rest := by
  cases field with
  | none => simp [whenPresent]
  | some value => simp [whenPresent, printedStrings, stringArguments, counter, eq_comm]

theorem found_iff_below (field : Option UInt32) {lookup : UInt32 -> Option CString} {bound : Nat}
    (absent : forall i, lookup i = none ↔ bound ≤ i.toNat) :
    (forall value, field = some value -> lookup value ≠ none) ↔ Below bound field := by
  simp only [ne_eq, absent, Nat.not_le]
  rfl

/-- The address of the querier is never null. -/
theorem none_not_mem_headerOps (inetNtop : InetNtop) (msg : PBDNSMessage) :
    none ∉ printedStrings build (Logfile.headerOps inetNtop msg) := by
  have address : none ∉ printedStrings build (whenPresent msg.from_ fun addr =>
      if addr.len = 4 then
        [.append [.text "from: ", .s (some (inetNtop .inet addr.data)), .text " "]]
      else if addr.len = 16 then
        [.append [.text "from: ", .s (some (inetNtop .inet6 addr.data)), .text " "]]
      else []) := by
    cases msg.from_ with
    | none => exact List.not_mem_nil
    | some addr =>
        simp only [whenPresent]
        split
        · simp [printedStrings, stringArguments]
        · split <;> simp [printedStrings, stringArguments]
  unfold Logfile.headerOps
  cases msg.id with
  | none => exact address
  | some id => exact address

theorem none_not_mem_questionOps_iff (msg : PBDNSMessage) :
    none ∉ printedStrings build (Logfile.questionOps msg) ↔
      forall q, msg.question = some q -> QuestionNamed q := by
  unfold Logfile.questionOps
  cases msg.question with
  | none => simp [whenPresent, printedStrings]
  | some q =>
      have named : none ∉ printedStrings build
          [.append [.text "qname: ", .s q.qname, .text " "]] ↔ q.qname ≠ none := by
        simp [printedStrings, stringArguments, eq_comm]
      simp only [whenPresent_some, List.append_assoc, Option.some.injEq, forall_eq']
      rw [none_not_mem_labelled, none_not_mem_labelled, named,
        found_iff_below q.qtype pdnsLoggerType2p_eq_none_iff,
        found_iff_below q.qclass pdnsLoggerClass2p_eq_none_iff]
      constructor
      · rintro ⟨qtype, qclass, qname⟩
        exact ⟨qtype, qclass, qname⟩
      · rintro ⟨qtype, qclass, qname⟩
        exact ⟨qtype, qclass, qname⟩

theorem none_not_mem_summaryOps_iff (r : DNSResponse) :
    none ∉ printedStrings build (Logfile.summaryOps r) ↔ Below 14 r.rcode := by
  -- The count is no string, and a policy that is printed has been tested.
  have rest : none ∉ printedStrings build
      ([.append [.text "rrcount: ", .zu r.rrs.length, .text " "]] ++
        (if zstr r.appliedpolicy then []
          else [.append [.text "policy: '", .s r.appliedpolicy, .text "' "]])) := by
    cases policy : r.appliedpolicy with
    | none => simp [zstr, printedStrings, stringArguments]
    | some text => split <;> simp [printedStrings, stringArguments]
  unfold Logfile.summaryOps
  rw [List.append_assoc, none_not_mem_labelled,
    found_iff_below r.rcode pdnsLoggerRcode2p_eq_none_iff]
  exact and_iff_left rest

theorem none_not_mem_rdataOps_iff (inetNtop : InetNtop) (t : Nat) (rr : DNSRR)
    (rdata : BinaryData) :
    none ∉ printedStrings build (Logfile.rdataOps inetNtop t rr rdata) ↔
      ((rr.type = some 2 ∨ rr.type = some 5 ∨ rr.type = some 6 ∨ rr.type = some 15) ->
        rdata.data ≠ []) := by
  unfold Logfile.rdataOps
  split
  next address =>
    simp [printedStrings, stringArguments, counter, address.1]
  next =>
    split
    next address =>
      simp [printedStrings, stringArguments, counter, address.1]
    next =>
      split
      next named =>
        simp [printedStrings, stringArguments, counter, named, BinaryData.asCString, eq_comm]
      next other =>
        simp [printedStrings, stringArguments, other]

theorem none_not_mem_recordOps_iff (inetNtop : InetNtop) (t : Nat) (rr : DNSRR) :
    none ∉ printedStrings build (Logfile.recordOps inetNtop t rr) ↔ RecordNamed rr := by
  have named : forall rest, none ∉ printedStrings build
      ([.append [.text "rname-", counter t, .text ": ", .s rr.name, .text " "]] ++ rest) ↔
        rr.name ≠ none ∧ none ∉ printedStrings build rest := by
    intro rest
    simp [printedStrings, stringArguments, counter, eq_comm]
  have lifetime : forall rest, none ∉ printedStrings build
      (whenPresent rr.ttl (fun ttl => [.append [.text "rttl-", counter t, .text ": ",
        .d (toInt32 ttl), .text " "]]) ++ rest) ↔ none ∉ printedStrings build rest := by
    intro rest
    cases rr.ttl with
    | none => rfl
    | some ttl => rfl
  have data : none ∉ printedStrings build
      (whenPresent rr.rdata (Logfile.rdataOps inetNtop t rr)) ↔
        forall rdata, rr.rdata = some rdata ->
          (rr.type = some 2 ∨ rr.type = some 5 ∨ rr.type = some 6 ∨ rr.type = some 15) ->
          rdata.data ≠ [] := by
    cases rr.rdata with
    | none => simp [whenPresent, printedStrings]
    | some rdata =>
        rw [whenPresent_some, none_not_mem_rdataOps_iff]
        simp only [Option.some.injEq, forall_eq']
  unfold Logfile.recordOps
  simp only [List.append_assoc]
  rw [named, none_not_mem_numbered, none_not_mem_numbered, lifetime, data,
    found_iff_below rr.type pdnsLoggerType2p_eq_none_iff,
    found_iff_below rr.class_ pdnsLoggerClass2p_eq_none_iff]
  constructor
  · rintro ⟨name, type, class_, rdata⟩
    exact ⟨name, type, class_, rdata⟩
  · rintro ⟨name, type, class_, rdata⟩
    exact ⟨name, type, class_, rdata⟩

theorem none_not_mem_recordsOps_iff (inetNtop : InetNtop) (t : Nat) (rrs : List DNSRR) :
    none ∉ printedStrings build (Logfile.recordsOps inetNtop t rrs) ↔
      forall rr, rr ∈ rrs -> RecordNamed rr := by
  induction rrs generalizing t with
  | nil => simp [Logfile.recordsOps, printedStrings]
  | cons rr rrs ih =>
      rw [Logfile.recordsOps, List.append_assoc, printedStrings_append build
        (Logfile.recordOps_appendsOnly inetNtop t rr).assertZero_not_mem, List.mem_append, not_or,
        none_not_mem_recordOps_iff, List.forall_mem_cons]
      exact and_congr_right fun _ => ih (t + 1)

theorem none_not_mem_responseOps_iff (inetNtop : InetNtop) {msg : PBDNSMessage} {r : DNSResponse}
    (present : msg.response = some r) :
    none ∉ printedStrings build (Logfile.responseOps inetNtop msg) ↔
      Below 14 r.rcode ∧ forall rr, rr ∈ r.rrs -> RecordNamed rr := by
  simp only [Logfile.responseOps, present]
  rw [printedStrings_append build (Logfile.summaryOps_appendsOnly r).assertZero_not_mem,
    List.mem_append, not_or, none_not_mem_summaryOps_iff]
  by_cases some_record : 0 < r.rrs.length
  · rw [if_pos some_record, none_not_mem_recordsOps_iff]
  · rw [if_neg some_record, List.length_eq_zero_iff.mp (Nat.eq_zero_of_not_pos some_record)]
    simp [printedStrings]

theorem none_not_mem_body_iff (inetNtop : InetNtop) {msg : PBDNSMessage} {r : DNSResponse}
    (present : msg.response = some r) :
    none ∉ printedStrings build (Logfile.questionOps msg ++ Logfile.responseOps inetNtop msg) ↔
      MessageNamed msg r := by
  rw [printedStrings_append build (Logfile.questionOps_appendsOnly msg).assertZero_not_mem,
    List.mem_append, not_or, none_not_mem_questionOps_iff,
    none_not_mem_responseOps_iff build inetNtop present]
  constructor
  · rintro ⟨question, rcode, records⟩
    exact ⟨question, rcode, records⟩
  · rintro ⟨question, rcode, records⟩
    exact ⟨question, rcode, records⟩

end Blocks

/-! ## A call -/

/-- A text engine that logs the message, and gets past its assertion. -/
theorem none_not_mem_ops_iff (build : Build) (inetNtop : InetNtop) (engine : Logfile)
    (msg : PBDNSMessage) :
    none ∉ printedStrings build (engine.ops inetNtop (some msg)) ↔
      (engine.disabled = false -> ¬ Filtered engine.rewritesOnly msg -> ¬ Stopped build msg ->
        forall r, msg.response = some r -> MessageNamed msg r) := by
  by_cases silent : engine.disabled = true ∨ Filtered engine.rewritesOnly msg
  · rw [Logfile.ops_some, if_pos silent]
    refine ⟨fun _ enabled unfiltered => ?_, fun _ => List.not_mem_nil⟩
    rcases silent with disabled | filtered
    · cases enabled.symm.trans disabled
    · exact absurd filtered unfiltered
  · rw [not_or, Bool.not_eq_true] at silent
    rcases silent with ⟨enabled, unfiltered⟩
    rcases Option.ne_none_iff_exists'.mp fun absent => unfiltered (.inl absent) with ⟨r, present⟩
    have body := none_not_mem_body_iff build inetNtop present
    rw [Logfile.ops_some, if_neg (by simp [enabled, unfiltered])]
    simp only [List.append_assoc]
    rw [printedStrings_append build
      (Logfile.headerOps_appendsOnly inetNtop msg).assertZero_not_mem, List.mem_append, not_or,
      and_iff_right (none_not_mem_headerOps build inetNtop msg)]
    simp only [enabled, unfiltered, present, Option.some.injEq, forall_eq', true_implies,
      not_false_eq_true]
    rw [← body]
    cases subnet : msg.originalrequestorsubnet with
    | none => simp [Stopped, subnet, whenPresent]
    | some field =>
        cases build with
        | debug => simp [Stopped, subnet, whenPresent, printedStrings]
        | release => simp [Stopped, whenPresent, printedStrings]

/-- No null string reaches a format of either text engine exactly when every
message it logs past its assertion has the names that are printed: those of the
question and the records, names for all their numbers and for the response
code, and data where data is printed as a name. -/
theorem null_arguments_iff (build : Build) (inetNtop : InetNtop) (file : Logfile)
    (system : Syslog) (msg : PBDNSMessage) :
    (none ∉ printedStrings build (file.ops inetNtop (some msg)) ↔
      (file.disabled = false -> ¬ Filtered file.rewritesOnly msg -> ¬ Stopped build msg ->
        forall r, msg.response = some r -> MessageNamed msg r)) ∧
    (none ∉ printedStrings build (system.ops inetNtop (some msg)) ↔
      (system.disabled = false -> ¬ Filtered system.rewritesOnly msg -> ¬ Stopped build msg ->
        forall r, msg.response = some r -> MessageNamed msg r)) := by
  refine ⟨none_not_mem_ops_iff build inetNtop file msg, ?_⟩
  have twin := none_not_mem_ops_iff build inetNtop ⟨system.disabled, system.rewritesOnly, true⟩ msg
  rw [ops_eq _ system inetNtop (some msg) rfl rfl] at twin
  exact twin

/-- An answer whose question has no name, whose code is not in the table, and
whose record has neither a name nor data. -/
def namelessAnswer : PBDNSMessage where
  timesec := none
  from_ := none
  id := none
  question := some ⟨none, some 65, some 255⟩
  response := some ⟨some 23, [⟨none, some 5, none, none, some ⟨[], []⟩⟩], none⟩
  originalrequestorsubnet := none

/-- Both text engines print six null strings for it. -/
theorem nameless_answer_prints_null :
    printedStrings .debug (Logfile.ops ⟨false, false, true⟩ rewrittenAnswerAddresses
        (some namelessAnswer)) =
      [none, none, none, none, none, some (.literal "CNAME"), none] ∧
    printedStrings .debug (Syslog.ops ⟨false, false⟩ rewrittenAnswerAddresses
        (some namelessAnswer)) =
      [none, none, none, none, none, some (.literal "CNAME"), none] ∧
    none ∈ printedStrings .debug (Logfile.ops ⟨false, false, true⟩ rewrittenAnswerAddresses
        (some namelessAnswer)) ∧
    none ∈ printedStrings .debug (Syslog.ops ⟨false, false⟩ rewrittenAnswerAddresses
        (some namelessAnswer)) := by
  refine ⟨?_, ?_, ?_, ?_⟩
  · decide +kernel
  · decide +kernel
  · decide +kernel
  · decide +kernel

end Engines
end PdnsLogger
