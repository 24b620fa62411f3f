import PdnsLogger.Foundation.AppendStreams
import PdnsLogger.Engines.LineContents

namespace PdnsLogger
namespace Engines

open Foundation Program

/-!
# Line breaks in the log file

Every line of the log file ends with a newline, and the engine copies the names
of a message into its lines as they are.  A name may contain a newline; whoever
divides the file at its newlines then finds more lines than were written.

Labels, numerals, addresses and the names of types, classes and codes have no
control characters.  What remains are four texts of the sender: the query name,
the policy, the name of a record, and the data of a record that is printed as a
name.  The log file is read back line by line exactly when none of them contains
a newline.  For a message that does not fit in the buffer this is still enough.
-/

def newline : UInt8 := 10

/-! ## The texts of the sender -/

/-- The texts of a record that are copied into the line. -/
def recordForeign (rr : DNSRR) : List Bytes :=
  shown rr.name :: match rr.rdata with
    | none => []
    | some rdata =>
        if rr.type = some 2 ∨ rr.type = some 5 ∨ rr.type = some 6 ∨ rr.type = some 15 then
          [shown rdata.asCString]
        else []

def foreignTexts (msg : PBDNSMessage) (r : DNSResponse) : List Bytes :=
  (msg.question.map fun q => shown q.qname).toList ++ [shown r.appliedpolicy] ++
    r.rrs.flatMap recordForeign

/-- Addresses are printed without control characters. -/
def PlainAddresses (inetNtop : InetNtop) : Prop :=
  forall family data byte, byte ∈ (inetNtop family data).bytes -> 32 ≤ byte

/-! ## Texts of the program -/

def Clean (text : Bytes) : Prop :=
  forall byte, byte ∈ text -> 32 ≤ byte

instance (text : Bytes) : Decidable (Clean text) :=
  decidable_of_iff (text.all fun byte => 32 ≤ byte) (by simp [Clean])

theorem Clean.append {first second : Bytes} (firstClean : Clean first)
    (secondClean : Clean second) : Clean (first ++ second) := by
  intro byte member
  rcases List.mem_append.mp member with inFirst | inSecond
  · exact firstClean byte inFirst
  · exact secondClean byte inSecond

theorem clean_decimal (number : Nat) : Clean (decimal number) := by
  unfold decimal
  split
  · decide
  · intro byte member
    rcases List.mem_map.mp member with ⟨digit, listed, rfl⟩
    have small := Nat.digits_lt_base (by decide) (List.mem_reverse.mp listed)
    rw [UInt8.le_iff_toNat_le, UInt8.toNat_ofNat']
    change 32 ≤ (48 + digit) % 2 ^ 8
    omega

theorem clean_signedDecimal (value : Int) : Clean (signedDecimal value) := by
  cases value with
  | ofNat number => exact clean_decimal number
  | negSucc number =>
      intro byte member
      rcases List.mem_cons.mp member with rfl | inside
      · decide
      · exact clean_decimal _ byte inside

theorem clean_printedCounter (t : Nat) : Clean (printedCounter t) :=
  clean_signedDecimal _

theorem clean_nameAt {table : List DnsNameval}
    (clean : forall entry, entry ∈ table -> Clean (shown entry.name)) (i : UInt32) :
    Clean (shown (nameAt table i)) := by
  unfold nameAt
  split
  next entry found => exact clean entry (List.mem_of_getElem? found)
  next => decide

theorem clean_pdnsLoggerType2p (i : UInt32) : Clean (shown (pdnsLoggerType2p i)) :=
  clean_nameAt (by decide +kernel) i

theorem clean_pdnsLoggerClass2p (i : UInt32) : Clean (shown (pdnsLoggerClass2p i)) :=
  clean_nameAt (by decide +kernel) i

theorem clean_pdnsLoggerRcode2p (i : UInt32) : Clean (shown (pdnsLoggerRcode2p i)) :=
  clean_nameAt (by decide +kernel) i

/-! ## Control characters of a field -/

theorem not_mem_optional {Field : Type} {byte : UInt8} (field : Option Field)
    {text : Field -> Bytes} (absent : forall value, byte ∉ text value) :
    byte ∉ (field.map text).toList.flatten := by
  cases field with
  | none => exact List.not_mem_nil
  | some value => simpa using absent value

section Fields

variable {control : UInt8} (low : control < 32)
include low

theorem Clean.not_mem {text : Bytes} (clean : Clean text) : control ∉ text := by
  intro member
  exact absurd (clean control member) (UInt8.not_le.mpr low)

/-- A control character of a field is one of its value. -/
theorem mem_labelled_iff (label value : Bytes) (clean : Clean label) :
    control ∈ labelled label value ↔ control ∈ value := by
  have colon : control ∉ ascii ": " := Clean.not_mem low (by decide)
  have blank : control ∉ ascii " " := Clean.not_mem low (by decide)
  simp only [labelled, List.mem_append, Clean.not_mem low clean, colon, blank, false_or, or_false]

theorem not_mem_labelled (label : Bytes) {value : Bytes} (cleanLabel : Clean label)
    (cleanValue : Clean value) : control ∉ labelled label value := by
  rw [mem_labelled_iff low label value cleanLabel]
  exact Clean.not_mem low cleanValue

theorem not_mem_originTexts {inetNtop : InetNtop} (plain : PlainAddresses inetNtop)
    (msg : PBDNSMessage) : control ∉ (originTexts inetNtop msg).flatten := by
  unfold originTexts
  rw [List.flatten_append, List.mem_append, not_or]
  constructor
  · apply not_mem_optional
    intro id
    exact not_mem_labelled low _ (by decide) (clean_signedDecimal _)
  · cases msg.from_ with
    | none => exact List.not_mem_nil
    | some addr =>
        have address : forall family, control ∉
            labelled (ascii "from") (inetNtop family addr.data).bytes :=
          fun family => not_mem_labelled low _ (by decide) (plain family addr.data)
        simp only [Option.bind_some]
        split
        · simpa using address .inet
        · split
          · simpa using address .inet6
          · exact List.not_mem_nil

theorem mem_questionTexts_iff (msg : PBDNSMessage) :
    control ∈ (questionTexts msg).flatten ↔
      control ∈ (msg.question.map fun q => shown q.qname).toList.flatten := by
  unfold questionTexts
  cases msg.question with
  | none => exact Iff.rfl
  | some q =>
      have qtype := not_mem_optional q.qtype fun value =>
        not_mem_labelled low (ascii "qtype") (by decide) (clean_pdnsLoggerType2p value)
      have qclass := not_mem_optional q.qclass fun value =>
        not_mem_labelled low (ascii "qclass") (by decide) (clean_pdnsLoggerClass2p value)
      have qname : control ∈ labelled (ascii "qname") (shown q.qname) ↔ control ∈ shown q.qname :=
        mem_labelled_iff low _ _ (by decide)
      simp only [List.flatten_append, List.mem_append, qtype, qclass, false_or]
      simpa using qname

theorem mem_summaryTexts_iff (r : DNSResponse) :
    control ∈ (summaryTexts r).flatten ↔ control ∈ shown r.appliedpolicy := by
  unfold summaryTexts
  have rcode := not_mem_optional r.rcode fun value =>
    not_mem_labelled low (ascii "rcode") (by decide) (clean_pdnsLoggerRcode2p value)
  have count := not_mem_labelled low (ascii "rrcount") (by decide)
    (clean_decimal r.rrs.length)
  have before : control ∉ ascii "policy: '" := Clean.not_mem low (by decide)
  have after : control ∉ ascii "' " := Clean.not_mem low (by decide)
  simp only [List.flatten_append, List.mem_append, rcode, false_or, List.flatten_singleton, count]
  split
  next unnamed =>
    have policy : control ∉ shown r.appliedpolicy := by
      apply Clean.not_mem low
      cases named : r.appliedpolicy with
      | none => decide
      | some text =>
          rw [named] at unnamed
          have empty : text.bytes = [] := by simpa [zstr] using unnamed
          rw [shown, empty]
          decide
    simp [policy]
  next => simp [before, after]

/-- Of the data of a record only a name can carry a control character. -/
theorem mem_rdataText_iff {inetNtop : InetNtop} (plain : PlainAddresses inetNtop) {number : Bytes}
    (numeral : Clean number) (rr : DNSRR) (rdata : BinaryData) :
    control ∈ rdataText inetNtop number rr rdata ↔
      (rr.type = some 2 ∨ rr.type = some 5 ∨ rr.type = some 6 ∨ rr.type = some 15) ∧
        control ∈ shown rdata.asCString := by
  have label : Clean (ascii "rdata-" ++ number) := Clean.append (by decide) numeral
  unfold rdataText
  split
  next four =>
    simp [not_mem_labelled low _ label (plain .inet rdata.data), four.1]
  next =>
    split
    next sixteen =>
      simp [not_mem_labelled low _ label (plain .inet6 rdata.data), sixteen.1]
    next =>
      split
      next named => simp [mem_labelled_iff low _ _ label, named]
      next unnamed =>
        have remark : control ∉ ascii "rdata (not supported) " := Clean.not_mem low (by decide)
        simp [remark, unnamed]

theorem mem_recordTexts_iff {inetNtop : InetNtop} (plain : PlainAddresses inetNtop)
    {number : Bytes} (numeral : Clean number) (rr : DNSRR) :
    control ∈ (recordTexts inetNtop number rr).flatten ↔ control ∈ (recordForeign rr).flatten := by
  have numbered : forall label, Clean (ascii label) -> Clean (ascii label ++ number) :=
    fun _ clean => Clean.append clean numeral
  have name : control ∈ labelled (ascii "rname-" ++ number) (shown rr.name) ↔
      control ∈ shown rr.name := mem_labelled_iff low _ _ (numbered _ (by decide))
  have type := not_mem_optional rr.type fun value =>
    not_mem_labelled low _ (numbered "rtype-" (by decide)) (clean_pdnsLoggerType2p value)
  have class_ := not_mem_optional rr.class_ fun value =>
    not_mem_labelled low _ (numbered "rclass-" (by decide)) (clean_pdnsLoggerClass2p value)
  have ttl := not_mem_optional rr.ttl fun value =>
    not_mem_labelled low _ (numbered "rttl-" (by decide)) (clean_signedDecimal (toInt32 value))
  have data : control ∈ (rr.rdata.map (rdataText inetNtop number rr)).toList.flatten ↔
      control ∈ (recordForeign rr).tail.flatten := by
    unfold recordForeign
    cases rr.rdata with
    | none => exact Iff.rfl
    | some rdata =>
        simp only [Option.map_some, Option.toList_some, List.flatten_singleton, List.tail_cons,
          mem_rdataText_iff low plain numeral]
        split
        next named => simp [named]
        next unnamed => simp [unnamed]
  unfold recordTexts
  simp only [List.flatten_append, List.mem_append, List.flatten_singleton, name, type, class_, ttl,
    or_false, data]
  rw [← List.mem_append]
  rfl

theorem mem_recordParts_iff {inetNtop : InetNtop} (plain : PlainAddresses inetNtop)
    {numeral : Nat -> Bytes} (numerals : forall t, Clean (numeral t)) (t : Nat)
    (rrs : List DNSRR) :
    control ∈ (recordParts inetNtop numeral t rrs).flatten.flatten ↔
      control ∈ (rrs.flatMap recordForeign).flatten := by
  induction rrs generalizing t with
  | nil => exact Iff.rfl
  | cons rr rrs ih =>
      rw [recordParts, List.flatten_cons, List.flatten_append, List.mem_append,
        mem_recordTexts_iff low plain (numerals t), ih (t + 1), List.flatMap_cons,
        List.flatten_append, List.mem_append]

/-- The control characters of all fields are those of the sender's texts. -/
theorem mem_fields_iff {inetNtop : InetNtop} (plain : PlainAddresses inetNtop)
    {numeral : Nat -> Bytes} (numerals : forall t, Clean (numeral t)) (msg : PBDNSMessage)
    (r : DNSResponse) :
    control ∈ lineHeader inetNtop msg r ++ (recordParts inetNtop numeral 1 r.rrs).flatten.flatten ↔
      control ∈ (foreignTexts msg r).flatten := by
  have origin := not_mem_originTexts low plain msg
  simp only [lineHeader, headerTexts, foreignTexts, List.flatten_append, List.mem_append,
    List.flatten_singleton, origin, false_or, mem_questionTexts_iff low, mem_summaryTexts_iff low,
    mem_recordParts_iff low plain numerals]

end Fields

/-! ## Lines -/

/-- Whatever is cut off, a line consists of bytes that were formatted for it. -/
theorem mem_lines_perform {build : Build} (sink : Bool) {ops : List TextOp} {line : TextLine}
    {byte : UInt8} (free : ¬ (build = .debug ∧ TextOp.assertZero ∈ ops))
    (member : byte ∈ (perform sink ops line).lines.flatten) :
    byte ∈ line.lines.flatten ∨ byte ∈ line.str ∨ byte ∈ (reached build ops).flatten := by
  induction ops generalizing line with
  | nil => exact .inl member
  | cons op ops ih =>
      have later : ¬ (build = .debug ∧ TextOp.assertZero ∈ ops) :=
        fun both => free ⟨both.1, List.mem_cons_of_mem op both.2⟩
      cases op with
      | append format =>
          rw [reached, List.flatten_cons, List.mem_append]
          rcases ih later member with written | standing | formatted
          · exact .inl written
          · rcases List.mem_append.mp standing with before | copied
            · exact .inr (.inl before)
            · exact .inr (.inr (.inl (List.mem_of_mem_take (List.mem_of_mem_take copied))))
          · exact .inr (.inr (.inr formatted))
      | writeLog =>
          rcases ih later member with written | standing | formatted
          · cases sink with
            | false => exact .inl written
            | true =>
                simp only [TextLine.writeLog, if_true, List.flatten_append, List.flatten_singleton,
                  List.mem_append] at written
                exact written.imp_right .inl
          · cases sink <;> exact .inr (.inl standing)
          · exact .inr (.inr formatted)
      | assertZero =>
          cases build with
          | debug => exact absurd ⟨rfl, List.mem_cons_self⟩ free
          | release => exact ih later member

/-- Of every message, whether it fits or not, only the sender's texts bring control
characters into the log file. -/
theorem not_mem_lines {build : Build} {inetNtop : InetNtop} {engine : Logfile} {msg : PBDNSMessage}
    {lines : List Bytes} {control : UInt8} (low : control < 32) (plain : PlainAddresses inetNtop)
    (clean : forall r, msg.response = some r -> control ∉ (foreignTexts msg r).flatten)
    (logged : logfileLog build inetNtop engine (some msg) = .ok lines) :
    control ∉ lines.flatten := by
  rw [logfileLog, execute_eq] at logged
  split at logged
  next => cases logged
  next free =>
    cases Except.ok.inj logged
    intro member
    rcases mem_lines_perform engine.fpOpen free member with written | standing | formatted
    · cases written
    · cases standing
    · by_cases silent : engine.disabled = true ∨ Filtered engine.rewritesOnly msg
      · rw [Logfile.ops_some, if_pos silent] at formatted
        cases formatted
      · rw [not_or, Bool.not_eq_true] at silent
        rcases silent with ⟨enabled, unfiltered⟩
        rcases Option.ne_none_iff_exists'.mp fun absent => unfiltered (.inl absent) with
          ⟨r, present⟩
        rw [reached_ops build inetNtop engine enabled unfiltered present] at formatted
        apply clean r present
        rw [← mem_fields_iff low plain clean_printedCounter msg r]
        unfold lineTexts at formatted
        split at formatted
        · rw [List.append_nil] at formatted
          exact absurd formatted (not_mem_originTexts low plain msg)
        · simpa only [lineHeader, headerTexts, List.flatten_append, List.append_assoc] using formatted

theorem mem_flatten_growing_iff {byte : UInt8} (line : Bytes) {parts : List Bytes}
    (nonempty : parts ≠ []) :
    byte ∈ (growing line parts).flatten ↔ byte ∈ line ++ parts.flatten := by
  induction parts generalizing line with
  | nil => exact absurd rfl nonempty
  | cons part parts ih =>
      rw [growing, List.flatten_cons, List.flatten_cons, List.mem_append, ← List.append_assoc]
      cases parts with
      | nil => simp [growing]
      | cons next parts =>
          rw [ih (line ++ part) (List.cons_ne_nil next parts)]
          exact or_iff_right_of_imp (List.mem_append_left _)

/-- An assertion that is not compiled in leaves the lines alone. -/
theorem perform_subnet (engine : Logfile) (inetNtop : InetNtop) (msg : PBDNSMessage) (sink : Bool)
    (line : TextLine) :
    perform sink (engine.ops inetNtop (some msg)) line =
      perform sink (engine.ops inetNtop (some { msg with originalrequestorsubnet := none })) line := by
  have block : forall first second : List TextOp,
      perform sink (first ++ whenPresent msg.originalrequestorsubnet (fun _ => [.assertZero]) ++
        second) line = perform sink (first ++ second) line := by
    intro first second
    rw [perform_append, perform_append, perform_append]
    cases msg.originalrequestorsubnet <;> rfl
  simp only [Logfile.ops]
  split
  · rfl
  · split
    · rfl
    · split
      · rfl
      · rw [List.append_assoc, block]
        simp only [whenPresent, List.append_nil, List.append_assoc]
        rfl

/-- The lines of a message contain a byte exactly when its fields do, as long as
all of them fit. -/
theorem mem_lines_iff {build : Build} {inetNtop : InetNtop} {engine : Logfile}
    {msg : PBDNSMessage} {r : DNSResponse} {lines : List Bytes} {byte : UInt8}
    (enabled : engine.disabled = false) (opened : engine.fpOpen = true)
    (present : msg.response = some r) (unfiltered : ¬ Filtered engine.rewritesOnly msg)
    (fits : (lineHeader inetNtop msg r ++
      (recordParts inetNtop printedCounter 1 r.rrs).flatten.flatten).length ≤ lineCapacity - 1)
    (logged : logfileLog build inetNtop engine (some msg) = .ok lines) :
    byte ∈ lines.flatten ↔ byte ∈ lineHeader inetNtop msg r ++
      (recordParts inetNtop printedCounter 1 r.rrs).flatten.flatten := by
  rw [logfileLog, execute_eq, opened] at logged
  split at logged
  next => cases logged
  next =>
    cases Except.ok.inj logged
    rw [perform_subnet]
    have written := @lines_ops engine inetNtop { msg with originalrequestorsubnet := none } r
      enabled unfiltered rfl present fits
    rw [written]
    split
    next some_record =>
      have parts : (recordParts inetNtop printedCounter 1 r.rrs).map List.flatten ≠ [] := by
        intro none
        have counted := length_recordParts inetNtop printedCounter 1 r.rrs
        rw [List.map_eq_nil_iff.mp none, List.length_nil] at counted
        omega
      rw [mem_flatten_growing_iff _ parts, ← List.flatten_flatten]
      exact Iff.rfl
    next none_left =>
      rw [List.length_eq_zero_iff.mp (Nat.eq_zero_of_not_pos none_left)]
      simp only [List.flatten_singleton, recordParts, List.flatten_nil, List.append_nil]
      exact Iff.rfl

/-- Dividing the log file at its newlines gives back the lines written for a message
if no text of the sender contains a newline, and only if, as long as all fields fit
in the buffer. -/
theorem log_reads_back_iff (build : Build) (inetNtop : InetNtop) (engine : Logfile)
    (msg : PBDNSMessage) (r : DNSResponse) (lines : List Bytes) (plain : PlainAddresses inetNtop)
    (enabled : engine.disabled = false) (opened : engine.fpOpen = true)
    (present : msg.response = some r)
    (passes : ¬ (engine.rewritesOnly = true ∧ zstr r.appliedpolicy = true))
    (logged : logfileLog build inetNtop engine (some msg) = .ok lines) :
    (newline ∉ (foreignTexts msg r).flatten ->
      (lines.flatMap (· ++ [newline])).splitOn newline = lines ++ [[]]) ∧
    ((lineHeader inetNtop msg r ++ (lineParts inetNtop r).flatten).length ≤ 1023 ->
      ((lines.flatMap (· ++ [newline])).splitOn newline = lines ++ [[]] ↔
        newline ∉ (foreignTexts msg r).flatten)) := by
  have unfiltered : ¬ Filtered engine.rewritesOnly msg := by
    simpa [Filtered, present] using passes
  have divided : (lines.flatMap (· ++ [newline])).splitOn newline = lines ++ [[]] ↔
      newline ∉ lines.flatten := by
    rw [splitOn_terminated_iff]
    constructor
    · intro unbroken inside
      rcases List.mem_flatten.mp inside with ⟨line, member, broken⟩
      exact unbroken line member broken
    · intro unbroken line member broken
      exact unbroken (List.mem_flatten.mpr ⟨line, member, broken⟩)
  rw [divided]
  constructor
  · intro clean
    apply not_mem_lines (by decide) plain _ logged
    intro other same
    cases Option.some.inj (present.symm.trans same)
    exact clean
  · intro fits
    have parts : (lineParts inetNtop r).flatten =
        (recordParts inetNtop decimal 1 r.rrs).flatten.flatten := List.flatten_flatten.symm
    have counters : recordParts inetNtop printedCounter 1 r.rrs =
        recordParts inetNtop decimal 1 r.rrs := by
      rw [parts, List.length_append] at fits
      exact recordParts_printedCounter (Nat.le_trans (Nat.le_add_left _ _) fits)
    rw [parts, ← counters] at fits
    rw [mem_lines_iff enabled opened present unfiltered fits logged,
      mem_fields_iff (by decide) plain clean_printedCounter]

theorem plainAddresses_rewrittenAnswerAddresses : PlainAddresses rewrittenAnswerAddresses := by
  intro family data
  change Clean (rewrittenAnswerAddresses family data).bytes
  unfold rewrittenAnswerAddresses
  split <;> decide

/-- An answer whose query name goes on after a newline. -/
def forgedAnswer : PBDNSMessage where
  timesec := none
  from_ := none
  id := some 1
  question := some ⟨some (.literal "a.\nQID: 2 qname: b. rcode: NXDOMAIN"), none, none⟩
  response := some ⟨some 0, [], some (.literal "DBL")⟩
  originalrequestorsubnet := none

theorem log_reads_back_iff_forgedAnswer :
    Exists fun lines : List Bytes =>
      logfileLog .release rewrittenAnswerAddresses ⟨false, true, true⟩ (some forgedAnswer) =
        .ok lines ∧
      lines.length = 1 ∧
      (lines.flatMap (· ++ [newline])).splitOn newline ≠ lines ++ [[]] := by
  have logged : ((logfileLog .release rewrittenAnswerAddresses ⟨false, true, true⟩
      (some forgedAnswer)).map List.length) = .ok 1 := by
    decide +kernel
  cases written : logfileLog .release rewrittenAnswerAddresses ⟨false, true, true⟩
      (some forgedAnswer) with
  | error fault =>
      rw [written] at logged
      cases logged
  | ok lines =>
      rw [written] at logged
      refine ⟨lines, rfl, Except.ok.inj logged, ?_⟩
      have exact := (log_reads_back_iff .release rewrittenAnswerAddresses ⟨false, true, true⟩
        forgedAnswer (forgedAnswer.response.get rfl) lines
        plainAddresses_rewrittenAnswerAddresses rfl rfl rfl (by decide) written).2
        (by decide +kernel)
      rw [ne_eq, exact, not_not]
      decide +kernel

end Engines
end PdnsLogger
