import PdnsLogger.Engines.LineContents
import PdnsLogger.Engines.RowContents

namespace PdnsLogger
namespace Engines

open Foundation Program

/-!
# Unsigned fields as numerals

The time, the identifier and the lifetimes of a message are unsigned 32-bit
words.  Every engine passes them through an `int` and prints them with a signed
conversion.  Below `2 ^ 31` this is the numeral of the word; from there on a
minus sign appears.

A line is read here field by field, in the form in which each field is
formatted.  What a full line does to fields that no longer fit is a matter of
the line and not of the numerals.  A row is read back from its statement.
-/

/-! ## One word -/

/-- The decimal numeral of an unsigned word. -/
def unsignedNumeral (word : UInt32) : Bytes :=
  decimal word.toNat

/-- The same numeral as a literal without a sign. -/
def unsignedValue (word : UInt32) : SqlValue :=
  .integer false (unsignedNumeral word)

theorem toInt32_of_lt {word : UInt32} (small : word.toNat < 2 ^ 31) :
    toInt32 word = Int.ofNat word.toNat := by
  have same : word.toBitVec.toNat = word.toNat := rfl
  rw [toInt32, BitVec.toInt_eq_toNat_of_lt (by omega), same]
  rfl

theorem toInt32_lt_zero {word : UInt32} (large : ¬ word.toNat < 2 ^ 31) : toInt32 word < 0 := by
  have same : word.toBitVec.toNat = word.toNat := rfl
  have bound := word.toNat_lt
  rw [toInt32, BitVec.toInt_eq_toNat_cond, same, if_neg (by omega)]
  omega

theorem signedDecimal_toInt32_iff (word : UInt32) :
    signedDecimal (toInt32 word) = unsignedNumeral word ↔ word.toNat < 2 ^ 31 := by
  constructor
  · intro same
    by_contra large
    obtain ⟨magnitude, negative⟩ := Int.eq_negSucc_of_lt_zero (toInt32_lt_zero large)
    have sign : 45 ∈ unsignedNumeral word := by
      rw [← same, negative]
      exact List.mem_cons_self
    exact absurd (isDigit_of_mem_decimal sign) (by decide)
  · intro small
    rw [toInt32_of_lt small]
    rfl

theorem ofInt_toInt32_iff (word : UInt32) :
    SqlValue.ofInt (toInt32 word) = unsignedValue word ↔ word.toNat < 2 ^ 31 := by
  constructor
  · intro same
    by_contra large
    simp only [SqlValue.ofInt, unsignedValue, SqlValue.integer.injEq, decide_eq_false_iff_not]
      at same
    exact same.1 (toInt32_lt_zero large)
  · intro small
    rw [toInt32_of_lt small]
    rfl

/-! ## Fields of a line -/

/-- The value of a field whose name starts with `label`: what stands between
the colon with its blank and the final blank. -/
def fieldValue (label text : Bytes) : Option Bytes :=
  if label.isPrefixOf text then some ((text.dropWhile (· != 58)).drop 2).dropLast else none

/-- The values of all such fields. -/
def fieldValues (label : Bytes) (texts : List Bytes) : List Bytes :=
  texts.filterMap (fieldValue label)

theorem fieldValues_append (label : Bytes) (first second : List Bytes) :
    fieldValues label (first ++ second) = fieldValues label first ++ fieldValues label second :=
  List.filterMap_append

theorem fieldValues_toList {Field : Type} (label : Bytes) (field : Option Field)
    (text : Field -> Bytes) :
    fieldValues label (field.map text).toList =
      (field.bind fun value => fieldValue label (text value)).toList := by
  cases field with
  | none => rfl
  | some value =>
      simp only [fieldValues, Option.map_some, Option.toList_some, List.filterMap_cons,
        List.filterMap_nil, Option.bind_some]
      cases fieldValue label (text value) <;> rfl

/-- Reading back a field that was labelled without a colon in its name. -/
theorem value_labelled {name : Bytes} (plain : 58 ∉ name) (value : Bytes) :
    (((labelled name value).dropWhile (· != 58)).drop 2).dropLast = value := by
  have skipped : (labelled name value).dropWhile (· != 58) = ascii ": " ++ value ++ ascii " " := by
    rw [labelled, List.append_assoc, List.append_assoc, List.append_assoc,
      List.dropWhile_append_of_pos]
    · rfl
    · intro byte member
      apply bne_iff_ne.mpr
      intro colon
      exact plain (colon ▸ member)
  rw [skipped]
  exact List.dropLast_concat

theorem colon_not_mem_printedCounter (t : Nat) : 58 ∉ printedCounter t := by
  intro member
  change 58 ∈ signedDecimal (toInt32 (UInt32.ofNat t)) at member
  cases value : toInt32 (UInt32.ofNat t) with
  | ofNat number =>
      rw [value] at member
      exact absurd (isDigit_of_mem_decimal member) (by decide)
  | negSucc number =>
      rw [value] at member
      rcases List.mem_cons.mp member with sign | digit
      · exact absurd sign (by decide)
      · exact absurd (isDigit_of_mem_decimal digit) (by decide)

def Unnumbered (texts : List Bytes) : Prop :=
  forall text, text ∈ texts ->
    fieldValue (ascii "QID: ") text = none ∧ fieldValue (ascii "rttl-") text = none

namespace Unnumbered

theorem nil : Unnumbered [] :=
  fun _text member => absurd member List.not_mem_nil

theorem single {text : Bytes} (identifier : fieldValue (ascii "QID: ") text = none)
    (lifetime : fieldValue (ascii "rttl-") text = none) : Unnumbered [text] := by
  intro other member
  rw [List.mem_singleton.mp member]
  exact ⟨identifier, lifetime⟩

theorem append {first second : List Bytes} (firstOther : Unnumbered first)
    (secondOther : Unnumbered second) : Unnumbered (first ++ second) := by
  intro text member
  rcases List.mem_append.mp member with inFirst | inSecond
  · exact firstOther text inFirst
  · exact secondOther text inSecond

theorem toList {Field : Type} (field : Option Field) {text : Field -> Bytes}
    (other : forall value, Unnumbered [text value]) : Unnumbered (field.map text).toList := by
  cases field with
  | none => exact nil
  | some value => exact other value

variable {texts : List Bytes}

theorem no_identifier (other : Unnumbered texts) : fieldValues (ascii "QID: ") texts = [] :=
  List.filterMap_eq_nil_iff.mpr fun text member => (other text member).1

theorem no_lifetime (other : Unnumbered texts) : fieldValues (ascii "rttl-") texts = [] :=
  List.filterMap_eq_nil_iff.mpr fun text member => (other text member).2

end Unnumbered

section Lines

variable (inetNtop : InetNtop)

def fromTexts (msg : PBDNSMessage) : List Bytes :=
  (msg.from_.bind fun addr =>
    if addr.len = 4 then some (labelled (ascii "from") (inetNtop .inet addr.data).bytes)
    else if addr.len = 16 then some (labelled (ascii "from") (inetNtop .inet6 addr.data).bytes)
    else none).toList

theorem unnumbered_fromTexts (msg : PBDNSMessage) : Unnumbered (fromTexts inetNtop msg) := by
  unfold fromTexts
  cases msg.from_ with
  | none => exact .nil
  | some addr =>
      rw [Option.bind_some]
      split
      · exact .single rfl rfl
      · split
        · exact .single rfl rfl
        · exact .nil

theorem unnumbered_questionTexts (msg : PBDNSMessage) : Unnumbered (questionTexts msg) := by
  unfold questionTexts
  cases msg.question with
  | none => exact .nil
  | some q =>
      refine .append (.append (.toList _ ?_) (.toList _ ?_)) ?_
      · intro qtype
        exact .single rfl rfl
      · intro qclass
        exact .single rfl rfl
      · exact .single rfl rfl

theorem unnumbered_summaryTexts (r : DNSResponse) : Unnumbered (summaryTexts r) := by
  unfold summaryTexts
  refine .append (.append (.toList _ ?_) ?_) ?_
  · intro rcode
    exact .single rfl rfl
  · exact .single rfl rfl
  · split
    · exact .nil
    · exact .single rfl rfl

theorem unnumbered_rdataText (number : Bytes) (rr : DNSRR) (rdata : BinaryData) :
    Unnumbered [rdataText inetNtop number rr rdata] := by
  unfold rdataText
  split
  · exact .single rfl rfl
  · split
    · exact .single rfl rfl
    · split
      · exact .single rfl rfl
      · exact .single rfl rfl

theorem unnumbered_recordTexts (number : Bytes) (rr : DNSRR) :
    Unnumbered ([labelled (ascii "rname-" ++ number) (shown rr.name)] ++
      (rr.type.map fun type =>
        labelled (ascii "rtype-" ++ number) (shown (pdnsLoggerType2p type))).toList ++
      (rr.class_.map fun class_ =>
        labelled (ascii "rclass-" ++ number) (shown (pdnsLoggerClass2p class_))).toList) := by
  refine .append (.append (.single rfl rfl) (.toList _ ?_)) (.toList _ ?_)
  · intro type
    exact .single rfl rfl
  · intro class_
    exact .single rfl rfl

theorem qid_originTexts (msg : PBDNSMessage) :
    fieldValues (ascii "QID: ") (originTexts inetNtop msg) =
      msg.id.toList.map fun id => signedDecimal (toInt32 id) := by
  have identifier : forall id, fieldValue (ascii "QID: ")
      (labelled (ascii "QID") (signedDecimal (toInt32 id))) =
        some (signedDecimal (toInt32 id)) := by
    intro id
    exact congrArg some (value_labelled (by decide) _)
  have parts : originTexts inetNtop msg =
      (msg.id.map fun id => labelled (ascii "QID") (signedDecimal (toInt32 id))).toList ++
        fromTexts inetNtop msg := rfl
  rw [parts, fieldValues_append, fieldValues_toList,
    (unnumbered_fromTexts inetNtop msg).no_identifier, List.append_nil]
  simp only [identifier]
  cases msg.id <;> rfl

theorem rttl_originTexts (msg : PBDNSMessage) :
    fieldValues (ascii "rttl-") (originTexts inetNtop msg) = [] := by
  have parts : originTexts inetNtop msg =
      (msg.id.map fun id => labelled (ascii "QID") (signedDecimal (toInt32 id))).toList ++
        fromTexts inetNtop msg := rfl
  have identifier : forall id, fieldValue (ascii "rttl-")
      (labelled (ascii "QID") (signedDecimal (toInt32 id))) = none := fun _ => rfl
  rw [parts, fieldValues_append, fieldValues_toList,
    (unnumbered_fromTexts inetNtop msg).no_lifetime, List.append_nil]
  simp only [identifier, Option.bind_fun_none, Option.toList_none]

theorem qid_recordTexts (number : Bytes) (rr : DNSRR) :
    fieldValues (ascii "QID: ") (recordTexts inetNtop number rr) = [] := by
  have lifetime : forall ttl, fieldValue (ascii "QID: ")
      (labelled (ascii "rttl-" ++ number) (signedDecimal (toInt32 ttl))) = none := fun _ => rfl
  unfold recordTexts
  rw [fieldValues_append, fieldValues_append, fieldValues_toList,
    (unnumbered_recordTexts number rr).no_identifier,
    (Unnumbered.toList rr.rdata fun rdata =>
      unnumbered_rdataText inetNtop number rr rdata).no_identifier]
  simp only [lifetime, Option.bind_fun_none, Option.toList_none, List.append_nil]

theorem rttl_recordTexts {number : Bytes} (plain : 58 ∉ number) (rr : DNSRR) :
    fieldValues (ascii "rttl-") (recordTexts inetNtop number rr) =
      rr.ttl.toList.map fun ttl => signedDecimal (toInt32 ttl) := by
  have named : 58 ∉ ascii "rttl-" ++ number := by
    intro member
    rcases List.mem_append.mp member with inLabel | inNumber
    · exact absurd inLabel (by decide)
    · exact plain inNumber
  have lifetime : forall ttl, fieldValue (ascii "rttl-")
      (labelled (ascii "rttl-" ++ number) (signedDecimal (toInt32 ttl))) =
        some (signedDecimal (toInt32 ttl)) := by
    intro ttl
    exact congrArg some (value_labelled named _)
  unfold recordTexts
  rw [fieldValues_append, fieldValues_append, fieldValues_toList,
    (unnumbered_recordTexts number rr).no_lifetime,
    (Unnumbered.toList rr.rdata fun rdata =>
      unnumbered_rdataText inetNtop number rr rdata).no_lifetime]
  simp only [lifetime, List.nil_append, List.append_nil]
  cases rr.ttl <;> rfl

theorem values_recordParts (t : Nat) (rrs : List DNSRR) :
    fieldValues (ascii "QID: ") (recordParts inetNtop printedCounter t rrs).flatten = [] ∧
    fieldValues (ascii "rttl-") (recordParts inetNtop printedCounter t rrs).flatten =
      (rrs.filterMap DNSRR.ttl).map fun ttl => signedDecimal (toInt32 ttl) := by
  induction rrs generalizing t with
  | nil => exact ⟨rfl, rfl⟩
  | cons rr rrs ih =>
      rw [recordParts, List.flatten_cons, fieldValues_append, fieldValues_append,
        (ih (t + 1)).1, (ih (t + 1)).2, qid_recordTexts,
        rttl_recordTexts inetNtop (colon_not_mem_printedCounter t)]
      refine ⟨rfl, ?_⟩
      cases lifetime : rr.ttl with
      | none => simp [lifetime]
      | some ttl => simp [lifetime]

end Lines

/-- Among the fields formatted by these statements, the identifier and all
lifetimes are unsigned numerals. -/
structure LineNumerals (build : Build) (ops : List TextOp) (msg : PBDNSMessage)
    (r : DNSResponse) : Prop where
  qid : fieldValues (ascii "QID: ") (reached build ops) = msg.id.toList.map unsignedNumeral
  rttl : ¬ Stopped build msg ->
    fieldValues (ascii "rttl-") (reached build ops) =
      (r.rrs.filterMap DNSRR.ttl).map unsignedNumeral

theorem values_lineTexts (build : Build) (inetNtop : InetNtop) (msg : PBDNSMessage)
    (r : DNSResponse) :
    fieldValues (ascii "QID: ") (lineTexts build inetNtop msg r) =
        (msg.id.toList.map fun id => signedDecimal (toInt32 id)) ∧
    (¬ Stopped build msg -> fieldValues (ascii "rttl-") (lineTexts build inetNtop msg r) =
      (r.rrs.filterMap DNSRR.ttl).map fun ttl => signedDecimal (toInt32 ttl)) := by
  have question := unnumbered_questionTexts msg
  have summary := unnumbered_summaryTexts r
  have records := values_recordParts inetNtop 1 r.rrs
  unfold lineTexts Stopped
  constructor
  · rw [fieldValues_append, qid_originTexts]
    split
    · exact List.append_nil _
    · rw [fieldValues_append, fieldValues_append, question.no_identifier, summary.no_identifier,
        records.1]
      exact List.append_nil _
  · intro onward
    rw [if_neg onward, fieldValues_append, rttl_originTexts, fieldValues_append,
      fieldValues_append, question.no_lifetime, summary.no_lifetime, records.2]
    rfl

/-- A text engine that logs the message writes unsigned numerals exactly when
the words are in the lower half of the range. -/
theorem lineNumerals_iff (build : Build) (inetNtop : InetNtop) (engine : Logfile)
    {msg : PBDNSMessage} {r : DNSResponse} (enabled : engine.disabled = false)
    (unfiltered : ¬ Filtered engine.rewritesOnly msg) (present : msg.response = some r) :
    LineNumerals build (engine.ops inetNtop (some msg)) msg r ↔
      Below (2 ^ 31) msg.id ∧
        (¬ Stopped build msg -> forall rr, rr ∈ r.rrs -> Below (2 ^ 31) rr.ttl) := by
  have values := values_lineTexts build inetNtop msg r
  have formatted := reached_ops build inetNtop engine enabled unfiltered present
  have identifiers : (msg.id.toList.map fun id => signedDecimal (toInt32 id)) =
      msg.id.toList.map unsignedNumeral ↔ Below (2 ^ 31) msg.id := by
    rw [List.map_inj_left]
    simp only [Option.mem_toList, signedDecimal_toInt32_iff]
    rfl
  have lifetimes : ((r.rrs.filterMap DNSRR.ttl).map fun ttl => signedDecimal (toInt32 ttl)) =
      (r.rrs.filterMap DNSRR.ttl).map unsignedNumeral ↔
        forall rr, rr ∈ r.rrs -> Below (2 ^ 31) rr.ttl := by
    rw [List.map_inj_left]
    simp only [List.mem_filterMap, signedDecimal_toInt32_iff]
    constructor
    · intro small rr member ttl field
      exact small ttl ⟨rr, member, field⟩
    · rintro small ttl ⟨rr, member, field⟩
      exact small rr member ttl field
  rw [← identifiers, ← lifetimes]
  constructor
  · intro numerals
    refine ⟨?_, ?_⟩
    · rw [← values.1, ← formatted]
      exact numerals.qid
    · intro onward
      rw [← values.2 onward, ← formatted]
      exact numerals.rttl onward
  · rintro ⟨qid, rttl⟩
    refine ⟨?_, ?_⟩
    · rw [formatted, values.1]
      exact qid
    · intro onward
      rw [formatted, values.2 onward]
      exact rttl onward

/-! ## Columns of a row -/

/-- In the statements of a call, the time, the identifier and all lifetimes are
unsigned literals. -/
structure RowNumerals (statements : List Bytes) (msg : PBDNSMessage) (r : DNSResponse) : Prop where
  ts : forall statement, statement ∈ statements -> forall word, msg.timesec = some word ->
    columnValue "ts" statement = some (unsignedValue word)
  id : forall statement, statement ∈ statements -> forall word, msg.id = some word ->
    columnValue "id" statement = some (unsignedValue word)
  rttl : forall (k : Nat) rr statement, r.rrs[k]? = some rr -> statements[k]? = some statement ->
    forall word, rr.ttl = some word -> columnValue "rttl" statement = some (unsignedValue word)

theorem columnValue_ts (vars : SqlVars) :
    columnValue "ts" (prepareSql vars) = some (.ofInt vars.ts) := by
  rw [columnValue_prepareSql, show columnNames.idxOf (ascii "ts") = 0 by decide]
  rfl

theorem columnValue_id (vars : SqlVars) :
    columnValue "id" (prepareSql vars) = some (.ofInt vars.msgid) := by
  rw [columnValue_prepareSql, show columnNames.idxOf (ascii "id") = 2 by decide]
  rfl

/-- A column that shows a word as a signed literal agrees with the unsigned one
exactly in the lower half of the range. -/
theorem unsigned_iff_of_shows {column : String} {statement : Bytes} {word : UInt32}
    (shows : columnValue column statement = some (.ofInt (toInt32 word))) :
    columnValue column statement = some (unsignedValue word) ↔ word.toNat < 2 ^ 31 := by
  rw [shows, Option.some_inj]
  exact ofInt_toInt32_iff word

section Rows

variable {inetNtop : InetNtop} {engine : Sqlite} {msg : PBDNSMessage} {r : DNSResponse}
  (enabled : engine.disabled = false) (unfiltered : ¬ Filtered engine.rewritesOnly msg)
  (present : msg.response = some r)
include enabled unfiltered present

theorem rows_eq : engine.rows inetNtop (some msg) =
    if 0 < r.rrs.length then recordRows inetNtop (messageVars inetNtop msg) r.rrs
    else [messageVars inetNtop msg] := by
  rw [Sqlite.rows, enabled, if_neg Bool.false_ne_true, guarded_eq, if_neg unfiltered]
  simp only [present]

theorem message_of_mem_rows {vars : SqlVars} (member : vars ∈ engine.rows inetNtop (some msg)) :
    vars.message = (messageVars inetNtop msg).message := by
  rw [rows_eq enabled unfiltered present] at member
  split at member
  · have mapped := List.mem_map_of_mem (f := SqlVars.message) member
    rw [message_recordRows] at mapped
    rcases List.mem_map.mp mapped with ⟨_, _, same⟩
    exact same.symm
  · rw [List.mem_singleton.mp member]

omit present in
theorem statements_ne_nil : logsqliteLog inetNtop engine (some msg) ≠ [] := by
  intro empty
  have counted := engine.length_rows inetNtop msg enabled
  rw [if_neg unfiltered, List.map_eq_nil_iff.mp empty, List.length_nil] at counted
  omega

/-- The row of a record with a lifetime shows it, whatever came before. -/
theorem rttl_of_record {rr : DNSRR} {k : Nat} {word : UInt32} (record : r.rrs[k]? = some rr)
    (lifetime : rr.ttl = some word) :
    Exists fun statement => (logsqliteLog inetNtop engine (some msg))[k]? = some statement ∧
      columnValue "rttl" statement = some (.ofInt (toInt32 word)) := by
  have nonempty : 0 < r.rrs.length := Nat.zero_lt_of_lt (List.getElem?_eq_some_iff.mp record).1
  have given : (r.rrs.map (RecordColumn.rttl.supplied inetNtop))[k]? =
      some (some (.ofInt (toInt32 word))) := by
    rw [List.getElem?_map, record]
    simp only [Option.map_some, RecordColumn.supplied, lifetime]
  have read : (carried (RecordColumn.rttl.read (messageVars inetNtop msg))
      (r.rrs.map (RecordColumn.rttl.supplied inetNtop)))[k]? = some (.ofInt (toInt32 word)) :=
    getElem?_carried given
  rw [← read_recordRows, List.getElem?_map] at read
  rcases Option.map_eq_some_iff.mp read with ⟨vars, here, same⟩
  refine ⟨prepareSql vars, ?_, ?_⟩
  · rw [logsqliteLog, rows_eq enabled unfiltered present, if_pos nonempty, List.getElem?_map, here]
    rfl
  · rw [← same]
    exact columnValue_read vars .rttl

theorem ts_of_statement {statement : Bytes} {word : UInt32}
    (member : statement ∈ logsqliteLog inetNtop engine (some msg))
    (field : msg.timesec = some word) :
    columnValue "ts" statement = some (.ofInt (toInt32 word)) := by
  rcases List.mem_map.mp member with ⟨vars, row, rfl⟩
  have same := congrArg SqlVars.ts (message_of_mem_rows enabled unfiltered present row)
  have value : (messageVars inetNtop msg).ts = toInt32 word := by
    simp only [messageVars, field]
  rw [columnValue_ts]
  exact congrArg (some ∘ SqlValue.ofInt) (same.trans value)

theorem id_of_statement {statement : Bytes} {word : UInt32}
    (member : statement ∈ logsqliteLog inetNtop engine (some msg)) (field : msg.id = some word) :
    columnValue "id" statement = some (.ofInt (toInt32 word)) := by
  rcases List.mem_map.mp member with ⟨vars, row, rfl⟩
  have same := congrArg SqlVars.msgid (message_of_mem_rows enabled unfiltered present row)
  have value : (messageVars inetNtop msg).msgid = toInt32 word := by
    simp only [messageVars, field]
  rw [columnValue_id]
  exact congrArg (some ∘ SqlValue.ofInt) (same.trans value)

/-- The sqlite engine writes unsigned literals exactly when the words are in the
lower half of the range. -/
theorem rowNumerals_iff :
    RowNumerals (logsqliteLog inetNtop engine (some msg)) msg r ↔
      Below (2 ^ 31) msg.timesec ∧ Below (2 ^ 31) msg.id ∧
        forall rr, rr ∈ r.rrs -> Below (2 ^ 31) rr.ttl := by
  constructor
  · intro numerals
    rcases List.exists_mem_of_ne_nil _ (statements_ne_nil enabled unfiltered) with
      ⟨statement, member⟩
    refine ⟨?_, ?_, ?_⟩
    · intro word field
      have shows := ts_of_statement enabled unfiltered present member field
      exact (unsigned_iff_of_shows shows).mp (numerals.ts statement member word field)
    · intro word field
      have shows := id_of_statement enabled unfiltered present member field
      exact (unsigned_iff_of_shows shows).mp (numerals.id statement member word field)
    · intro rr record word field
      rcases List.mem_iff_getElem?.mp record with ⟨k, place⟩
      rcases rttl_of_record enabled unfiltered present place field with ⟨row, here, shows⟩
      exact (unsigned_iff_of_shows shows).mp (numerals.rttl k rr row place here word field)
  · rintro ⟨smallTime, smallId, smallTtl⟩
    refine ⟨?_, ?_, ?_⟩
    · intro statement member word field
      have shows := ts_of_statement enabled unfiltered present member field
      exact (unsigned_iff_of_shows shows).mpr (smallTime word field)
    · intro statement member word field
      have shows := id_of_statement enabled unfiltered present member field
      exact (unsigned_iff_of_shows shows).mpr (smallId word field)
    · intro k rr statement place here word field
      rcases rttl_of_record enabled unfiltered present place field with ⟨row, there, shows⟩
      cases Option.some.inj (here.symm.trans there)
      have small := smallTtl rr (List.mem_of_getElem? place) word field
      exact (unsigned_iff_of_shows shows).mpr small

end Rows

/-! ## The three engines -/

/-- The words of a message are written as unsigned numerals exactly as long as
every one of them is below `2 ^ 31`.  Each engine is held to the words it
writes: all three kinds in the rows, identifier and lifetimes on the lines, and
no lifetimes where an assertion ends the call before the records. -/
theorem unsigned_numerals_iff (build : Build) (inetNtop : InetNtop) (sqlite : Sqlite)
    (file : Logfile) (system : Syslog) (msg : PBDNSMessage) (r : DNSResponse)
    (present : msg.response = some r) :
    (sqlite.disabled = false -> ¬ Filtered sqlite.rewritesOnly msg ->
      (RowNumerals (logsqliteLog inetNtop sqlite (some msg)) msg r ↔
        Below (2 ^ 31) msg.timesec ∧ Below (2 ^ 31) msg.id ∧
          forall rr, rr ∈ r.rrs -> Below (2 ^ 31) rr.ttl)) ∧
    (file.disabled = false -> ¬ Filtered file.rewritesOnly msg ->
      (LineNumerals build (file.ops inetNtop (some msg)) msg r ↔
        Below (2 ^ 31) msg.id ∧
          (¬ Stopped build msg -> forall rr, rr ∈ r.rrs -> Below (2 ^ 31) rr.ttl))) ∧
    (system.disabled = false -> ¬ Filtered system.rewritesOnly msg ->
      (LineNumerals build (system.ops inetNtop (some msg)) msg r ↔
        Below (2 ^ 31) msg.id ∧
          (¬ Stopped build msg -> forall rr, rr ∈ r.rrs -> Below (2 ^ 31) rr.ttl))) := by
  refine ⟨?_, ?_, ?_⟩
  · intro enabled unfiltered
    exact rowNumerals_iff enabled unfiltered present
  · intro enabled unfiltered
    exact lineNumerals_iff build inetNtop file enabled unfiltered present
  · intro enabled unfiltered
    have twin := lineNumerals_iff build inetNtop ⟨system.disabled, system.rewritesOnly, true⟩
      enabled unfiltered present
    rw [ops_eq _ system inetNtop (some msg) rfl rfl] at twin
    exact twin

theorem unsigned_numerals_iff_rewrittenAnswer :
    Exists fun r => rewrittenAnswer.response = some r ∧
      RowNumerals (logsqliteLog rewrittenAnswerAddresses ⟨false, true⟩ (some rewrittenAnswer))
        rewrittenAnswer r ∧
      LineNumerals .debug
        (Logfile.ops ⟨false, true, true⟩ rewrittenAnswerAddresses (some rewrittenAnswer))
        rewrittenAnswer r ∧
      LineNumerals .debug
        (Syslog.ops ⟨false, true⟩ rewrittenAnswerAddresses (some rewrittenAnswer))
        rewrittenAnswer r := by
  refine ⟨_, rfl, ?_⟩
  have numerals := unsigned_numerals_iff .debug rewrittenAnswerAddresses ⟨false, true⟩
    ⟨false, true, true⟩ ⟨false, true⟩ rewrittenAnswer _ rfl
  have time : Below (2 ^ 31) rewrittenAnswer.timesec := by
    rintro word ⟨⟩
    decide
  have identifier : Below (2 ^ 31) rewrittenAnswer.id := by
    rintro word ⟨⟩
    decide
  have lifetimes : forall rr, rr ∈ (rewrittenAnswer.response.map DNSResponse.rrs).getD [] ->
      Below (2 ^ 31) rr.ttl := by
    intro rr member
    rcases List.mem_cons.mp member with rfl | member
    · rintro word ⟨⟩
      decide
    · cases List.mem_singleton.mp member
      rintro word ⟨⟩
      decide
  refine ⟨?_, ?_, ?_⟩
  · exact (numerals.1 rfl (by decide)).mpr ⟨time, identifier, lifetimes⟩
  · exact (numerals.2.1 rfl (by decide)).mpr ⟨identifier, fun _ => lifetimes⟩
  · exact (numerals.2.2 rfl (by decide)).mpr ⟨identifier, fun _ => lifetimes⟩

/-- A message of the year 2038 with the largest identifier and lifetime. -/
def lateMessage : PBDNSMessage where
  timesec := some 2147483648
  from_ := none
  id := some 4294967295
  question := none
  response := some ⟨none, [⟨none, none, none, some 4294967295, none⟩], none⟩
  originalrequestorsubnet := none

def lateAnswer : DNSResponse :=
  ⟨none, [⟨none, none, none, some 4294967295, none⟩], none⟩

/-- Its words are negative in the row and on both lines. -/
theorem late_message_negative :
    (Exists fun statement =>
      statement ∈ logsqliteLog rewrittenAnswerAddresses ⟨false, false⟩ (some lateMessage) ∧
      columnValue "ts" statement = some (.integer true (ascii "2147483648")) ∧
      columnValue "id" statement = some (.integer true (ascii "1")) ∧
      columnValue "rttl" statement = some (.integer true (ascii "1"))) ∧
    fieldValues (ascii "QID: ") (reached .debug
      (Logfile.ops ⟨false, false, true⟩ rewrittenAnswerAddresses (some lateMessage))) =
        [ascii "-1"] ∧
    fieldValues (ascii "rttl-") (reached .debug
      (Logfile.ops ⟨false, false, true⟩ rewrittenAnswerAddresses (some lateMessage))) =
        [ascii "-1"] ∧
    ¬ RowNumerals (logsqliteLog rewrittenAnswerAddresses ⟨false, false⟩ (some lateMessage))
        lateMessage lateAnswer ∧
    ¬ LineNumerals .debug
        (Logfile.ops ⟨false, false, true⟩ rewrittenAnswerAddresses (some lateMessage))
        lateMessage lateAnswer ∧
    ¬ LineNumerals .debug
        (Syslog.ops ⟨false, false⟩ rewrittenAnswerAddresses (some lateMessage))
        lateMessage lateAnswer := by
  refine ⟨⟨_, List.mem_cons_self, ?_, ?_, ?_⟩, ?_, ?_, ?_, ?_, ?_⟩
  · rw [columnValue_ts]
    decide +kernel
  · rw [columnValue_id]
    decide +kernel
  · rw [show columnValue "rttl" _ = _ from columnValue_read _ .rttl]
    decide +kernel
  · decide +kernel
  · decide +kernel
  · intro numerals
    have small := (rowNumerals_iff rfl (by decide) rfl).mp numerals
    exact absurd (small.1 2147483648 rfl) (by decide)
  · intro numerals
    exact absurd numerals.qid (by decide +kernel)
  · intro numerals
    exact absurd numerals.qid (by decide +kernel)

end Engines
end PdnsLogger
