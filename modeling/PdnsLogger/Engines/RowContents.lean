import PdnsLogger.Foundation.CarriedValues
import PdnsLogger.Engines.Agreement

namespace PdnsLogger
namespace Engines

open Foundation Program

/-!
# What a row says

A row is read back from its statement: `columnValue` parses the text and looks
up the value under a column.  Nothing about the variables of `logsqlite_log`
enters into it.

Of the five columns that belong to a record, its name is always assigned.  The
other four are assigned only where the record has the field, and keep the value
of an earlier record otherwise.  Column by column this is the pattern of
`carried`, and the results of that theory apply: every row describes its own
record, in whatever order the records come, exactly when no record lacks a
field that another one fills with something other than the default.

`describedRows` says the same of all columns at once, from the fields of the
message, and `logsqliteLog_parses` compares the statements with it.
-/

def columnValue (column : String) (statement : Bytes) : Option SqlValue :=
  (parseInsert (tokenize statement)).bind fun insert =>
    insert.values[insert.columns.idxOf (ascii column)]?

/-- The columns of a row that belong to its record. -/
def recordColumns : List String :=
  ["rname", "rtype", "rclass", "rttl", "rdata"]

def messageColumns : List String :=
  ["ts", "querier", "id", "qtype", "qclass", "qname", "rcode", "rcount", "policy"]

def withRecords (msg : PBDNSMessage) (r : DNSResponse) (rrs : List DNSRR) : PBDNSMessage :=
  { msg with response := some { r with rrs := rrs } }

/-- The statements for a message describe its records one by one. -/
structure RowsDescribeRecords (inetNtop : InetNtop) (engine : Sqlite) (msg : PBDNSMessage)
    (r : DNSResponse) : Prop where
  counted : (logsqliteLog inetNtop engine (some msg)).length = r.rrs.length
  own : forall (k : Nat) rr statement, r.rrs[k]? = some rr ->
    (logsqliteLog inetNtop engine (some msg))[k]? = some statement ->
    Exists fun single =>
      logsqliteLog inetNtop engine (some (withRecords msg r [rr])) = [single] ∧
      forall column, column ∈ recordColumns ->
        columnValue column statement = columnValue column single
  shared : forall column, column ∈ messageColumns -> forall first second,
    first ∈ logsqliteLog inetNtop engine (some msg) ->
    second ∈ logsqliteLog inetNtop engine (some msg) ->
    columnValue column first = columnValue column second
  permuted : forall rrs : List DNSRR, rrs.Perm r.rrs ->
    (logsqliteLog inetNtop engine (some (withRecords msg r rrs))).Perm
      (logsqliteLog inetNtop engine (some msg))

/-! ## The columns of a record -/

/-- The columns of a record that are filled only where it has the field. -/
inductive RecordColumn where
  | rtype
  | rclass
  | rttl
  | rdata
  deriving DecidableEq, Repr

namespace RecordColumn

def name : RecordColumn -> String
  | rtype => "rtype"
  | rclass => "rclass"
  | rttl => "rttl"
  | rdata => "rdata"

/-- The value of a column that nothing has been assigned to. -/
def default : RecordColumn -> SqlValue
  | rtype => .text []
  | rclass => .text []
  | rttl => .ofInt 0
  | rdata => .text []

def read : RecordColumn -> SqlVars -> SqlValue
  | rtype, vars => .text (orEmpty vars.rtype).bytes
  | rclass, vars => .text (orEmpty vars.rclass).bytes
  | rttl, vars => .ofInt vars.rttl
  | rdata, vars => .text (orEmpty vars.rdata).bytes

/-- The value that a record fills a column with, when it has the field. -/
def supplied : RecordColumn -> InetNtop -> DNSRR -> Option SqlValue
  | rtype, _, rr => rr.type.map fun type => .text (orEmpty (pdnsLoggerType2p type)).bytes
  | rclass, _, rr => rr.class_.map fun class_ => .text (orEmpty (pdnsLoggerClass2p class_)).bytes
  | rttl, _, rr => rr.ttl.map fun ttl => .ofInt (toInt32 ttl)
  | rdata, inetNtop, rr => rr.rdata.map fun rdata =>
      if rr.type = some 1 ∧ rdata.len = 4 then .text (inetNtop .inet rdata.data).bytes
      else if rr.type = some 28 ∧ rdata.len = 16 then .text (inetNtop .inet6 rdata.data).bytes
      else if rr.type = some 2 ∨ rr.type = some 5 ∨ rr.type = some 6 ∨ rr.type = some 15 then
        .text (orEmpty rdata.asCString).bytes
      else .text (ascii "[Not Supported]")

end RecordColumn

/-- No record lacks a field that another one fills with something other than
the default. -/
def NothingToCarry (inetNtop : InetNtop) (r : DNSResponse) : Prop :=
  forall (column : RecordColumn) lacking supplying value,
    lacking ∈ r.rrs -> supplying ∈ r.rrs -> column.supplied inetNtop lacking = none ->
    column.supplied inetNtop supplying = some value -> value = column.default

/-! ## Rows of variables -/

theorem read_recordVars (inetNtop : InetNtop) (vars : SqlVars) (rr : DNSRR)
    (column : RecordColumn) :
    column.read (recordVars inetNtop vars rr) =
      (column.supplied inetNtop rr).getD (column.read vars) := by
  cases column with
  | rtype =>
      simp only [RecordColumn.read, RecordColumn.supplied, recordVars]
      cases rr.type <;> rfl
  | rclass =>
      simp only [RecordColumn.read, RecordColumn.supplied, recordVars]
      cases rr.class_ <;> rfl
  | rttl =>
      simp only [RecordColumn.read, RecordColumn.supplied, recordVars]
      cases rr.ttl <;> rfl
  | rdata =>
      simp only [RecordColumn.read, RecordColumn.supplied, recordVars]
      cases rr.rdata with
      | none => rfl
      | some rdata =>
          simp only [Option.map_some, Option.getD_some]
          split
          · rfl
          · split
            · rfl
            · split <;> rfl

/-- The loop over the records carries each column along. -/
theorem read_recordRows (inetNtop : InetNtop) (vars : SqlVars) (rrs : List DNSRR)
    (column : RecordColumn) :
    (recordRows inetNtop vars rrs).map column.read =
      carried (column.read vars) (rrs.map (column.supplied inetNtop)) := by
  induction rrs generalizing vars with
  | nil => rfl
  | cons rr rrs ih =>
      rw [recordRows, List.map_cons, List.map_cons, carried, ih, read_recordVars]

def SqlVars.message (vars : SqlVars) : SqlVars :=
  { vars with rname := none, rtype := none, rclass := none, rttl := 0, rdata := none }

theorem message_recordVars (inetNtop : InetNtop) (vars : SqlVars) (rr : DNSRR) :
    (recordVars inetNtop vars rr).message = vars.message := rfl

theorem message_recordRows (inetNtop : InetNtop) (vars : SqlVars) (rrs : List DNSRR) :
    (recordRows inetNtop vars rrs).map SqlVars.message = rrs.map fun _ => vars.message := by
  induction rrs generalizing vars with
  | nil => rfl
  | cons rr rrs ih => rw [recordRows, List.map_cons, List.map_cons, ih, message_recordVars]

theorem rname_recordRows (inetNtop : InetNtop) (vars : SqlVars) (rrs : List DNSRR) :
    (recordRows inetNtop vars rrs).map SqlVars.rname = rrs.map DNSRR.name := by
  induction rrs generalizing vars with
  | nil => rfl
  | cons rr rrs ih =>
      rw [recordRows, List.map_cons, List.map_cons, ih]
      rfl

theorem prepareSql_congr {first second : SqlVars} (message : first.message = second.message)
    (rname : first.rname = second.rname)
    (columns : forall column : RecordColumn, column.read first = column.read second) :
    prepareSql first = prepareSql second := by
  have rtype : orEmpty first.rtype = orEmpty second.rtype :=
    CString.ext (SqlValue.text.inj (columns .rtype))
  have rclass : orEmpty first.rclass = orEmpty second.rclass :=
    CString.ext (SqlValue.text.inj (columns .rclass))
  have rttl : first.rttl = second.rttl := SqlValue.ofInt_injective (columns .rttl)
  have rdata : orEmpty first.rdata = orEmpty second.rdata :=
    CString.ext (SqlValue.text.inj (columns .rdata))
  simp only [SqlVars.message, SqlVars.mk.injEq] at message
  simp only [prepareSql, rname, rtype, rclass, rttl, rdata, message]

theorem map_prepareSql_congr {first second : List SqlVars}
    (message : first.map SqlVars.message = second.map SqlVars.message)
    (rname : first.map SqlVars.rname = second.map SqlVars.rname)
    (columns : forall column : RecordColumn, first.map column.read = second.map column.read) :
    first.map prepareSql = second.map prepareSql := by
  induction first generalizing second with
  | nil =>
      rw [List.map_eq_nil_iff.mp message.symm]
  | cons row rows ih =>
      cases second with
      | nil => cases message
      | cons row' rows' =>
          simp only [List.map_cons, List.cons.injEq] at message rname columns ⊢
          refine ⟨prepareSql_congr message.1 rname.1 fun column => (columns column).1, ?_⟩
          exact ih message.2 rname.2 fun column => (columns column).2

/-! ## Statements of a call -/

section Calls

variable {inetNtop : InetNtop} {engine : Sqlite} {msg : PBDNSMessage} {r : DNSResponse}

/-- A message with records that is logged makes one statement per record. -/
theorem logsqliteLog_eq (enabled : engine.disabled = false) (present : msg.response = some r)
    (passes : ¬ (engine.rewritesOnly = true ∧ zstr r.appliedpolicy = true)) (some_record : r.rrs ≠ []) :
    logsqliteLog inetNtop engine (some msg) =
      (recordRows inetNtop (messageVars inetNtop msg) r.rrs).map prepareSql := by
  have unfiltered : ¬ Filtered engine.rewritesOnly msg := by
    simpa [Filtered, present] using passes
  have nonempty : 0 < r.rrs.length := List.length_pos_iff.mpr some_record
  rw [logsqliteLog, Sqlite.rows, enabled, if_neg Bool.false_ne_true, guarded_eq,
    if_neg unfiltered]
  simp only [present, if_pos nonempty]

/-- Only the number of records enters the other columns. -/
theorem messageVars_withRecords (present : msg.response = some r) {rrs : List DNSRR}
    (length : rrs.length = r.rrs.length) :
    messageVars inetNtop (withRecords msg r rrs) = messageVars inetNtop msg := by
  simp only [messageVars, withRecords, present, length]
  rfl

theorem read_messageVars (inetNtop : InetNtop) (msg : PBDNSMessage) (column : RecordColumn) :
    column.read (messageVars inetNtop msg) = column.default := by
  cases column <;> rfl

/-- The names of the columns, which are the same in every statement. -/
def columnNames : List Bytes :=
  ["ts", "querier", "id", "qtype", "qclass", "qname", "rcode", "rcount", "rname", "rtype",
    "rclass", "rttl", "rdata", "policy"].map ascii

theorem columnValue_prepareSql (column : String) (vars : SqlVars) :
    columnValue column (prepareSql vars) =
      (vars.assignments.map Prod.snd)[columnNames.idxOf (ascii column)]? := by
  rw [columnValue, prepareSql_parses]
  rfl

theorem columnValue_read (vars : SqlVars) (column : RecordColumn) :
    columnValue column.name (prepareSql vars) = some (column.read vars) := by
  rw [columnValue_prepareSql]
  cases column with
  | rtype =>
      rw [show columnNames.idxOf (ascii RecordColumn.rtype.name) = 9 by decide]
      rfl
  | rclass =>
      rw [show columnNames.idxOf (ascii RecordColumn.rclass.name) = 10 by decide]
      rfl
  | rttl =>
      rw [show columnNames.idxOf (ascii RecordColumn.rttl.name) = 11 by decide]
      rfl
  | rdata =>
      rw [show columnNames.idxOf (ascii RecordColumn.rdata.name) = 12 by decide]
      rfl

/-- Statements of the same message agree in the columns that belong to it. -/
theorem columnValue_message {first second : SqlVars} (same : first.message = second.message)
    {column : String} (member : column ∈ messageColumns) :
    columnValue column (prepareSql first) = columnValue column (prepareSql second) := by
  have places : forall name, name ∈ messageColumns ->
      columnNames.idxOf (ascii name) ∈ [0, 1, 2, 3, 4, 5, 6, 7, 13] := by
    decide
  have shared : forall vars : SqlVars,
      columnValue column (prepareSql vars) = columnValue column (prepareSql vars.message) := by
    intro vars
    rw [columnValue_prepareSql, columnValue_prepareSql]
    have place := places column member
    simp only [List.mem_cons, List.not_mem_nil, or_false] at place
    rcases place with here | here | here | here | here | here | here | here | here <;>
      rw [here] <;> rfl
  rw [shared first, shared second, same]

theorem columnValue_record {first second : SqlVars} (rname : first.rname = second.rname)
    (columns : forall column : RecordColumn, column.read first = column.read second)
    {column : String} (member : column ∈ recordColumns) :
    columnValue column (prepareSql first) = columnValue column (prepareSql second) := by
  simp only [recordColumns, List.mem_cons, List.not_mem_nil, or_false] at member
  rcases member with rfl | rfl | rfl | rfl | rfl
  · rw [columnValue_prepareSql, columnValue_prepareSql,
      show columnNames.idxOf (ascii "rname") = 8 by decide]
    change some (SqlValue.text (orEmpty first.rname).bytes) =
      some (SqlValue.text (orEmpty second.rname).bytes)
    rw [rname]
  · exact (columnValue_read first .rtype).trans
      ((congrArg some (columns .rtype)).trans (columnValue_read second .rtype).symm)
  · exact (columnValue_read first .rclass).trans
      ((congrArg some (columns .rclass)).trans (columnValue_read second .rclass).symm)
  · exact (columnValue_read first .rttl).trans
      ((congrArg some (columns .rttl)).trans (columnValue_read second .rttl).symm)
  · exact (columnValue_read first .rdata).trans
      ((congrArg some (columns .rdata)).trans (columnValue_read second .rdata).symm)

theorem filterMap_columnValue (rows : List SqlVars) (column : RecordColumn) :
    (rows.map prepareSql).filterMap (columnValue column.name) = rows.map column.read := by
  have read : columnValue column.name ∘ prepareSql = some ∘ column.read := by
    funext vars
    rw [Function.comp_apply, Function.comp_apply, columnValue_read]
  rw [List.filterMap_map, read, List.filterMap_eq_map]

end Calls

/-! ## Rows and records -/

section Rows

variable {inetNtop : InetNtop} {engine : Sqlite} {msg : PBDNSMessage} {r : DNSResponse}
  (enabled : engine.disabled = false) (present : msg.response = some r)
  (passes : ¬ (engine.rewritesOnly = true ∧ zstr r.appliedpolicy = true))

/-- With nothing to carry, each statement is made from its own record. -/
theorem map_prepareSql_of_nothingToCarry (vars : SqlVars) {rrs : List DNSRR}
    (bare : forall column : RecordColumn, column.read vars = column.default)
    (nothing : forall (column : RecordColumn) lacking supplying value,
      lacking ∈ rrs -> supplying ∈ rrs -> column.supplied inetNtop lacking = none ->
      column.supplied inetNtop supplying = some value -> value = column.default) :
    (recordRows inetNtop vars rrs).map prepareSql =
      rrs.map fun rr => prepareSql (recordVars inetNtop vars rr) := by
  have separate : (rrs.map (recordVars inetNtop vars)).map prepareSql =
      rrs.map fun rr => prepareSql (recordVars inetNtop vars rr) := List.map_map
  rw [← separate]
  apply map_prepareSql_congr
  · rw [message_recordRows, List.map_map]
    rfl
  · rw [rname_recordRows, List.map_map]
    rfl
  · intro column
    rw [read_recordRows, bare, carried_eq_map, List.map_map, List.map_map]
    · apply List.map_congr_left
      intro rr _
      rw [Function.comp_apply, Function.comp_apply, read_recordVars, bare]
    · intro missing
      rcases List.mem_map.mp missing with ⟨lacking, lacks, absent⟩
      refine ⟨rfl, ?_⟩
      intro value supplied
      rcases List.mem_map.mp supplied with ⟨supplying, supplies, given⟩
      exact nothing column lacking supplying value lacks supplies absent given

include enabled passes

theorem logsqliteLog_withRecords {rrs : List DNSRR} (some_record : rrs ≠ []) :
    logsqliteLog inetNtop engine (some (withRecords msg r rrs)) =
      (recordRows inetNtop (messageVars inetNtop (withRecords msg r rrs)) rrs).map prepareSql := by
  exact logsqliteLog_eq (r := { r with rrs := rrs }) enabled rfl passes some_record

include present

/-- A row that describes its own record carries nothing over. -/
theorem carried_of_rowsDescribeRecords (some_record : r.rrs ≠ [])
    (described : RowsDescribeRecords inetNtop engine msg r) (column : RecordColumn) :
    carried column.default (r.rrs.map (column.supplied inetNtop)) =
      (r.rrs.map (column.supplied inetNtop)).map fun value => value.getD column.default := by
  have logged : logsqliteLog inetNtop engine (some msg) =
      (recordRows inetNtop (messageVars inetNtop msg) r.rrs).map prepareSql :=
    logsqliteLog_eq enabled present passes some_record
  rw [← read_messageVars inetNtop msg, ← read_recordRows]
  apply List.ext_getElem?
  intro k
  rw [List.getElem?_map, List.getElem?_map, List.getElem?_map]
  cases here : r.rrs[k]? with
  | none =>
      have beyond : (recordRows inetNtop (messageVars inetNtop msg) r.rrs)[k]? = none := by
        rw [List.getElem?_eq_none_iff, length_recordRows]
        exact List.getElem?_eq_none_iff.mp here
      rw [beyond]
      rfl
  | some rr =>
      have inside : k < (recordRows inetNtop (messageVars inetNtop msg) r.rrs).length := by
        rw [length_recordRows]
        exact (List.getElem?_eq_some_iff.mp here).1
      have row := List.getElem?_eq_getElem inside
      rcases described.own k rr (prepareSql (recordRows inetNtop (messageVars inetNtop msg) r.rrs)[k])
        here (by rw [logged, List.getElem?_map, row]; rfl) with ⟨single, alone, same⟩
      have made : logsqliteLog inetNtop engine (some (withRecords msg r [rr])) = _ :=
        logsqliteLog_withRecords enabled passes (List.cons_ne_nil rr [])
      have listed : column.name ∈ recordColumns := by
        cases column <;> decide
      have equal := same column.name listed
      rw [alone] at made
      rw [(List.cons.inj made).1, columnValue_read, columnValue_read, read_recordVars] at equal
      rw [row, Option.map_some, Option.map_some, Option.map_some, equal, read_messageVars,
        read_messageVars]

/-- Reordering the records only reorders what the statements say. -/
theorem carried_perm_of_rowsDescribeRecords (some_record : r.rrs ≠ [])
    (described : RowsDescribeRecords inetNtop engine msg r) (column : RecordColumn)
    {rrs : List DNSRR} (reordered : rrs.Perm r.rrs) :
    (carried column.default (rrs.map (column.supplied inetNtop))).Perm
      (carried column.default (r.rrs.map (column.supplied inetNtop))) := by
  have nonempty : rrs ≠ [] := by
    intro empty
    rw [empty] at reordered
    exact some_record reordered.nil_eq.symm
  have statements := (described.permuted rrs reordered).filterMap (columnValue column.name)
  rw [logsqliteLog_withRecords enabled passes nonempty,
    logsqliteLog_eq enabled present passes some_record, filterMap_columnValue,
    filterMap_columnValue, read_recordRows, read_recordRows, read_messageVars,
    read_messageVars] at statements
  exact statements

theorem rowsDescribeRecords_of_nothingToCarry (some_record : r.rrs ≠ [])
    (nothing : NothingToCarry inetNtop r) : RowsDescribeRecords inetNtop engine msg r := by
  have logged : logsqliteLog inetNtop engine (some msg) =
      r.rrs.map fun rr => prepareSql (recordVars inetNtop (messageVars inetNtop msg) rr) :=
    (logsqliteLog_eq enabled present passes some_record).trans
      (map_prepareSql_of_nothingToCarry _ (read_messageVars inetNtop msg) nothing)
  constructor
  · rw [logged, List.length_map]
  · intro k rr statement here there
    rw [logged, List.getElem?_map, here, Option.map_some] at there
    refine ⟨_, logsqliteLog_withRecords enabled passes (List.cons_ne_nil rr []), ?_⟩
    intro column member
    rw [← Option.some.inj there]
    apply columnValue_record _ _ member
    · rfl
    · intro column
      rw [read_recordVars, read_recordVars, read_messageVars, read_messageVars]
  · intro column member first second firstMember secondMember
    rw [logged] at firstMember secondMember
    rcases List.mem_map.mp firstMember with ⟨rr, _, rfl⟩
    rcases List.mem_map.mp secondMember with ⟨rr', _, rfl⟩
    apply columnValue_message _ member
    rw [message_recordVars, message_recordVars]
  · intro rrs reordered
    have nonempty : rrs ≠ [] := by
      intro empty
      rw [empty] at reordered
      exact some_record reordered.nil_eq.symm
    rw [logsqliteLog_withRecords enabled passes nonempty, logged,
      messageVars_withRecords present reordered.length_eq,
      map_prepareSql_of_nothingToCarry _ (read_messageVars inetNtop msg)]
    · exact reordered.map _
    · intro column lacking supplying value lacks supplies
      exact nothing column lacking supplying value (reordered.mem_iff.mp lacks)
        (reordered.mem_iff.mp supplies)

end Rows

/-- For a message with records that is logged, every row describes its own
record and reordering the records reorders the rows, if and only if no record
lacks a type, class, ttl or data that another one has with a value other than
the default. -/
theorem rows_describe_records_iff (inetNtop : InetNtop) (engine : Sqlite) (msg : PBDNSMessage)
    (r : DNSResponse) (enabled : engine.disabled = false) (present : msg.response = some r)
    (passes : ¬ (engine.rewritesOnly = true ∧ zstr r.appliedpolicy = true))
    (some_record : r.rrs ≠ []) :
    RowsDescribeRecords inetNtop engine msg r ↔ NothingToCarry inetNtop r := by
  constructor
  · intro described column lacking supplying value lacks supplies missing given
    exact eq_default_of_permuted
      (carried_of_rowsDescribeRecords enabled present passes some_record described column)
      (fun rrs reordered =>
        carried_perm_of_rowsDescribeRecords enabled present passes some_record described column
          reordered)
      lacks supplies missing given
  · intro nothing
    exact rowsDescribeRecords_of_nothingToCarry enabled present passes some_record nothing

theorem rows_describe_records_iff_rewrittenAnswer :
    RowsDescribeRecords rewrittenAnswerAddresses ⟨false, true⟩ rewrittenAnswer
      (rewrittenAnswer.response.get rfl) := by
  apply (rows_describe_records_iff rewrittenAnswerAddresses ⟨false, true⟩ rewrittenAnswer _
    rfl rfl (by decide) (by decide)).mpr
  intro column lacking supplying value lacks _ missing
  have complete : forall rr, rr ∈ (rewrittenAnswer.response.get rfl).rrs ->
      column.supplied rewrittenAnswerAddresses rr ≠ none := by
    cases column <;> decide
  exact absurd missing (complete lacking lacks)

/-- Two records, the second without a time to live. -/
def partialAnswer : PBDNSMessage :=
  { rewrittenAnswer with
    response := some
      { rcode := some 0
        rrs :=
          [⟨some (.literal "example.com."), some 1, some 1, some 60, some ⟨[10, 0, 0, 1], []⟩⟩,
            ⟨some (.literal "example.com."), some 1, some 1, none, some ⟨[10, 0, 0, 1], []⟩⟩]
        appliedpolicy := some (.literal "DBL") } }

/-- The row of the second record shows the time to live of the first; alone it
shows zero. -/
theorem second_row_keeps_first_ttl :
    (logsqliteLog rewrittenAnswerAddresses ⟨false, true⟩ (some partialAnswer)).map
        (columnValue "rttl") = [some (.ofInt 60), some (.ofInt 60)] ∧
      ¬ RowsDescribeRecords rewrittenAnswerAddresses ⟨false, true⟩ partialAnswer
        (partialAnswer.response.get rfl) := by
  constructor
  · have statements : logsqliteLog rewrittenAnswerAddresses ⟨false, true⟩ (some partialAnswer) = _ :=
      logsqliteLog_eq (r := partialAnswer.response.get rfl) rfl rfl (by decide) (by decide)
    have reads : forall vars, columnValue "rttl" (prepareSql vars) =
        some (RecordColumn.rttl.read vars) := fun vars => columnValue_read vars .rttl
    simp only [statements, List.map_map, Function.comp_def, reads]
    rfl
  · intro described
    have nothing := carried_of_rowsDescribeRecords rfl rfl (by decide) (by decide) described .rttl
    revert nothing
    decide +kernel

/-! ## Rows read off the message

The same rows once more, described by the fields of the message alone.  There
is a row for every initial stretch of the records, and for a response without
records one for the empty stretch.  A row takes the name of the last record of
its stretch, and each other column of a record from the last one that fills
it. -/

/-- A text column: the string itself, and the empty string for a null pointer. -/
def textColumn (text : Option CString) : SqlValue :=
  .text (text.elim [] CString.bytes)

/-- The querier, for an address of four or sixteen bytes. -/
def querierText (inetNtop : InetNtop) (msg : PBDNSMessage) : Option CString :=
  msg.from_.bind fun addr =>
    if addr.len = 4 then some (inetNtop .inet addr.data)
    else if addr.len = 16 then some (inetNtop .inet6 addr.data)
    else none

def RecordColumn.latest (column : RecordColumn) (inetNtop : InetNtop) (records : List DNSRR) :
    SqlValue :=
  (records.reverse.findSome? (column.supplied inetNtop)).getD column.default

def responseRecords (msg : PBDNSMessage) : List DNSRR :=
  (msg.response.map DNSResponse.rrs).getD []

/-- The columns of the row for a stretch of records.  Those of the message do not
depend on the stretch, and a null pointer is the empty text.  The count of the
records is cut to 32 bits as in the source. -/
def describedColumns (inetNtop : InetNtop) (msg : PBDNSMessage) (records : List DNSRR) :
    List (String × SqlValue) :=
  [("ts", .ofInt (msg.timesec.elim 0 toInt32)),
   ("querier", textColumn (querierText inetNtop msg)),
   ("id", .ofInt (msg.id.elim 0 toInt32)),
   ("qtype", textColumn ((msg.question.bind DNSQuestion.qtype).bind pdnsLoggerType2p)),
   ("qclass", textColumn ((msg.question.bind DNSQuestion.qclass).bind pdnsLoggerClass2p)),
   ("qname", textColumn (msg.question.bind DNSQuestion.qname)),
   ("rcode", textColumn ((msg.response.bind DNSResponse.rcode).bind pdnsLoggerRcode2p)),
   ("rcount", .ofInt (toInt32 (UInt32.ofNat (responseRecords msg).length))),
   ("rname", textColumn (records.getLast?.bind DNSRR.name)),
   ("rtype", RecordColumn.rtype.latest inetNtop records),
   ("rclass", RecordColumn.rclass.latest inetNtop records),
   ("rttl", RecordColumn.rttl.latest inetNtop records),
   ("rdata", RecordColumn.rdata.latest inetNtop records),
   ("policy", textColumn (msg.response.bind DNSResponse.appliedpolicy))]

/-- The columns of all rows for a message: one row for each stretch that ends with
a record, in the order of the records.  A message that the engine passes over has
no rows. -/
def describedRows (inetNtop : InetNtop) (engine : Sqlite) :
    Option PBDNSMessage -> List (List (String × SqlValue))
  | none => []
  | some msg =>
      if engine.disabled = true ∨ Filtered engine.rewritesOnly msg then []
      else if responseRecords msg = [] then [describedColumns inetNtop msg []]
      else (responseRecords msg).inits.tail.map (describedColumns inetNtop msg)

def insertInto (assignments : List (String × SqlValue)) : InsertStatement where
  table := ascii "logs"
  columns := assignments.map fun assignment => ascii assignment.1
  values := assignments.map Prod.snd

theorem textColumn_eq (text : Option CString) : textColumn text = .text (orEmpty text).bytes := by
  cases text <;> rfl

theorem assignments_messageVars (inetNtop : InetNtop) (msg : PBDNSMessage) :
    (messageVars inetNtop msg).assignments = describedColumns inetNtop msg [] := by
  have ts : (messageVars inetNtop msg).ts = msg.timesec.elim 0 toInt32 := by
    cases given : msg.timesec <;> simp [messageVars, given]
  have querier : (messageVars inetNtop msg).from_ = orEmpty (querierText inetNtop msg) := by
    unfold querierText
    cases given : msg.from_ with
    | none => simp [messageVars, given, orEmpty]
    | some addr =>
        simp only [messageVars, given, Option.bind_some]
        split
        · rfl
        · split <;> rfl
  have id : (messageVars inetNtop msg).msgid = msg.id.elim 0 toInt32 := by
    cases given : msg.id <;> simp [messageVars, given]
  have rcount : (messageVars inetNtop msg).rcount =
      toInt32 (UInt32.ofNat (responseRecords msg).length) := by
    cases given : msg.response with
    | none =>
        simp only [messageVars, responseRecords, given]
        rfl
    | some r => simp only [messageVars, responseRecords, given, Option.map_some, Option.getD_some]
  have policy : orEmpty (messageVars inetNtop msg).policy =
      orEmpty (msg.response.bind DNSResponse.appliedpolicy) := by
    -- an empty policy is stored as the empty string either way
    apply CString.ext
    cases given : msg.response.bind DNSResponse.appliedpolicy with
    | none => simp [messageVars, given, zstr, orEmpty]
    | some text =>
        by_cases empty : zstr (some text) = true
        · have nothing : text.bytes = [] := List.isEmpty_iff.mp empty
          simp [messageVars, given, empty, orEmpty, nothing]
          rfl
        · simp [messageVars, given, empty, orEmpty]
  simp only [SqlVars.assignments, describedColumns, textColumn_eq, ts, querier, id, rcount, policy]
  rfl

/-- A further record takes over the columns that it fills. -/
theorem RecordColumn.latest_append (column : RecordColumn) (inetNtop : InetNtop)
    (records : List DNSRR) (rr : DNSRR) :
    column.latest inetNtop (records ++ [rr]) =
      (column.supplied inetNtop rr).getD (column.latest inetNtop records) := by
  rw [latest, List.reverse_append, List.reverse_singleton, List.singleton_append,
    List.findSome?_cons]
  cases column.supplied inetNtop rr <;> rfl

theorem assignments_recordVars {inetNtop : InetNtop} {msg : PBDNSMessage} {vars : SqlVars}
    {records : List DNSRR} (described : vars.assignments = describedColumns inetNtop msg records)
    (rr : DNSRR) :
    (recordVars inetNtop vars rr).assignments =
      describedColumns inetNtop msg (records ++ [rr]) := by
  have read : forall column : RecordColumn, column.read vars = column.latest inetNtop records ->
      column.read (recordVars inetNtop vars rr) = column.latest inetNtop (records ++ [rr]) := by
    intro column same
    rw [read_recordVars, RecordColumn.latest_append, same]
  have name : textColumn ((records ++ [rr]).getLast?.bind DNSRR.name) =
      .text (orEmpty rr.name).bytes := by
    rw [List.getLast?_concat, Option.bind_some, textColumn_eq]
  simp only [SqlVars.assignments, describedColumns, List.cons.injEq, Prod.mk.injEq, true_and,
    and_true] at described ⊢
  rcases described with
    ⟨ts, querier, id, qtype, qclass, qname, rcode, rcount, -, rtype, rclass, rttl, rdata, policy⟩
  exact ⟨ts, querier, id, qtype, qclass, qname, rcode, rcount, name.symm, read .rtype rtype,
    read .rclass rclass, read .rttl rttl, read .rdata rdata, policy⟩

theorem assignments_recordRows {inetNtop : InetNtop} {msg : PBDNSMessage} {vars : SqlVars}
    {records : List DNSRR} (described : vars.assignments = describedColumns inetNtop msg records)
    (rrs : List DNSRR) :
    (recordRows inetNtop vars rrs).map SqlVars.assignments =
      rrs.inits.tail.map fun stretch => describedColumns inetNtop msg (records ++ stretch) := by
  induction rrs generalizing vars records with
  | nil => rfl
  | cons rr rrs ih =>
      have next := assignments_recordVars described rr
      have split : rrs.inits = [] :: rrs.inits.tail := by
        cases rrs <;> rfl
      rw [recordRows, List.map_cons, ih next, next, List.inits, List.tail_cons, List.map_map,
        split, List.map_cons]
      simp only [List.tail_cons, Function.comp_def, List.append_assoc, List.singleton_append]

theorem assignments_rows (inetNtop : InetNtop) (engine : Sqlite) (rawpb : Option PBDNSMessage) :
    (engine.rows inetNtop rawpb).map SqlVars.assignments =
      describedRows inetNtop engine rawpb := by
  unfold Sqlite.rows
  cases rawpb with
  | none => cases engine.disabled <;> rfl
  | some msg =>
      simp only [guarded_eq, describedRows]
      by_cases disabled : engine.disabled = true
      · rw [if_pos disabled, if_pos (.inl disabled)]
        rfl
      · rw [if_neg disabled]
        by_cases filtered : Filtered engine.rewritesOnly msg
        · rw [if_pos filtered, if_pos (.inr filtered)]
          rfl
        · rw [if_neg filtered, if_neg (not_or.mpr ⟨disabled, filtered⟩)]
          have start := assignments_messageVars inetNtop msg
          cases present : msg.response with
          | none => exact absurd (.inl present) filtered
          | some r =>
              have records : responseRecords msg = r.rrs := by
                rw [responseRecords, present]
                rfl
              dsimp only
              rw [records]
              by_cases some_record : 0 < r.rrs.length
              · rw [if_pos some_record, if_neg (List.length_pos_iff.mp some_record),
                  assignments_recordRows start]
                rfl
              · rw [if_neg some_record, if_pos (List.length_eq_zero_iff.mp (by omega)),
                  List.map_singleton, start]

/-- No message can inject SQL: the statements of a call are, one by one, single
`INSERT` statements of the variables collected for it, and what these insert is
read off the fields of the message. -/
theorem logsqliteLog_parses (inetNtop : InetNtop) (engine : Sqlite)
    (rawpb : Option PBDNSMessage) :
    (logsqliteLog inetNtop engine rawpb).map (fun statement => parseInsert (tokenize statement)) =
      ((engine.rows inetNtop rawpb).map fun vars => some vars.insert) ∧
    (logsqliteLog inetNtop engine rawpb).map (fun statement => parseInsert (tokenize statement)) =
      (describedRows inetNtop engine rawpb).map fun columns => some (insertInto columns) := by
  have parsed : (logsqliteLog inetNtop engine rawpb).map
      (fun statement => parseInsert (tokenize statement)) =
        (engine.rows inetNtop rawpb).map fun vars => some vars.insert := by
    rw [logsqliteLog, List.map_map]
    apply List.map_congr_left
    intro vars _member
    rw [Function.comp_apply, prepareSql_parses]
  refine ⟨parsed, ?_⟩
  rw [parsed, ← assignments_rows, List.map_map]
  rfl

end Engines
end PdnsLogger
