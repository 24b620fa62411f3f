import PdnsLogger.Foundation.SqlText
import PdnsLogger.Program.DnsNames

namespace PdnsLogger
namespace Engines

open Foundation Program

/-!
# The statements of the sqlite engine

`logsqlite_log` collects the fields of a message in local variables and turns
them into one `INSERT` statement per resource record, or into a single one for
a response without records.  Each statement is handed to `fifo_push_item`.

Five of the variables belong to the current record but are declared outside
the loop and assigned under guards.  `recordVars` therefore maps the variables
left by the previous record to those of the next one.

The format, its arguments and the column list stay three separate lists, as
in the source.  `prepareSql_parses` shows that they line up, and that no text
in a field can leave its literal.
-/

/-- The static variables of `pdns-logger-sqlite.c` that `logsqlite_log` reads. -/
structure Sqlite where
  disabled : Bool
  rewritesOnly : Bool
  deriving DecidableEq

/-- The local variables read by `prepare_sql`. -/
structure SqlVars where
  ts : Int
  from_ : CString
  msgid : Int
  qtype : Option CString
  qclass : Option CString
  qname : Option CString
  rcode : Option CString
  rcount : Int
  rname : Option CString
  rtype : Option CString
  rclass : Option CString
  rttl : Int
  rdata : Option CString
  policy : Option CString
  deriving DecidableEq

def sqlInsert : Bytes :=
  ascii "INSERT INTO logs (" ++
  ascii "  ts, querier, id, qtype, qclass, qname, rcode, rcount, rname, rtype, rclass, rttl, rdata, policy " ++
  ascii ") VALUES (" ++
  ascii "  %ld, '%q', %d, '%q', '%q', '%q', '%q', %d, '%q', '%q', '%q', %ld, '%q', '%q'  " ++
  ascii ")"

/-- `p ? p : ""`. -/
def orEmpty (pointer : Option CString) : CString :=
  pointer.getD (.literal "")

def prepareSql (vars : SqlVars) : Bytes :=
  sqlite3Mprintf sqlInsert
    [.int vars.ts,
     .str (if zstr (some vars.from_) then .literal "" else vars.from_),
     .int vars.msgid,
     .str (orEmpty vars.qtype),
     .str (orEmpty vars.qclass),
     .str (orEmpty vars.qname),
     .str (orEmpty vars.rcode),
     .int vars.rcount,
     .str (orEmpty vars.rname),
     .str (orEmpty vars.rtype),
     .str (orEmpty vars.rclass),
     .int vars.rttl,
     .str (orEmpty vars.rdata),
     .str (orEmpty vars.policy)]

/-- The variables before the loop over the records. -/
def messageVars (inetNtop : InetNtop) (msg : PBDNSMessage) : SqlVars where
  ts := match msg.timesec with
    | some timesec => toInt32 timesec
    | none => 0
  from_ := match msg.from_ with
    | some addr =>
        if addr.len = 4 then inetNtop .inet addr.data
        else if addr.len = 16 then inetNtop .inet6 addr.data
        else .literal ""
    | none => .literal ""
  msgid := match msg.id with
    | some id => toInt32 id
    | none => 0
  qtype := (msg.question.bind DNSQuestion.qtype).bind pdnsLoggerType2p
  qclass := (msg.question.bind DNSQuestion.qclass).bind pdnsLoggerClass2p
  qname := msg.question.bind DNSQuestion.qname
  rcode := (msg.response.bind DNSResponse.rcode).bind pdnsLoggerRcode2p
  rcount := match msg.response with
    | some r => toInt32 (UInt32.ofNat r.rrs.length)
    | none => 0
  rname := none
  rtype := none
  rclass := none
  rttl := 0
  rdata := none
  policy :=
    let appliedpolicy := msg.response.bind DNSResponse.appliedpolicy
    if zstr appliedpolicy then none else appliedpolicy

/-- The variables after the assignments for one record.  A variable whose
guard fails keeps its value from before. -/
def recordVars (inetNtop : InetNtop) (vars : SqlVars) (rr : DNSRR) : SqlVars :=
  { vars with
    rname := rr.name
    rtype := match rr.type with
      | some type => pdnsLoggerType2p type
      | none => vars.rtype
    rclass := match rr.class_ with
      | some class_ => pdnsLoggerClass2p class_
      | none => vars.rclass
    rttl := match rr.ttl with
      | some ttl => toInt32 ttl
      | none => vars.rttl
    rdata := match rr.rdata with
      | some rdata =>
          if rr.type = some 1 ∧ rdata.len = 4 then some (inetNtop .inet rdata.data)
          else if rr.type = some 28 ∧ rdata.len = 16 then some (inetNtop .inet6 rdata.data)
          else if rr.type = some 2 ∨ rr.type = some 5 ∨ rr.type = some 6 ∨ rr.type = some 15 then
            rdata.asCString
          else some (.literal "[Not Supported]")
      | none => vars.rdata }

/-- The variables at each `prepare_sql` of the loop over the records. -/
def recordRows (inetNtop : InetNtop) : SqlVars -> List DNSRR -> List SqlVars
  | _, [] => []
  | vars, rr :: rrs =>
      recordVars inetNtop vars rr :: recordRows inetNtop (recordVars inetNtop vars rr) rrs

/-- The variables at each `prepare_sql` of a call. -/
def Sqlite.rows (engine : Sqlite) (inetNtop : InetNtop) (rawpb : Option PBDNSMessage) :
    List SqlVars :=
  if engine.disabled then []
  else match rawpb with
    | none => []
    | some msg =>
        if msg.response.isNone then []
        else if engine.rewritesOnly && zstr (msg.response.bind DNSResponse.appliedpolicy) then []
        else match msg.response with
          | some r =>
              if 0 < r.rrs.length then recordRows inetNtop (messageVars inetNtop msg) r.rrs
              else [messageVars inetNtop msg]
          | none => [messageVars inetNtop msg]

/-- `logsqlite_log`: the statements it hands to `fifo_push_item`, in order. -/
def logsqliteLog (inetNtop : InetNtop) (engine : Sqlite) (rawpb : Option PBDNSMessage) :
    List Bytes :=
  (engine.rows inetNtop rawpb).map prepareSql

/-! ## What a statement says -/

/-- The column of each variable and the value it stands for. -/
def SqlVars.assignments (vars : SqlVars) : List (String × SqlValue) :=
  [("ts", .ofInt vars.ts),
   ("querier", .text vars.from_.bytes),
   ("id", .ofInt vars.msgid),
   ("qtype", .text (orEmpty vars.qtype).bytes),
   ("qclass", .text (orEmpty vars.qclass).bytes),
   ("qname", .text (orEmpty vars.qname).bytes),
   ("rcode", .text (orEmpty vars.rcode).bytes),
   ("rcount", .ofInt vars.rcount),
   ("rname", .text (orEmpty vars.rname).bytes),
   ("rtype", .text (orEmpty vars.rtype).bytes),
   ("rclass", .text (orEmpty vars.rclass).bytes),
   ("rttl", .ofInt vars.rttl),
   ("rdata", .text (orEmpty vars.rdata).bytes),
   ("policy", .text (orEmpty vars.policy).bytes)]

def SqlVars.insert (vars : SqlVars) : InsertStatement where
  table := ascii "logs"
  columns := vars.assignments.map fun assignment => ascii assignment.1
  values := vars.assignments.map Prod.snd

/-- `!zstr(from) ? from : ""` is `from` itself. -/
private theorem querier_eq (from_ : CString) :
    (if zstr (some from_) then CString.literal "" else from_) = from_ := by
  by_cases empty : zstr (some from_) = true
  · rw [if_pos empty]
    apply CString.ext
    exact (List.isEmpty_iff.mp empty).symm
  · rw [if_neg empty]

/-- The part of the format before its first conversion. -/
private def openingText : Bytes :=
  ascii "INSERT INTO logs (" ++
  ascii "  ts, querier, id, qtype, qclass, qname, rcode, rcount, rname, rtype, rclass, rttl, rdata, policy " ++
  ascii ") VALUES (  "

private theorem sqlInsert_eq :
    sqlInsert = openingText ++
      ascii "%ld" ++ ascii ", '" ++
      ascii "%q" ++ ascii "', " ++
      ascii "%d" ++ ascii ", '" ++
      ascii "%q" ++ ascii "', '" ++
      ascii "%q" ++ ascii "', '" ++
      ascii "%q" ++ ascii "', '" ++
      ascii "%q" ++ ascii "', " ++
      ascii "%d" ++ ascii ", '" ++
      ascii "%q" ++ ascii "', '" ++
      ascii "%q" ++ ascii "', '" ++
      ascii "%q" ++ ascii "', " ++
      ascii "%ld" ++ ascii ", '" ++
      ascii "%q" ++ ascii "', '" ++
      ascii "%q" ++ ascii "'  )" := by
  decide +kernel

private theorem prepareSql_eq (vars : SqlVars) :
    prepareSql vars = openingText ++
      signedDecimal vars.ts ++ ascii ", '" ++
      doubleQuotes vars.from_.bytes ++ ascii "', " ++
      signedDecimal vars.msgid ++ ascii ", '" ++
      doubleQuotes (orEmpty vars.qtype).bytes ++ ascii "', '" ++
      doubleQuotes (orEmpty vars.qclass).bytes ++ ascii "', '" ++
      doubleQuotes (orEmpty vars.qname).bytes ++ ascii "', '" ++
      doubleQuotes (orEmpty vars.rcode).bytes ++ ascii "', " ++
      signedDecimal vars.rcount ++ ascii ", '" ++
      doubleQuotes (orEmpty vars.rname).bytes ++ ascii "', '" ++
      doubleQuotes (orEmpty vars.rtype).bytes ++ ascii "', '" ++
      doubleQuotes (orEmpty vars.rclass).bytes ++ ascii "', " ++
      signedDecimal vars.rttl ++ ascii ", '" ++
      doubleQuotes (orEmpty vars.rdata).bytes ++ ascii "', '" ++
      doubleQuotes (orEmpty vars.policy).bytes ++ ascii "'  )" := by
  rw [prepareSql, querier_eq, sqlInsert_eq]
  simp only [List.append_assoc, sqlite3Mprintf_ld, sqlite3Mprintf_d, sqlite3Mprintf_q,
    sqlite3Mprintf_text (show (37 : UInt8) ∉ openingText by decide +kernel),
    sqlite3Mprintf_text (show (37 : UInt8) ∉ ascii ", '" by decide),
    sqlite3Mprintf_text (show (37 : UInt8) ∉ ascii "', " by decide),
    sqlite3Mprintf_text (show (37 : UInt8) ∉ ascii "', '" by decide),
    sqlite3Mprintf_end (show (37 : UInt8) ∉ ascii "'  )" by decide)]

/-! The literal stretches between two arguments close what comes before them
and open what comes after. -/

private theorem feedAll_int_string (tokens : List SqlToken) (value : Int) (rest : Bytes) :
    (Lexer.mk .between tokens).feedAll (signedDecimal value ++ (ascii ", '" ++ rest)) =
      (Lexer.mk (.string []) (tokens ++ signTokens value ++
        [.number (decimal value.natAbs)] ++ [.symbol 44])).feedAll rest := by
  rw [Lexer.feedAll_append, Lexer.feedAll_signedDecimal, Lexer.feedAll_append]
  rfl

private theorem feedAll_string_string (tokens : List SqlToken) (content rest : Bytes) :
    (Lexer.mk (.string []) tokens).feedAll (doubleQuotes content ++ (ascii "', '" ++ rest)) =
      (Lexer.mk (.string []) (tokens ++ [.string content] ++ [.symbol 44])).feedAll rest := by
  rw [Lexer.feedAll_append, Lexer.feedAll_doubleQuotes, Lexer.feedAll_append]
  rfl

private theorem feedAll_string_int (tokens : List SqlToken) (content rest : Bytes) :
    (Lexer.mk (.string []) tokens).feedAll (doubleQuotes content ++ (ascii "', " ++ rest)) =
      (Lexer.mk .between (tokens ++ [.string content] ++ [.symbol 44])).feedAll rest := by
  rw [Lexer.feedAll_append, Lexer.feedAll_doubleQuotes, Lexer.feedAll_append]
  rfl

private theorem feedAll_string_end (tokens : List SqlToken) (content : Bytes) :
    (Lexer.mk (.string []) tokens).feedAll (doubleQuotes content ++ ascii "'  )") =
      Lexer.mk .between (tokens ++ [.string content] ++ [.symbol 41]) := by
  rw [Lexer.feedAll_append, Lexer.feedAll_doubleQuotes]
  rfl

/-- The tokens of the opening text: the table and the fourteen columns. -/
private def openingTokens : List SqlToken :=
  [.word (ascii "INSERT"), .word (ascii "INTO"), .word (ascii "logs"), .symbol 40,
   .word (ascii "ts"), .symbol 44, .word (ascii "querier"), .symbol 44,
   .word (ascii "id"), .symbol 44, .word (ascii "qtype"), .symbol 44,
   .word (ascii "qclass"), .symbol 44, .word (ascii "qname"), .symbol 44,
   .word (ascii "rcode"), .symbol 44, .word (ascii "rcount"), .symbol 44,
   .word (ascii "rname"), .symbol 44, .word (ascii "rtype"), .symbol 44,
   .word (ascii "rclass"), .symbol 44, .word (ascii "rttl"), .symbol 44,
   .word (ascii "rdata"), .symbol 44, .word (ascii "policy"), .symbol 41,
   .word (ascii "VALUES"), .symbol 40]

private theorem feedAll_openingText :
    (Lexer.mk .between []).feedAll (openingText) = ⟨.between, openingTokens⟩ := by
  decide +kernel

private theorem parseInsert_openingTokens {rest : List SqlToken} {values : List SqlValue}
    (parsed : parseValues rest = some (values, [])) (vars : SqlVars) :
    parseInsert (openingTokens ++ rest) =
      some { vars.insert with values := values } := by
  apply parseInsert_of_parts _ parsed
  rfl

/-- Whatever bytes the fields contain, a statement is one `INSERT` of exactly
these values under exactly these columns. -/
theorem prepareSql_parses (vars : SqlVars) :
    parseInsert (tokenize (prepareSql vars)) = some vars.insert := by
  rw [tokenize, prepareSql_eq]
  simp only [List.append_assoc]
  rw [Lexer.feedAll_append, feedAll_openingText]
  simp only [feedAll_int_string, feedAll_string_string, feedAll_string_int, feedAll_string_end,
    Lexer.finish, List.append_assoc, List.cons_append, List.nil_append]
  refine parseInsert_openingTokens ?_ vars
  simp only [parseValues_int, parseValues_text]
  rfl

end Engines
end PdnsLogger
