import PdnsLogger.Engines.TextLine

namespace PdnsLogger
namespace Engines

open Foundation Program

/-!
# The syslog engine

`syslog_log` of `pdns-logger-syslog.c`, block by block.  The body repeats that
of the log file engine in the source, and it is transcribed here from its own
file.  Only `write_log` differs: every line is passed to `syslog`.
-/

/-- The static variables of `pdns-logger-syslog.c` that `syslog_log` reads. -/
structure Syslog where
  disabled : Bool
  rewritesOnly : Bool
  deriving DecidableEq

namespace Syslog

/-- `QID` and `from`.  An address of any other length is passed over. -/
def headerOps (inetNtop : InetNtop) (msg : PBDNSMessage) : List TextOp :=
  whenPresent msg.id (fun id =>
    [.append [.text "QID: ", .d (toInt32 id), .text " "]]) ++
  whenPresent msg.from_ (fun addr =>
    if addr.len = 4 then
      [.append [.text "from: ", .s (some (inetNtop .inet addr.data)), .text " "]]
    else if addr.len = 16 then
      [.append [.text "from: ", .s (some (inetNtop .inet6 addr.data)), .text " "]]
    else [])

/-- The question, when there is one.  `qname` is printed unconditionally. -/
def questionOps (msg : PBDNSMessage) : List TextOp :=
  whenPresent msg.question fun q =>
    whenPresent q.qtype (fun qtype =>
      [.append [.text "qtype: ", .s (pdnsLoggerType2p qtype), .text " "]]) ++
    whenPresent q.qclass (fun qclass =>
      [.append [.text "qclass: ", .s (pdnsLoggerClass2p qclass), .text " "]]) ++
    [.append [.text "qname: ", .s q.qname, .text " "]]

def summaryOps (r : DNSResponse) : List TextOp :=
  whenPresent r.rcode (fun rcode =>
    [.append [.text "rcode: ", .s (pdnsLoggerRcode2p rcode), .text " "]]) ++
  [.append [.text "rrcount: ", .zu r.rrs.length, .text " "]] ++
  (if zstr r.appliedpolicy then []
    else [.append [.text "policy: '", .s r.appliedpolicy, .text "' "]])

def rdataOps (inetNtop : InetNtop) (t : Nat) (rr : DNSRR) (rdata : BinaryData) : List TextOp :=
  if rr.type = some 1 ∧ rdata.len = 4 then
    [.append [.text "rdata-", counter t, .text ": ", .s (some (inetNtop .inet rdata.data)),
      .text " "]]
  else if rr.type = some 28 ∧ rdata.len = 16 then
    [.append [.text "rdata-", counter t, .text ": ", .s (some (inetNtop .inet6 rdata.data)),
      .text " "]]
  else if rr.type = some 2 ∨ rr.type = some 5 ∨ rr.type = some 6 ∨ rr.type = some 15 then
    [.append [.text "rdata-", counter t, .text ": ", .s rdata.asCString, .text " "]]
  else
    [.append [.text "rdata (not supported) "]]

def recordOps (inetNtop : InetNtop) (t : Nat) (rr : DNSRR) : List TextOp :=
  [.append [.text "rname-", counter t, .text ": ", .s rr.name, .text " "]] ++
  whenPresent rr.type (fun type =>
    [.append [.text "rtype-", counter t, .text ": ", .s (pdnsLoggerType2p type), .text " "]]) ++
  whenPresent rr.class_ (fun class_ =>
    [.append [.text "rclass-", counter t, .text ": ", .s (pdnsLoggerClass2p class_),
      .text " "]]) ++
  whenPresent rr.ttl (fun ttl =>
    [.append [.text "rttl-", counter t, .text ": ", .d (toInt32 ttl), .text " "]]) ++
  whenPresent rr.rdata (rdataOps inetNtop t rr)

/-- The loop over the records from number `t` on.  Every record writes the
line as it stands, and the line is not reset in between. -/
def recordsOps (inetNtop : InetNtop) : Nat -> List DNSRR -> List TextOp
  | _, [] => []
  | t, rr :: rrs => recordOps inetNtop t rr ++ [.writeLog] ++ recordsOps inetNtop (t + 1) rrs

/-- The response part, including the branch for an absent response. -/
def responseOps (inetNtop : InetNtop) (msg : PBDNSMessage) : List TextOp :=
  match msg.response with
  | some r =>
      summaryOps r ++
      (if 0 < r.rrs.length then recordsOps inetNtop 1 r.rrs else [.writeLog])
  | none => [.writeLog]

def ops (engine : Syslog) (inetNtop : InetNtop) (rawpb : Option PBDNSMessage) : List TextOp :=
  if engine.disabled then []
  else match rawpb with
    | none => []
    | some msg =>
        if msg.response.isNone then []
        else if engine.rewritesOnly && zstr (msg.response.bind DNSResponse.appliedpolicy) then []
        else
          headerOps inetNtop msg ++
          whenPresent msg.originalrequestorsubnet (fun _ => [.assertZero]) ++
          questionOps msg ++
          responseOps inetNtop msg

end Syslog

/-- `syslog_log`: the strings it passes to `syslog`. -/
def syslogLog (build : Build) (inetNtop : InetNtop) (engine : Syslog)
    (rawpb : Option PBDNSMessage) : Except Fault (List Bytes) := do
  let line ← execute build .syslogLog true (engine.ops inetNtop rawpb) .start
  return line.lines

end Engines
end PdnsLogger
