import PdnsLogger.Engines.Agreement

namespace PdnsLogger
namespace Engines

open Foundation Program

/-!
# Dispatch to the engines

`pdns_loggers_log` calls the `log` function of every registered engine in
registration order: log file, syslog, sqlite.  The statuses of the engines are
ignored.  What a message adds to the outside world is collected in `Output`;
for the sqlite engine this is the sequence of statements handed to
`fifo_push_item`, whose own behaviour is the subject of the queue.
-/

structure Registered where
  logfile : Logfile
  syslog : Syslog
  sqlite : Sqlite
  deriving DecidableEq

structure Output where
  file : List Bytes
  system : List Bytes
  statements : List Bytes
  deriving DecidableEq

def pdnsLoggersLog (build : Build) (inetNtop : InetNtop) (engines : Registered)
    (pbm : PBDNSMessage) (output : Output) : Except Fault Output := do
  let file ← logfileLog build inetNtop engines.logfile (some pbm)
  let system ← syslogLog build inetNtop engines.syslog (some pbm)
  let statements := logsqliteLog inetNtop engines.sqlite (some pbm)
  return ⟨output.file ++ file, output.system ++ system, output.statements ++ statements⟩

/-- Some enabled text engine performs its `assert(0)` for this message. -/
def Trips (engines : Registered) (pbm : PBDNSMessage) : Prop :=
  pbm.originalrequestorsubnet ≠ none ∧
    ((engines.logfile.disabled = false ∧ ¬ Filtered engines.logfile.rewritesOnly pbm) ∨
      (engines.syslog.disabled = false ∧ ¬ Filtered engines.syslog.rewritesOnly pbm))

instance (engines : Registered) (pbm : PBDNSMessage) : Decidable (Trips engines pbm) :=
  inferInstanceAs (Decidable (_ ∧ _))

theorem Syslog.assertZero_mem_ops_iff (engine : Syslog) (inetNtop : InetNtop)
    (msg : PBDNSMessage) :
    TextOp.assertZero ∈ engine.ops inetNtop (some msg) ↔
      engine.disabled = false ∧ ¬ Filtered engine.rewritesOnly msg ∧
        msg.originalrequestorsubnet ≠ none := by
  rw [← ops_eq ⟨engine.disabled, engine.rewritesOnly, true⟩ engine inetNtop (some msg) rfl rfl,
    Logfile.assertZero_mem_ops_iff]

/-- Dispatch faults exactly when assertions are compiled in and some enabled
text engine reaches its own; the sqlite engine never faults. -/
theorem pdnsLoggersLog_cases (build : Build) (inetNtop : InetNtop) (engines : Registered)
    (pbm : PBDNSMessage) (output : Output) :
    (build = .debug ∧ Trips engines pbm ∧
      (pdnsLoggersLog build inetNtop engines pbm output = .error (.assertion .logfileLog) ∨
        pdnsLoggersLog build inetNtop engines pbm output = .error (.assertion .syslogLog))) ∨
    (¬ (build = .debug ∧ Trips engines pbm) ∧
      Exists fun final => pdnsLoggersLog build inetNtop engines pbm output = .ok final) := by
  by_cases fileTrips : build = .debug ∧
      TextOp.assertZero ∈ engines.logfile.ops inetNtop (some pbm)
  · have reached := (Logfile.assertZero_mem_ops_iff _ _ _).mp fileTrips.2
    refine .inl ⟨fileTrips.1, ⟨reached.2.2, .inl ⟨reached.1, reached.2.1⟩⟩, .inl ?_⟩
    simp only [pdnsLoggersLog, logfileLog, execute_eq, if_pos fileTrips, bind, Except.bind]
  · by_cases systemTrips : build = .debug ∧
        TextOp.assertZero ∈ engines.syslog.ops inetNtop (some pbm)
    · have reached := (Syslog.assertZero_mem_ops_iff _ _ _).mp systemTrips.2
      refine .inl ⟨systemTrips.1, ⟨reached.2.2, .inr ⟨reached.1, reached.2.1⟩⟩, .inr ?_⟩
      simp only [pdnsLoggersLog, logfileLog, syslogLog, execute_eq, if_neg fileTrips,
        if_pos systemTrips, bind, Except.bind, pure, Except.pure]
    · refine .inr ⟨?_, ?_⟩
      · rintro ⟨debug, subnet, fileSide | systemSide⟩
        · exact fileTrips ⟨debug, (Logfile.assertZero_mem_ops_iff _ _ _).mpr
            ⟨fileSide.1, fileSide.2, subnet⟩⟩
        · exact systemTrips ⟨debug, (Syslog.assertZero_mem_ops_iff _ _ _).mpr
            ⟨systemSide.1, systemSide.2, subnet⟩⟩
      · simp only [pdnsLoggersLog, logfileLog, syslogLog, execute_eq, if_neg fileTrips,
          if_neg systemTrips, bind, Except.bind, pure, Except.pure]
        exact ⟨_, rfl⟩

end Engines
end PdnsLogger
