import PdnsLogger.Lifecycle.Resources

namespace PdnsLogger
namespace Lifecycle

open Foundation Program Engines

/-!
# The options of the engines

Each engine reads the configuration with its own handler when it is started.
The log file and sqlite engines end up with the last value of every option.
The handler of the syslog engine recognizes `ident` and `facility` and does
nothing with them, so that `openlog` is always called with the built-in values.

The reference is `configured`, which looks at the triples alone.  For the two
options of `openlog` it is compared with the arguments of that call.
-/

variable {Row : Type}

/-- Triples of another section, or with a name not listed, change nothing. -/
def Ignores {Options : Type} (handler : Options -> Triple -> Options) (section_ : String)
    (names : List String) : Prop :=
  forall triple : Triple,
    (triple.section_ ≠ .literal section_ ∨ triple.name ∉ names.map CString.literal) ->
    forall options, handler options triple = options

/-- After the engines are started with these triples, every option has the
meaning of its last value, or its default. -/
structure OptionsTakeEffect (delivered : List Triple) (state : Loggers Row) : Prop where
  logfile : state.logfile =
    ⟨configured "logfile" "logfile" some none delivered,
      configured "logfile" "force-flush" flag false delivered,
      configured "logfile" "only-rewrites" flag true delivered,
      configured "logfile" "disabled" flag false delivered⟩
  openlog : forall ident facility, state.openlog = some (ident, facility) ->
    ident = configured "syslog" "ident" id (.literal "pdns-logger") delivered ∧
      facility = configured "syslog" "facility" logfacilityLookup 24 delivered
  syslogRewritesOnly : state.syslog.rewritesOnly =
    configured "syslog" "only-rewrites" flag true delivered
  syslogDisabled : state.syslog.disabled = configured "syslog" "disabled" flag false delivered
  sqlite : state.sqlite =
    ⟨configured "sqlite3" "dbfile" some none delivered,
      configured "sqlite3" "only-rewrites" flag true delivered,
      configured "sqlite3" "disabled" flag false delivered,
      configured "sqlite3" "autocommit" flag true delivered⟩
  foreign :
    Ignores logfileOptHandler "logfile" ["logfile", "force-flush", "only-rewrites", "disabled"] ∧
    Ignores syslogOptHandler "syslog"
      ["ident", "facility", "level", "only-rewrites", "disabled"] ∧
    Ignores sqliteOptHandler "sqlite3" ["dbfile", "only-rewrites", "disabled", "autocommit"]

/-! ## What each start leaves in the options -/

section Starts

variable {inifile : Inifile} (named : zstr inifile.path = false)
include named

theorem logfileInit_options (fopen : Bool) (state : Loggers Row) :
    Exists fun fp => (state.logfileInit inifile fopen).2 =
      { state with logfile := inifile.read logfileOptHandler state.logfile, fp := fp } := by
  simp only [Loggers.logfileInit, named, Bool.false_eq_true, if_false]
  split
  · exact ⟨_, rfl⟩
  · split
    · exact ⟨_, rfl⟩
    · split
      · exact ⟨_, rfl⟩
      · split
        · exact ⟨_, rfl⟩
        · exact ⟨_, rfl⟩

/-- `openlog` is called when the file parses and the engine is not disabled. -/
theorem syslogInit_options {state : Loggers Row} (defaults : state.syslog = .defaults)
    (unopened : state.openlog = none) :
    (state.syslogInit inifile).2 =
      { state with
        syslog := inifile.read syslogOptHandler .defaults
        openlog :=
          if inifile.error = 0 ∧
              configured "syslog" "disabled" flag false inifile.delivered = false then
            some (.literal "pdns-logger", 24)
          else none } := by
  have options : inifile.read syslogOptHandler .defaults =
      ⟨some (.literal "pdns-logger"), .literal "daemon",
        configured "syslog" "only-rewrites" flag true inifile.delivered,
        configured "syslog" "disabled" flag false inifile.delivered⟩ :=
    foldl_syslogOptHandler inifile.delivered .defaults
  have ident : zstr (some (.literal "pdns-logger")) = false := by decide
  have facility : logfacilityLookup (.literal "daemon") = 24 := by decide
  simp only [Loggers.syslogInit, named, defaults, options, ident, facility, Bool.false_eq_true,
    if_false]
  by_cases failed : inifile.error = 0
  · cases disabled : configured "syslog" "disabled" flag false inifile.delivered with
    | false => simp [failed]
    | true => simp [failed, unopened]
  · simp [failed, unopened]

theorem logsqliteInit_options (world : World Row) (answers : StartAnswers)
    (state : Loggers Row) :
    (state.logsqliteInit world inifile answers).2.logfile = state.logfile ∧
      (state.logsqliteInit world inifile answers).2.syslog = state.syslog ∧
      (state.logsqliteInit world inifile answers).2.openlog = state.openlog ∧
      (state.logsqliteInit world inifile answers).2.sqlite =
        inifile.read sqliteOptHandler state.sqlite := by
  simp only [Loggers.logsqliteInit, named, Bool.false_eq_true, if_false]
  split
  · exact ⟨rfl, rfl, rfl, rfl⟩
  · split
    · exact ⟨rfl, rfl, rfl, rfl⟩
    · split
      · exact ⟨rfl, rfl, rfl, rfl⟩
      · exact ⟨rfl, rfl, rfl, rfl⟩

theorem loggersInitialize_options (world : World Row) (answers : StartAnswers) :
    (Loggers.initial.loggersInitialize world inifile answers).2.logfile =
        inifile.read logfileOptHandler .defaults ∧
      (Loggers.initial.loggersInitialize world inifile answers).2.syslog =
        inifile.read syslogOptHandler .defaults ∧
      (Loggers.initial.loggersInitialize world inifile answers).2.sqlite =
        inifile.read sqliteOptHandler .defaults ∧
      (Loggers.initial.loggersInitialize world inifile answers).2.openlog =
        if inifile.error = 0 ∧
            configured "syslog" "disabled" flag false inifile.delivered = false then
          some (.literal "pdns-logger", 24)
        else none := by
  simp only [Loggers.loggersInitialize]
  rcases logfileInit_options named answers.fopen (Loggers.initial : Loggers Row) with ⟨fp, file⟩
  rw [file, syslogInit_options named rfl rfl]
  rcases logsqliteInit_options named world answers _ with ⟨logfile, syslog, openlog, sqlite⟩
  rw [logfile, syslog, openlog, sqlite]
  exact ⟨rfl, rfl, rfl, rfl⟩

end Starts

/-! ## The options as configured -/

theorem handlers_ignore_foreign :
    Ignores logfileOptHandler "logfile" ["logfile", "force-flush", "only-rewrites", "disabled"] ∧
    Ignores syslogOptHandler "syslog"
      ["ident", "facility", "level", "only-rewrites", "disabled"] ∧
    Ignores sqliteOptHandler "sqlite3" ["dbfile", "only-rewrites", "disabled", "autocommit"] := by
  refine ⟨?_, ?_, ?_⟩
  · intro triple foreign options
    exact optHandler_frame foreign options
  · intro triple foreign options
    exact optHandler_frame foreign options
  · intro triple foreign options
    exact optHandler_frame foreign options

/-- What `openlog` is given is configured: the identification is left out or is
the built-in one, and so is the facility, perhaps under another name. -/
def OpenlogBuiltIn (delivered : List Triple) : Prop :=
  (forall ident, lastValue "syslog" "ident" delivered = some ident ->
    ident = .literal "pdns-logger") ∧
  (forall facility, lastValue "syslog" "facility" delivered = some facility ->
    logfacilityLookup facility = 24)

/-- An option with a built-in value has it exactly when no other one is given. -/
theorem eq_configured_iff {Value : Type} {section_ name : String} {meaning : CString -> Value}
    {default : Value} {delivered : List Triple} :
    default = configured section_ name meaning default delivered ↔
      forall value, lastValue section_ name delivered = some value -> meaning value = default := by
  unfold configured
  cases lastValue section_ name delivered with
  | none => simp
  | some value => simp [eq_comm]

/-- All options of the engines take effect, the last value winning and the
sections apart, if and only if `openlog` is not called or `ident` and
`facility` ask for what is built in. -/
theorem options_take_effect_iff (world : World Row) (inifile : Inifile) (answers : StartAnswers)
    (named : zstr inifile.path = false) :
    OptionsTakeEffect inifile.delivered
        (Loggers.initial.loggersInitialize world inifile answers).2 ↔
      (inifile.error = 0 ->
        configured "syslog" "disabled" flag false inifile.delivered = false ->
        OpenlogBuiltIn inifile.delivered) := by
  rcases loggersInitialize_options named world answers with ⟨logfile, syslog, sqlite, openlog⟩
  have system := foldl_syslogOptHandler inifile.delivered .defaults
  have builtIn : OpenlogBuiltIn inifile.delivered ↔
      CString.literal "pdns-logger" = configured "syslog" "ident" id (.literal "pdns-logger")
          inifile.delivered ∧
        24 = configured "syslog" "facility" logfacilityLookup 24 inifile.delivered := by
    rw [eq_configured_iff, eq_configured_iff]
    rfl
  constructor
  · intro effect parsed enabled
    rw [if_pos ⟨parsed, enabled⟩] at openlog
    exact builtIn.mpr (effect.openlog _ _ openlog)
  · intro asked
    refine ⟨?_, ?_, ?_, ?_, ?_, handlers_ignore_foreign⟩
    · rw [logfile]
      exact foldl_logfileOptHandler inifile.delivered .defaults
    · intro ident facility called
      rw [openlog] at called
      split at called
      next reached =>
        cases called
        exact builtIn.mp (asked reached.1 reached.2)
      next => cases called
    · rw [syslog]
      exact congrArg SyslogOptions.rewritesOnly system
    · rw [syslog]
      exact congrArg SyslogOptions.disabled system
    · rw [sqlite]
      exact foldl_sqliteOptHandler inifile.delivered .defaults

/-- Options of all three engines, some of them twice and one in a foreign
section. -/
def severalOptions : Inifile where
  path := some (.literal "pdns-logger.ini")
  delivered :=
    [⟨.literal "logfile", .literal "logfile", .literal "first.log"⟩,
      ⟨.literal "logfile", .literal "logfile", .literal "second.log"⟩,
      ⟨.literal "globals", .literal "disabled", .literal "1"⟩,
      ⟨.literal "syslog", .literal "facility", .literal "daemon"⟩,
      ⟨.literal "sqlite3", .literal "autocommit", .literal "0"⟩]
  error := 0

theorem options_take_effect_iff_severalOptions :
    OptionsTakeEffect severalOptions.delivered
        (Loggers.initial.loggersInitialize plainWorld severalOptions granted).2 ∧
      (Loggers.initial.loggersInitialize plainWorld severalOptions granted).2.logfile.file =
        some (.literal "second.log") := by
  refine ⟨?_, by decide⟩
  apply (options_take_effect_iff plainWorld severalOptions granted rfl).mpr
  intro _ _
  constructor
  · intro ident impossible
    cases impossible
  · rintro facility ⟨⟩
    decide

/-- The facility of the documented configuration, and an identification. -/
def syslogFacility : Inifile where
  path := some (.literal "pdns-logger.ini")
  delivered :=
    [⟨.literal "syslog", .literal "disabled", .literal "0"⟩,
      ⟨.literal "syslog", .literal "ident", .literal "resolver"⟩,
      ⟨.literal "syslog", .literal "facility", .literal "syslog"⟩]
  error := 0

/-- Both are passed over: `openlog` gets the built-in identification and
`LOG_DAEMON` in the place of `LOG_SYSLOG`. -/
theorem syslog_options_ignored :
    (Loggers.initial.loggersInitialize plainWorld syslogFacility granted).2.openlog =
        some (.literal "pdns-logger", 24) ∧
      configured "syslog" "ident" id (.literal "pdns-logger") syslogFacility.delivered =
        .literal "resolver" ∧
      configured "syslog" "facility" logfacilityLookup 24 syslogFacility.delivered = 40 ∧
      ¬ OptionsTakeEffect syslogFacility.delivered
        (Loggers.initial.loggersInitialize plainWorld syslogFacility granted).2 := by
  have called : (Loggers.initial.loggersInitialize plainWorld syslogFacility granted).2.openlog =
      some (.literal "pdns-logger", 24) := by decide
  refine ⟨called, by decide, by decide, ?_⟩
  intro effect
  have same := (effect.openlog _ _ called).2
  revert same
  decide

end Lifecycle
end PdnsLogger
