import PdnsLogger.Program.Basic

namespace PdnsLogger
namespace Program

open Foundation

/-!
# Configuration

The INI parser hands every name with its section and value to a handler.  The
main program and each engine parse the same file with a handler of their own,
named `opt_handler` in all four files.  The handlers share one shape: pass over
a triple with an empty part, compare the section, then go through the names of
the section in order.  `optHandler` is that shape and each handler gives it a
section and a table of names; a name that a handler recognizes and ignores has
an entry that changes nothing.

Numbers are read with `atoi`.  Its result is that of `strtol`, which stops at
the limits of a 64-bit `long`, cut down to 32 bits.
-/

/-- What the parser delivers for one line. -/
structure Triple where
  section_ : CString
  name : CString
  value : CString
  deriving DecidableEq

/-- A run of `ini_parse`: the path, the triples delivered to the handler, and
the value returned. -/
structure Inifile where
  path : Option CString
  delivered : List Triple
  error : Int
  deriving DecidableEq

/-! ## Numbers -/

/-- `isspace` in the C locale. -/
def isspace (byte : UInt8) : Bool :=
  byte == 32 || (9 ≤ byte && byte ≤ 13)

def isdigit (byte : UInt8) : Bool :=
  48 ≤ byte && byte ≤ 57

/-- The value of the leading digits. -/
def leadingNumber (bytes : Bytes) : Nat :=
  (bytes.takeWhile isdigit).foldl (fun number digit => 10 * number + (digit.toNat - 48)) 0

/-- `strtol` in base ten. -/
def strtol (text : CString) : Int :=
  let value : Int :=
    match text.bytes.dropWhile isspace with
    | 45 :: digits => -(leadingNumber digits : Int)
    | 43 :: digits => leadingNumber digits
    | digits => leadingNumber digits
  max (-2 ^ 63) (min value (2 ^ 63 - 1))

def atoi (text : CString) : Int :=
  (strtol text).bmod (2 ^ 32)

/-- `atoi(value) ? 1 : 0`. -/
def flag (value : CString) : Bool :=
  atoi value != 0

/-! ## Handlers -/

/-- A name of a section, with what its value does. -/
structure Setting (Options : Type) where
  name : String
  assign : CString -> Options -> Options

/-- The common shape of the handlers. -/
def optHandler {Options : Type} (section_ : String) (settings : List (Setting Options))
    (options : Options) (triple : Triple) : Options :=
  if zstr (some triple.section_) || zstr (some triple.name) || zstr (some triple.value) then
    options
  else if triple.section_ = .literal section_ then
    match settings.find? fun setting => decide (triple.name = .literal setting.name) with
    | some setting => setting.assign triple.value options
    | none => options
  else options

def Inifile.read {Options : Type} (inifile : Inifile) (handler : Options -> Triple -> Options)
    (defaults : Options) : Options :=
  inifile.delivered.foldl handler defaults

structure Globals where
  bindIp : Option CString
  bindPort : Int
  allowRoot : Bool
  foreground : Bool
  deriving DecidableEq

/-- `opt_handler` of `pdns-logger-ini.c`. -/
def globalsOptHandler : Globals -> Triple -> Globals :=
  optHandler "globals"
    [⟨"bind-ip", fun value options => { options with bindIp := some value }⟩,
      ⟨"bind-port", fun value options => { options with bindPort := atoi value }⟩,
      ⟨"allow-root", fun value options => { options with allowRoot := flag value }⟩,
      ⟨"foreground", fun value options => { options with foreground := flag value }⟩]

structure LogfileOptions where
  file : Option CString
  forceFlush : Bool
  rewritesOnly : Bool
  disabled : Bool
  deriving DecidableEq

def LogfileOptions.defaults : LogfileOptions :=
  ⟨none, false, true, false⟩

/-- `opt_handler` of `pdns-logger-file.c`. -/
def logfileOptHandler : LogfileOptions -> Triple -> LogfileOptions :=
  optHandler "logfile"
    [⟨"logfile", fun value options => { options with file := some value }⟩,
      ⟨"force-flush", fun value options => { options with forceFlush := flag value }⟩,
      ⟨"only-rewrites", fun value options => { options with rewritesOnly := flag value }⟩,
      ⟨"disabled", fun value options => { options with disabled := flag value }⟩]

structure SyslogOptions where
  ident : Option CString
  facility : CString
  rewritesOnly : Bool
  disabled : Bool
  deriving DecidableEq

def SyslogOptions.defaults : SyslogOptions :=
  ⟨some (.literal "pdns-logger"), .literal "daemon", true, false⟩

/-- `opt_handler` of `pdns-logger-syslog.c`.  The first three names have empty
branches. -/
def syslogOptHandler : SyslogOptions -> Triple -> SyslogOptions :=
  optHandler "syslog"
    [⟨"ident", fun _ options => options⟩,
      ⟨"facility", fun _ options => options⟩,
      ⟨"level", fun _ options => options⟩,
      ⟨"only-rewrites", fun value options => { options with rewritesOnly := flag value }⟩,
      ⟨"disabled", fun value options => { options with disabled := flag value }⟩]

structure SqliteOptions where
  dbfile : Option CString
  rewritesOnly : Bool
  disabled : Bool
  autocommit : Bool
  deriving DecidableEq

def SqliteOptions.defaults : SqliteOptions :=
  ⟨none, true, false, true⟩

/-- `opt_handler` of `pdns-logger-sqlite.c`. -/
def sqliteOptHandler : SqliteOptions -> Triple -> SqliteOptions :=
  optHandler "sqlite3"
    [⟨"dbfile", fun value options => { options with dbfile := some value }⟩,
      ⟨"only-rewrites", fun value options => { options with rewritesOnly := flag value }⟩,
      ⟨"disabled", fun value options => { options with disabled := flag value }⟩,
      ⟨"autocommit", fun value options => { options with autocommit := flag value }⟩]

/-! ## The last value wins

The reference for a setting looks at the triples alone: it is the meaning of the
last one that sets the name in its section, or the default. -/

/-- The triple gives a value to this name of this section. -/
def Triple.sets (section_ name : String) (triple : Triple) : Bool :=
  decide (triple.section_ = .literal section_) && decide (triple.name = .literal name) &&
    !zstr (some triple.value)

/-- The last value given to a name. -/
def lastValue (section_ name : String) (delivered : List Triple) : Option CString :=
  (delivered.filter (Triple.sets section_ name)).getLast?.map Triple.value

/-- The meaning of the last value, or the default. -/
def configured {Value : Type} (section_ name : String) (meaning : CString -> Value)
    (default : Value) (delivered : List Triple) : Value :=
  ((lastValue section_ name delivered).map meaning).getD default

theorem lastValue_cons (section_ name : String) (triple : Triple) (delivered : List Triple) :
    lastValue section_ name (triple :: delivered) =
      if triple.sets section_ name then
        some ((lastValue section_ name delivered).getD triple.value)
      else lastValue section_ name delivered := by
  unfold lastValue
  by_cases set : triple.sets section_ name = true
  · rw [List.filter_cons_of_pos set, List.getLast?_cons, if_pos set]
    cases (delivered.filter (Triple.sets section_ name)).getLast? <;> rfl
  · rw [List.filter_cons_of_neg set, if_neg set]

section Handlers

variable {Options Value : Type}

/-- A handler that lets every triple set one part of the options or leave it
alone gives that part its last value. -/
theorem foldl_configured {handler : Options -> Triple -> Options} (section_ name : String)
    (get : Options -> Value) (meaning : CString -> Value)
    (step : forall options triple, get (handler options triple) =
      if triple.sets section_ name then meaning triple.value else get options)
    (delivered : List Triple) (defaults : Options) :
    get (delivered.foldl handler defaults) =
      configured section_ name meaning (get defaults) delivered := by
  induction delivered generalizing defaults with
  | nil => rfl
  | cons triple delivered ih =>
      rw [List.foldl_cons, ih, step, configured, configured, lastValue_cons]
      by_cases set : triple.sets section_ name = true
      · rw [if_pos set, if_pos set]
        cases lastValue section_ name delivered <;> rfl
      · rw [if_neg set, if_neg set]

/-- One entry of a table alone concerns a part of the options. -/
structure Governs (settings : List (Setting Options)) (name : String) (get : Options -> Value)
    (meaning : CString -> Value) : Prop where
  named : zstr (some (.literal name)) = false
  listed : (settings.any fun setting =>
    decide (CString.literal setting.name = .literal name)) = true
  each : forall setting, setting ∈ settings -> forall value options,
    get (setting.assign value options) =
      if CString.literal setting.name = .literal name then meaning value else get options

namespace Governs

variable {settings : List (Setting Options)} {name : String} {get : Options -> Value}
  {meaning : CString -> Value}

theorem optHandler_eq (governs : Governs settings name get meaning) {section_ : String}
    (sectioned : zstr (some (.literal section_)) = false) (options : Options) (triple : Triple) :
    get (optHandler section_ settings options triple) =
      if triple.sets section_ name then meaning triple.value else get options := by
  rcases triple with ⟨inSection, called, value⟩
  unfold optHandler Triple.sets
  by_cases empty : zstr (some value) = true
  · simp [empty]
  · by_cases here : inSection = .literal section_
    · subst here
      cases found : settings.find? fun setting => decide (called = .literal setting.name) with
      | none =>
          have other : called ≠ .literal name := by
            rcases List.any_eq_true.mp governs.listed with ⟨setting, member, same⟩
            intro equal
            have differs := List.find?_eq_none.mp found setting member
            exact differs (decide_eq_true (equal.trans (of_decide_eq_true same).symm))
          simp [other]
      | some setting =>
          have matched := List.find?_some found
          have same : called = .literal setting.name := of_decide_eq_true matched
          have assigned := governs.each setting (List.mem_of_find?_eq_some found) value options
          by_cases this : CString.literal setting.name = .literal name
          · rw [if_pos this] at assigned
            simp [same, this, sectioned, governs.named, empty, assigned]
          · rw [if_neg this] at assigned
            simp only [same, this, decide_false, Bool.and_false, Bool.false_and,
              Bool.false_eq_true, if_false]
            split
            · rfl
            · exact assigned
    · simp [here]

theorem foldl_eq (governs : Governs settings name get meaning) {section_ : String}
    (sectioned : zstr (some (.literal section_)) = false) (delivered : List Triple)
    (defaults : Options) :
    get (delivered.foldl (optHandler section_ settings) defaults) =
      configured section_ name meaning (get defaults) delivered :=
  foldl_configured section_ name get meaning (governs.optHandler_eq sectioned) delivered defaults

end Governs

end Handlers

/-! ## The four handlers -/

section Frame

variable {Options Value : Type} {section_ : String} {settings : List (Setting Options)}

/-- A triple of another section or with an unknown name changes nothing. -/
theorem optHandler_frame {triple : Triple}
    (foreign : triple.section_ ≠ .literal section_ ∨
      triple.name ∉ settings.map fun setting => CString.literal setting.name)
    (options : Options) : optHandler section_ settings options triple = options := by
  unfold optHandler
  split
  · rfl
  · split
    next here =>
      have unknown := foreign.resolve_left (not_not.mpr here)
      have absent : (settings.find? fun setting =>
          decide (triple.name = .literal setting.name)) = none := by
        rw [List.find?_eq_none]
        intro setting member same
        exact unknown (List.mem_map.mpr ⟨setting, member, (of_decide_eq_true same).symm⟩)
      rw [absent]
    next => rfl

/-- A part of the options that no entry concerns keeps its default. -/
theorem foldl_kept {get : Options -> Value}
    (keeps : forall setting, setting ∈ settings -> forall value options,
      get (setting.assign value options) = get options)
    (delivered : List Triple) (defaults : Options) :
    get (delivered.foldl (optHandler section_ settings) defaults) = get defaults := by
  induction delivered generalizing defaults with
  | nil => rfl
  | cons triple delivered ih =>
      rw [List.foldl_cons, ih]
      unfold optHandler
      split
      · rfl
      · split
        · split
          next setting found =>
            exact keeps setting (List.mem_of_find?_eq_some found) triple.value defaults
          next => rfl
        · rfl

end Frame

theorem globals_governs :
    Exists fun settings => globalsOptHandler = optHandler "globals" settings ∧
      Governs settings "bind-ip" Globals.bindIp some ∧
      Governs settings "bind-port" Globals.bindPort atoi := by
  refine ⟨_, rfl, ⟨by decide, by decide, ?_⟩, ⟨by decide, by decide, ?_⟩⟩
  all_goals
    intro setting member value options
    simp only [List.mem_cons, List.not_mem_nil, or_false] at member
    rcases member with rfl | rfl | rfl | rfl <;> rfl

theorem foldl_globalsOptHandler (delivered : List Triple) (defaults : Globals) :
    (delivered.foldl globalsOptHandler defaults).bindIp =
        configured "globals" "bind-ip" some defaults.bindIp delivered ∧
      (delivered.foldl globalsOptHandler defaults).bindPort =
        configured "globals" "bind-port" atoi defaults.bindPort delivered := by
  rcases globals_governs with ⟨settings, same, bindIp, bindPort⟩
  have sectioned : zstr (some (.literal "globals")) = false := by decide
  rw [same]
  exact ⟨bindIp.foldl_eq sectioned delivered defaults,
    bindPort.foldl_eq sectioned delivered defaults⟩

theorem logfile_governs :
    Exists fun settings => logfileOptHandler = optHandler "logfile" settings ∧
      Governs settings "logfile" LogfileOptions.file some ∧
      Governs settings "force-flush" LogfileOptions.forceFlush flag ∧
      Governs settings "only-rewrites" LogfileOptions.rewritesOnly flag ∧
      Governs settings "disabled" LogfileOptions.disabled flag := by
  refine ⟨_, rfl, ⟨by decide, by decide, ?_⟩, ⟨by decide, by decide, ?_⟩,
    ⟨by decide, by decide, ?_⟩, ⟨by decide, by decide, ?_⟩⟩
  all_goals
    intro setting member value options
    simp only [List.mem_cons, List.not_mem_nil, or_false] at member
    rcases member with rfl | rfl | rfl | rfl <;> rfl

theorem foldl_logfileOptHandler (delivered : List Triple) (defaults : LogfileOptions) :
    delivered.foldl logfileOptHandler defaults =
      ⟨configured "logfile" "logfile" some defaults.file delivered,
        configured "logfile" "force-flush" flag defaults.forceFlush delivered,
        configured "logfile" "only-rewrites" flag defaults.rewritesOnly delivered,
        configured "logfile" "disabled" flag defaults.disabled delivered⟩ := by
  rcases logfile_governs with ⟨settings, same, file, forceFlush, rewritesOnly, disabled⟩
  have sectioned : zstr (some (.literal "logfile")) = false := by decide
  rw [same, ← file.foldl_eq sectioned, ← forceFlush.foldl_eq sectioned,
    ← rewritesOnly.foldl_eq sectioned, ← disabled.foldl_eq sectioned]

/-- The entries of the syslog engine.  Nothing concerns the identification or
the facility. -/
theorem syslog_governs :
    Exists fun settings => syslogOptHandler = optHandler "syslog" settings ∧
      (forall setting, setting ∈ settings -> forall value options,
        (setting.assign value options).ident = options.ident) ∧
      (forall setting, setting ∈ settings -> forall value options,
        (setting.assign value options).facility = options.facility) ∧
      Governs settings "only-rewrites" SyslogOptions.rewritesOnly flag ∧
      Governs settings "disabled" SyslogOptions.disabled flag := by
  refine ⟨_, rfl, ?_, ?_, ⟨by decide, by decide, ?_⟩, ⟨by decide, by decide, ?_⟩⟩
  all_goals
    intro setting member value options
    simp only [List.mem_cons, List.not_mem_nil, or_false] at member
    rcases member with rfl | rfl | rfl | rfl | rfl <;> rfl

theorem foldl_syslogOptHandler (delivered : List Triple) (defaults : SyslogOptions) :
    delivered.foldl syslogOptHandler defaults =
      ⟨defaults.ident, defaults.facility,
        configured "syslog" "only-rewrites" flag defaults.rewritesOnly delivered,
        configured "syslog" "disabled" flag defaults.disabled delivered⟩ := by
  rcases syslog_governs with ⟨settings, same, ident, facility, rewritesOnly, disabled⟩
  have sectioned : zstr (some (.literal "syslog")) = false := by decide
  have keptIdent : (delivered.foldl (optHandler "syslog" settings) defaults).ident =
      defaults.ident := foldl_kept ident delivered defaults
  have keptFacility : (delivered.foldl (optHandler "syslog" settings) defaults).facility =
      defaults.facility := foldl_kept facility delivered defaults
  rw [same, ← rewritesOnly.foldl_eq sectioned, ← disabled.foldl_eq sectioned, ← keptIdent,
    ← keptFacility]

theorem sqlite_governs :
    Exists fun settings => sqliteOptHandler = optHandler "sqlite3" settings ∧
      Governs settings "dbfile" SqliteOptions.dbfile some ∧
      Governs settings "only-rewrites" SqliteOptions.rewritesOnly flag ∧
      Governs settings "disabled" SqliteOptions.disabled flag ∧
      Governs settings "autocommit" SqliteOptions.autocommit flag := by
  refine ⟨_, rfl, ⟨by decide, by decide, ?_⟩, ⟨by decide, by decide, ?_⟩,
    ⟨by decide, by decide, ?_⟩, ⟨by decide, by decide, ?_⟩⟩
  all_goals
    intro setting member value options
    simp only [List.mem_cons, List.not_mem_nil, or_false] at member
    rcases member with rfl | rfl | rfl | rfl <;> rfl

theorem foldl_sqliteOptHandler (delivered : List Triple) (defaults : SqliteOptions) :
    delivered.foldl sqliteOptHandler defaults =
      ⟨configured "sqlite3" "dbfile" some defaults.dbfile delivered,
        configured "sqlite3" "only-rewrites" flag defaults.rewritesOnly delivered,
        configured "sqlite3" "disabled" flag defaults.disabled delivered,
        configured "sqlite3" "autocommit" flag defaults.autocommit delivered⟩ := by
  rcases sqlite_governs with ⟨settings, same, dbfile, rewritesOnly, disabled, autocommit⟩
  have sectioned : zstr (some (.literal "sqlite3")) = false := by decide
  rw [same, ← dbfile.foldl_eq sectioned, ← rewritesOnly.foldl_eq sectioned,
    ← disabled.foldl_eq sectioned, ← autocommit.foldl_eq sectioned]

/-! ## Syslog facilities -/

/-- `facility_names`, with the values of `LOG_AUTH` and the others. -/
def facilityNames : List (Nat × String) :=
  [(32, "auth"), (80, "authpriv"), (72, "cron"), (24, "daemon"), (88, "ftp"), (0, "kern"),
    (128, "local0"), (136, "local1"), (144, "local2"), (152, "local3"), (160, "local4"),
    (168, "local5"), (176, "local6"), (184, "local7"), (48, "lpr"), (16, "mail"), (56, "news"),
    (40, "syslog"), (8, "user"), (64, "uucp")]

/-- `logfacility_lookup`: the facility found, else `LOG_DAEMON`. -/
def logfacilityLookup (nfacility : CString) : Nat :=
  match facilityNames.find? fun entry => decide (nfacility = .literal entry.2) with
  | some entry => entry.1
  | none => 24

end Program
end PdnsLogger
