import PdnsLogger.Program.CommandLine
import PdnsLogger.Inih.RoundTrip
import PdnsLogger.Transport.Listening
import PdnsLogger.Lifecycle.EngineOptions
import PdnsLogger.Lifecycle.Startup

namespace PdnsLogger
namespace Lifecycle

open Foundation Program Inih Transport

/-!
# From the command line and the file to the options

The main program and the three engines each parse the configuration file with a
handler of their own.  All four handlers accept whatever they are given, so that
one `Inifile` stands for the four runs of the parser: the triples that the file
delivers and the line of the first error.

`configure` is the part of `main` before the engines are started.  The path is
the last one given with `-c`, or the built-in one, and the program goes on
exactly when a file is there whose lines form a document.  The options of the
file are laid over those of the command line.
-/

/-! ## The file as the handlers see it -/

section Files

variable {Options : Type}

/-- A handler that returns 1 whatever it is given. -/
def accepting (handler : Options -> Triple -> Options) : IniHandler Options :=
  fun options triple _ => (true, handler options triple)

/-- What the parser makes of the file at a path. -/
def iniFile (path : Option CString) (file : Option Bytes) : Inifile where
  path := path
  delivered := file.elim [] fun file => (fileCalls file).map Prod.fst
  error := file.elim (-1) fun file => ((malformedFrom 1 (fileItems file)).head?.getD 0 : Nat)

/-- The rounds that the parser takes for a file. -/
def fileRounds (file : Option Bytes) : Nat :=
  file.elim 0 List.length

theorem isFirst_malformedFrom (lineno : Nat) (items : List Item) :
    IsFirst ((malformedFrom lineno items).head?.getD 0) (malformedFrom lineno items) := by
  induction items generalizing lineno with
  | nil => exact .inl ⟨rfl, rfl⟩
  | cons item items ih =>
      rw [malformedFrom]
      split
      · refine .inr ⟨List.mem_cons_self, ?_⟩
        intro line member
        rcases List.mem_cons.mp member with rfl | later
        · exact Nat.le_refl _
        · exact Nat.le_of_succ_le (le_of_mem_malformedFrom later)
      · exact ih (lineno + 1)

theorem served_accepting (handler : Options -> Triple -> Options) (options : Options)
    (calls : List (Triple × Nat)) :
    served (accepting handler) options calls = (calls.map Prod.fst).foldl handler options := by
  rw [served, List.foldl_map]
  rfl

theorem iniParse_accepting (handler : Options -> Triple -> Options) (options : Options)
    (path : Option CString) (file : Option Bytes) (more : Nat) :
    iniParse (fileRounds file + 1 + more) file (accepting handler) options =
      .ok ((iniFile path file).error, (iniFile path file).read handler options) := by
  cases file with
  | none => rfl
  | some file =>
      have accepts : forall options triple lineno,
          (accepting handler options triple lineno).1 = true := fun _ _ _ => rfl
      rcases iniParse_of_accepting accepts file options more with ⟨error, parsed, first⟩
      rw [first.unique (isFirst_malformedFrom 1 (fileItems file)), served_accepting] at parsed
      exact parsed

/-- A file delivers without an error what its document stands for. -/
theorem iniFile_error_eq_zero_iff (path : Option CString) (file : Option Bytes)
    (triples : List Triple) :
    (iniFile path file).error = 0 ∧ (iniFile path file).delivered = triples ↔
      Exists fun bytes => file = some bytes ∧
        Exists fun items => Document false (textsFrom 1 (fileLines bytes)) items ∧
          (Context.start.calls 1 items).map Prod.fst = triples := by
  cases file with
  | none =>
      constructor
      · rintro ⟨impossible, _⟩
        cases impossible
      · rintro ⟨_, impossible, _⟩
        cases impossible
  | some bytes =>
      have clean : (iniFile path (some bytes)).error = 0 ↔ .malformed ∉ fileItems bytes :=
        Int.ofNat_eq_zero.trans ((isFirst_malformedFrom 1 (fileItems bytes)).eq_zero_iff (by decide))
      rw [clean]
      refine (exists_document_iff bytes triples).symm.trans ⟨fun document => ⟨bytes, rfl, document⟩, ?_⟩
      rintro ⟨_, ⟨⟩, document⟩
      exact document

end Files

/-! ## `main` before the engines -/

/-- `parse_config_file` on the file that is there. -/
def parseConfigFileAt (fuel : Nat) (disk : CString -> Option Bytes) (cf : CString)
    (globals : Globals) : Except Fault (PdnsStatus × Globals) :=
  if zstr (some cf) then .ok (.no, globals)
  else (iniParse fuel (disk cf) (accepting globalsOptHandler) globals).map fun result =>
    if result.1 ≠ 0 then (.no, result.2) else (.ok, result.2)

/-- The path that `main` puts into `globals.config_file`. -/
def configPath (defaultConfigFile : CString) (configFile : Option CString) : CString :=
  match configFile with
  | some path => if zstr (some path) then defaultConfigFile else path
  | none => defaultConfigFile

/-- `main` up to `loggers_initialize`: the path and the options, or nothing when
the program exits. -/
def configure (fuel : Nat) (posixlyCorrect : Bool) (defaultConfigFile : CString)
    (disk : CString -> Option Bytes) (words : List CString) :
    Except Fault (Option (CString × Globals)) :=
  match parseCli fuel posixlyCorrect defaultConfigFile .zeroed words with
  | .error fault => .error fault
  | .ok (status, conf) =>
      if status ≠ .ok then .ok none
      else
        let path := configPath defaultConfigFile conf.configFile
        (parseConfigFileAt fuel disk path ⟨none, 0, false, conf.foreground⟩).map fun result =>
          if result.1 ≠ .ok then none else some (path, result.2)

/-- The two readings of `parse_config_file` agree. -/
theorem parseConfigFileAt_eq (disk : CString -> Option Bytes) (cf : CString) (globals : Globals)
    (more : Nat) :
    parseConfigFileAt (fileRounds (disk cf) + 1 + more) disk cf globals =
      .ok (parseConfigFile (iniFile (some cf) (disk cf)) globals) := by
  rw [parseConfigFileAt, parseConfigFile]
  change (if zstr (some cf) then _ else _) = Except.ok (if zstr (some cf) then _ else _)
  split
  · rfl
  · rw [iniParse_accepting globalsOptHandler globals (some cf)]
    rfl

/-- The options of `[globals]` over those of the command line. -/
def configuredGlobals (foreground : Bool) (triples : List Triple) : Globals where
  bindIp := configured "globals" "bind-ip" some none triples
  bindPort := configured "globals" "bind-port" atoi 0 triples
  allowRoot := configured "globals" "allow-root" flag false triples
  foreground := configured "globals" "foreground" flag foreground triples

theorem globals_governs_flags :
    Exists fun settings => globalsOptHandler = optHandler "globals" settings ∧
      Governs settings "allow-root" Globals.allowRoot flag ∧
      Governs settings "foreground" Globals.foreground flag := by
  refine ⟨_, rfl, ⟨by decide, by decide, ?_⟩, ⟨by decide, by decide, ?_⟩⟩
  all_goals
    intro setting member value options
    simp only [List.mem_cons, List.not_mem_nil, or_false] at member
    rcases member with rfl | rfl | rfl | rfl <;> rfl

theorem foldl_globals_eq (foreground : Bool) (triples : List Triple) :
    triples.foldl globalsOptHandler ⟨none, 0, false, foreground⟩ =
      configuredGlobals foreground triples := by
  rcases foldl_globalsOptHandler triples ⟨none, 0, false, foreground⟩ with ⟨bindIp, bindPort⟩
  rcases globals_governs_flags with ⟨settings, same, allowRoot, inForeground⟩
  have sectioned : zstr (some (.literal "globals")) = false := by decide
  have root := allowRoot.foldl_eq sectioned triples ⟨none, 0, false, foreground⟩
  have stays := inForeground.foldl_eq sectioned triples ⟨none, 0, false, foreground⟩
  rw [← same] at root stays
  unfold configuredGlobals
  rw [← bindIp, ← bindPort, ← root, ← stays]

/-- A command line and the files there are let the program start with these
options. -/
structure Configures (posixlyCorrect : Bool) (defaultConfigFile : CString)
    (disk : CString -> Option Bytes) (words : List CString) (path : CString)
    (globals : Globals) (occurrences : List (Occurrence UInt8)) (bytes : Bytes)
    (items : List Item) : Prop where
  reading : (cliOptions posixlyCorrect).Spells (words.map CString.bytes) occurrences
  used : misused occurrences = false
  located : path = configPath defaultConfigFile (askedFile occurrences)
  named : zstr (some path) = false
  found : disk path = some bytes
  document : Document false (textsFrom 1 (fileLines bytes)) items
  options : globals = configuredGlobals (decide (.plain 102 ∈ honoured occurrences))
    ((Context.start.calls 1 items).map Prod.fst)

theorem parseConfigFile_ok_iff (path : CString) (file : Option Bytes) (foreground : Bool)
    (globals : Globals) :
    parseConfigFile (iniFile (some path) file) ⟨none, 0, false, foreground⟩ = (.ok, globals) ↔
      zstr (some path) = false ∧ Exists fun bytes => Exists fun items => file = some bytes ∧
        Document false (textsFrom 1 (fileLines bytes)) items ∧
        globals = configuredGlobals foreground ((Context.start.calls 1 items).map Prod.fst) := by
  rw [parseConfigFile]
  change (if zstr (some path) then _ else _) = _ ↔ _
  split
  next empty => simp [empty]
  next named =>
    rw [Bool.not_eq_true] at named
    rw [and_iff_right named]
    have read : (iniFile (some path) file).read globalsOptHandler ⟨none, 0, false, foreground⟩ =
        configuredGlobals foreground (iniFile (some path) file).delivered :=
      foldl_globals_eq foreground _
    have clean := iniFile_error_eq_zero_iff (some path) file
    simp only [read]
    constructor
    · intro parsed
      split at parsed
      · cases parsed
      next zero =>
        rcases (clean _).mp ⟨not_not.mp zero, rfl⟩ with ⟨bytes, present, items, document, same⟩
        exact ⟨bytes, items, present, document, by rw [same]; exact (Prod.mk.inj parsed).2.symm⟩
    · rintro ⟨bytes, items, present, document, rfl⟩
      rcases (clean _).mpr ⟨bytes, present, items, document, rfl⟩ with ⟨zero, delivered⟩
      rw [if_neg (not_not.mpr zero), delivered]

/-- The program gets to its engines with a path and some options exactly when
the command line can be used, names a file that is there, and the lines of the
file form a document; the options of the file stand over those of the command
line. -/
theorem program_configured_iff (posixlyCorrect : Bool) (defaultConfigFile : CString)
    (disk : CString -> Option Bytes) (words : List CString) :
    Exists fun supply => forall more path globals,
      configure (supply + more) posixlyCorrect defaultConfigFile disk words =
          .ok (some (path, globals)) ↔
        Exists fun occurrences => Exists fun bytes => Exists fun items =>
          Configures posixlyCorrect defaultConfigFile disk words path globals occurrences bytes
            items := by
  rcases OptionSyntax.exists_spells (cliOptions posixlyCorrect) (words.map CString.bytes) with
    ⟨occurrences, spells⟩
  generalize located : configPath defaultConfigFile (askedFile occurrences) = asked
  generalize length : (words.map CString.bytes).flatten.length = size
  refine ⟨size + (fileRounds (disk asked) + 1) + 1, ?_⟩
  intro more path globals
  rcases parseCli_spelled spells defaultConfigFile (fileRounds (disk asked) + 1 + more) with
    ⟨status, conf, parsed, meaning⟩
  have foreground : conf.foreground = decide (.plain 102 ∈ honoured occurrences) := by
    rw [Bool.eq_iff_iff, meaning.foreground, decide_eq_true_eq]
  have file := parseConfigFileAt_eq disk asked ⟨none, 0, false, conf.foreground⟩ (size + 1 + more)
  have supplies : size + (fileRounds (disk asked) + 1) + 1 + more =
      size + 1 + (fileRounds (disk asked) + 1 + more) ∧
        size + 1 + (fileRounds (disk asked) + 1 + more) =
          fileRounds (disk asked) + 1 + (size + 1 + more) := by omega
  rw [length] at parsed
  rw [configure, supplies.1, parsed]
  simp only [meaning.configFile, located]
  rw [supplies.2, file, foreground, meaning.status]
  have unique : forall {others bytes items},
      Configures posixlyCorrect defaultConfigFile disk words path globals others bytes items ->
        others = occurrences := fun configures => configures.reading.unique spells
  cases misuse : misused occurrences with
  | true =>
      constructor
      · nofun
      · rintro ⟨others, bytes, items, configures⟩
        cases unique configures
        cases configures.used.symm.trans misuse
  | false =>
      have accepted := parseConfigFile_ok_iff asked (disk asked)
        (decide (.plain 102 ∈ honoured occurrences)) globals
      constructor
      · intro started
        have inside := Except.ok.inj started
        simp only at inside
        split at inside
        · cases inside
        next status =>
          have both := Prod.mk.inj (Option.some.inj inside)
          rcases accepted.mp (Prod.ext (not_not.mp status) both.2) with
            ⟨named, bytes, items, found, document, options⟩
          rw [← both.1]
          exact ⟨occurrences, bytes, items, spells, misuse, located.symm, named, found, document,
            options⟩
      · rintro ⟨others, bytes, items, configures⟩
        cases unique configures
        cases configures.located.trans located
        rw [accepted.mpr ⟨configures.named, bytes, items, configures.found, configures.document,
          configures.options⟩]
        rfl

/-! ## Whole runs -/

section Runs

variable {Row : Type} {launch : Launch Row}

/-- Nothing has been started: no engine, no second process and no server.  `main` is
still at its configuration or has given up. -/
structure Untouched (system : System Row) : Prop where
  phase : system.parent.phase = .configuring ∨ system.parent.phase = .exited
  idle : system.parent.running = false
  loggers : system.parent.loggers = .initial
  alone : system.child = none

theorem untouched_start : Untouched (System.start : System Row) :=
  ⟨.inl rfl, rfl, rfl, rfl⟩

/-- A file that is refused lets nothing but the exit happen. -/
theorem Untouched.step (refused : zstr launch.inifile.path = true ∨ launch.inifile.error ≠ 0)
    {system next : System Row} {label : Bool × MainMove} (untouched : Untouched system)
    (taken : System.step launch system label = some next) : Untouched next := by
  rcases untouched with ⟨phase, idle, loggers, alone⟩
  rcases label with ⟨who, move⟩
  cases who with
  | true =>
      simp only [System.step, alone, Option.bind_none] at taken
      cases taken
  | false =>
      rcases phase with here | here
      · cases move with
        | configure =>
            simp only [System.step, Process.step, here, if_pos refused, Option.map_some] at taken
            cases taken
            exact ⟨.inr rfl, idle, loggers, alone⟩
        | _ => simp [System.step, Process.step, here, MainPhase.stops, MainPhase.rotates] at taken
      · cases move with
        | _ => simp [System.step, Process.step, here, MainPhase.stops, MainPhase.rotates] at taken

/-- The start of the program with the file at a path. -/
def launchAt (world : World Row) (disk : CString -> Option Bytes) (path : CString)
    (foregroundOption : Bool) (answers : StartAnswers) : Launch Row :=
  ⟨world, iniFile (some path) (disk path), foregroundOption, answers⟩

/-- In no run does the program start an engine, raise `running` or fork, exactly
when there is no file at its path or a line of the file is malformed. -/
theorem nothing_started_iff (world : World Row) (disk : CString -> Option Bytes) (path : CString)
    (foregroundOption : Bool) (answers : StartAnswers) :
    (forall moves final,
        (System.step (launchAt world disk path foregroundOption answers)).run System.start moves =
          some final -> Untouched final) ↔
      ¬ (zstr (some path) = false ∧ Exists fun bytes => disk path = some bytes ∧
        Exists fun items => Document false (textsFrom 1 (fileLines bytes)) items) := by
  have document : (iniFile (some path) (disk path)).error = 0 ↔
      Exists fun bytes => disk path = some bytes ∧
        Exists fun items => Document false (textsFrom 1 (fileLines bytes)) items := by
    have clean := iniFile_error_eq_zero_iff (some path) (disk path)
      (iniFile (some path) (disk path)).delivered
    constructor
    · intro zero
      rcases clean.mp ⟨zero, rfl⟩ with ⟨bytes, found, items, document, _⟩
      exact ⟨bytes, found, items, document⟩
    · rintro ⟨bytes, found, items, document⟩
      exact ((iniFile_error_eq_zero_iff (some path) (disk path) _).mpr
        ⟨bytes, found, items, document, rfl⟩).1
  rw [← document]
  constructor
  · rintro always ⟨named, clean⟩
    have reached : (System.step (launchAt world disk path foregroundOption answers)).run
        System.start [(false, .configure)] =
          some ⟨(Process.start : Process Row).goto .initializing, none⟩ := by
      have accepted : ¬ (zstr (iniFile (some path) (disk path)).path = true ∨
          (iniFile (some path) (disk path)).error ≠ 0) := by
        change ¬ (zstr (some path) = true ∨ _)
        rw [named, clean]
        decide
      have moved : Process.step (launchAt world disk path foregroundOption answers)
          (Process.start : Process Row) .configure =
            some ((Process.start : Process Row).goto .initializing) := if_neg accepted
      simp only [PartialStep.run, System.step, System.start, moved, Option.map_some,
        Option.bind_some]
    rcases (always _ _ reached).phase with impossible | impossible
    · cases impossible
    · cases impossible
  · intro refused moves final runs
    have stuck : zstr (iniFile (some path) (disk path)).path = true ∨
        (iniFile (some path) (disk path)).error ≠ 0 := by
      change zstr (some path) = true ∨ _
      by_cases named : zstr (some path) = true
      · exact .inl named
      · exact .inr fun clean => refused ⟨Bool.eq_false_iff.mpr named, clean⟩
    exact PartialStep.run_invariant
      (fun system label next taken untouched => Untouched.step stuck untouched taken) runs
      untouched_start

/-- The options of a process that is between the start and the end of its
engines are those of the file. -/
def KeepsOptions (inifile : Inifile) (state : Process Row) : Prop :=
  (state.phase.early = true -> state.loggers = .initial) ∧
  (state.phase.early = false -> state.phase ≠ .exited ->
    state.loggers.logfile = inifile.read logfileOptHandler .defaults ∧
      state.loggers.syslog = inifile.read syslogOptHandler .defaults ∧
      state.loggers.sqlite = inifile.read sqliteOptHandler .defaults)

theorem pdnsLoggersRotate_options (world : World Row) (freopen : Bool) (answer : OpenAnswer)
    (loggers : Loggers Row) :
    (loggers.pdnsLoggersRotate world freopen answer).2.logfile = loggers.logfile ∧
      (loggers.pdnsLoggersRotate world freopen answer).2.syslog = loggers.syslog ∧
      (loggers.pdnsLoggersRotate world freopen answer).2.sqlite = loggers.sqlite := by
  have file : (loggers.logfileRotate freopen).2.logfile = loggers.logfile ∧
      (loggers.logfileRotate freopen).2.syslog = loggers.syslog ∧
      (loggers.logfileRotate freopen).2.sqlite = loggers.sqlite := by
    unfold Loggers.logfileRotate
    split
    · exact ⟨rfl, rfl, rfl⟩
    · split
      · exact ⟨rfl, rfl, rfl⟩
      · exact ⟨rfl, rfl, rfl⟩
  simp only [Loggers.pdnsLoggersRotate, Loggers.logsqliteRotate]
  split
  · exact file
  · exact file

theorem KeepsOptions.took (named : zstr launch.inifile.path = false) {state next : Process Row}
    {move : MainMove} (keeps : KeepsOptions launch.inifile state)
    (took : Process.Took launch state move next) : KeepsOptions launch.inifile next := by
  rcases keeps with ⟨before, after⟩
  cases took with
  | advanced _ phase _ alive early _ =>
      refine ⟨fun soon => before (early.symm.trans soon), fun late _ => ?_⟩
      exact after (early.symm.trans late) alive
  | quit =>
      refine ⟨?_, fun _ ended => absurd rfl ended⟩
      intro soon
      cases soon
  | initialized initializing =>
      refine ⟨fun soon => (by cases soon), fun _ _ => ?_⟩
      have untouched := before (by rw [initializing]; rfl)
      rcases loggersInitialize_options named launch.world launch.answers with
        ⟨logfile, syslog, sqlite, _⟩
      simp only [Process.initLoggers, untouched]
      exact ⟨logfile, syslog, sqlite⟩
  | raised raising =>
      refine ⟨fun soon => (by cases soon), fun _ _ => ?_⟩
      apply after
      · rw [raising]
        rfl
      · rw [raising]
        decide
  | halted =>
      refine ⟨?_, fun _ ended => absurd rfl ended⟩
      intro soon
      cases soon
  | stopped => exact ⟨before, after⟩
  | rotated freopen answer rotates =>
      have late := MainPhase.late_of_rotates rotates
      refine ⟨fun soon => absurd (late.symm.trans soon) (by decide), fun _ alive => ?_⟩
      rcases pdnsLoggersRotate_options launch.world freopen answer state.loggers with
        ⟨logfile, syslog, sqlite⟩
      simp only [Process.signalRotate, logfile, syslog, sqlite]
      exact after late alive

def AllKeepOptions (inifile : Inifile) (system : System Row) : Prop :=
  forall state, state ∈ system.processes -> KeepsOptions inifile state

theorem allKeepOptions_start (inifile : Inifile) :
    AllKeepOptions inifile (System.start : System Row) := by
  intro state member
  cases List.mem_singleton.mp member
  exact ⟨fun _ => rfl, nofun⟩

theorem AllKeepOptions.step (named : zstr launch.inifile.path = false) {system next : System Row}
    {label : Bool × MainMove} (keeps : AllKeepOptions launch.inifile system)
    (taken : System.step launch system label = some next) :
    AllKeepOptions launch.inifile next := by
  have parental := keeps system.parent List.mem_cons_self
  rcases System.step_cases taken with ⟨succeeded, _, forking, rfl⟩ | ⟨parent, _, took, rfl⟩ |
    ⟨child, child', _, present, took, rfl⟩
  · have options := parental.2 (by rw [forking]; rfl) (by rw [forking]; nofun)
    intro state member
    rcases List.mem_cons.mp member with rfl | inside
    · exact ⟨nofun, fun _ _ => options⟩
    · cases succeeded with
      | false => cases inside
      | true =>
          cases List.mem_singleton.mp inside
          exact ⟨nofun, fun _ _ => options⟩
  · intro state member
    rcases List.mem_cons.mp member with rfl | inside
    · exact parental.took named took
    · exact keeps state (List.mem_cons_of_mem _ inside)
  · have kept := keeps child (List.mem_cons_of_mem _ (by rw [present]; exact List.mem_singleton_self _))
    intro state member
    rcases List.mem_cons.mp member with rfl | inside
    · exact parental
    · cases List.mem_singleton.mp inside
      exact kept.took named took

/-- A configuration that is written to the file governs every process that
serves clients, at every moment of every run: each option of each engine has the
meaning of the last value written for it, or its default. -/
theorem written_options_in_force (world : World Row) (path : CString)
    (named : zstr (some path) = false) (config : List SectionText) (fits : Fits config)
    (foregroundOption : Bool) (answers : StartAnswers) (moves : List (Bool × MainMove))
    (final : System Row)
    (runs : (System.step (launchAt world (fun _ => some (render config)) path foregroundOption
      answers)).run System.start moves = some final)
    (state : Process Row) (member : state ∈ final.processes)
    (serving : state.phase.serves = true) :
    state.loggers.logfile =
        ⟨configured "logfile" "logfile" some none (triples config),
          configured "logfile" "force-flush" flag false (triples config),
          configured "logfile" "only-rewrites" flag true (triples config),
          configured "logfile" "disabled" flag false (triples config)⟩ ∧
      state.loggers.syslog =
        ⟨some (.literal "pdns-logger"), .literal "daemon",
          configured "syslog" "only-rewrites" flag true (triples config),
          configured "syslog" "disabled" flag false (triples config)⟩ ∧
      state.loggers.sqlite =
        ⟨configured "sqlite3" "dbfile" some none (triples config),
          configured "sqlite3" "only-rewrites" flag true (triples config),
          configured "sqlite3" "disabled" flag false (triples config),
          configured "sqlite3" "autocommit" flag true (triples config)⟩ := by
  have delivered : (iniFile (some path) (some (render config))).delivered = triples config := by
    have yields := (yields_render_iff config .start false).mpr fits
    rw [Yields, ← textsFrom_render] at yields
    exact yields.2
  have keeps : AllKeepOptions (iniFile (some path) (some (render config))) final :=
    PartialStep.run_invariant (fun _ _ _ taken kept => kept.step named taken) runs
      (allKeepOptions_start _)
  rcases MainPhase.late_of_serves serving with ⟨late, alive⟩
  rcases (keeps state member).2 late alive with ⟨logfile, syslog, sqlite⟩
  rw [logfile, syslog, sqlite, Inifile.read, Inifile.read, Inifile.read, delivered]
  exact ⟨foldl_logfileOptHandler _ _, foldl_syslogOptHandler _ _, foldl_sqliteOptHandler _ _⟩

end Runs

/-- A configuration that asks for transactions. -/
def batchedConfig : List SectionText :=
  [{ heading :=
      { name := ascii "sqlite3", short := by decide, closed := by decide
        uncommented := by decide, plain := by decide }
     options :=
      [{ name := ascii "autocommit", value := ascii "0", nameTrimmed := by decide
         nameUnmarked := by decide, nameUnopened := by decide, nameUnseparated := by decide
         nameUncommented := by decide, valueTrimmed := by decide
         valueUncommented := by decide, plain := by decide }] }]

/-- The steps of `main` up to the loop, in the foreground. -/
def toTheLoop : List (Bool × MainMove) :=
  [.configure, .startLoggers, .installInt, .installTerm, .installPipe, .installHup, .branch, .raise,
    .socketStart true].map fun move => (false, move)

theorem written_options_in_force_batchedConfig :
    Exists fun final => (System.step (launchAt plainWorld (fun _ => some (render batchedConfig))
        (.literal "pdns-logger.ini") true granted)).run System.start toTheLoop = some final ∧
      final.parent.phase.serves = true ∧ final.parent.loggers.sqlite.autocommit = false := by
  refine ⟨_, rfl, rfl, ?_⟩
  have options := written_options_in_force plainWorld (.literal "pdns-logger.ini") (by decide)
    batchedConfig (by decide) true granted toTheLoop _ rfl _ List.mem_cons_self rfl
  rw [options.2.2]
  decide

end Lifecycle
end PdnsLogger
