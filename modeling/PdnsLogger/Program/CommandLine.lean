import PdnsLogger.Foundation.OptionScanning
import PdnsLogger.Program.Basic

namespace PdnsLogger
namespace Program

open Foundation

/-!
# The command line

`parse_cli` asks `getopt` for one option after another and stops at the first
one it cannot use.  It also stops at `-h`: it prints the usage and returns as if
the command line had ended there, so that the program starts and what follows
`-h` is not looked at.

The reference reads the options off the command line alone.  A command line has
one reading, and the options before the first one that stops the loop are the
ones that count: the last `-c` gives the configuration file and any `-f` keeps
the program in the foreground.
-/

/-- The fields of `globals_t` that `parse_cli` sets, and its output. -/
structure CliConf where
  configFile : Option CString
  foreground : Bool
  verbose : Bool
  stdout : Bytes
  deriving DecidableEq

def CliConf.zeroed : CliConf :=
  ⟨none, false, false, []⟩

def CliConf.print (conf : CliConf) (text : Bytes) : CliConf :=
  { conf with stdout := conf.stdout ++ text }

/-- The options `"hvc:f"`.  A `getopt` that finds `POSIXLY_CORRECT` in the
environment does not look behind an operand. -/
def cliOptions (posixlyCorrect : Bool) : OptionSyntax UInt8 where
  dash := 45
  takesArgument option :=
    if option = 99 then some true
    else if option = 104 ∨ option = 118 ∨ option = 102 then some false
    else none
  permutes := !posixlyCorrect
  plainDash := rfl

/-- The text of `-h`. -/
def usage (defaultConfigFile : CString) : Bytes :=
  formatted [.text "\n", .text "Usage: pdns-collector [options]\n", .text "Options:\n",
    .text "  -c configfile       Location of the config file (default: ",
    .s (some defaultConfigFile), .text ")\n",
    .text "  -f                  Do not fork and stay in foreground\n",
    .text "  -h                  Print this message and exit.\n", .text "\n"]

/-- `isprint` in the C locale. -/
def isprint (byte : UInt8) : Bool :=
  32 ≤ byte && byte ≤ 126

/-- `%x` of an option character, a signed `char` that became an `int`. -/
def hexadecimal (char : UInt8) : Bytes :=
  (Nat.digits 16 (char.toBitVec.signExtend 32).toNat).reverse.map fun digit =>
    UInt8.ofNat (if digit < 10 then 48 + digit else 87 + digit)

/-- What is said about an option that `getopt` reports with `?`. -/
def complaint (optopt : UInt8) : Bytes :=
  if optopt = 99 then ascii "Option -" ++ optopt :: ascii " requires an argument.\n"
  else if isprint optopt then ascii "Unknown option \x60-" ++ optopt :: ascii "'.\n"
  else ascii "Unknown option character \x60\\x" ++ hexadecimal optopt ++ ascii "'.\n"

/-- The `switch` of `parse_cli`. -/
def parseCliOption (defaultConfigFile : CString) (conf : CliConf) :
    Occurrence UInt8 -> CliConf ⊕ (PdnsStatus × CliConf)
  | .plain option =>
      if option = 104 then .inr (.ok, conf.print (usage defaultConfigFile))
      else if option = 102 then .inl { conf with foreground := true }
      else if option = 118 then .inl { conf with verbose := true }
      else .inr (.no, conf.print (ascii "Error parsing command line options\n"))
  | .argument option optarg =>
      if option = 99 then
        let set := { conf with configFile := some (.read optarg) }
        .inl (if conf.verbose then
          set.print (ascii "Options file set to " ++ (CString.read optarg).bytes ++ [10])
          else set)
      else .inr (.no, conf.print (ascii "Error parsing command line options\n"))
  | .unknown optopt => .inr (.no, conf.print (complaint optopt))
  | .missing optopt => .inr (.no, conf.print (complaint optopt))

/-- `parse_cli` with a supply of rounds, for the words behind the program's
name. -/
def parseCli (fuel : Nat) (posixlyCorrect : Bool) (defaultConfigFile : CString)
    (conf : CliConf) (words : List CString) : Except Fault (PdnsStatus × CliConf) :=
  boundedLoop .diverged
    (fun state => .ok (consumingRound (cliOptions posixlyCorrect).getopt
      (parseCliOption defaultConfigFile) (fun conf => (.ok, conf)) state))
    fuel (([], words.map CString.bytes), conf)

/-! ## The reading of a command line -/

/-- An option after which the loop goes on. -/
def goesOn : Occurrence UInt8 -> Bool
  | .plain option => option == 102 || option == 118
  | .argument _ _ => true
  | _ => false

/-- The argument of `-c`. -/
def configArgument : Occurrence UInt8 -> Option CString
  | .argument _ text => some (.read text)
  | _ => none

/-- The options that count. -/
def honoured (occurrences : List (Occurrence UInt8)) : List (Occurrence UInt8) :=
  occurrences.takeWhile goesOn

/-- The configuration file that is asked for. -/
def askedFile (occurrences : List (Occurrence UInt8)) : Option CString :=
  ((honoured occurrences).filterMap configArgument).getLast?

/-- The option that stops the loop is unknown or lacks its argument. -/
def misused (occurrences : List (Occurrence UInt8)) : Bool :=
  match occurrences.find? fun occurrence => !goesOn occurrence with
  | some (.unknown _) | some (.missing _) => true
  | _ => false

/-- What a command line means to the program. -/
structure CliMeaning (occurrences : List (Occurrence UInt8)) (status : PdnsStatus)
    (conf : CliConf) : Prop where
  status : status = if misused occurrences then .no else .ok
  configFile : conf.configFile = askedFile occurrences
  foreground : conf.foreground = true ↔ .plain 102 ∈ honoured occurrences
  verbose : conf.verbose = true ↔ .plain 118 ∈ honoured occurrences

/-- An occurrence that the options allow. -/
def Known : Occurrence UInt8 -> Prop
  | .plain option => option = 104 ∨ option = 102 ∨ option = 118
  | .argument option _ => option = 99
  | _ => True

theorem known_flag (posixlyCorrect : Bool) {option : UInt8}
    (plain : (cliOptions posixlyCorrect).takesArgument option ≠ some true) :
    Known ((cliOptions posixlyCorrect).flag option) := by
  unfold OptionSyntax.flag
  split
  · trivial
  next listed =>
    change option = 104 ∨ option = 102 ∨ option = 118
    simp only [cliOptions] at plain listed
    split at plain
    · exact absurd rfl plain
    next other =>
      rw [if_neg other] at listed
      split at listed
      next known =>
        rcases known with rfl | rfl | rfl
        · exact .inl rfl
        · exact .inr (.inr rfl)
        · exact .inr (.inl rfl)
      next => exact absurd rfl listed

theorem known_argument (posixlyCorrect : Bool) {option : UInt8}
    (takes : (cliOptions posixlyCorrect).takesArgument option = some true) : option = 99 := by
  simp only [cliOptions] at takes
  split at takes
  next same => exact same
  next =>
    split at takes
    · cases takes
    · cases takes

/-- The default case of the `switch` is not reached. -/
theorem known_of_spells {posixlyCorrect : Bool} {words : List Bytes}
    {occurrences : List (Occurrence UInt8)}
    (spells : (cliOptions posixlyCorrect).Spells words occurrences) :
    forall occurrence, occurrence ∈ occurrences -> Known occurrence := by
  have flags : forall {flags : Bytes}, (cliOptions posixlyCorrect).Flags flags ->
      forall occurrence, occurrence ∈ flags.map (cliOptions posixlyCorrect).flag ->
        Known occurrence := by
    intro flags plain occurrence member
    rcases List.mem_map.mp member with ⟨option, inside, rfl⟩
    exact known_flag posixlyCorrect (plain option inside)
  induction spells with
  | nil => nofun
  | ended => nofun
  | passed _ _ _ ih => exact ih
  | stopped => nofun
  | flags _ _ plain _ ih => exact List.forall_mem_append.mpr ⟨flags plain, ih⟩
  | attached plain takes _ _ ih =>
      exact List.forall_mem_append.mpr ⟨flags plain,
        List.forall_mem_cons.mpr ⟨known_argument posixlyCorrect takes, ih⟩⟩
  | separate plain takes _ ih =>
      exact List.forall_mem_append.mpr ⟨flags plain,
        List.forall_mem_cons.mpr ⟨known_argument posixlyCorrect takes, ih⟩⟩
  | missing plain _ =>
      exact List.forall_mem_append.mpr ⟨flags plain, List.forall_mem_singleton.mpr trivial⟩

/-! ## The law of the command line -/

theorem honoured_cons {occurrence : Occurrence UInt8} (rest : List (Occurrence UInt8))
    (accepted : goesOn occurrence = true) :
    honoured (occurrence :: rest) = occurrence :: honoured rest :=
  List.takeWhile_cons_of_pos accepted

theorem askedFile_cons {occurrence : Occurrence UInt8} (rest : List (Occurrence UInt8))
    (accepted : goesOn occurrence = true) :
    askedFile (occurrence :: rest) = (askedFile rest).or (configArgument occurrence) := by
  rw [askedFile, askedFile, honoured_cons rest accepted]
  cases file : configArgument occurrence with
  | none => rw [List.filterMap_cons_none file, Option.or_none]
  | some path =>
      rw [List.filterMap_cons_some file, List.getLast?_cons]
      cases (List.filterMap configArgument (honoured rest)).getLast? <;> rfl

theorem misused_cons {occurrence : Occurrence UInt8} (rest : List (Occurrence UInt8))
    (accepted : goesOn occurrence = true) :
    misused (occurrence :: rest) = misused rest := by
  rw [misused, misused, List.find?_cons_of_neg (by simp [accepted])]

/-- What the loop makes of the fields, from any values they may have. -/
structure CliProgress (conf : CliConf) (occurrences : List (Occurrence UInt8))
    (result : PdnsStatus × CliConf) : Prop where
  status : result.1 = if misused occurrences then .no else .ok
  configFile : result.2.configFile = (askedFile occurrences).or conf.configFile
  foreground : result.2.foreground =
    (conf.foreground || decide (.plain 102 ∈ honoured occurrences))
  verbose : result.2.verbose = (conf.verbose || decide (.plain 118 ∈ honoured occurrences))

/-- An accepted option, and what comes behind it. -/
theorem CliProgress.cons {conf set : CliConf} {occurrence : Occurrence UInt8}
    {rest : List (Occurrence UInt8)} {result : PdnsStatus × CliConf}
    (progress : CliProgress set rest result) (accepted : goesOn occurrence = true)
    (configFile : set.configFile = (configArgument occurrence).or conf.configFile)
    (foreground : set.foreground = (conf.foreground || decide (occurrence = .plain 102)))
    (verbose : set.verbose = (conf.verbose || decide (occurrence = .plain 118))) :
    CliProgress conf (occurrence :: rest) result where
  status := by rw [progress.status, misused_cons rest accepted]
  configFile := by
    rw [progress.configFile, askedFile_cons rest accepted, configFile, Option.or_assoc]
  foreground := by
    rw [progress.foreground, foreground, honoured_cons rest accepted, Bool.or_assoc]
    congr 1
    rw [Bool.eq_iff_iff, Bool.or_eq_true, decide_eq_true_eq, decide_eq_true_eq,
      decide_eq_true_eq, List.mem_cons, eq_comm]
  verbose := by
    rw [progress.verbose, verbose, honoured_cons rest accepted, Bool.or_assoc]
    congr 1
    rw [Bool.eq_iff_iff, Bool.or_eq_true, decide_eq_true_eq, decide_eq_true_eq,
      decide_eq_true_eq, List.mem_cons, eq_comm]

theorem CliProgress.stop {conf last : CliConf} {occurrence : Occurrence UInt8}
    (rest : List (Occurrence UInt8)) {status : PdnsStatus}
    (stops : goesOn occurrence = false)
    (judged : status = if misused (occurrence :: rest) then .no else .ok)
    (printed : Exists fun text => last = conf.print text) :
    CliProgress conf (occurrence :: rest) (status, last) := by
  rcases printed with ⟨text, rfl⟩
  have none : honoured (occurrence :: rest) = [] :=
    List.takeWhile_cons_of_neg (by rw [stops]; nofun)
  refine ⟨judged, ?_, ?_, ?_⟩
  · rw [askedFile, none]
    rfl
  · rw [none]
    exact (Bool.or_false _).symm
  · rw [none]
    exact (Bool.or_false _).symm

theorem consume_progress (defaultConfigFile : CString) (conf : CliConf)
    (occurrences : List (Occurrence UInt8))
    (known : forall occurrence, occurrence ∈ occurrences -> Known occurrence) :
    CliProgress conf occurrences
      (consume (parseCliOption defaultConfigFile) (fun conf => (.ok, conf)) conf occurrences) := by
  induction occurrences generalizing conf with
  | nil =>
      exact ⟨rfl, rfl, (Bool.or_false _).symm, (Bool.or_false _).symm⟩
  | cons occurrence rest ih =>
      have later := fun conf => ih conf fun other member => known other (List.mem_cons_of_mem _ member)
      rw [consume]
      cases occurrence with
      | plain option =>
          rcases known _ List.mem_cons_self with rfl | rfl | rfl
          · exact .stop rest rfl rfl ⟨_, rfl⟩
          · exact (later _).cons rfl rfl (Bool.or_true _).symm (Bool.or_false _).symm
          · exact (later _).cons rfl rfl (Bool.or_false _).symm (Bool.or_true _).symm
      | argument option text =>
          cases known _ List.mem_cons_self
          simp only [parseCliOption, if_true]
          split
          · exact (later _).cons rfl rfl (Bool.or_false _).symm (Bool.or_false _).symm
          · exact (later _).cons rfl rfl (Bool.or_false _).symm (Bool.or_false _).symm
      | unknown option => exact .stop rest rfl rfl ⟨_, rfl⟩
      | missing option => exact .stop rest rfl rfl ⟨_, rfl⟩

theorem parseCli_spelled {posixlyCorrect : Bool} {words : List CString}
    {occurrences : List (Occurrence UInt8)}
    (spells : (cliOptions posixlyCorrect).Spells (words.map CString.bytes) occurrences)
    (defaultConfigFile : CString) (more : Nat) :
    Exists fun status => Exists fun conf =>
      parseCli ((words.map CString.bytes).flatten.length + 1 + more) posixlyCorrect
        defaultConfigFile .zeroed words = .ok (status, conf) ∧
      CliMeaning occurrences status conf := by
  have reads := OptionSyntax.reads_of_spells spells
  have enough : occurrences.length < (words.map CString.bytes).flatten.length + 1 + more := by
    have short := OptionSyntax.length_le_of_spells spells
    omega
  have looped := reads.boundedLoop_consume (parseCliOption defaultConfigFile)
    (fun conf => ((.ok : PdnsStatus), conf)) Fault.diverged CliConf.zeroed enough
  have progress := consume_progress defaultConfigFile .zeroed occurrences (known_of_spells spells)
  refine ⟨_, _, looped, progress.status, ?_, ?_, ?_⟩
  · rw [progress.configFile]
    exact Option.or_none
  · rw [progress.foreground]
    exact decide_eq_true_iff
  · rw [progress.verbose]
    exact decide_eq_true_iff

/-- Every command line has exactly one reading, and `parse_cli` returns what it
means. -/
theorem command_line_law (posixlyCorrect : Bool) (defaultConfigFile : CString)
    (words : List CString) (more : Nat) :
    Exists fun occurrences =>
      (forall other, (cliOptions posixlyCorrect).Spells (words.map CString.bytes) other ↔
        other = occurrences) ∧
      Exists fun status => Exists fun conf =>
        parseCli ((words.map CString.bytes).flatten.length + 1 + more) posixlyCorrect
          defaultConfigFile .zeroed words = .ok (status, conf) ∧
        CliMeaning occurrences status conf := by
  rcases OptionSyntax.exists_spells (cliOptions posixlyCorrect) (words.map CString.bytes) with
    ⟨occurrences, spells⟩
  refine ⟨occurrences, ?_, parseCli_spelled spells defaultConfigFile more⟩
  intro other
  constructor
  · exact fun again => again.unique spells
  · rintro rfl
    exact spells

end Program
end PdnsLogger
