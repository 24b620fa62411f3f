import PdnsLogger.Program.Configuration

namespace PdnsLogger
namespace Transport

open Foundation Program

/-!
# The listening socket

`socket_start` binds the address it builds in a `struct sockaddr_in`.  The port
comes from `globals_t` through a conversion to sixteen bits, and the address is
`INADDR_ANY`: the configured address is read into `globals_t` and not used.

An address is kept as its four bytes and a port as a number, apart from the
byte order of the structure.  What a socket is bound to is what `bind` was given
when it succeeded, except for port 0, in place of which the system chooses a port.
-/

structure Ipv4 where
  first : UInt8
  second : UInt8
  third : UInt8
  fourth : UInt8
  deriving DecidableEq

namespace Ipv4

def inaddrAny : Ipv4 :=
  ⟨0, 0, 0, 0⟩

/-- The dotted quad. -/
def text (address : Ipv4) : Bytes :=
  decimal address.first.toNat ++ ascii "." ++ decimal address.second.toNat ++ ascii "." ++
    decimal address.third.toNat ++ ascii "." ++ decimal address.fourth.toNat

end Ipv4

structure SockaddrIn where
  address : Ipv4
  port : UInt16
  deriving DecidableEq

/-- Whether each system call of `socket_start` succeeds, and the port that `bind`
chooses for a socket without one.  The result of `setsockopt` is only reported. -/
structure SocketAnswers where
  socket : Bool
  bind : Bool
  chosen : UInt16
  chosen_ne_zero : chosen ≠ 0
  getfl : Bool
  setfl : Bool
  listen : Bool
  deriving DecidableEq

/-- The conversion to `uint16_t` at the call of `htons`. -/
def htons (port : Int) : UInt16 :=
  UInt16.ofInt port

/-- What `bind` makes of the address it is given. -/
def boundAddress (answers : SocketAnswers) (sa : SockaddrIn) : SockaddrIn :=
  if sa.port = 0 then { sa with port := answers.chosen } else sa

/-- `socket_start`, with what the socket is bound to afterwards. -/
def socketStart (answers : SocketAnswers) (conf : Globals) : PdnsStatus × Option SockaddrIn :=
  if answers.socket then
    let sa : SockaddrIn := ⟨.inaddrAny, htons conf.bindPort⟩
    let bound := some (boundAddress answers sa)
    if answers.bind then
      if answers.getfl then
        if answers.setfl then
          if answers.listen then (.ok, bound) else (.no, bound)
        else (.no, bound)
      else (.no, bound)
    else (.no, none)
  else (.no, none)

/-- `parse_config_file`. -/
def parseConfigFile (inifile : Inifile) (globals : Globals) : PdnsStatus × Globals :=
  if zstr inifile.path then (.no, globals)
  else
    let globals := inifile.read globalsOptHandler globals
    if inifile.error ≠ 0 then (.no, globals) else (.ok, globals)

theorem socketStart_ok {answers : SocketAnswers} {conf : Globals} {bound : Option SockaddrIn}
    (started : socketStart answers conf = (.ok, bound)) :
    bound = some (boundAddress answers ⟨.inaddrAny, htons conf.bindPort⟩) := by
  simp only [socketStart] at started
  split at started
  · split at started
    · split at started
      · split at started
        · split at started
          · exact (Prod.mk.inj started).2.symm
          · cases started
        · cases started
      · cases started
    · cases started
  · cases started

theorem parseConfigFile_ok {inifile : Inifile} {initial globals : Globals}
    (parsed : parseConfigFile inifile initial = (.ok, globals)) :
    globals = inifile.delivered.foldl globalsOptHandler initial := by
  simp only [parseConfigFile] at parsed
  split at parsed
  · cases parsed
  · split at parsed
    · cases parsed
    · exact (Prod.mk.inj parsed).2.symm

/-! ## Numbers in the configuration -/

/-- Digits, and nothing else. -/
structure IsNumeral (digits : Bytes) : Prop where
  some_digit : digits ≠ []
  digits : forall byte, byte ∈ digits -> isdigit byte = true

instance (digits : Bytes) : Decidable (IsNumeral digits) :=
  decidable_of_iff (digits ≠ [] ∧ digits.all isdigit = true)
    ⟨fun parts => ⟨parts.1, List.all_eq_true.mp parts.2⟩,
      fun numeral => ⟨numeral.some_digit, List.all_eq_true.mpr numeral.digits⟩⟩

/-- A decimal number, with or without a sign, of any size.  Numbers that no port
can have are numbers all the same: what the program makes of them is part of the
question. -/
inductive IsDecimal : Bytes -> Int -> Prop where
  | plain {digits} (numeral : IsNumeral digits) : IsDecimal digits (leadingNumber digits)
  | plus {digits} (numeral : IsNumeral digits) : IsDecimal (43 :: digits) (leadingNumber digits)
  | minus {digits} (numeral : IsNumeral digits) : IsDecimal (45 :: digits) (-leadingNumber digits)

theorem plain_of_isdigit {byte : UInt8} (digit : isdigit byte = true) :
    isspace byte = false ∧ byte ≠ 45 ∧ byte ≠ 43 := by
  simp only [isdigit, Bool.and_eq_true, decide_eq_true_eq, UInt8.le_iff_toNat_le] at digit
  change 48 ≤ byte.toNat ∧ byte.toNat ≤ 57 at digit
  have differs : forall other : UInt8, other.toNat < 48 -> byte ≠ other := by
    intro other small same
    rw [same] at digit
    omega
  refine ⟨?_, differs 45 (by decide), differs 43 (by decide)⟩
  have notRange : ¬ byte ≤ 13 := by
    rw [UInt8.le_iff_toNat_le]
    change ¬ byte.toNat ≤ 13
    omega
  simp [isspace, differs 32 (by decide), notRange]

theorem strtol_decimal {text : CString} {number : Int} (denotes : IsDecimal text.bytes number) :
    strtol text = max (-2 ^ 63) (min number (2 ^ 63 - 1)) := by
  rcases text with ⟨bytes, terminated⟩
  cases denotes with
  | plus => rfl
  | minus => rfl
  | plain numeral =>
      cases bytes with
      | nil => exact absurd rfl numeral.some_digit
      | cons byte rest =>
          have plain := plain_of_isdigit (numeral.digits byte List.mem_cons_self)
          simp only [strtol, List.dropWhile_cons, plain.1, Bool.false_eq_true, if_false]
          split
          next shape => exact absurd (List.cons.inj shape).1 plain.2.1
          next shape => exact absurd (List.cons.inj shape).1 plain.2.2
          next => rfl

theorem atoi_decimal {text : CString} {number : Int} (denotes : IsDecimal text.bytes number)
    (small : -2 ^ 31 ≤ number ∧ number < 2 ^ 31) : atoi text = number := by
  have read : strtol text = number := by
    rw [strtol_decimal denotes]
    omega
  rw [atoi, read, Int.bmod_eq_of_le] <;> omega

/-- A port of the permitted range survives the conversion to sixteen bits. -/
theorem htons_toNat {number : Int} (permitted : 0 ≤ number ∧ number < 65536) :
    ((htons number).toNat : Int) = number := by
  have low : (number % 2 ^ 16).toNat = number.toNat := by omega
  rw [htons, UInt16.ofInt, low, UInt16.toNat_ofNat']
  omega

/-! ## Listening where configured -/

/-- The triples set this listening address and port, the last ones winning. -/
structure ListenConfig (delivered : List Triple) (address : Ipv4) (number : Int) : Prop where
  bindIp : Exists fun text => lastValue "globals" "bind-ip" delivered = some text ∧
    text.bytes = address.text
  bindPort : Exists fun text => lastValue "globals" "bind-port" delivered = some text ∧
    IsDecimal text.bytes number

/-- Whenever the socket is started it is bound to this address and port. -/
def ListensAt (conf : Globals) (address : Ipv4) (number : Int) : Prop :=
  forall answers bound, socketStart answers conf = (.ok, bound) ->
    Exists fun sa => bound = some sa ∧ sa.address = address ∧ (sa.port.toNat : Int) = number

/-- Everything succeeds, and the first port is chosen where there is a choice. -/
def SocketAnswers.willing : SocketAnswers :=
  ⟨true, true, 1, by decide, true, true, true⟩

theorem boundAddress_of_ne_zero {answers : SocketAnswers} {sa : SockaddrIn} (port : sa.port ≠ 0) :
    boundAddress answers sa = sa :=
  if_neg port

theorem boundAddress_of_zero {answers : SocketAnswers} {sa : SockaddrIn} (port : sa.port = 0) :
    boundAddress answers sa = ⟨sa.address, answers.chosen⟩ :=
  if_pos port

/-- The daemon listens where it is configured to, if and only if it is
configured to listen on all addresses and the port is one that can be bound. -/
theorem listens_as_configured_iff (inifile : Inifile) (initial conf : Globals) (address : Ipv4)
    (number : Int) (parsed : parseConfigFile inifile initial = (.ok, conf))
    (set : ListenConfig inifile.delivered address number) :
    ListensAt conf address number ↔ address = .inaddrAny ∧ 1 ≤ number ∧ number ≤ 65535 := by
  rcases set.bindPort with ⟨text, last, denotes⟩
  have port : conf.bindPort = atoi text := by
    rw [parseConfigFile_ok parsed, (foldl_globalsOptHandler _ _).2, configured, last]
    rfl
  have converted : 0 ≤ number ∧ number < 65536 ->
      ((htons conf.bindPort).toNat : Int) = number := by
    intro permitted
    rw [port, atoi_decimal denotes (by omega)]
    exact htons_toNat permitted
  constructor
  · intro listens
    rcases listens .willing _ rfl with ⟨sa, bound, here, there⟩
    cases Option.some.inj bound
    by_cases zero : htons conf.bindPort = 0
    · -- The port that was chosen is not the one that was converted.
      rw [boundAddress_of_zero zero] at there
      change (1 : Int) = number at there
      have low := converted (by omega)
      rw [zero, ← there] at low
      cases low
    · rw [boundAddress_of_ne_zero zero] at here there
      have range := UInt16.toNat_lt (htons conf.bindPort)
      have positive : (htons conf.bindPort).toNat ≠ 0 :=
        fun none => zero (UInt16.toNat_inj.mp none)
      simp only at there
      exact ⟨here.symm, by omega⟩
  · rintro ⟨rfl, permitted⟩ answers bound started
    have low := converted (by omega)
    have nonzero : htons conf.bindPort ≠ 0 := by
      intro zero
      rw [zero] at low
      change (0 : Int) = number at low
      omega
    refine ⟨_, socketStart_ok started, ?_⟩
    rw [boundAddress_of_ne_zero nonzero]
    exact ⟨rfl, low⟩

def listenFile (ip port : String) : Inifile where
  path := some (.literal "pdns-logger.ini")
  delivered :=
    [⟨.literal "globals", .literal "bind-ip", .literal ip⟩,
      ⟨.literal "globals", .literal "bind-port", .literal port⟩]
  error := 0

def listenGlobals (ip port : String) : Globals :=
  (parseConfigFile (listenFile ip port) ⟨none, 0, false, false⟩).2

theorem listens_as_configured_iff_allAddresses :
    ListensAt (listenGlobals "0.0.0.0" "4242") .inaddrAny 4242 := by
  apply (listens_as_configured_iff (listenFile "0.0.0.0" "4242") ⟨none, 0, false, false⟩ _
    .inaddrAny 4242 rfl ⟨⟨_, rfl, by decide⟩, ⟨_, rfl, .plain (by decide)⟩⟩).mpr
  exact ⟨rfl, by decide⟩

theorem not_listensAt {conf : Globals} {address : Ipv4} {number : Int} {answers : SocketAnswers}
    {sa : SockaddrIn} (started : socketStart answers conf = (.ok, some sa))
    (elsewhere : ¬ (sa.address = address ∧ (sa.port.toNat : Int) = number)) :
    ¬ ListensAt conf address number := by
  intro listens
  rcases listens answers _ started with ⟨bound, same, where_⟩
  cases Option.some.inj same
  exact elsewhere where_

/-- The documented configuration is read as it stands, and the daemon listens on
all addresses.  A port out of range becomes another one, and port 0 any. -/
theorem documented_address_ignored :
    (ListenConfig (listenFile "127.0.0.1" "4242").delivered ⟨127, 0, 0, 1⟩ 4242 ∧
      socketStart .willing (listenGlobals "127.0.0.1" "4242") =
        (.ok, some ⟨⟨0, 0, 0, 0⟩, 4242⟩) ∧
      ¬ ListensAt (listenGlobals "127.0.0.1" "4242") ⟨127, 0, 0, 1⟩ 4242) ∧
    (ListenConfig (listenFile "0.0.0.0" "70000").delivered ⟨0, 0, 0, 0⟩ 70000 ∧
      socketStart .willing (listenGlobals "0.0.0.0" "70000") =
        (.ok, some ⟨⟨0, 0, 0, 0⟩, 4464⟩) ∧
      ¬ ListensAt (listenGlobals "0.0.0.0" "70000") ⟨0, 0, 0, 0⟩ 70000) ∧
    (ListenConfig (listenFile "0.0.0.0" "-1").delivered ⟨0, 0, 0, 0⟩ (-1) ∧
      socketStart .willing (listenGlobals "0.0.0.0" "-1") =
        (.ok, some ⟨⟨0, 0, 0, 0⟩, 65535⟩) ∧
      ¬ ListensAt (listenGlobals "0.0.0.0" "-1") ⟨0, 0, 0, 0⟩ (-1)) ∧
    (ListenConfig (listenFile "0.0.0.0" "0").delivered ⟨0, 0, 0, 0⟩ 0 ∧
      socketStart .willing (listenGlobals "0.0.0.0" "0") =
        (.ok, some ⟨⟨0, 0, 0, 0⟩, 1⟩) ∧
      ¬ ListensAt (listenGlobals "0.0.0.0" "0") ⟨0, 0, 0, 0⟩ 0) := by
  have address : socketStart .willing (listenGlobals "127.0.0.1" "4242") =
      (.ok, some ⟨⟨0, 0, 0, 0⟩, 4242⟩) := by
    decide +kernel
  have large : socketStart .willing (listenGlobals "0.0.0.0" "70000") =
      (.ok, some ⟨⟨0, 0, 0, 0⟩, 4464⟩) := by
    decide +kernel
  have negative : socketStart .willing (listenGlobals "0.0.0.0" "-1") =
      (.ok, some ⟨⟨0, 0, 0, 0⟩, 65535⟩) := by
    decide +kernel
  have zero : socketStart .willing (listenGlobals "0.0.0.0" "0") =
      (.ok, some ⟨⟨0, 0, 0, 0⟩, 1⟩) := by
    decide +kernel
  refine ⟨⟨?_, address, ?_⟩, ⟨?_, large, ?_⟩, ⟨?_, negative, ?_⟩, ⟨?_, zero, ?_⟩⟩
  · exact ⟨⟨_, rfl, by decide⟩, ⟨_, rfl, .plain (by decide)⟩⟩
  · exact not_listensAt address (by decide)
  · exact ⟨⟨_, rfl, by decide⟩, ⟨_, rfl, .plain (by decide)⟩⟩
  · exact not_listensAt large (by decide)
  · exact ⟨⟨_, rfl, by decide⟩, ⟨_, rfl, .minus (by decide)⟩⟩
  · exact not_listensAt negative (by decide)
  · exact ⟨⟨_, rfl, by decide⟩, ⟨_, rfl, .plain (by decide)⟩⟩
  · exact not_listensAt zero (by decide)

end Transport
end PdnsLogger
