import PdnsLogger.Inih.Lines

namespace PdnsLogger
namespace Inih

open Foundation Program

/-!
# Whole files

What a file makes the parser do does not depend on the handler: the calls, with
their line numbers, and the malformed lines are functions of the bytes.  A
handler only decides what becomes of the calls and which of them it rejects.
The value returned is the number of the first line that is malformed or
rejected, and a later line is treated no differently because of it.

A file is accepted exactly when its lines form a document, that is when every
line denotes something in the context left by the lines before it.
-/

/-! ## Items and their context -/

/-- Whether an indented line behind this item continues an option. -/
def Item.continues (continuing : Bool) : Item -> Bool
  | .heading _ => false
  | .option name _ => !name.isEmpty
  | _ => continuing

/-- The section and the last name. -/
structure Context where
  section_ : CharArray maxText
  prevName : CharArray maxText

namespace Context

def start : Context :=
  ⟨.empty, .empty⟩

/-- What an item delivers to the handler. -/
def triple (context : Context) : Item -> Option Triple
  | .continuation value => some ⟨context.section_.text, context.prevName.text, .read value⟩
  | .option name value => some ⟨context.section_.text, .read name, .read value⟩
  | _ => none

def after (context : Context) : Item -> Context
  | .heading name => ⟨strncpy0 name, .empty⟩
  | .option name _ => { context with prevName := strncpy0 name }
  | _ => context

/-- The calls for the items of the lines from `lineno` on. -/
def calls (context : Context) (lineno : Nat) : List Item -> List (Triple × Nat)
  | [] => []
  | item :: items =>
      ((context.triple item).map fun triple => (triple, lineno)).toList ++
        (context.after item).calls (lineno + 1) items

end Context

/-- The numbers of the malformed lines. -/
def malformedFrom (lineno : Nat) : List Item -> List Nat
  | [] => []
  | item :: items =>
      (if item = .malformed then [lineno] else []) ++ malformedFrom (lineno + 1) items

/-- The lines of the calls that a handler rejects. -/
def rejected {User : Type} (handler : IniHandler User) :
    User -> List (Triple × Nat) -> List Nat
  | _, [] => []
  | user, (triple, lineno) :: calls =>
      (if (handler user triple lineno).1 then [] else [lineno]) ++
        rejected handler (handler user triple lineno).2 calls

/-- The text of a line: up to a zero byte, and in the first line behind a byte
order mark. -/
def lineText (lineno : Nat) (line : Bytes) : Bytes :=
  if lineno == 1 && byteOrderMark.isPrefixOf (CString.read line).bytes then
    (CString.read line).bytes.drop 3
  else (CString.read line).bytes

def textsFrom (lineno : Nat) : List Bytes -> List Bytes
  | [] => []
  | line :: lines => lineText lineno line :: textsFrom (lineno + 1) lines

def itemsFrom (continuing : Bool) : List Bytes -> List Item
  | [] => []
  | text :: texts =>
      readItem continuing text ::
        itemsFrom ((readItem continuing text).continues continuing) texts

def fileLines (file : Bytes) : List Bytes :=
  boundedLines (· == 10) (iniMaxLine - 1) file

def fileItems (file : Bytes) : List Item :=
  itemsFrom false (textsFrom 1 (fileLines file))

def fileCalls (file : Bytes) : List (Triple × Nat) :=
  Context.start.calls 1 (fileItems file)

/-! ## What is in an item -/

def Item.bytes : Item -> Bytes
  | .continuation value => value
  | .heading name => name
  | .option name value => name ++ value
  | _ => []

theorem ValueField.subset {text value : Bytes} (valued : ValueField text value) :
    value ⊆ text := by
  rcases valued with ⟨kept, comment, rfl, _, _, gap, trail, rfl, _⟩
  intro byte member
  simp [member]

theorem Denotes.bytes_subset {continuing : Bool} {text : Bytes} {item : Item}
    (denotes : Denotes continuing text item) : item.bytes ⊆ text := by
  intro byte member
  cases denotes with
  | blank => cases member
  | comment => cases member
  | continuation =>
      rw [Item.bytes] at member
      simp [member]
  | heading =>
      rw [Item.bytes] at member
      simp [member]
  | option _ _ _ _ _ _ _ _ _ _ valued =>
      rcases List.mem_append.mp member with member | member
      · simp [member]
      · simp [valued.subset member]

theorem bytes_readItem_subset (continuing : Bool) (text : Bytes) :
    (readItem continuing text).bytes ⊆ text := by
  by_cases malformed : readItem continuing text = .malformed
  · rw [malformed]
    exact List.nil_subset _
  · exact (denotes_of_readItem malformed).bytes_subset

theorem lineText_suffix (lineno : Nat) (line : Bytes) :
    lineText lineno line <:+ (CString.read line).bytes := by
  rw [lineText]
  split
  · exact List.drop_suffix _ _
  · exact List.suffix_rfl

theorem zero_not_mem_lineText (lineno : Nat) (line : Bytes) : 0 ∉ lineText lineno line :=
  fun member => (CString.read line).noNul 0 ((lineText_suffix lineno line).subset member) rfl

/-! ## One round -/

namespace IniState

variable {User : Type}

def context (state : IniState User) : Context :=
  ⟨state.section_, state.prevName⟩

/-- One round for the item of its line. -/
def round (handler : IniHandler User) (state : IniState User) (item : Item) : IniState User :=
  act handler { state with lineno := state.lineno + 1 } item

/-- The tests read the text of the line.  Before the first line no option is
there to be continued. -/
theorem item_eq {state : IniState User}
    (fresh : state.lineno = 0 -> state.continuing = false) (line : Bytes) :
    state.item line = readItem state.continuing (lineText (state.lineno + 1) line) := by
  simp only [item, lineStart, lineText]
  split
  next marked =>
    have first : state.lineno = 0 := by
      simp only [Bool.and_eq_true, beq_iff_eq] at marked
      omega
    simp only [readItem, classify, fresh first, Bool.false_and]
  next unmarked =>
    simp only [Bool.not_eq_true] at unmarked
    rw [unmarked, Bool.false_or]
    rfl

theorem call_context (handler : IniHandler User) (state : IniState User) (name value : CString) :
    (state.call handler name value).context = state.context ∧
      (state.call handler name value).lineno = state.lineno := by
  unfold call
  split
  split
  · exact ⟨rfl, rfl⟩
  · exact ⟨rfl, rfl⟩

theorem round_context (handler : IniHandler User) (state : IniState User) (item : Item) :
    (state.round handler item).context = state.context.after item ∧
      (state.round handler item).lineno = state.lineno + 1 := by
  cases item with
  | nothing => exact ⟨rfl, rfl⟩
  | continuation value => exact call_context handler _ _ _
  | heading name => exact ⟨rfl, rfl⟩
  | option name value => exact call_context handler _ _ _
  | malformed => exact ⟨rfl, rfl⟩

theorem continuing_eq (state : IniState User) :
    state.continuing = !state.context.prevName.text.bytes.isEmpty := rfl

theorem strncpy0_isEmpty {name : Bytes} (noNul : 0 ∉ name) :
    (strncpy0 name).text.bytes.isEmpty = name.isEmpty := by
  cases name with
  | nil => rfl
  | cons first name =>
      have kept : first ≠ 0 := by
        rintro rfl
        exact noNul List.mem_cons_self
      simp [strncpy0, maxText, CString.read, kept]

theorem round_continuing (handler : IniHandler User) (state : IniState User) {item : Item}
    (noNul : 0 ∉ item.bytes) :
    (state.round handler item).continuing = item.continues state.continuing := by
  rw [continuing_eq, (round_context handler state item).1]
  cases item with
  | nothing => rfl
  | continuation value => rfl
  | heading name => rfl
  | option name value =>
      have nameless : 0 ∉ name := fun member => noNul (List.mem_append_left _ member)
      exact congrArg (!·) (strncpy0_isEmpty nameless)
  | malformed => rfl

theorem foldl_parseLine (handler : IniHandler User) (lines : List Bytes) (state : IniState User)
    (fresh : state.lineno = 0 -> state.continuing = false) :
    lines.foldl (parseLine handler) state =
      (itemsFrom state.continuing (textsFrom (state.lineno + 1) lines)).foldl (round handler)
        state := by
  induction lines generalizing state with
  | nil => rfl
  | cons line lines ih =>
      have read := item_eq fresh line
      have noNul : 0 ∉ (readItem state.continuing (lineText (state.lineno + 1) line)).bytes :=
        fun member => zero_not_mem_lineText _ _ (bytes_readItem_subset _ _ member)
      have counted := (round_context handler state
        (readItem state.continuing (lineText (state.lineno + 1) line))).2
      have taken : state.parseLine handler line =
          state.round handler (readItem state.continuing (lineText (state.lineno + 1) line)) := by
        rw [parseLine, read, round]
      rw [List.foldl_cons, taken, ih _ (by rw [counted]; nofun), counted,
        round_continuing handler state noNul]
      rfl

end IniState

/-! ## The law of the handler -/

variable {User : Type}

/-- The data behind `user` after some calls. -/
def served (handler : IniHandler User) (user : User) (calls : List (Triple × Nat)) : User :=
  calls.foldl (fun user call => (handler user call.1 call.2).2) user

/-- A number is the first of some lines, or zero when there are none. -/
def IsFirst (error : Nat) (lines : List Nat) : Prop :=
  (error = 0 ∧ lines = []) ∨
    (error ∈ lines ∧ forall line, line ∈ lines -> error ≤ line)

theorem IsFirst.of_members {error : Nat} {lines others : List Nat} (first : IsFirst error others)
    (same : forall line, line ∈ lines ↔ line ∈ others) : IsFirst error lines := by
  rcases first with ⟨zero, rfl⟩ | ⟨inside, least⟩
  · refine .inl ⟨zero, List.eq_nil_iff_forall_not_mem.mpr ?_⟩
    intro line member
    cases (same line).mp member
  · exact .inr ⟨(same _).mpr inside, fun line member => least line ((same line).mp member)⟩

theorem IsFirst.unique {error other : Nat} {lines : List Nat} (first : IsFirst error lines)
    (again : IsFirst other lines) : error = other := by
  rcases first with ⟨rfl, rfl⟩ | ⟨inside, least⟩
  · rcases again with ⟨rfl, _⟩ | ⟨impossible, _⟩
    · rfl
    · cases impossible
  · rcases again with ⟨_, rfl⟩ | ⟨within, smallest⟩
    · cases inside
    · exact Nat.le_antisymm (least other within) (smallest error inside)

namespace IniState

theorem round_user (handler : IniHandler User) (state : IniState User) (item : Item) :
    (state.round handler item).user =
      served handler state.user
        ((state.context.triple item).map fun triple => (triple, state.lineno + 1)).toList := by
  have called : forall (state : IniState User) name value,
      (state.call handler name value).user =
        (handler state.user ⟨state.section_.text, name, value⟩ state.lineno).2 := by
    intro state name value
    unfold call
    split
    next accepted user result =>
      rw [result]
      split
      · rfl
      · rfl
  cases item with
  | nothing => rfl
  | continuation value => exact called _ _ _
  | heading name => rfl
  | option name value => exact called _ _ _
  | malformed => rfl

/-- A round notes its line when it is malformed or rejected, unless another one
has been noted. -/
theorem round_error (handler : IniHandler User) (state : IniState User) (item : Item) :
    (state.round handler item).error =
      if state.error = 0 ∧ (item = .malformed ∨ Exists fun triple =>
          state.context.triple item = some triple ∧
            (handler state.user triple (state.lineno + 1)).1 = false) then
        state.lineno + 1
      else state.error := by
  have called : forall (state : IniState User) name value,
      (state.call handler name value).error =
        if state.error = 0 ∧
            (handler state.user ⟨state.section_.text, name, value⟩ state.lineno).1 = false then
          state.lineno
        else state.error := by
    intro state name value
    unfold call
    split
    next accepted user result =>
      rw [result]
      cases accepted with
      | true => simp
      | false => simp [fail]
  cases item with
  | nothing => simp [round, act, Context.triple]
  | continuation value =>
      rw [round, act, called]
      simp [Context.triple, context]
  | heading name => simp [round, act, Context.triple]
  | option name value =>
      rw [round, act, called]
      simp [Context.triple, context]
  | malformed => simp [round, act, fail]

theorem foldl_round_user (handler : IniHandler User) (items : List Item) (state : IniState User) :
    (items.foldl (round handler) state).user =
      served handler state.user (state.context.calls (state.lineno + 1) items) := by
  induction items generalizing state with
  | nil => rfl
  | cons item items ih =>
      rw [List.foldl_cons, ih, round_user, (round_context handler state item).1,
        (round_context handler state item).2, Context.calls, served, served, served,
        List.foldl_append]

end IniState

/-- The lines still to come have larger numbers. -/
theorem le_of_mem_malformedFrom {lineno line : Nat} {items : List Item}
    (member : line ∈ malformedFrom lineno items) : lineno ≤ line := by
  induction items generalizing lineno with
  | nil => cases member
  | cons item items ih =>
      rcases List.mem_append.mp member with here | later
      · split at here
        · exact Nat.le_of_eq (List.mem_singleton.mp here).symm
        · cases here
      · exact Nat.le_of_succ_le (ih later)

theorem le_of_mem_calls {context : Context} {lineno : Nat} {items : List Item}
    {call : Triple × Nat} (member : call ∈ context.calls lineno items) : lineno ≤ call.2 := by
  induction items generalizing context lineno with
  | nil => cases member
  | cons item items ih =>
      rcases List.mem_append.mp member with here | later
      · rcases Option.map_eq_some_iff.mp (Option.mem_toList.mp here) with ⟨triple, _, rfl⟩
        exact Nat.le_refl _
      · exact Nat.le_of_succ_le (ih later)

theorem line_of_mem_rejected {handler : IniHandler User} {user : User}
    {calls : List (Triple × Nat)} {line : Nat} (member : line ∈ rejected handler user calls) :
    Exists fun call => call ∈ calls ∧ call.2 = line := by
  induction calls generalizing user with
  | nil => cases member
  | cons call calls ih =>
      rcases List.mem_append.mp member with here | later
      · split at here
        · cases here
        · exact ⟨call, List.mem_cons_self, (List.mem_singleton.mp here).symm⟩
      · rcases ih later with ⟨other, inside, same⟩
        exact ⟨other, List.mem_cons_of_mem _ inside, same⟩

theorem rejected_append (handler : IniHandler User) (user : User)
    (first second : List (Triple × Nat)) :
    rejected handler user (first ++ second) =
      rejected handler user first ++ rejected handler (served handler user first) second := by
  induction first generalizing user with
  | nil => rfl
  | cons call first ih =>
      simp only [List.cons_append, rejected, List.append_assoc]
      exact congrArg _ (ih _)

/-- A round adds its line to the lines in error, in front of those to come. -/
theorem mem_faults_cons (handler : IniHandler User) (user : User) (context : Context)
    (lineno : Nat) (item : Item) (items : List Item) (line : Nat) :
    line ∈ malformedFrom lineno (item :: items) ++
        rejected handler user (context.calls lineno (item :: items)) ↔
      (line = lineno ∧ (item = .malformed ∨ Exists fun triple =>
          context.triple item = some triple ∧ (handler user triple lineno).1 = false)) ∨
        line ∈ malformedFrom (lineno + 1) items ++ rejected handler
          (served handler user
            ((context.triple item).map fun triple => (triple, lineno)).toList)
          ((context.after item).calls (lineno + 1) items) := by
  rw [malformedFrom, Context.calls, rejected_append]
  have malformed : line ∈ (if item = .malformed then [lineno] else []) ↔
      line = lineno ∧ item = .malformed := by
    split
    next same => simp [same]
    next other => simp [other]
  have refused : line ∈ rejected handler user
      ((context.triple item).map fun triple => (triple, lineno)).toList ↔
        line = lineno ∧ Exists fun triple =>
          context.triple item = some triple ∧ (handler user triple lineno).1 = false := by
    cases context.triple item with
    | none => simp [rejected]
    | some triple =>
        cases answer : (handler user triple lineno).1 with
        | true => simp [rejected, answer]
        | false => simp [rejected, answer]
  simp only [List.mem_append, malformed, refused]
  rw [and_or_left, or_or_or_comm]

theorem IniState.foldl_round_error_kept (handler : IniHandler User) (items : List Item)
    {state : IniState User} (noted : state.error ≠ 0) :
    (items.foldl (round handler) state).error = state.error := by
  induction items generalizing state with
  | nil => rfl
  | cons item items ih =>
      have kept : (state.round handler item).error = state.error := by
        rw [round_error, if_neg fun both => noted both.1]
      rw [List.foldl_cons, ih (by rw [kept]; exact noted), kept]

theorem IniState.foldl_round_error (handler : IniHandler User) (items : List Item)
    (state : IniState User) (clean : state.error = 0) :
    IsFirst (items.foldl (round handler) state).error
      (malformedFrom (state.lineno + 1) items ++
        rejected handler state.user (state.context.calls (state.lineno + 1) items)) := by
  induction items generalizing state with
  | nil => exact .inl ⟨clean, rfl⟩
  | cons item items ih =>
      have members := mem_faults_cons handler state.user state.context (state.lineno + 1)
        item items
      by_cases fault : item = .malformed ∨ Exists fun triple =>
          state.context.triple item = some triple ∧
            (handler state.user triple (state.lineno + 1)).1 = false
      · have noted : (state.round handler item).error = state.lineno + 1 := by
          rw [round_error, if_pos ⟨clean, fault⟩]
        rw [List.foldl_cons, foldl_round_error_kept handler items (by rw [noted]; nofun), noted]
        refine .inr ⟨(members _).mpr (.inl ⟨rfl, fault⟩), ?_⟩
        intro line member
        rcases List.mem_append.mp member with malformed | refused
        · exact le_of_mem_malformedFrom malformed
        · rcases line_of_mem_rejected refused with ⟨call, inside, rfl⟩
          exact le_of_mem_calls inside
      · have passed : (state.round handler item).error = 0 := by
          rw [round_error, if_neg fun both => fault both.2, clean]
        have later := ih _ passed
        rw [round_user, (round_context handler state item).1,
          (round_context handler state item).2] at later
        rw [List.foldl_cons]
        refine later.of_members fun line => ?_
        rw [members line, or_iff_right fun both => fault both.2]

theorem reads_fileLines (file : Bytes) : Reads (fgets iniMaxLine) file (fileLines file) :=
  reads_boundedLines (· == (10 : UInt8)) (iniMaxLine - 1) (by decide) file

/-- A line with room for its newline is read as it stands. -/
theorem fileLines_terminated {line : Bytes} (single : 10 ∉ line) (short : line.length < 199)
    (rest : Bytes) : fileLines (line ++ 10 :: rest) = (line ++ [10]) :: fileLines rest := by
  apply boundedLines_terminated _ _ rfl short
  intro byte member
  exact beq_eq_false_iff_ne.mpr fun same => single (same ▸ member)

/-- Behind 199 bytes without a newline a line is cut. -/
theorem fileLines_full {line : Bytes} (single : 10 ∉ line) (full : line.length = 199)
    (rest : Bytes) : fileLines (line ++ rest) = line :: fileLines rest := by
  apply boundedLines_full _ _ full (by decide)
  intro byte member
  exact beq_eq_false_iff_ne.mpr fun same => single (same ▸ member)

theorem length_fileLines_le (file : Bytes) : (fileLines file).length ≤ file.length :=
  length_linesFrom_le (· == (10 : UInt8)) (iniMaxLine - 1) (iniMaxLine - 1) file

theorem iniParseFile_eq (file : Bytes) (handler : IniHandler User) (user : User) (more : Nat) :
    iniParseFile (file.length + 1 + more) file handler user =
      .ok (((fileItems file).foldl (IniState.round handler) (.start user)).error,
        served handler user (fileCalls file)) := by
  have reads := reads_fileLines file
  have few : (fileLines file).length < file.length + 1 + more := by
    have bound := length_fileLines_le file
    omega
  have looped : boundedLoop Fault.diverged
      (fun state => .ok (readingRound (fgets iniMaxLine) (IniState.parseLine handler) state))
      (file.length + 1 + more) (file, IniState.start user) =
        .ok ((fileLines file).foldl (IniState.parseLine handler) (.start user)) :=
    reads.boundedLoop_eq _ _ _ few
  have items := IniState.foldl_parseLine handler (fileLines file) (.start user)
    fun _ => rfl
  have final := IniState.foldl_round_user handler (fileItems file) (.start user)
  rw [iniParseFile, iniParseStream, looped, items]
  exact congrArg Except.ok (Prod.ext rfl final)

/-- The file is read to its end, and the handler is called for every triple in it. -/
theorem iniParse_eq (file : Bytes) (handler : IniHandler User) (user : User) (more : Nat) :
    iniParse (file.length + 1 + more) (some file) handler user =
      .ok ((((fileItems file).foldl (IniState.round handler) (.start user)).error : Int),
        served handler user (fileCalls file)) := by
  rw [iniParse, iniParseFile_eq]
  rfl

/-- For every file, handler and user the parser ends.  The handler has been
given every call of the file in order, and the value returned is the number of
the first line that is malformed or rejected. -/
theorem ini_parse_first_error (file : Bytes) (handler : IniHandler User) (user : User)
    (more : Nat) :
    Exists fun error : Nat =>
      iniParse (file.length + 1 + more) (some file) handler user =
        .ok ((error : Int), served handler user (fileCalls file)) ∧
      IsFirst error (malformedFrom 1 (fileItems file) ++
        rejected handler user (fileCalls file)) := by
  refine ⟨_, iniParse_eq file handler user more, ?_⟩
  exact IniState.foldl_round_error handler (fileItems file) (.start user) rfl

/-! ## Strings in place of files -/

def IniParseStringCtx.left (ctx : IniParseStringCtx) : Bytes :=
  ctx.ptr.take ctx.numLeft

/-- The copying loop takes the line that `fgets` takes. -/
theorem copyLine_eq (room : Nat) (ctx : IniParseStringCtx) :
    (copyLine (room + 1) ctx).1 = (takeLine (· == 10) room ctx.left).1 ∧
      (copyLine (room + 1) ctx).2.left = (takeLine (· == 10) room ctx.left).2 := by
  induction room generalizing ctx with
  | zero =>
      rw [copyLine]
      · exact ⟨rfl, rfl⟩
      · nofun
  | succ room ih =>
      rcases ctx with ⟨ptr, numLeft, valid⟩
      cases numLeft with
      | zero =>
          rw [copyLine]
          · exact ⟨rfl, rfl⟩
          · nofun
      | succ numLeft =>
          cases ptr with
          | nil => cases valid
          | cons char ptr =>
              have rest := ih ⟨ptr, numLeft, Nat.le_of_succ_le_succ valid⟩
              simp only [copyLine, IniParseStringCtx.left, List.take_succ_cons, takeLine,
                beq_iff_eq] at rest ⊢
              split
              · exact ⟨rfl, rfl⟩
              · exact ⟨congrArg (char :: ·) rest.1, rest.2⟩

theorem reads_iniReaderString {size : Nat} (large : 2 ≤ size) {stream : Bytes}
    {lines : List Bytes} (reads : Reads (fgets size) stream lines) {ctx : IniParseStringCtx}
    (same : ctx.left = stream) : Reads (iniReaderString size) ctx lines := by
  have empty : forall ctx : IniParseStringCtx, ctx.left = [] ↔ ctx.numLeft = 0 := by
    rintro ⟨ptr, numLeft, valid⟩
    rw [IniParseStringCtx.left, List.take_eq_nil_iff]
    constructor
    · rintro (zero | rfl)
      · exact zero
      · exact Nat.le_zero.mp valid
    · exact .inl
  refine reads.of_simulation (fun stream ctx => ctx.left = stream) ?_ ?_ same
  · rintro _ ctx rfl ended
    rw [fgets] at ended
    split at ended
    next none => exact if_pos (.inl ((empty ctx).mp none))
    next => cases ended
  · rintro _ ctx line rest rfl taken
    rw [fgets] at taken
    split at taken
    next => cases taken
    next some =>
      have copied := copyLine_eq (size - 1) ctx
      rw [Nat.sub_add_cancel (by omega), Option.some.inj taken] at copied
      refine ⟨(copyLine size ctx).2, ?_, copied.2⟩
      rw [iniReaderString, if_neg]
      · exact congrArg Option.some (Prod.ext copied.1 rfl)
      · rw [← empty ctx, not_or]
        exact ⟨some, by omega⟩

/-- A string is parsed as a file with the same bytes is, whatever the
handler. -/
theorem ini_string_as_file (string : CString) (handler : IniHandler User) (user : User)
    (more : Nat) :
    iniParseString (string.bytes.length + 1 + more) string handler user =
      iniParseFile (string.bytes.length + 1 + more) string.bytes handler user := by
  have reads := reads_fileLines string.bytes
  have few : (fileLines string.bytes).length < string.bytes.length + 1 + more := by
    have bound := length_fileLines_le string.bytes
    omega
  have whole : IniParseStringCtx.left ⟨string.bytes ++ [0], string.bytes.length, by simp⟩ =
      string.bytes := by
    rw [IniParseStringCtx.left, List.take_left]
  have mirrored := reads_iniReaderString (by decide) reads whole
  rw [iniParseString, iniParseFile, iniParseStream, iniParseStream,
    reads.boundedLoop_eq _ _ _ few, mirrored.boundedLoop_eq _ _ _ few]

end Inih
end PdnsLogger
