import PdnsLogger.Inih.Acceptance

namespace PdnsLogger
namespace Inih

open Foundation Program

/-!
# Writing a configuration and reading it back

A configuration is a list of sections with their options.  Its types carry what
the texts must satisfy to be written without quoting, of which the format has
none.  `render` writes one line for each section and option, and the parser
reads the same configuration back.

A line may have 199 bytes without its newline.  At exactly that length the
buffer is full before the newline, which then makes a blank line of its own; the
options are the same.  One byte more, and the value is cut.
-/

/-! ## Configurations -/

/-- A name and a value that can be written on one line. -/
structure OptionText where
  name : Bytes
  value : Bytes
  nameTrimmed : Trimmed isspace name
  nameUnmarked : Unmarked name
  nameUnopened : name.head? ≠ some 91
  nameUnseparated : 61 ∉ name ∧ 58 ∉ name
  nameUncommented : Uncommented name
  valueTrimmed : Trimmed isspace value
  valueUncommented : Uncommented value
  plain : 0 ∉ name ++ value ∧ 10 ∉ name ++ value

def OptionText.line (option : OptionText) : Bytes :=
  option.name ++ 61 :: option.value

/-- The line of an option fits in the buffer. -/
def OptionText.Fits (option : OptionText) : Prop :=
  option.name.length + 1 + option.value.length ≤ 199

instance (option : OptionText) : Decidable option.Fits :=
  inferInstanceAs (Decidable (_ ≤ _))

/-- A name that can be written in brackets. -/
structure SectionName where
  name : Bytes
  short : name.length ≤ 49
  closed : 93 ∉ name
  uncommented : Uncommented name
  plain : 0 ∉ name ∧ 10 ∉ name

def SectionName.line (section_ : SectionName) : Bytes :=
  91 :: (section_.name ++ [93])

structure SectionText where
  heading : SectionName
  options : List OptionText

def Fits (config : List SectionText) : Prop :=
  forall section_, section_ ∈ config -> forall option, option ∈ section_.options -> option.Fits

instance (config : List SectionText) : Decidable (Fits config) :=
  inferInstanceAs (Decidable (forall section_, section_ ∈ config -> _))

def renderOptions (options : List OptionText) : Bytes :=
  options.flatMap fun option => option.line ++ [10]

def render (config : List SectionText) : Bytes :=
  config.flatMap fun section_ => section_.heading.line ++ 10 :: renderOptions section_.options

def OptionText.triple (heading : SectionName) (option : OptionText) : Triple :=
  ⟨.read heading.name, .read option.name, .read option.value⟩

def triples (config : List SectionText) : List Triple :=
  config.flatMap fun section_ => section_.options.map (OptionText.triple section_.heading)

/-! ## One line -/

/-- The texts of a file that does not begin with a byte order mark. -/
def plainTexts (file : Bytes) : List Bytes :=
  (fileLines file).map fun line => (CString.read line).bytes

/-- A line that fits is one line of the file, or one line and a blank one. -/
theorem fileLines_line {line : Bytes} (single : 10 ∉ line) (short : line.length ≤ 199)
    (rest : Bytes) :
    fileLines (line ++ 10 :: rest) = (line ++ [10]) :: fileLines rest ∨
      fileLines (line ++ 10 :: rest) = line :: [10] :: fileLines rest := by
  by_cases full : line.length = 199
  · have blank : fileLines ([] ++ 10 :: rest) = ([] ++ [10]) :: fileLines rest :=
      fileLines_terminated List.not_mem_nil (by decide) rest
    apply Or.inr
    rw [fileLines_full single full]
    exact congrArg (line :: ·) blank
  · exact .inl (fileLines_terminated single (by omega) rest)

theorem itemsFrom_line {line : Bytes} (noNul : 0 ∉ line) (single : 10 ∉ line)
    (short : line.length ≤ 199) (rest : Bytes) (continuing : Bool) :
    Exists fun blank : List Item => (blank = [] ∨ blank = [.nothing]) ∧
      itemsFrom continuing (plainTexts (line ++ 10 :: rest)) =
        readItem continuing line :: blank ++
          itemsFrom ((readItem continuing line).continues continuing) (plainTexts rest) := by
  have text : (CString.read line).bytes = line := bytes_read noNul
  have ended : (CString.read (line ++ [10])).bytes = line ++ [10] := by
    apply bytes_read
    rw [List.mem_append, not_or]
    exact ⟨noNul, by decide⟩
  have newline : Spaces isspace [10] := by
    intro byte member
    rw [List.mem_singleton.mp member]
    rfl
  have same : readItem continuing (line ++ [10]) = readItem continuing line := by
    have stripped : rstrip (line ++ [10]) = rstrip line := rdropWhile_append_spaces line newline
    rw [readItem, stripped]
    rfl
  rcases fileLines_line single short rest with whole | cut
  · refine ⟨[], .inl rfl, ?_⟩
    rw [plainTexts, whole, List.map_cons, ended, itemsFrom, same]
    rfl
  · refine ⟨[.nothing], .inr rfl, ?_⟩
    have blank : (CString.read [10]).bytes = [10] := by decide
    rw [plainTexts, cut, List.map_cons, List.map_cons, text, blank, itemsFrom, itemsFrom,
      readItem_blank _ newline]
    rfl

theorem OptionText.readItem_line (option : OptionText) (continuing : Bool) :
    readItem continuing option.line = .option option.name option.value := by
  have denotes : Denotes continuing ([] ++ (option.name ++ [] ++ 61 :: option.value))
      (.option option.name option.value) := by
    refine .option Spaces.nil (fun _ => rfl) option.nameTrimmed Spaces.nil (fun _ => rfl)
      option.nameUnmarked option.nameUnopened option.nameUnseparated ?_ (.inl rfl) ?_
    · rw [List.append_nil]
      exact option.nameUncommented
    · refine ⟨option.value, [], (List.append_nil _).symm, option.valueUncommented, nofun, [], [],
        ?_, Spaces.nil, Spaces.nil, option.valueTrimmed⟩
      rw [List.append_nil]
      rfl
  rw [List.append_nil] at denotes
  exact denotes.readItem_eq

theorem SectionName.readItem_line (heading : SectionName) (continuing : Bool) :
    readItem continuing heading.line = .heading heading.name :=
  (Denotes.heading Spaces.nil (fun _ => rfl) heading.closed heading.uncommented).readItem_eq

/-- The bytes of a line are those of the name and the value, and the separator. -/
theorem OptionText.not_mem_line (option : OptionText) {byte : UInt8}
    (absent : byte ∉ option.name ++ option.value) (other : byte ≠ 61) : byte ∉ option.line := by
  intro member
  rcases List.mem_append.mp member with inside | inside
  · exact absent (List.mem_append_left _ inside)
  · rcases List.mem_cons.mp inside with same | inside
    · exact other same
    · exact absent (List.mem_append_right _ inside)

theorem SectionName.not_mem_line (heading : SectionName) {byte : UInt8}
    (absent : byte ∉ heading.name) (notOpening : byte ≠ 91) (notClosing : byte ≠ 93) :
    byte ∉ heading.line := by
  intro member
  rcases List.mem_cons.mp member with same | member
  · exact notOpening same
  · rcases List.mem_append.mp member with inside | last
    · exact absent inside
    · exact notClosing (List.mem_singleton.mp last)

theorem OptionText.length_line (option : OptionText) :
    option.line.length = option.name.length + 1 + option.value.length := by
  rw [OptionText.line, List.length_append, List.length_cons]
  omega

/-! ## Whole configurations -/

/-- In its context a text is well formed and stands for these triples. -/
def Yields (file : Bytes) (context : Context) (continuing : Bool) (delivered : List Triple) :
    Prop :=
  .malformed ∉ itemsFrom continuing (plainTexts file) ∧
    (context.calls 1 (itemsFrom continuing (plainTexts file))).map Prod.fst = delivered

theorem yields_nil (context : Context) (continuing : Bool) : Yields [] context continuing [] :=
  ⟨List.not_mem_nil, rfl⟩

theorem yields_line {line : Bytes} (noNul : 0 ∉ line) (single : 10 ∉ line)
    (short : line.length ≤ 199) {continuing : Bool} {item : Item}
    (read : readItem continuing line = item) (wellFormed : item ≠ .malformed) (rest : Bytes)
    (context : Context) (delivered : List Triple) :
    Yields (line ++ 10 :: rest) context continuing
        ((context.triple item).toList ++ delivered) ↔
      Yields rest (context.after item) (item.continues continuing) delivered := by
  rcases itemsFrom_line noNul single short rest continuing with ⟨blank, empty, items⟩
  rw [read] at items
  have head : (context.calls 1 (item :: blank ++ itemsFrom (item.continues continuing)
      (plainTexts rest))).map Prod.fst = (context.triple item).toList ++
        ((context.after item).calls 1
          (itemsFrom (item.continues continuing) (plainTexts rest))).map Prod.fst := by
    rw [List.cons_append, Context.calls, List.map_append]
    congr 1
    · cases context.triple item <;> rfl
    · rcases empty with rfl | rfl
      · exact Context.triples_calls _ _ _ _
      · exact Context.triples_calls _ _ _ _
  have members : .malformed ∉ item :: blank ++ itemsFrom (item.continues continuing)
      (plainTexts rest) ↔ .malformed ∉ itemsFrom (item.continues continuing) (plainTexts rest) := by
    rcases empty with rfl | rfl
    · simp [Ne.symm wellFormed]
    · simp [Ne.symm wellFormed]
  rw [Yields, Yields, items, head, members, List.append_cancel_left_eq]

/-! ## Lines that do not fit -/

/-- A name without its separator is no line. -/
theorem readItem_unseparated {text : Bytes} (nonempty : text ≠ [])
    (visible : forall first, text.head? = some first ->
      isspace first = false ∧ first ≠ 59 ∧ first ≠ 35 ∧ first ≠ 91)
    (unseparated : 61 ∉ text ∧ 58 ∉ text) (continuing : Bool) :
    readItem continuing text = .malformed := by
  -- An indentation would begin with a space.
  have unindented : forall {indent rest : Bytes}, text = indent ++ rest ->
      Spaces isspace indent -> indent = [] := by
    intro indent rest same spaces
    cases indent with
    | nil => rfl
    | cons first indent =>
        have space := spaces first List.mem_cons_self
        rw [(visible first (by rw [same]; rfl)).1] at space
        cases space
  by_contra wellFormed
  have denotes := denotes_of_readItem wellFormed
  generalize readItem continuing text = item at denotes
  cases denotes with
  | blank blank => exact nonempty (unindented (List.append_nil _).symm blank)
  | comment indented marked =>
      cases unindented rfl indented
      rcases visible _ rfl with ⟨_, semicolon, hash, _⟩
      rcases marked with same | same
      · exact semicolon same
      · exact hash same
  | continuation _ moved indented =>
      exact moved (unindented (List.append_assoc _ _ _) indented)
  | heading indented =>
      cases unindented rfl indented
      exact (visible 91 rfl).2.2.2 rfl
  | option _ _ _ _ _ _ _ _ _ separates =>
      rcases separates with rfl | rfl
      · exact unseparated.1 (by simp)
      · exact unseparated.2 (by simp)

theorem Uncommented.of_prefix {text whole : Bytes} (uncommented : Uncommented whole)
    (front : text <+: whole) : Uncommented text := by
  rcases front with ⟨rest, rfl⟩
  rintro before space after rfl
  exact uncommented before space (after ++ rest) (by simp)

/-- A value that is cut is read as a shorter one. -/
theorem OptionText.readItem_cut (option : OptionText) (size : Nat)
    (inside : size < option.value.length) (continuing : Bool) :
    Exists fun value => readItem continuing (option.name ++ 61 :: option.value.take size) =
        .option option.name value ∧ value.length < option.value.length ∧
      0 ∉ value := by
  rcases exists_trim isspace (option.value.take size) with ⟨gap, trail, divided, _, before,
    behind, trimmed⟩
  refine ⟨trim isspace (option.value.take size), ?_, ?_, ?_⟩
  · have denotes : Denotes continuing ([] ++ (option.name ++ [] ++ 61 :: option.value.take size))
        (.option option.name (trim isspace (option.value.take size))) := by
      refine .option Spaces.nil (fun _ => rfl) option.nameTrimmed Spaces.nil (fun _ => rfl)
        option.nameUnmarked option.nameUnopened option.nameUnseparated ?_ (.inl rfl) ?_
      · rw [List.append_nil]
        exact option.nameUncommented
      · exact ⟨_, [], (List.append_nil _).symm,
          option.valueUncommented.of_prefix (List.take_prefix _ _), nofun, gap, trail, divided,
          before, behind, trimmed⟩
    rw [List.append_nil] at denotes
    exact denotes.readItem_eq
  · have lengths := congrArg List.length divided
    simp only [List.length_append, List.length_take] at lengths
    omega
  · intro zero
    apply option.plain.1
    have member : 0 ∈ option.value.take size := by
      rw [divided]
      simp [zero]
    exact List.mem_append_right _ (List.mem_of_mem_take member)

/-- The file's first line of an option that does not fit is its first 199 bytes. -/
theorem fileLines_unfit {option : OptionText} (long : 199 < option.line.length) (rest : Bytes) :
    fileLines (option.line ++ 10 :: rest) =
      option.line.take 199 :: fileLines (option.line.drop 199 ++ 10 :: rest) := by
  have single := option.not_mem_line option.plain.2 (by decide)
  have full : (option.line.take 199).length = 199 := by
    rw [List.length_take]
    omega
  have cut := fileLines_full (fun member => single (List.mem_of_mem_take member)) full
    (option.line.drop 199 ++ 10 :: rest)
  rw [← List.append_assoc, List.take_append_drop] at cut
  exact cut

/-- A name that fills the first 199 bytes leaves no room for its separator. -/
theorem OptionText.readItem_name (option : OptionText) (named : 199 ≤ option.name.length)
    (continuing : Bool) : readItem continuing (option.line.take 199) = .malformed := by
  have front : option.line.take 199 = option.name.take 199 := List.take_append_of_le_length named
  rw [front]
  apply readItem_unseparated
  · intro empty
    have none := congrArg List.length empty
    rw [List.length_take, List.length_nil] at none
    omega
  · intro byte head
    have same : option.name.head? = some byte := by
      rw [List.head?_take] at head
      simpa using head
    refine ⟨option.nameTrimmed.head byte same, ?_, ?_, ?_⟩
    · rintro rfl
      exact option.nameUnmarked.1 same
    · rintro rfl
      exact option.nameUnmarked.2 same
    · rintro rfl
      exact option.nameUnopened same
  · exact ⟨fun member => option.nameUnseparated.1 (List.mem_of_mem_take member),
      fun member => option.nameUnseparated.2 (List.mem_of_mem_take member)⟩

/-- The value of an option that does not fit is lost, or the option itself. -/
theorem not_yields_unfit {option : OptionText} (long : ¬ option.Fits) (rest : Bytes)
    (context : Context) (continuing : Bool) (delivered : List Triple) :
    ¬ Yields (option.line ++ 10 :: rest) context continuing
      (⟨context.section_.text, .read option.name, .read option.value⟩ :: delivered) := by
  have length := option.length_line
  rw [OptionText.Fits] at long
  have noNul := option.not_mem_line option.plain.1 (by decide)
  have text : (CString.read (option.line.take 199)).bytes = option.line.take 199 :=
    bytes_read fun zero => noNul (List.mem_of_mem_take zero)
  rintro ⟨wellFormed, same⟩
  rw [plainTexts, fileLines_unfit (by omega) rest, List.map_cons, text, itemsFrom]
    at wellFormed same
  by_cases named : 199 ≤ option.name.length
  · rw [option.readItem_name named continuing] at wellFormed
    exact wellFormed List.mem_cons_self
  · have front : option.line.take 199 =
        option.name ++ 61 :: option.value.take (198 - option.name.length) := by
      have room : 199 - option.name.length = 198 - option.name.length + 1 := by omega
      rw [OptionText.line, List.take_append, List.take_of_length_le (by omega), room,
        List.take_succ_cons]
    rcases option.readItem_cut (198 - option.name.length) (by omega) continuing with
      ⟨value, read, shorter, clean⟩
    rw [front, read] at same
    have whole := (Triple.mk.inj (List.cons.inj same).1).2.2
    have lengths := congrArg (fun text : CString => text.bytes.length) whole
    rw [bytes_read clean, bytes_read fun zero => option.plain.1 (List.mem_append_right _ zero)]
      at lengths
    omega

/-! ## The round trip -/

theorem SectionName.text_strncpy0 (heading : SectionName) :
    (strncpy0 heading.name).text = .read heading.name := by
  apply CString.ext
  rw [bytes_strncpy0 heading.plain.1, bytes_read heading.plain.1]
  exact List.take_of_length_le heading.short

/-- An option is read back exactly when it fits. -/
theorem yields_option_iff (option : OptionText) (rest : Bytes) (context : Context)
    (continuing : Bool) (delivered : List Triple) :
    Yields (option.line ++ 10 :: rest) context continuing
        (⟨context.section_.text, .read option.name, .read option.value⟩ :: delivered) ↔
      option.Fits ∧ Yields rest { context with prevName := strncpy0 option.name }
        (!option.name.isEmpty) delivered := by
  by_cases fits : option.Fits
  · have short : option.line.length ≤ 199 := by
      rw [option.length_line]
      exact fits
    have same := yields_line (option.not_mem_line option.plain.1 (by decide))
      (option.not_mem_line option.plain.2 (by decide)) short (option.readItem_line continuing)
      nofun rest context delivered
    exact same.trans (and_iff_right fits).symm
  · exact iff_of_false (not_yields_unfit fits rest context continuing delivered)
      fun both => fits both.1

theorem yields_options_iff (heading : SectionName) (options : List OptionText) {rest : Bytes}
    {delivered : List Triple} {good : Prop}
    (decides : forall prevName continuing,
      Yields rest ⟨strncpy0 heading.name, prevName⟩ continuing delivered ↔ good)
    (prevName : CharArray maxText) (continuing : Bool) :
    Yields (renderOptions options ++ rest) ⟨strncpy0 heading.name, prevName⟩ continuing
        (options.map (OptionText.triple heading) ++ delivered) ↔
      (forall option, option ∈ options -> option.Fits) ∧ good := by
  induction options generalizing prevName continuing with
  | nil =>
      rw [and_iff_right (by nofun)]
      exact decides prevName continuing
  | cons option options ih =>
      have file : renderOptions (option :: options) ++ rest =
          option.line ++ 10 :: (renderOptions options ++ rest) := by
        simp [renderOptions]
      have triple : OptionText.triple heading option =
          ⟨(strncpy0 heading.name).text, .read option.name, .read option.value⟩ := by
        rw [heading.text_strncpy0]
        rfl
      rw [file, List.map_cons, List.cons_append, triple]
      refine (yields_option_iff option _ ⟨strncpy0 heading.name, prevName⟩ continuing _).trans ?_
      rw [ih, ← and_assoc, List.forall_mem_cons]

theorem yields_render_iff (config : List SectionText) (context : Context) (continuing : Bool) :
    Yields (render config) context continuing (triples config) ↔ Fits config := by
  induction config generalizing context continuing with
  | nil => exact iff_of_true (yields_nil context continuing) nofun
  | cons first config ih =>
      have short : first.heading.line.length ≤ 199 := by
        have bound := first.heading.short
        rw [SectionName.line, List.length_cons, List.length_append, List.length_singleton]
        omega
      have plain := first.heading.plain
      have heading := yields_line (first.heading.not_mem_line plain.1 (by decide) (by decide))
        (first.heading.not_mem_line plain.2 (by decide) (by decide)) short
        (first.heading.readItem_line continuing) nofun
        (renderOptions first.options ++ render config) context
        (first.options.map (OptionText.triple first.heading) ++ triples config)
      have options := yields_options_iff first.heading first.options
        (fun prevName continuing => ih ⟨strncpy0 first.heading.name, prevName⟩ continuing)
        .empty false
      have file : render (first :: config) =
          first.heading.line ++ 10 :: (renderOptions first.options ++ render config) := by
        simp [render]
      rw [file, Fits, List.forall_mem_cons]
      exact heading.trans options

theorem textsFrom_render (config : List SectionText) :
    textsFrom 1 (fileLines (render config)) = plainTexts (render config) := by
  apply textsFrom_eq_map (by decide)
  intro _ line head marked
  have front := marked.trans ((List.takeWhile_prefix _).trans (prefix_of_head_fileLines head))
  cases config with
  | nil =>
      rcases front with ⟨rest, same⟩
      cases same
  | cons first config =>
      rcases front with ⟨rest, same⟩
      have bracket : (0xEF : UInt8) = 91 := (List.cons.inj same).1
      cases bracket

/-- A configuration that is written out is read back, option by option in their
order and each with its section, exactly when every line fits in the buffer. -/
theorem ini_round_trip (config : List SectionText) (more : Nat) :
    iniParse ((render config).length + 1 + more) (some (render config)) recorded [] =
        .ok (0, triples config) ↔
      Fits config := by
  rw [iniParse_recorded_iff, ← yields_render_iff config .start false, fileCalls, fileItems,
    textsFrom_render]
  rfl

end Inih
end PdnsLogger
