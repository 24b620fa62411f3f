import PdnsLogger.Inih.Documents

namespace PdnsLogger
namespace Inih

open Foundation Program

/-!
# What the parser accepts and delivers

A handler that accepts everything and keeps it makes the parser's own behaviour
visible.  The parser then returns zero exactly for the files whose lines form a
document, and the handler has what the document stands for.

Whatever the file, malformed or not, the triples that reach a handler are of one
shape, and a line that stands for nothing may be put between other lines without
changing them.
-/

/-! ## Documents -/

/-- Lines that each denote something in the context of the lines before. -/
inductive Document : Bool -> List Bytes -> List Item -> Prop where
  | nil {continuing : Bool} : Document continuing [] []
  | cons {continuing : Bool} {text : Bytes} {texts : List Bytes} {item : Item}
      {items : List Item} : Denotes continuing text item ->
      Document (item.continues continuing) texts items ->
      Document continuing (text :: texts) (item :: items)

theorem document_iff (continuing : Bool) (texts : List Bytes) (items : List Item) :
    Document continuing texts items ↔
      itemsFrom continuing texts = items ∧ .malformed ∉ items := by
  induction texts generalizing continuing items with
  | nil =>
      constructor
      · rintro ⟨⟩
        exact ⟨rfl, List.not_mem_nil⟩
      · rintro ⟨rfl, _⟩
        exact .nil
  | cons text texts ih =>
      constructor
      · intro document
        cases document with
        | cons denotes rest =>
            rcases (denotes_iff _ _ _).mp denotes with ⟨rfl, wellFormed⟩
            rcases (ih _ _).mp rest with ⟨rfl, others⟩
            refine ⟨rfl, ?_⟩
            rw [List.mem_cons, not_or]
            exact ⟨wellFormed.symm, others⟩
      · rintro ⟨rfl, wellFormed⟩
        rw [itemsFrom, List.mem_cons, not_or] at wellFormed
        exact .cons ((denotes_iff _ _ _).mpr ⟨rfl, Ne.symm wellFormed.1⟩)
          ((ih _ _).mpr ⟨rfl, wellFormed.2⟩)

theorem malformedFrom_eq_nil_iff (lineno : Nat) (items : List Item) :
    malformedFrom lineno items = [] ↔ .malformed ∉ items := by
  induction items generalizing lineno with
  | nil => simp [malformedFrom]
  | cons item items ih =>
      rw [malformedFrom, List.append_eq_nil_iff, ih, List.mem_cons, not_or]
      refine and_congr_left fun _ => ?_
      split
      next same => simp [same]
      next other => simp [Ne.symm other]

def recorded : IniHandler (List Triple) := fun triples triple _ =>
  (true, triples ++ [triple])

theorem rejected_of_accepting {User : Type} {handler : IniHandler User}
    (accepts : forall user triple lineno, (handler user triple lineno).1 = true) (user : User)
    (calls : List (Triple × Nat)) : rejected handler user calls = [] := by
  induction calls generalizing user with
  | nil => rfl
  | cons call calls ih => rw [rejected, if_pos (accepts _ _ _), ih, List.append_nil]

theorem served_recorded (triples : List Triple) (calls : List (Triple × Nat)) :
    served recorded triples calls = triples ++ calls.map Prod.fst := by
  induction calls generalizing triples with
  | nil => exact (List.append_nil _).symm
  | cons call calls ih =>
      rw [served, List.foldl_cons]
      exact (ih _).trans (List.append_assoc triples [call.1] _)

/-- With a handler that rejects nothing, the value returned is the first
malformed line. -/
theorem iniParse_of_accepting {User : Type} {handler : IniHandler User}
    (accepts : forall user triple lineno, (handler user triple lineno).1 = true) (file : Bytes)
    (user : User) (more : Nat) :
    Exists fun error : Nat =>
      iniParse (file.length + 1 + more) (some file) handler user =
        .ok ((error : Int), served handler user (fileCalls file)) ∧
      IsFirst error (malformedFrom 1 (fileItems file)) := by
  have first := IniState.foldl_round_error handler (fileItems file) (.start user) rfl
  rw [rejected_of_accepting accepts, List.append_nil] at first
  exact ⟨_, iniParse_eq file handler user more, first⟩

theorem iniParse_recorded (file : Bytes) (more : Nat) :
    Exists fun error : Nat =>
      iniParse (file.length + 1 + more) (some file) recorded [] =
        .ok ((error : Int), (fileCalls file).map Prod.fst) ∧
      IsFirst error (malformedFrom 1 (fileItems file)) := by
  have accepts : forall triples triple lineno, (recorded triples triple lineno).1 = true :=
    fun _ _ _ => rfl
  have parsed := iniParse_of_accepting accepts file [] more
  rw [served_recorded, List.nil_append] at parsed
  exact parsed

theorem IsFirst.eq_zero_iff {error lineno : Nat} {items : List Item} (positive : 0 < lineno)
    (first : IsFirst error (malformedFrom lineno items)) : error = 0 ↔ .malformed ∉ items := by
  rw [← malformedFrom_eq_nil_iff lineno]
  rcases first with ⟨zero, clean⟩ | ⟨inside, _⟩
  · exact iff_of_true zero clean
  · have later := le_of_mem_malformedFrom inside
    refine iff_of_false (by omega) ?_
    intro clean
    rw [clean] at inside
    cases inside

/-- A file is accepted with some triples when no line is malformed and they are
what it delivers. -/
theorem iniParse_recorded_iff (file : Bytes) (triples : List Triple) (more : Nat) :
    iniParse (file.length + 1 + more) (some file) recorded [] = .ok (0, triples) ↔
      .malformed ∉ fileItems file ∧ (fileCalls file).map Prod.fst = triples := by
  rcases iniParse_recorded file more with ⟨error, parsed, first⟩
  rw [parsed, ← first.eq_zero_iff (by decide)]
  constructor
  · intro accepted
    have both := Prod.mk.inj (Except.ok.inj accepted)
    exact ⟨Int.ofNat_eq_zero.mp both.1, both.2⟩
  · rintro ⟨rfl, rfl⟩
    rfl

theorem exists_document_iff (file : Bytes) (triples : List Triple) :
    (Exists fun items => Document false (textsFrom 1 (fileLines file)) items ∧
        (Context.start.calls 1 items).map Prod.fst = triples) ↔
      .malformed ∉ fileItems file ∧ (fileCalls file).map Prod.fst = triples := by
  constructor
  · rintro ⟨items, document, delivered⟩
    rcases (document_iff _ _ _).mp document with ⟨rfl, wellFormed⟩
    exact ⟨wellFormed, delivered⟩
  · rintro ⟨wellFormed, delivered⟩
    exact ⟨fileItems file, (document_iff _ _ _).mpr ⟨rfl, wellFormed⟩, delivered⟩

/-- A file is accepted with some triples exactly when its lines form a document
that stands for them. -/
theorem ini_accepts_documents (file : Bytes) (triples : List Triple) (more : Nat) :
    iniParse (file.length + 1 + more) (some file) recorded [] = .ok (0, triples) ↔
      Exists fun items => Document false (textsFrom 1 (fileLines file)) items ∧
        (Context.start.calls 1 items).map Prod.fst = triples :=
  (iniParse_recorded_iff file triples more).trans (exists_document_iff file triples).symm

/-! ## The shape of what is delivered -/

/-- What holds of every triple that reaches a handler.  A name of more than 49
bytes is cut for the lines that continue it, so that it may then end in a
space. -/
structure Delivered (triple : Triple) : Prop where
  sectionShort : triple.section_.bytes.length ≤ 49
  sectionClosed : 93 ∉ triple.section_.bytes
  nameShort : triple.name.bytes.length ≤ 198
  nameUnseparated : 61 ∉ triple.name.bytes ∧ 58 ∉ triple.name.bytes
  nameVisible : forall first, triple.name.bytes.head? = some first ->
    isspace first = false ∧ first ≠ 59 ∧ first ≠ 35 ∧ first ≠ 91
  valueShort : triple.value.bytes.length ≤ 198
  valueTrimmed : Trimmed isspace triple.value.bytes
  singleLine : 10 ∉ triple.section_.bytes ++ triple.name.bytes ++ triple.value.bytes

/-- A text that may be a name. -/
structure NameText (name : Bytes) : Prop where
  short : name.length ≤ 198
  unseparated : 61 ∉ name ∧ 58 ∉ name
  visible : forall first, name.head? = some first ->
    isspace first = false ∧ first ≠ 59 ∧ first ≠ 35 ∧ first ≠ 91
  singleLine : 10 ∉ name

/-- A text that may be a value. -/
structure ValueText (value : Bytes) : Prop where
  short : value.length ≤ 198
  trimmed : Trimmed isspace value
  singleLine : 10 ∉ value

/-- The parts of an item are of their shape, and none has a zero byte. -/
def Item.Sound (item : Item) : Prop :=
  0 ∉ item.bytes ∧
    match item with
    | .continuation value => ValueText value
    | .heading name => 93 ∉ name ∧ 10 ∉ name
    | .option name value => NameText name ∧ ValueText value
    | _ => True

theorem NameText.take {name : Bytes} (text : NameText name) (size : Nat) :
    NameText (name.take size) where
  short := (List.take_prefix _ _).length_le.trans text.short
  unseparated := ⟨fun member => text.unseparated.1 (List.mem_of_mem_take member),
    fun member => text.unseparated.2 (List.mem_of_mem_take member)⟩
  visible := by
    intro first head
    cases name with
    | nil =>
        rw [List.take_nil] at head
        cases head
    | cons other name =>
        cases size with
        | zero => cases head
        | succ size => exact text.visible first head
  singleLine := fun member => text.singleLine (List.mem_of_mem_take member)

theorem NameText.nil : NameText [] :=
  ⟨Nat.zero_le _, ⟨List.not_mem_nil, List.not_mem_nil⟩, nofun, List.not_mem_nil⟩

theorem length_value_le {field value : Bytes} (valued : ValueField field value) :
    value.length ≤ field.length := by
  rcases valued with ⟨kept, comment, rfl, _, _, gap, trail, rfl, _⟩
  simp only [List.length_append]
  omega

/-- The texts of a line that denotes something and has at most 199 bytes. -/
theorem Denotes.sound {continuing : Bool} {text : Bytes} {item : Item}
    (denotes : Denotes continuing text item) (short : text.length ≤ 199) (noNul : 0 ∉ text)
    (single : 10 ∉ text) : item.Sound := by
  have inside := denotes.bytes_subset
  refine ⟨fun zero => noNul (inside zero), ?_⟩
  have newline : 10 ∉ item.bytes := fun member => single (inside member)
  cases denotes with
  | blank => trivial
  | comment => trivial
  | @continuation indent value trail _ moved _ _ trimmed _ _ =>
      have indentation := List.length_pos_iff.mpr moved
      simp only [List.length_append] at short
      exact ⟨by omega, trimmed, newline⟩
  | heading _ _ closed _ => exact ⟨closed, newline⟩
  | @option indent name pad field value separator _ _ trimmed _ _ unmarked unopened unseparated _
      _ valued =>
      have fits := length_value_le valued
      have whole : name.length + value.length ≤ 198 := by
        simp only [List.length_append, List.length_cons] at short
        omega
      refine ⟨⟨by omega, unseparated, ?_, ?_⟩, by omega, ?_, ?_⟩
      · intro first head
        refine ⟨trimmed.head first head, ?_, ?_, ?_⟩
        · rintro rfl
          exact unmarked.1 head
        · rintro rfl
          exact unmarked.2 head
        · rintro rfl
          exact unopened head
      · exact fun member => newline (List.mem_append_left _ member)
      · rcases valued with ⟨_, _, _, _, _, _, _, _, _, _, trimmedValue⟩
        exact trimmedValue
      · exact fun member => newline (List.mem_append_right _ member)

theorem readItem_rstrip (continuing : Bool) (text : Bytes) :
    readItem continuing (rstrip text) = readItem continuing text := by
  have again : rstrip (rstrip text) = rstrip text := List.rdropWhile_idempotent isspace text
  rw [readItem, again]
  rfl

/-- A newline is the last byte of its line, and is stripped. -/
theorem newline_not_mem_rstrip {lineno : Nat} {line : Bytes}
    (plain : forall byte, byte ∈ line.dropLast -> byte ≠ 10) :
    10 ∉ rstrip (lineText lineno line) := by
  intro member
  rcases List.append_of_mem member with ⟨before, after, divided⟩
  have behind : after ≠ [] := by
    rintro rfl
    have last : (rstrip (lineText lineno line)).getLast? = some 10 := by
      rw [divided]
      exact List.getLast?_concat
    cases last_rdropWhile last
  rcases lineText_suffix lineno line with ⟨front, same⟩
  have part : (CString.read line).bytes <+: line := List.takeWhile_prefix _
  rcases part with ⟨rest, whole⟩
  have stripped : rstrip (lineText lineno line) <+: lineText lineno line :=
    List.rdropWhile_prefix isspace _
  rcases stripped with ⟨trail, joined⟩
  have inside : (10 : UInt8) ∈ line.dropLast := by
    rw [← whole, ← same, ← joined, divided]
    have nonempty : after ++ trail ++ rest ≠ [] := by simp [behind]
    have shape : front ++ (before ++ 10 :: after ++ trail) ++ rest =
        (front ++ before ++ [10]) ++ (after ++ trail ++ rest) := by
      simp only [List.append_assoc, List.cons_append, List.nil_append]
    rw [shape, List.dropLast_append_of_ne_nil nonempty]
    simp
  exact plain 10 inside rfl

theorem sound_readItem (continuing : Bool) {lineno : Nat} {line : Bytes}
    (short : line.length ≤ 199) (plain : forall byte, byte ∈ line.dropLast -> byte ≠ 10) :
    (readItem continuing (lineText lineno line)).Sound := by
  have part : (CString.read line).bytes <+: line := List.takeWhile_prefix _
  have length : (lineText lineno line).length ≤ 199 :=
    (lineText_suffix lineno line).length_le.trans (part.length_le.trans short)
  have stripped : rstrip (lineText lineno line) <+: lineText lineno line :=
    List.rdropWhile_prefix isspace _
  rw [← readItem_rstrip]
  by_cases malformed : readItem continuing (rstrip (lineText lineno line)) = .malformed
  · rw [malformed]
    exact ⟨List.not_mem_nil, trivial⟩
  · apply (denotes_of_readItem malformed).sound (stripped.length_le.trans length) _
      (newline_not_mem_rstrip plain)
    exact fun zero => zero_not_mem_lineText lineno line (stripped.subset zero)

/-- The texts kept between the lines are of the shape of the items they come
from.  `strncpy0` may have cut them, which takes nothing away from it. -/
structure Context.Sound (context : Context) : Prop where
  sectionClosed : 93 ∉ context.section_.text.bytes
  sectionSingle : 10 ∉ context.section_.text.bytes
  name : NameText context.prevName.text.bytes

theorem bytes_strncpy0 {src : Bytes} (noNul : 0 ∉ src) :
    (strncpy0 src).text.bytes = src.take (maxText - 1) := by
  apply List.takeWhile_eq_self_iff.mpr
  intro byte member
  apply bne_iff_ne.mpr
  rintro rfl
  exact noNul (List.mem_of_mem_take member)

theorem bytes_read {src : Bytes} (noNul : 0 ∉ src) : (CString.read src).bytes = src := by
  apply List.takeWhile_eq_self_iff.mpr
  intro byte member
  apply bne_iff_ne.mpr
  rintro rfl
  exact noNul member

namespace Context

theorem sound_start : Context.Sound .start :=
  ⟨List.not_mem_nil, List.not_mem_nil, .nil⟩

theorem Sound.after {context : Context} (sound : context.Sound) {item : Item}
    (fit : item.Sound) : (context.after item).Sound := by
  cases item with
  | nothing => exact sound
  | continuation value => exact sound
  | heading name =>
      have text : (strncpy0 name).text.bytes = _ := bytes_strncpy0 fit.1
      refine ⟨?_, ?_, .nil⟩
      · intro member
        rw [Context.after, text] at member
        exact fit.2.1 (List.mem_of_mem_take member)
      · intro member
        rw [Context.after, text] at member
        exact fit.2.2 (List.mem_of_mem_take member)
  | option name value =>
      refine ⟨sound.sectionClosed, sound.sectionSingle, ?_⟩
      rw [Context.after, bytes_strncpy0 fun zero => fit.1 (List.mem_append_left _ zero)]
      exact fit.2.1.take _
  | malformed => exact sound

theorem Sound.delivered {context : Context} (sound : context.Sound) {item : Item}
    (fit : item.Sound) {triple : Triple} (given : context.triple item = some triple) :
    Delivered triple := by
  have short := context.section_.fits
  have deliver : forall {name value : Bytes}, NameText name -> ValueText value ->
      forall (nameText valueText : CString), nameText.bytes = name -> valueText.bytes = value ->
      Delivered ⟨context.section_.text, nameText, valueText⟩ := by
    rintro _ _ named valued nameText valueText rfl rfl
    refine ⟨Nat.le_of_lt_succ short, sound.sectionClosed, named.short, named.unseparated,
      named.visible, valued.short, valued.trimmed, ?_⟩
    rw [List.mem_append, List.mem_append, not_or, not_or]
    exact ⟨⟨sound.sectionSingle, named.singleLine⟩, valued.singleLine⟩
  cases item with
  | nothing => cases given
  | continuation value =>
      cases given
      exact deliver sound.name fit.2 _ _ rfl (bytes_read fit.1)
  | heading name => cases given
  | option name value =>
      cases given
      exact deliver fit.2.1 fit.2.2 _ _
        (bytes_read fun zero => fit.1 (List.mem_append_left _ zero))
        (bytes_read fun zero => fit.1 (List.mem_append_right _ zero))
  | malformed => cases given

theorem Sound.calls {context : Context} (sound : context.Sound) {items : List Item}
    (fit : forall item, item ∈ items -> item.Sound) {lineno : Nat} {call : Triple × Nat}
    (member : call ∈ context.calls lineno items) : Delivered call.1 := by
  induction items generalizing context lineno with
  | nil => cases member
  | cons item items ih =>
      have here := fit item List.mem_cons_self
      rcases List.mem_append.mp member with now | later
      · rcases Option.map_eq_some_iff.mp (Option.mem_toList.mp now) with ⟨triple, given, rfl⟩
        exact sound.delivered here given
      · exact ih (sound.after here)
          (fun other inside => fit other (List.mem_cons_of_mem _ inside)) later

end Context

theorem sound_itemsFrom (continuing : Bool) (lineno : Nat) {lines : List Bytes}
    (short : forall line, line ∈ lines ->
      line.length ≤ 199 ∧ forall byte, byte ∈ line.dropLast -> byte ≠ 10)
    {item : Item} (member : item ∈ itemsFrom continuing (textsFrom lineno lines)) :
    item.Sound := by
  induction lines generalizing continuing lineno with
  | nil => cases member
  | cons line lines ih =>
      have here := short line List.mem_cons_self
      rcases List.mem_cons.mp member with rfl | later
      · exact sound_readItem continuing here.1 here.2
      · exact ih _ _ (fun other inside => short other (List.mem_cons_of_mem _ inside)) later

theorem sound_fileItems (file : Bytes) (item : Item) (member : item ∈ fileItems file) :
    item.Sound := by
  refine sound_itemsFrom false 1 ?_ member
  intro line inside
  have bounded := line_of_mem_linesFrom (· == (10 : UInt8)) (by decide) (Nat.le_refl _) inside
  refine ⟨bounded.1, ?_⟩
  intro byte early
  exact beq_eq_false_iff_ne.mp (bounded.2 byte early)

/-- Whatever the file, every triple that reaches a handler has a section of at
most 49 bytes without a bracket, a name without separators, a value without
spaces around it, and lies within one line. -/
theorem ini_delivers_shape (file : Bytes) (more : Nat) :
    Exists fun error : Int => Exists fun triples =>
      iniParse (file.length + 1 + more) (some file) recorded [] = .ok (error, triples) ∧
        forall triple, triple ∈ triples -> Delivered triple := by
  rcases iniParse_recorded file more with ⟨error, parsed, _⟩
  refine ⟨error, _, parsed, ?_⟩
  intro triple member
  rcases List.mem_map.mp member with ⟨call, inside, rfl⟩
  exact Context.sound_start.calls (sound_fileItems file) inside

/-! ## Lines that stand for nothing -/

namespace Context

/-- The triples do not depend on where the lines are counted from. -/
theorem triples_calls (context : Context) (lineno other : Nat) (items : List Item) :
    (context.calls lineno items).map Prod.fst = (context.calls other items).map Prod.fst := by
  induction items generalizing context lineno other with
  | nil => rfl
  | cons item items ih =>
      simp only [calls, List.map_append]
      congr 1
      · cases context.triple item <;> rfl
      · exact ih _ _ _

end Context

theorem malformedFrom_succ (lineno : Nat) (items : List Item) :
    malformedFrom (lineno + 1) items = (malformedFrom lineno items).map (· + 1) := by
  induction items generalizing lineno with
  | nil => rfl
  | cons item items ih =>
      rw [malformedFrom, malformedFrom, ih, List.map_append]
      congr 1
      split <;> rfl

/-- The number of a line when another one is inserted behind the first `above`
lines. -/
def movedLine (above line : Nat) : Nat :=
  if line ≤ above then line else line + 1

theorem movedLine_le {above one other : Nat} (le : one ≤ other) :
    movedLine above one ≤ movedLine above other := by
  unfold movedLine
  split <;> split <;> omega

theorem movedLine_of_lt {above line : Nat} (below : above < line) :
    movedLine above line = line + 1 :=
  if_neg (Nat.not_le_of_lt below)

theorem IsFirst.map_movedLine {error : Nat} {lines : List Nat} (first : IsFirst error lines)
    (above : Nat) : IsFirst (movedLine above error) (lines.map (movedLine above)) := by
  rcases first with ⟨rfl, rfl⟩ | ⟨inside, least⟩
  · exact .inl ⟨if_pos (Nat.zero_le _), rfl⟩
  · refine .inr ⟨List.mem_map_of_mem inside, ?_⟩
    intro line member
    rcases List.mem_map.mp member with ⟨old, oldMember, rfl⟩
    exact movedLine_le (least old oldMember)

/-- Behind the new line all malformed lines have moved, and before it none. -/
theorem malformedFrom_insert {lineno above : Nat} (before after : List Item)
    (here : lineno + before.length = above + 1) :
    malformedFrom lineno (before ++ .nothing :: after) =
      (malformedFrom lineno (before ++ after)).map (movedLine above) := by
  induction before generalizing lineno with
  | nil =>
      rw [List.nil_append, List.nil_append, malformedFrom, if_neg (by decide), List.nil_append,
        malformedFrom_succ]
      apply List.map_congr_left
      intro line member
      have low := le_of_mem_malformedFrom member
      rw [List.length_nil] at here
      exact (movedLine_of_lt (by omega)).symm
  | cons item before ih =>
      rw [List.length_cons] at here
      have stays : movedLine above lineno = lineno := if_pos (by omega)
      rw [List.cons_append, List.cons_append, malformedFrom, malformedFrom, List.map_append,
        ih (by omega)]
      congr 1
      split
      · rw [List.map_singleton, stays]
      · rfl

theorem Context.calls_succ (context : Context) (lineno : Nat) (items : List Item) :
    context.calls (lineno + 1) items =
      (context.calls lineno items).map fun call => (call.1, call.2 + 1) := by
  induction items generalizing context lineno with
  | nil => rfl
  | cons item items ih =>
      rw [Context.calls, Context.calls, ih, List.map_append]
      congr 1
      cases context.triple item <;> rfl

/-- The calls of the lines behind the new one have moved with them. -/
theorem Context.calls_insert (context : Context) {lineno above : Nat} (before after : List Item)
    (here : lineno + before.length = above + 1) :
    context.calls lineno (before ++ .nothing :: after) =
      (context.calls lineno (before ++ after)).map fun call =>
        (call.1, movedLine above call.2) := by
  induction before generalizing context lineno with
  | nil =>
      have skipped : context.calls lineno (.nothing :: after) = context.calls (lineno + 1) after :=
        rfl
      rw [List.nil_append, List.nil_append, skipped, Context.calls_succ]
      apply List.map_congr_left
      intro call member
      have low := le_of_mem_calls member
      rw [List.length_nil] at here
      rw [movedLine_of_lt (by omega)]
  | cons item before ih =>
      rw [List.length_cons] at here
      have stays : movedLine above lineno = lineno := if_pos (by omega)
      rw [List.cons_append, List.cons_append, Context.calls, Context.calls, List.map_append,
        ih _ (by omega)]
      congr 1
      cases context.triple item with
      | none => rfl
      | some triple => simp only [Option.map_some, Option.toList_some, List.map_singleton, stays]

/-- A handler that does not look at the number of the line. -/
def Unnumbered {User : Type} (handler : IniHandler User) : Prop :=
  forall user triple one other, handler user triple one = handler user triple other

section Unnumbered

variable {User : Type} {handler : IniHandler User}

theorem Unnumbered.served_map (unnumbered : Unnumbered handler) (move : Nat -> Nat) (user : User)
    (calls : List (Triple × Nat)) :
    served handler user (calls.map fun call => (call.1, move call.2)) =
      served handler user calls := by
  induction calls generalizing user with
  | nil => rfl
  | cons call calls ih =>
      have same := unnumbered user call.1 (move call.2) call.2
      simp only [served, List.map_cons, List.foldl_cons, same]
      exact ih _

theorem Unnumbered.rejected_map (unnumbered : Unnumbered handler) (move : Nat -> Nat)
    (user : User) (calls : List (Triple × Nat)) :
    rejected handler user (calls.map fun call => (call.1, move call.2)) =
      (rejected handler user calls).map move := by
  induction calls generalizing user with
  | nil => rfl
  | cons call calls ih =>
      have same := unnumbered user call.1 (move call.2) call.2
      simp only [rejected, List.map_cons, List.map_append, same, ih]
      congr 1
      split <;> rfl

end Unnumbered

theorem textsFrom_append (lineno : Nat) (first second : List Bytes) :
    textsFrom lineno (first ++ second) =
      textsFrom lineno first ++ textsFrom (lineno + first.length) second := by
  induction first generalizing lineno with
  | nil => rfl
  | cons line first ih =>
      rw [List.cons_append, textsFrom, ih, textsFrom, List.cons_append, List.length_cons,
        Nat.add_assoc, Nat.add_comm 1]

/-- Only the first line may begin with a byte order mark. -/
theorem textsFrom_eq_map {lineno : Nat} {lines : List Bytes} (positive : 0 < lineno)
    (plain : lineno = 1 -> forall line, lines.head? = some line ->
      ¬ byteOrderMark <+: (CString.read line).bytes) :
    textsFrom lineno lines = lines.map fun line => (CString.read line).bytes := by
  induction lines generalizing lineno with
  | nil => rfl
  | cons line lines ih =>
      rw [textsFrom, List.map_cons, ih (Nat.succ_pos _) (by omega), lineText, if_neg]
      intro marked
      rw [Bool.and_eq_true, beq_iff_eq, List.isPrefixOf_iff_prefix] at marked
      exact plain marked.1 line rfl marked.2

theorem itemsFrom_append (continuing : Bool) (first second : List Bytes) :
    itemsFrom continuing (first ++ second) =
      itemsFrom continuing first ++ itemsFrom
        ((itemsFrom continuing first).foldl (fun continuing item => item.continues continuing)
          continuing) second := by
  induction first generalizing continuing with
  | nil => rfl
  | cons text first ih => rw [List.cons_append, itemsFrom, ih, itemsFrom]; rfl

theorem length_itemsFrom (continuing : Bool) (texts : List Bytes) :
    (itemsFrom continuing texts).length = texts.length := by
  induction texts generalizing continuing with
  | nil => rfl
  | cons text texts ih => rw [itemsFrom, List.length_cons, ih, List.length_cons]

theorem length_textsFrom (lineno : Nat) (lines : List Bytes) :
    (textsFrom lineno lines).length = lines.length := by
  induction lines generalizing lineno with
  | nil => rfl
  | cons line lines ih => rw [textsFrom, List.length_cons, ih, List.length_cons]

/-- A line that stands for nothing does so behind an option too. -/
theorem Denotes.nothing_anywhere {text : Bytes} (denotes : Denotes false text .nothing)
    (continuing : Bool) : readItem continuing text = .nothing := by
  apply Denotes.readItem_eq
  cases denotes with
  | blank blank => exact .blank blank
  | comment indented marked => exact .comment indented marked

theorem fileLines_append {first : Bytes}
    (ended : forall last, first.getLast? = some last -> last = 10) (second : Bytes) :
    fileLines (first ++ second) = fileLines first ++ fileLines second := by
  by_cases empty : first = []
  · subst empty
    rfl
  · exact linesFrom_append _ (fun last same => beq_iff_eq.mpr (ended last same)) empty _ _

theorem flatten_fileLines (file : Bytes) : (fileLines file).flatten = file :=
  flatten_boundedLines _ (by decide) file

theorem prefix_of_head_fileLines {file line : Bytes} (head : (fileLines file).head? = some line) :
    line <+: file := by
  rcases List.head?_eq_some_iff.mp head with ⟨others, same⟩
  rw [← flatten_fileLines file, same, List.flatten_cons]
  exact List.prefix_append _ _

/-- A line that stands for nothing does not begin with a byte order mark. -/
theorem Denotes.nothing_unmarked {continuing : Bool} {text : Bytes}
    (denotes : Denotes continuing text .nothing) : ¬ byteOrderMark <+: text := by
  rintro ⟨rest, same⟩
  cases denotes with
  | blank blank =>
      have space := blank 0xEF (by rw [← same]; exact List.mem_cons_self)
      cases space
  | @comment indent text mark indented marked =>
      cases indent with
      | nil =>
          have first : mark = 0xEF := (List.cons.inj same).1.symm
          rcases marked with rfl | rfl
          · cases first
          · cases first
      | cons space indent =>
          have first : space = 0xEF := (List.cons.inj same).1.symm
          have blank := indented space List.mem_cons_self
          rw [first] at blank
          cases blank

/-- The items of a file with a further line that stands for nothing. -/
theorem fileItems_insert {first body second : Bytes}
    (ended : forall last, first.getLast? = some last -> last = 10) (single : 10 ∉ body)
    (short : body.length < 199)
    (nothing : Denotes false (CString.read (body ++ [10])).bytes .nothing)
    (unmarked : first = [] -> ¬ byteOrderMark <+: second) :
    Exists fun before => Exists fun after => before.length = (fileLines first).length ∧
      fileItems (first ++ second) = before ++ after ∧
      fileItems (first ++ (body ++ 10 :: second)) = before ++ .nothing :: after := by
  have line : fileLines (body ++ 10 :: second) = (body ++ [10]) :: fileLines second :=
    fileLines_terminated single short second
  have lineUnmarked : lineText (1 + (fileLines first).length) (body ++ [10]) =
      (CString.read (body ++ [10])).bytes := by
    rw [lineText, if_neg]
    intro marked
    rw [Bool.and_eq_true, List.isPrefixOf_iff_prefix] at marked
    exact nothing.nothing_unmarked marked.2
  -- The second part is read alike with and without the line before it.
  have kept : textsFrom (1 + (fileLines first).length) (fileLines second) =
      (fileLines second).map fun line => (CString.read line).bytes := by
    apply textsFrom_eq_map (by omega)
    intro none_before line head marked
    have empty : first = [] := by
      rw [← flatten_fileLines first,
        List.length_eq_zero_iff.mp (by omega : (fileLines first).length = 0)]
      rfl
    exact unmarked empty
      (marked.trans ((List.takeWhile_prefix _).trans (prefix_of_head_fileLines head)))
  have shifted : textsFrom (1 + (fileLines first).length + 1) (fileLines second) =
      (fileLines second).map fun line => (CString.read line).bytes :=
    textsFrom_eq_map (Nat.succ_pos _) (by omega)
  refine ⟨itemsFrom false (textsFrom 1 (fileLines first)), itemsFrom
    ((itemsFrom false (textsFrom 1 (fileLines first))).foldl
      (fun continuing item => item.continues continuing) false)
    ((fileLines second).map fun line => (CString.read line).bytes), ?_, ?_, ?_⟩
  · rw [length_itemsFrom, length_textsFrom]
  · rw [fileItems, fileLines_append ended, textsFrom_append, kept, itemsFrom_append]
  · rw [fileItems, fileLines_append ended, line, textsFrom_append, textsFrom, lineUnmarked,
      shifted, itemsFrom_append, itemsFrom, nothing.nothing_anywhere]
    rfl

/-- A line of at most 198 bytes that is blank or a comment may be put between any two
lines: the same triples are delivered, with the numbers of the lines below it moved, and
a handler that does not look at these numbers is left with the same data and reports
the same line, wherever that is now.  In front of the first line this needs a file
without a byte order mark. -/
theorem ini_ignores_comments {User : Type} (handler : IniHandler User) (user : User)
    (first body second : Bytes) (more : Nat) (unnumbered : Unnumbered handler)
    (ended : forall last, first.getLast? = some last -> last = 10) (single : 10 ∉ body)
    (short : body.length ≤ 198)
    (nothing : Denotes false (CString.read (body ++ [10])).bytes .nothing)
    (unmarked : first = [] -> ¬ byteOrderMark <+: second) :
    (fileCalls (first ++ (body ++ 10 :: second)) =
      (fileCalls (first ++ second)).map fun call =>
        (call.1, movedLine (fileLines first).length call.2)) ∧
    Exists fun error : Nat => Exists fun result =>
      iniParse ((first ++ second).length + 1 + more) (some (first ++ second)) handler user =
        .ok ((error : Int), result) ∧
      iniParse ((first ++ (body ++ 10 :: second)).length + 1 + more)
          (some (first ++ (body ++ 10 :: second))) handler user =
        .ok ((movedLine (fileLines first).length error : Nat), result) := by
  rcases fileItems_insert ended single (Nat.lt_succ_of_le short) nothing unmarked with
    ⟨before, after, counted, plain, inserted⟩
  have here : 1 + before.length = (fileLines first).length + 1 := by omega
  have calls : fileCalls (first ++ (body ++ 10 :: second)) =
      (fileCalls (first ++ second)).map fun call =>
        (call.1, movedLine (fileLines first).length call.2) := by
    rw [fileCalls, fileCalls, plain, inserted]
    exact Context.start.calls_insert before after here
  have malformed : malformedFrom 1 (fileItems (first ++ (body ++ 10 :: second))) =
      (malformedFrom 1 (fileItems (first ++ second))).map (movedLine (fileLines first).length) := by
    rw [plain, inserted]
    exact malformedFrom_insert before after here
  have least := IniState.foldl_round_error handler (fileItems (first ++ second)) (.start user) rfl
  have again := IniState.foldl_round_error handler
    (fileItems (first ++ (body ++ 10 :: second))) (.start user) rfl
  change IsFirst _ (malformedFrom 1 _ ++ rejected handler user (fileCalls _)) at again
  rw [malformed, calls, unnumbered.rejected_map, ← List.map_append] at again
  refine ⟨calls, _, _, iniParse_eq (first ++ second) handler user more, ?_⟩
  rw [iniParse_eq, calls, unnumbered.served_map, again.unique (least.map_movedLine _)]

theorem ini_ignores_comments_belowHeading :
    Exists fun error : Nat => Exists fun result =>
      iniParse ((ascii "[globals]\n" ++ ascii "bind-port=4242\n").length + 1 + 0)
          (some (ascii "[globals]\n" ++ ascii "bind-port=4242\n")) recorded [] =
        .ok ((error : Int), result) ∧
      iniParse ((ascii "[globals]\n" ++ (ascii "  ; note" ++ 10 :: ascii "bind-port=4242\n")).length
            + 1 + 0)
          (some (ascii "[globals]\n" ++ (ascii "  ; note" ++ 10 :: ascii "bind-port=4242\n")))
          recorded [] =
        .ok ((movedLine (fileLines (ascii "[globals]\n")).length error : Nat), result) := by
  have text : (CString.read (ascii "  ; note" ++ [10])).bytes =
      ascii "  " ++ 59 :: (ascii " note" ++ [10]) := by decide +kernel
  refine (ini_ignores_comments recorded [] (ascii "[globals]\n") (ascii "  ; note")
    (ascii "bind-port=4242\n") 0 (fun _ _ _ _ => rfl) ?_ (by decide) (by decide) ?_ ?_).2
  · rintro last ⟨⟩
    rfl
  · rw [text]
    refine .comment ?_ (.inl rfl)
    intro symbol member
    rcases List.mem_cons.mp member with rfl | member
    · rfl
    · rw [List.mem_singleton.mp member]
      rfl
  · intro none
    cases none

end Inih
end PdnsLogger
