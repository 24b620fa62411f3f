import PdnsLogger.Foundation.Trimming
import PdnsLogger.Inih.Parser

namespace PdnsLogger
namespace Inih

open Foundation Program

/-!
# The grammar of a line

`Denotes` says in terms of the text alone what a line may look like and what it
stands for.  Spaces around the parts are free.  A `;` begins a comment at the
start of a line and directly behind a space, but not elsewhere, so that a value
may contain it.  An indented line that follows an option continues it, whatever
it looks like, unless it is blank or a comment; a heading or another option must
then stand at the start of its line.

The tests of the parser agree with this grammar on every text.  A line that the
grammar does not cover is malformed, and no other line is.
-/

/-! ## The grammar -/

/-- No `;` stands directly behind a space. -/
def Uncommented (text : Bytes) : Prop :=
  forall before space after, text = before ++ space :: 59 :: after -> isspace space = false

/-- The text behind a separator is a value between spaces, and perhaps a
comment. -/
def ValueField (text value : Bytes) : Prop :=
  Exists fun kept => Exists fun comment => text = kept ++ comment ∧ Uncommented kept ∧
    (forall mark, comment.head? = some mark ->
      mark = 59 ∧ Exists fun space => kept.getLast? = some space ∧ isspace space = true) ∧
    Exists fun gap => Exists fun trail => kept = gap ++ value ++ trail ∧
      Spaces isspace gap ∧ Spaces isspace trail ∧ Trimmed isspace value

/-- The first byte of a text does not make it a comment. -/
def Unmarked (text : Bytes) : Prop :=
  text.head? ≠ some 59 ∧ text.head? ≠ some 35

instance (text : Bytes) : Decidable (Unmarked text) :=
  inferInstanceAs (Decidable (text.head? ≠ some 59 ∧ text.head? ≠ some 35))

/-- What a line stands for.  `continuing` tells that it comes behind an option,
whose value an indented line then continues.  The rules divide the text into its
parts and say nothing about the order of the parser's tests or where these look:
that the tests find exactly these divisions is `denotes_iff`. -/
inductive Denotes (continuing : Bool) : Bytes -> Item -> Prop where
  | blank {spaces : Bytes} (blank : Spaces isspace spaces) : Denotes continuing spaces .nothing
  | comment {indent text : Bytes} {mark : UInt8} (indented : Spaces isspace indent)
      (marked : mark = 59 ∨ mark = 35) : Denotes continuing (indent ++ mark :: text) .nothing
  | continuation {indent value trail : Bytes} (continues : continuing = true)
      (moved : indent ≠ []) (indented : Spaces isspace indent) (nonempty : value ≠ [])
      (trimmed : Trimmed isspace value) (unmarked : Unmarked value)
      (trailing : Spaces isspace trail) :
      Denotes continuing (indent ++ value ++ trail) (.continuation value)
  | heading {indent name rest : Bytes} (indented : Spaces isspace indent)
      (placed : continuing = true -> indent = []) (closed : 93 ∉ name)
      (uncommented : Uncommented name) :
      Denotes continuing (indent ++ 91 :: (name ++ 93 :: rest)) (.heading name)
  | option {indent name pad field value : Bytes} {separator : UInt8}
      (indented : Spaces isspace indent) (placed : continuing = true -> indent = [])
      (trimmed : Trimmed isspace name) (padded : Spaces isspace pad) (unpadded : name = [] -> pad = [])
      (unmarked : Unmarked name) (unopened : name.head? ≠ some 91)
      (unseparated : 61 ∉ name ∧ 58 ∉ name) (uncommented : Uncommented (name ++ pad))
      (separates : separator = 61 ∨ separator = 58) (valued : ValueField field value) :
      Denotes continuing (indent ++ (name ++ pad ++ separator :: field)) (.option name value)

/-! ## Searching -/

/-- The search passes over a text. -/
def Passed (chars : Option Bytes) : Bool -> Bytes -> Prop
  | _, [] => True
  | wasSpace, char :: text => stopsAt chars wasSpace char = false ∧ Passed chars (isspace char) text

instance decidablePassed (chars : Option Bytes) :
    (wasSpace : Bool) -> (text : Bytes) -> Decidable (Passed chars wasSpace text)
  | _, [] => .isTrue trivial
  | wasSpace, char :: text =>
      have := decidablePassed chars (isspace char) text
      inferInstanceAs (Decidable (stopsAt chars wasSpace char = false ∧ _))

def endsInSpace (wasSpace : Bool) (text : Bytes) : Bool :=
  (text.getLast?.map isspace).getD wasSpace

theorem endsInSpace_cons (wasSpace : Bool) (char : UInt8) (text : Bytes) :
    endsInSpace wasSpace (char :: text) = endsInSpace (isspace char) text := by
  rw [endsInSpace, endsInSpace, List.getLast?_cons]
  cases text.getLast? <;> rfl

theorem findFrom_of_passed {chars : Option Bytes} {wasSpace : Bool} {before : Bytes}
    (passed : Passed chars wasSpace before) (found : Bytes)
    (stops : forall char, found.head? = some char ->
      stopsAt chars (endsInSpace wasSpace before) char = true) :
    findFrom chars wasSpace (before ++ found) = (before, found) := by
  induction before generalizing wasSpace with
  | nil =>
      cases found with
      | nil => rfl
      | cons char found =>
          rw [List.nil_append, findFrom, if_pos]
          exact stops char rfl
  | cons char before ih =>
      have later := ih passed.2 fun other head => by
        rw [← endsInSpace_cons wasSpace char before]
        exact stops other head
      rw [List.cons_append, findFrom, if_neg (Bool.eq_false_iff.mp passed.1), later]

theorem findFrom_spec (chars : Option Bytes) (wasSpace : Bool) (text : Bytes) :
    text = (findFrom chars wasSpace text).1 ++ (findFrom chars wasSpace text).2 ∧
      Passed chars wasSpace (findFrom chars wasSpace text).1 ∧
      forall char, (findFrom chars wasSpace text).2.head? = some char ->
        stopsAt chars (endsInSpace wasSpace (findFrom chars wasSpace text).1) char = true := by
  induction text generalizing wasSpace with
  | nil => exact ⟨rfl, trivial, nofun⟩
  | cons char text ih =>
      by_cases stops : stopsAt chars wasSpace char = true
      · rw [findFrom, if_pos stops]
        refine ⟨rfl, trivial, ?_⟩
        rintro other ⟨⟩
        exact stops
      · have rest := ih (isspace char)
        rw [findFrom, if_neg stops]
        refine ⟨congrArg (char :: ·) rest.1, ⟨Bool.eq_false_iff.mpr stops, rest.2.1⟩, ?_⟩
        intro other head
        rw [endsInSpace_cons]
        exact rest.2.2 other head

theorem uncommented_nil : Uncommented [] := by
  intro before space after same
  cases before <;> cases same

theorem uncommented_cons_iff (char : UInt8) (text : Bytes) :
    Uncommented (char :: text) ↔
      (isspace char = true -> text.head? ≠ some 59) ∧ Uncommented text := by
  constructor
  · intro uncommented
    refine ⟨?_, ?_⟩
    · intro space mark
      rcases List.head?_eq_some_iff.mp mark with ⟨after, rfl⟩
      cases space.symm.trans (uncommented [] char after rfl)
    · intro before space after same
      exact uncommented (char :: before) space after (congrArg (char :: ·) same)
  · rintro ⟨first, rest⟩ before space after same
    cases before with
    | nil =>
        cases same
        exact Bool.eq_false_iff.mpr fun space => first space rfl
    | cons other before =>
        cases same
        exact rest before space after rfl

/-- A search passes over what has none of the characters and no comment. -/
theorem passed_iff (chars : Option Bytes) (wasSpace : Bool) (text : Bytes) :
    Passed chars wasSpace text ↔
      (forall char, char ∈ text -> (chars.elim false fun chars => chars.contains char) = false) ∧
        Uncommented text ∧ (wasSpace = true -> text.head? ≠ some 59) := by
  induction text generalizing wasSpace with
  | nil => simp [Passed, uncommented_nil]
  | cons char text ih =>
      rw [Passed, ih, uncommented_cons_iff, List.forall_mem_cons, stopsAt, Bool.or_eq_false_iff,
        Bool.and_eq_false_imp]
      simp only [List.head?_cons, ne_eq, Option.some.injEq, beq_eq_false_iff_ne]
      constructor
      · rintro ⟨⟨free, here⟩, frees, uncommented, next⟩
        exact ⟨⟨free, frees⟩, ⟨next, uncommented⟩, here⟩
      · rintro ⟨⟨free, frees⟩, ⟨next, uncommented⟩, here⟩
        exact ⟨⟨free, here⟩, frees, uncommented, next⟩

instance (text : Bytes) : Decidable (Uncommented text) :=
  decidable_of_iff (Passed none false text) (by simp [passed_iff])

/-! ## Values -/

theorem rstrip_lskip (text : Bytes) : rstrip (lskip text) = trim isspace text := by
  rcases exists_trim isspace text with ⟨lead, trail, same, _, before, after, trimmed⟩
  generalize trim isspace text = core at same trimmed
  subst same
  by_cases empty : core = []
  · subst empty
    rw [rstrip, lskip, List.append_nil, dropWhile_spaces_append before,
      List.dropWhile_eq_nil_iff.mpr after]
    rfl
  · have head : forall symbol, (core ++ trail).head? = some symbol -> isspace symbol = false := by
      intro symbol first
      rw [List.head?_append_of_ne_nil _ empty] at first
      exact trimmed.head symbol first
    rw [rstrip, lskip, List.append_assoc, dropWhile_spaces_append before, dropWhile_of_head head]
    exact rdropWhile_around [] empty trimmed after

theorem rstrip_append_spaces {value trail : Bytes} (trimmed : Trimmed isspace value)
    (trailing : Spaces isspace trail) : rstrip (value ++ trail) = value := by
  rw [rstrip, rdropWhile_append_spaces _ trailing]
  exact rdropWhile_of_last trimmed.last

theorem valueField_iff (text value : Bytes) :
    rstrip (lskip (findCharsOrComment text none).1) = value ↔ ValueField text value := by
  rw [rstrip_lskip]
  constructor
  · intro trimmed
    rcases findFrom_spec none false text with ⟨same, passed, stops⟩
    rcases (passed_iff _ _ _).mp passed with ⟨_, uncommented, _⟩
    refine ⟨_, _, same, uncommented, ?_, (trim_eq_iff _ _).mp trimmed⟩
    intro mark head
    have stop := stops mark head
    simp only [stopsAt, Option.elim_none, Bool.false_or, Bool.and_eq_true, beq_iff_eq] at stop
    refine ⟨stop.2, ?_⟩
    have space := stop.1
    rw [endsInSpace] at space
    cases last : (findFrom none false text).1.getLast? with
    | none =>
        rw [last] at space
        cases space
    | some char =>
        rw [last] at space
        exact ⟨char, rfl, space⟩
  · rintro ⟨kept, comment, rfl, uncommented, marked, division⟩
    have passed : Passed none false kept :=
      (passed_iff _ _ _).mpr ⟨fun _ _ => rfl, uncommented, nofun⟩
    have found := findFrom_of_passed passed comment (by
      intro mark head
      rcases marked mark head with ⟨rfl, space, last, isSpace⟩
      simp [stopsAt, endsInSpace, last, isSpace])
    rw [findCharsOrComment, found]
    exact (trim_eq_iff _ _).mpr division

theorem passed_append (chars : Option Bytes) (wasSpace : Bool) (first second : Bytes) :
    Passed chars wasSpace (first ++ second) ↔
      Passed chars wasSpace first ∧ Passed chars (endsInSpace wasSpace first) second := by
  induction first generalizing wasSpace with
  | nil => simp [Passed, endsInSpace]
  | cons char first ih => rw [List.cons_append, Passed, Passed, ih, endsInSpace_cons, and_assoc]

theorem passed_spaces (wasSpace : Bool) {text : Bytes} (spaces : Spaces isspace text) :
    Passed none wasSpace text := by
  induction text generalizing wasSpace with
  | nil => trivial
  | cons char text ih =>
      refine ⟨?_, ih _ fun other member => spaces other (List.mem_cons_of_mem _ member)⟩
      have other : char ≠ 59 := by
        rintro rfl
        cases spaces 59 List.mem_cons_self
      simp [stopsAt, other]

/-- Spaces at the end of the line do not matter to the value. -/
theorem valueField_append_spaces (text value : Bytes) {trail : Bytes}
    (spaces : Spaces isspace trail) : ValueField (text ++ trail) value ↔ ValueField text value := by
  rw [← valueField_iff, ← valueField_iff, rstrip_lskip, rstrip_lskip]
  rcases findFrom_spec none false text with ⟨same, passed, stops⟩
  generalize sought : findFrom none false text = result at same passed stops
  rcases result with ⟨before, found⟩
  simp only [findCharsOrComment, sought]
  cases found with
  | nil =>
      rw [List.append_nil] at same
      subst same
      have onward : Passed none false (text ++ trail) :=
        (passed_append _ _ _ _).mpr ⟨passed, passed_spaces _ spaces⟩
      have whole := findFrom_of_passed onward [] nofun
      rw [List.append_nil] at whole
      rw [whole, trim, trim, rdropWhile_append_spaces _ spaces]
  | cons char found =>
      have again : findFrom none false (text ++ trail) = (before, char :: found ++ trail) := by
        rw [same, List.append_assoc]
        exact findFrom_of_passed passed _ fun other head => stops other head
      rw [again]

/-! ## The tests agree with the grammar -/

/-- What the tests make of a text that has no byte order mark to skip. -/
def readItem (continuing : Bool) (text : Bytes) : Item :=
  classify continuing (decide ((lskip (rstrip text)).length < (rstrip text).length))
    (lskip (rstrip text))

theorem readItem_indented (continuing : Bool) {indent core : Bytes}
    (spaces : Spaces isspace indent) (nonblank : rstrip core ≠ [])
    (head : forall first, (rstrip core).head? = some first -> isspace first = false) :
    readItem continuing (indent ++ core) =
      classify continuing (decide (indent ≠ [])) (rstrip core) := by
  have stripped : rstrip (indent ++ core) = indent ++ rstrip core :=
    rdropWhile_append_of_ne_nil indent nonblank
  have skipped : lskip (indent ++ rstrip core) = rstrip core := by
    rw [lskip, dropWhile_spaces_append spaces]
    exact dropWhile_of_head head
  have moved : (rstrip core).length < (indent ++ rstrip core).length ↔ indent ≠ [] := by
    rw [List.length_append, ← List.length_pos_iff]
    omega
  rw [readItem, stripped, skipped]
  simp only [moved]

theorem readItem_blank (continuing : Bool) {text : Bytes} (blank : Spaces isspace text) :
    readItem continuing text = .nothing := by
  have empty : rstrip text = [] := List.rdropWhile_eq_nil_iff.mpr blank
  rw [readItem, empty]
  rfl

theorem readItem_cons (continuing : Bool) {indent : Bytes} {first : UInt8} (rest : Bytes)
    (spaces : Spaces isspace indent) (visible : isspace first = false) :
    readItem continuing (indent ++ first :: rest) =
      classify continuing (decide (indent ≠ [])) (first :: rstrip rest) := by
  have kept : rstrip (first :: rest) = first :: rstrip rest := rdropWhile_past [] visible rest
  rw [readItem_indented continuing spaces, kept]
  · rw [kept]
    exact List.cons_ne_nil _ _
  · rw [kept]
    rintro _ ⟨⟩
    exact visible

theorem classify_heading {continuing moved : Bool} (placed : (continuing && moved) = false)
    {name : Bytes} (rest : Bytes) (closed : 93 ∉ name) (uncommented : Uncommented name) :
    classify continuing moved (91 :: (name ++ 93 :: rest)) = .heading name := by
  have passed : Passed (some [93]) false name := by
    refine (passed_iff _ _ _).mpr ⟨?_, uncommented, nofun⟩
    intro char member
    have other : char ≠ 93 := fun same => closed (same ▸ member)
    simp [other]
  have found := findFrom_of_passed passed (93 :: rest) (by
    rintro _ ⟨⟩
    rfl)
  simp only [classify, placed, findCharsOrComment, found, List.head?_cons, if_true,
    Bool.false_eq_true, if_false]
  exact if_neg (by decide)

theorem classify_option {continuing moved : Bool} (placed : (continuing && moved) = false)
    {name pad field value : Bytes} {separator : UInt8} (trimmed : Trimmed isspace name)
    (padded : Spaces isspace pad) (unpadded : name = [] -> pad = []) (unmarked : Unmarked name)
    (unopened : name.head? ≠ some 91) (unseparated : 61 ∉ name ∧ 58 ∉ name)
    (uncommented : Uncommented (name ++ pad)) (separates : separator = 61 ∨ separator = 58)
    (valued : ValueField field value) :
    classify continuing moved (name ++ pad ++ separator :: field) = .option name value := by
  have plain : forall char, char ∈ name ++ pad -> char ≠ 61 ∧ char ≠ 58 := by
    intro char member
    rcases List.mem_append.mp member with member | member
    · exact ⟨fun same => unseparated.1 (same ▸ member), fun same => unseparated.2 (same ▸ member)⟩
    · have space := padded char member
      constructor
      · rintro rfl
        cases space
      · rintro rfl
        cases space
  have passed : Passed (some [61, 58]) false (name ++ pad) := by
    refine (passed_iff _ _ _).mpr ⟨?_, uncommented, nofun⟩
    intro char member
    simp [plain char member]
  have found := findFrom_of_passed passed (separator :: field) (by
    rintro _ ⟨⟩
    rcases separates with rfl | rfl
    · rfl
    · rfl)
  have stripped : rstrip (name ++ pad) = name := rstrip_append_spaces trimmed padded
  have value : rstrip (lskip (findCharsOrComment field none).1) = value :=
    (valueField_iff _ _).mpr valued
  -- The first byte is that of the name, or the separator.
  have first : Exists fun first => Exists fun after =>
      name ++ pad ++ separator :: field = first :: after ∧ first ≠ 59 ∧ first ≠ 35 ∧
        first ≠ 91 := by
    cases name with
    | nil =>
        rw [unpadded rfl]
        refine ⟨separator, field, rfl, ?_⟩
        rcases separates with rfl | rfl
        · decide
        · decide
    | cons first name =>
        refine ⟨first, name ++ pad ++ separator :: field, rfl, ?_, ?_, ?_⟩
        · exact fun same => unmarked.1 (congrArg some same)
        · exact fun same => unmarked.2 (congrArg some same)
        · exact fun same => unopened (congrArg some same)
  rcases first with ⟨first, after, whole, notSemicolon, notHash, notBracket⟩
  rw [whole] at found ⊢
  simp only [classify, placed, findCharsOrComment, found, notSemicolon, notHash, notBracket,
    separates, stripped, or_self, if_true, if_false, Bool.false_eq_true]
  exact congrArg _ value

theorem readItem_continuation {indent value trail : Bytes} (moved : indent ≠ [])
    (indented : Spaces isspace indent) (nonempty : value ≠ []) (trimmed : Trimmed isspace value)
    (unmarked : Unmarked value) (trailing : Spaces isspace trail) :
    readItem true (indent ++ value ++ trail) = .continuation value := by
  have stripped : rstrip (value ++ trail) = value := rstrip_append_spaces trimmed trailing
  rw [List.append_assoc, readItem_indented true indented, stripped]
  · cases value with
    | nil => exact absurd rfl nonempty
    | cons first value =>
        have notSemicolon : first ≠ 59 := fun same => unmarked.1 (congrArg some same)
        have notHash : first ≠ 35 := fun same => unmarked.2 (congrArg some same)
        simp [classify, notSemicolon, notHash, moved]
  · rw [stripped]
    exact nonempty
  · rw [stripped]
    exact trimmed.head

/-- An option behind its indentation.  What `rstrip` takes from the line it takes
from the text behind the separator. -/
theorem readItem_option {continuing : Bool} {indent name pad field value : Bytes}
    {separator : UInt8} (indented : Spaces isspace indent)
    (placed : continuing = true -> indent = []) (trimmed : Trimmed isspace name)
    (padded : Spaces isspace pad) (unpadded : name = [] -> pad = []) (unmarked : Unmarked name)
    (unopened : name.head? ≠ some 91) (unseparated : 61 ∉ name ∧ 58 ∉ name)
    (uncommented : Uncommented (name ++ pad)) (separates : separator = 61 ∨ separator = 58)
    (valued : ValueField field value) :
    readItem continuing (indent ++ (name ++ pad ++ separator :: field)) = .option name value := by
  have visible : isspace separator = false := by
    rcases separates with rfl | rfl
    · rfl
    · rfl
  have stripped : rstrip (name ++ pad ++ separator :: field) =
      name ++ pad ++ separator :: rstrip field := rdropWhile_past _ visible field
  have head : forall first, (name ++ pad ++ separator :: rstrip field).head? = some first ->
      isspace first = false := by
    cases name with
    | nil =>
        rw [unpadded rfl]
        rintro _ ⟨⟩
        exact visible
    | cons first name =>
        rintro _ ⟨⟩
        exact trimmed.head first rfl
  have strippedField : ValueField (rstrip field) value := by
    have whole : rstrip field ++ field.rtakeWhile isspace = field :=
      List.rdropWhile_append_rtakeWhile
    rw [← whole] at valued
    refine (valueField_append_spaces _ _ ?_).mp valued
    intro char member
    exact List.mem_rtakeWhile_imp member
  rw [readItem_indented continuing indented, stripped]
  · apply classify_option _ trimmed padded unpadded unmarked unopened unseparated uncommented
      separates strippedField
    cases continuing with
    | false => rfl
    | true => simp [placed rfl]
  · rw [stripped]
    simp
  · rw [stripped]
    exact head

/-- The tests find what a line denotes. -/
theorem Denotes.readItem_eq {continuing : Bool} {text : Bytes} {item : Item}
    (denotes : Denotes continuing text item) : readItem continuing text = item := by
  cases denotes with
  | blank blank => exact readItem_blank continuing blank
  | @comment indent text mark indented marked =>
      have visible : isspace mark = false := by
        rcases marked with rfl | rfl
        · rfl
        · rfl
      rw [readItem_cons continuing text indented visible]
      simp only [classify, marked, if_true]
  | continuation continues moved indented nonempty trimmed unmarked trailing =>
      subst continues
      exact readItem_continuation moved indented nonempty trimmed unmarked trailing
  | heading indented placed closed uncommented =>
      rw [readItem_cons continuing _ indented (by decide), rstrip, rdropWhile_past _ (by decide)]
      apply classify_heading _ _ closed uncommented
      cases continuing with
      | false => rfl
      | true => simp [placed rfl]
  | option indented placed trimmed padded unpadded unmarked unopened unseparated uncommented
      separates valued =>
      exact readItem_option indented placed trimmed padded unpadded unmarked unopened unseparated
        uncommented separates valued

theorem denotes_heading {continuing : Bool} {indent rest trail : Bytes}
    (indented : Spaces isspace indent) (placed : continuing = true -> indent = [])
    (closes : (findCharsOrComment rest (some [93])).2.head? = some 93) :
    Denotes continuing (indent ++ 91 :: rest ++ trail)
      (.heading (findCharsOrComment rest (some [93])).1) := by
  rcases findFrom_spec (some [93]) false rest with ⟨divided, passed, _⟩
  change rest = (findCharsOrComment rest (some [93])).1 ++
    (findCharsOrComment rest (some [93])).2 at divided
  change Passed _ _ (findCharsOrComment rest (some [93])).1 at passed
  rcases List.head?_eq_some_iff.mp closes with ⟨behind, found⟩
  rw [found] at divided
  generalize (findCharsOrComment rest (some [93])).1 = name at *
  rcases (passed_iff _ _ _).mp passed with ⟨free, uncommented, _⟩
  have whole : indent ++ 91 :: rest ++ trail =
      indent ++ 91 :: (name ++ 93 :: (behind ++ trail)) := by
    rw [divided]
    simp only [List.append_assoc, List.cons_append]
  rw [whole]
  refine .heading indented placed ?_ uncommented
  intro member
  cases free 93 member

theorem denotes_option {continuing : Bool} {indent start trail : Bytes}
    (indented : Spaces isspace indent) (placed : continuing = true -> indent = [])
    (trimmed : Trimmed isspace start) (unmarked : Unmarked start)
    (unopened : start.head? ≠ some 91) (trailing : Spaces isspace trail)
    {separator : UInt8} {rest : Bytes} (separates : separator = 61 ∨ separator = 58)
    (found : (findCharsOrComment start (some [61, 58])).2 = separator :: rest) :
    Denotes continuing (indent ++ start ++ trail)
      (.option (rstrip (findCharsOrComment start (some [61, 58])).1)
        (rstrip (lskip (findCharsOrComment rest none).1))) := by
  rcases findFrom_spec (some [61, 58]) false start with ⟨same, passed, _⟩
  change start = (findCharsOrComment start (some [61, 58])).1 ++
    (findCharsOrComment start (some [61, 58])).2 at same
  change Passed _ _ (findCharsOrComment start (some [61, 58])).1 at passed
  rw [found] at same
  generalize (findCharsOrComment start (some [61, 58])).1 = before at same passed
  rcases (passed_iff _ _ _).mp passed with ⟨free, uncommented, _⟩
  have divided : rstrip before ++ before.rtakeWhile isspace = before :=
    List.rdropWhile_append_rtakeWhile
  have within : forall char, char ∈ rstrip before -> char ≠ 61 ∧ char ≠ 58 := by
    intro char member
    have absent := free char (divided ▸ List.mem_append_left _ member)
    simpa [not_or] using absent
  -- The name begins where the text begins, unless it is empty.
  have front : forall first, (rstrip before).head? = some first -> start.head? = some first := by
    intro first head
    rw [same, ← divided, List.append_assoc]
    cases name : rstrip before with
    | nil =>
        rw [name] at head
        cases head
    | cons other name' =>
        rw [name] at head
        exact head
  have unpadded : rstrip before = [] -> before.rtakeWhile isspace = [] := by
    intro empty
    have blank : Spaces isspace before := List.rdropWhile_eq_nil_iff.mp empty
    cases before with
    | nil => rfl
    | cons first before =>
        have visible := trimmed.head first (by rw [same]; rfl)
        cases visible.symm.trans (blank first List.mem_cons_self)
  have whole : indent ++ start ++ trail = indent ++ (rstrip before ++ before.rtakeWhile isspace ++
      separator :: (rest ++ trail)) := by
    rw [divided, same]
    simp only [List.append_assoc, List.cons_append]
  rw [whole]
  refine .option indented placed ⟨?_, ?_⟩ ?_ unpadded ⟨?_, ?_⟩ ?_ ⟨?_, ?_⟩ ?_ separates ?_
  · exact fun first head => trimmed.head first (front first head)
  · exact fun last kept => last_rdropWhile kept
  · exact fun char member => List.mem_rtakeWhile_imp member
  · exact fun head => unmarked.1 (front _ head)
  · exact fun head => unmarked.2 (front _ head)
  · exact fun head => unopened (front _ head)
  · exact fun member => (within _ member).1 rfl
  · exact fun member => (within _ member).2 rfl
  · rw [divided]
    exact uncommented
  · exact (valueField_append_spaces _ _ trailing).mpr ((valueField_iff _ _).mp rfl)

/-- What the tests find is what a line denotes, unless it is malformed. -/
theorem denotes_of_readItem {continuing : Bool} {text : Bytes}
    (wellFormed : readItem continuing text ≠ .malformed) :
    Denotes continuing text (readItem continuing text) := by
  rcases exists_trim isspace text with
    ⟨lead, trail, same, stripped, before, after, trimmed⟩
  change rstrip text = lead ++ trim isspace text at stripped
  generalize core : trim isspace text = start at same stripped trimmed
  by_cases empty : start = []
  · have blank : Spaces isspace text := by
      rw [same, empty, List.append_nil]
      exact before.append after
    rw [readItem_blank continuing blank]
    exact .blank blank
  have kept : rstrip (start ++ trail) = start := rstrip_append_spaces trimmed after
  have read : readItem continuing text =
      classify continuing (decide (lead ≠ [])) start := by
    rw [same, List.append_assoc, readItem_indented continuing before, kept]
    · rw [kept]
      exact empty
    · rw [kept]
      exact trimmed.head
  rw [read] at wellFormed ⊢
  rw [same]
  cases start with
  | nil => exact absurd rfl empty
  | cons first rest =>
      simp only [classify] at wellFormed ⊢
      by_cases marked : first = 59 ∨ first = 35
      · rw [if_pos marked, List.append_assoc]
        exact .comment before marked
      rw [if_neg marked] at wellFormed ⊢
      have unmarked : Unmarked (first :: rest) := by
        rw [not_or] at marked
        exact ⟨fun head => marked.1 (Option.some.inj head),
          fun head => marked.2 (Option.some.inj head)⟩
      by_cases continues : (continuing && decide (lead ≠ [])) = true
      · rw [if_pos continues]
        simp only [Bool.and_eq_true, decide_eq_true_eq] at continues
        exact .continuation continues.1 continues.2 before empty trimmed unmarked after
      rw [if_neg continues] at wellFormed ⊢
      have placed : continuing = true -> lead = [] := by
        intro follows
        by_contra indented
        exact continues (by simp [follows, indented])
      by_cases opened : first = 91
      · rw [if_pos opened] at wellFormed ⊢
        split at wellFormed
        next closes =>
          rw [if_pos closes, opened]
          exact denotes_heading before placed closes
        next => exact absurd rfl wellFormed
      rw [if_neg opened] at wellFormed ⊢
      split at wellFormed
      next => exact absurd rfl wellFormed
      next separator behind found =>
        split at wellFormed
        next separates =>
          rw [if_pos separates]
          exact denotes_option before placed trimmed unmarked
            (fun head => opened (Option.some.inj head)) after separates found
        next => exact absurd rfl wellFormed

/-- The tests of the loop body are the grammar. -/
theorem denotes_iff (continuing : Bool) (text : Bytes) (item : Item) :
    Denotes continuing text item ↔ readItem continuing text = item ∧ item ≠ .malformed := by
  constructor
  · intro denotes
    refine ⟨denotes.readItem_eq, ?_⟩
    rintro rfl
    cases denotes
  · rintro ⟨rfl, wellFormed⟩
    exact denotes_of_readItem wellFormed

end Inih
end PdnsLogger
