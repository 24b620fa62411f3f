import PdnsLogger.Engines.TextLine

namespace PdnsLogger
namespace Engines

open Foundation Program

/-!
# The room left on a line

The counter `sz` is meant to be the space left in `str`.  It is reduced by what
`snprintf` reports, which is the length before truncation, while the line only
grows by what `strncat` copies.  The two agree as long as every text fits, and
this module follows them exactly that far.

`appends` lists the line before and after every append that execution reaches,
so that a statement about each `strncat` of a call is a statement about its
members.  `contained_iff` turns the safety of all of them into a bound on the
texts alone.  The bound leaves out the last text: it may be cut off, but no
append follows that would see the counter below zero.
-/

/-- The texts of the appends that execution reaches.  In a debug build nothing
is reached past a failed assertion. -/
def reached (build : Build) : List TextOp -> List Bytes
  | [] => []
  | .append format :: ops => formatted format :: reached build ops
  | .writeLog :: ops => reached build ops
  | .assertZero :: ops =>
      match build with
      | .debug => []
      | .release => reached build ops

/-- The line before and after each append that execution reaches. -/
def appends (build : Build) (sink : Bool) :
    List TextOp -> TextLine -> List (TextLine × TextLine)
  | [], _ => []
  | .append format :: ops, line =>
      (line, line.append format) :: appends build sink ops (line.append format)
  | .writeLog :: ops, line => appends build sink ops (line.writeLog sink)
  | .assertZero :: ops, line =>
      match build with
      | .debug => []
      | .release => appends build sink ops line

/-- No append finds the counter below zero or leaves more than the buffer can
hold next to its terminator. -/
def Contained (build : Build) (sink : Bool) (ops : List TextOp) (line : TextLine) : Prop :=
  forall pair, pair ∈ appends build sink ops line ->
    0 ≤ pair.1.sz ∧ pair.2.str.length ≤ lineCapacity - 1

/-- The counter is the space left. -/
def TextLine.Exact (line : TextLine) : Prop :=
  line.sz = ((lineCapacity - 1 : Nat) : Int) - line.str.length

/-! ## One append -/

namespace TextLine

theorem exact_start : TextLine.start.Exact := rfl

@[simp] theorem writeLog_str (sink : Bool) (line : TextLine) :
    (line.writeLog sink).str = line.str := by
  cases sink <;> rfl

@[simp] theorem writeLog_sz (sink : Bool) (line : TextLine) :
    (line.writeLog sink).sz = line.sz := by
  cases sink <;> rfl

theorem Exact.writeLog {line : TextLine} (counted : line.Exact) (sink : Bool) :
    (line.writeLog sink).Exact := by
  unfold Exact
  rw [writeLog_sz, writeLog_str]
  exact counted

/-- A counter that is not negative is passed to `strncat` unchanged. -/
theorem Exact.toSizeT_sz {line : TextLine} (counted : line.Exact) (room : 0 ≤ line.sz) :
    (toSizeT line.sz : Int) = line.sz := by
  unfold Exact at counted
  have small : line.sz < 2 ^ 64 := by
    rw [counted]
    change (1023 : Int) - line.str.length < 2 ^ 64
    omega
  rw [toSizeT, Int.emod_eq_of_lt room small, Int.toNat_of_nonneg room]

theorem append_sz (line : TextLine) (format : List Conversion) :
    (line.append format).sz = line.sz - (formatted format).length := rfl

/-- A text that fits is appended whole and accounted for exactly. -/
theorem Exact.append {line : TextLine} (counted : line.Exact) (format : List Conversion)
    (fits : ((formatted format).length : Int) ≤ line.sz) :
    (line.append format).str = line.str ++ formatted format ∧ (line.append format).Exact := by
  have room : 0 ≤ line.sz := Int.le_trans (Int.natCast_nonneg _) fits
  have bound := counted.toSizeT_sz room
  have whole : (line.append format).str = line.str ++ formatted format := by
    unfold Exact at counted
    change line.str ++ ((formatted format).take (lineCapacity - 1)).take (toSizeT line.sz) = _
    rw [List.take_take, List.take_of_length_le]
    change (formatted format).length ≤ min (toSizeT line.sz) 1023
    change line.sz = (1023 : Int) - line.str.length at counted
    omega
  refine ⟨whole, ?_⟩
  unfold Exact at counted ⊢
  rw [whole, append_sz, counted, List.length_append]
  omega

/-- While the counter is exact and not negative, no text overruns the buffer. -/
theorem Exact.length_append_le {line : TextLine} (counted : line.Exact) (room : 0 ≤ line.sz)
    (format : List Conversion) : (line.append format).str.length ≤ lineCapacity - 1 := by
  have bound := counted.toSizeT_sz room
  unfold Exact at counted
  change (line.str ++ ((formatted format).take (lineCapacity - 1)).take (toSizeT line.sz)).length ≤ _
  rw [List.length_append, List.length_take]
  omega

end TextLine

/-! ## A call -/

theorem appends_eq_nil_iff (build : Build) (sink : Bool) (ops : List TextOp) (line : TextLine) :
    appends build sink ops line = [] ↔ reached build ops = [] := by
  induction ops generalizing line with
  | nil => exact ⟨fun _ => rfl, fun _ => rfl⟩
  | cons op ops ih =>
      cases op with
      | append format => exact ⟨nofun, nofun⟩
      | writeLog => exact ih _
      | assertZero =>
          cases build with
          | debug => exact ⟨fun _ => rfl, fun _ => rfl⟩
          | release => exact ih line

theorem sz_mem_appends {build : Build} {ops : List TextOp} (sink : Bool) (line : TextLine)
    (some_text : reached build ops ≠ []) :
    Exists fun pair => pair ∈ appends build sink ops line ∧ pair.1.sz = line.sz := by
  induction ops generalizing line with
  | nil => exact absurd rfl some_text
  | cons op ops ih =>
      cases op with
      | append format => exact ⟨_, List.mem_cons_self, rfl⟩
      | writeLog =>
          rcases ih (line.writeLog sink) some_text with ⟨pair, member, same⟩
          exact ⟨pair, member, same.trans (line.writeLog_sz sink)⟩
      | assertZero =>
          cases build with
          | debug => exact absurd rfl some_text
          | release => exact ih line some_text

theorem contained_of_silent {build : Build} {sink : Bool} {ops : List TextOp} {line : TextLine}
    (silent : appends build sink ops line = []) : Contained build sink ops line := by
  intro pair member
  rw [silent] at member
  cases member

/-- An append that finds room is contained, whatever follows it. -/
theorem contained_append_iff (build : Build) (sink : Bool) (format : List Conversion)
    (ops : List TextOp) {line : TextLine} (counted : line.Exact) (room : 0 ≤ line.sz) :
    Contained build sink (.append format :: ops) line ↔
      Contained build sink ops (line.append format) := by
  constructor
  · intro every pair member
    exact every pair (List.mem_cons_of_mem _ member)
  · intro every pair member
    rcases List.mem_cons.mp member with rfl | later
    · exact ⟨room, counted.length_append_le room format⟩
    · exact every pair later

/-- Every append is contained exactly when the texts before the last one fit
in the room that is left. -/
theorem contained_iff (build : Build) (sink : Bool) (ops : List TextOp) {line : TextLine}
    (counted : line.Exact) (room : 0 ≤ line.sz) :
    Contained build sink ops line ↔
      ((reached build ops).dropLast.flatten.length : Int) ≤ line.sz := by
  induction ops generalizing line with
  | nil => exact iff_of_true (contained_of_silent rfl) room
  | cons op ops ih =>
      cases op with
      | append format =>
          rw [contained_append_iff build sink format ops counted room]
          cases later : reached build ops with
          | nil =>
              have silent := (appends_eq_nil_iff build sink ops (line.append format)).mpr later
              simp only [reached, later]
              exact iff_of_true (contained_of_silent silent) room
          | cons text texts =>
              have some_text : reached build ops ≠ [] := by
                rw [later]
                exact List.cons_ne_nil _ _
              simp only [reached, later, List.dropLast_cons_cons, List.flatten_cons,
                List.length_append]
              by_cases fits : ((formatted format).length : Int) ≤ line.sz
              · have appended := counted.append format fits
                have next := ih appended.2 (by rw [TextLine.append_sz]; omega)
                rw [next, later, TextLine.append_sz]
                omega
              · constructor
                · intro every
                  rcases sz_mem_appends sink (line.append format) some_text with
                    ⟨pair, member, same⟩
                  have nonnegative := (every pair member).1
                  rw [same, TextLine.append_sz] at nonnegative
                  omega
                · intro impossible
                  omega
      | writeLog =>
          have next := ih (counted.writeLog sink) (by rw [TextLine.writeLog_sz]; exact room)
          rw [TextLine.writeLog_sz] at next
          exact next
      | assertZero =>
          cases build with
          | debug => exact iff_of_true (contained_of_silent rfl) room
          | release => exact ih counted room

/-! ## Texts that fit -/

/-- While everything fits, the counter stays exact after every append. -/
theorem exact_of_fits {build : Build} {sink : Bool} {ops : List TextOp} {line : TextLine}
    (counted : line.Exact) (fits : ((reached build ops).flatten.length : Int) ≤ line.sz)
    {pair : TextLine × TextLine} (member : pair ∈ appends build sink ops line) :
    pair.2.Exact := by
  induction ops generalizing line with
  | nil => cases member
  | cons op ops ih =>
      cases op with
      | append format =>
          simp only [reached, List.flatten_cons, List.length_append] at fits
          have appended := counted.append format (by omega)
          rcases List.mem_cons.mp member with rfl | later
          · exact appended.2
          · refine ih appended.2 ?_ later
            rw [TextLine.append_sz]
            omega
      | writeLog =>
          refine ih (counted.writeLog sink) ?_ member
          rw [TextLine.writeLog_sz]
          exact fits
      | assertZero =>
          cases build with
          | debug => cases member
          | release => exact ih counted fits member

/-- A block of appends that fit extends the line by their texts. -/
theorem perform_of_fits (build : Build) (sink : Bool) {ops : List TextOp} {line : TextLine}
    (only : AppendsOnly ops) (counted : line.Exact)
    (fits : ((reached build ops).flatten.length : Int) ≤ line.sz) :
    perform sink ops line =
        ⟨line.str ++ (reached build ops).flatten,
          line.sz - (reached build ops).flatten.length, line.lines⟩ ∧
      (perform sink ops line).Exact := by
  induction ops generalizing line with
  | nil =>
      refine ⟨?_, counted⟩
      simp [perform, reached]
  | cons op ops ih =>
      rcases only op List.mem_cons_self with ⟨format, rfl⟩
      simp only [reached, List.flatten_cons, List.length_append] at fits ⊢
      have appended := counted.append format (by omega)
      have rest := ih
        (fun op member => only op (List.mem_cons_of_mem _ member)) appended.2
        (by rw [TextLine.append_sz]; omega)
      refine ⟨?_, rest.2⟩
      rw [perform, rest.1, appended.1, TextLine.append_sz, List.append_assoc, TextLine.mk.injEq]
      refine ⟨rfl, ?_, rfl⟩
      omega

theorem perform_append (sink : Bool) (first second : List TextOp) (line : TextLine) :
    perform sink (first ++ second) line = perform sink second (perform sink first line) := by
  induction first generalizing line with
  | nil => rfl
  | cons op ops ih => cases op <;> exact ih _

/-- Past a block without assertions the texts of the next one follow. -/
theorem reached_append {build : Build} {first : List TextOp}
    (free : TextOp.assertZero ∉ first) (second : List TextOp) :
    reached build (first ++ second) = reached build first ++ reached build second := by
  induction first with
  | nil => rfl
  | cons op ops ih =>
      have rest := ih fun member => free (List.mem_cons_of_mem _ member)
      cases op with
      | append format => rw [List.cons_append, reached, reached, rest, List.cons_append]
      | writeLog => exact rest
      | assertZero => exact absurd List.mem_cons_self free

/-- Without assertions nothing cuts a call short. -/
theorem reached_release_append (first second : List TextOp) :
    reached .release (first ++ second) = reached .release first ++ reached .release second := by
  induction first with
  | nil => rfl
  | cons op ops ih =>
      cases op with
      | append format => rw [List.cons_append, reached, reached, ih, List.cons_append]
      | writeLog => exact ih
      | assertZero => exact ih

/-! ## Calls that part

Two calls that perform the same statements up to some append, whose texts then
part at a byte inside the buffer, write different lines, whatever follows. -/

theorem lines_prefix_perform (sink : Bool) (ops : List TextOp) (line : TextLine) :
    line.lines <+: (perform sink ops line).lines := by
  induction ops generalizing line with
  | nil => exact List.prefix_refl _
  | cons op ops ih =>
      cases op with
      | append format => exact ih (line.append format)
      | writeLog =>
          refine List.IsPrefix.trans ?_ (ih (line.writeLog sink))
          cases sink with
          | false => exact List.prefix_refl _
          | true => exact List.prefix_append _ _
      | assertZero => exact ih line

/-- Statements whose texts fit extend the line by them, also where it is
written out in between. -/
theorem str_perform_of_fits (sink : Bool) {ops : List TextOp} {line : TextLine}
    (counted : line.Exact) (fits : ((reached .release ops).flatten.length : Int) ≤ line.sz) :
    (perform sink ops line).str = line.str ++ (reached .release ops).flatten ∧
      (perform sink ops line).Exact := by
  induction ops generalizing line with
  | nil => exact ⟨(List.append_nil _).symm, counted⟩
  | cons op ops ih =>
      cases op with
      | append format =>
          simp only [reached, List.flatten_cons, List.length_append] at fits ⊢
          have appended := counted.append format (by omega)
          have rest := ih appended.2 (by rw [TextLine.append_sz]; omega)
          refine ⟨?_, rest.2⟩
          rw [perform, rest.1, appended.1, List.append_assoc]
      | writeLog =>
          have rest := ih (counted.writeLog sink) (by rw [TextLine.writeLog_sz]; exact fits)
          rw [TextLine.writeLog_str] at rest
          exact rest
      | assertZero => exact ih counted fits

/-- A byte of the text for which there is room ends up in the line. -/
theorem TextLine.Exact.getElem?_append {line : TextLine} (counted : line.Exact)
    {format : List Conversion} {before after : Bytes} {byte : UInt8}
    (text : formatted format = before ++ byte :: after) (room : (before.length : Int) < line.sz) :
    (line.append format).str[line.str.length + before.length]? = some byte := by
  have bound := counted.toSizeT_sz (by omega)
  change line.sz = (1023 : Int) - line.str.length at counted
  change (line.str ++ ((formatted format).take 1023).take (toSizeT line.sz))[_]? = _
  rw [List.getElem?_append_right (Nat.le_add_right _ _), Nat.add_sub_cancel_left, List.take_take,
    List.getElem?_take_of_lt (by omega), text, List.getElem?_append_right (Nat.le_refl _),
    Nat.sub_self, List.getElem?_cons_zero]

theorem getElem?_lines_perform (before : List TextOp) (format : List Conversion)
    (rest : List TextOp) (line : TextLine) :
    (perform true (before ++ .append format :: .writeLog :: rest) line).lines[
        (perform true before line).lines.length]? =
      some ((perform true before line).append format).str := by
  rw [perform_append, perform, perform]
  rcases lines_prefix_perform true rest
    (((perform true before line).append format).writeLog true) with ⟨later, whole⟩
  rw [← whole]
  simp [TextLine.writeLog, TextLine.append]

theorem lines_ne_of_apart {before first second : List TextOp} {format other : List Conversion}
    {line : TextLine} {common firstTail secondTail : Bytes} {byte byte' : UInt8}
    (counted : line.Exact) (apart : byte ≠ byte')
    (text : formatted format = common ++ byte :: firstTail)
    (otherText : formatted other = common ++ byte' :: secondTail)
    (room : ((reached .release before).flatten.length : Int) + common.length < line.sz) :
    (perform true (before ++ .append format :: .writeLog :: first) line).lines ≠
      (perform true (before ++ .append other :: .writeLog :: second) line).lines := by
  have reached : (perform true before line).str = _ ∧ (perform true before line).Exact :=
    str_perform_of_fits true counted (by omega)
  have left : (common.length : Int) < (perform true before line).sz := by
    have start := counted
    have stop := reached.2
    unfold TextLine.Exact at start stop
    rw [stop, reached.1, List.length_append]
    omega
  intro same
  have lines := congrArg (fun lines => lines[(perform true before line).lines.length]?) same
  simp only [getElem?_lines_perform] at lines
  have shown := reached.2.getElem?_append text left
  rw [Option.some.inj lines, reached.2.getElem?_append otherText left] at shown
  exact apart (Option.some.inj shown).symm

end Engines
end PdnsLogger
