import PdnsLogger.Foundation.BoundedLoop
import Mathlib.Data.List.Basic

namespace PdnsLogger
namespace Foundation

universe u v w

/-!
# Reading line by line

A reader takes one item after another from a stream until it reports the end.
`Reads` relates a stream to the items it gives.  A loop that reads until the end
is then a fold over these items, whatever the reader is.

The second part divides a sequence into lines of bounded length, as `fgets` with
a fixed buffer does: a line ends after a terminator or when it is full.  The
division is computed in one pass from the right, without reference to a reader.
`boundedLines_eq` says that its first line is what a single read takes, so that
repeated reading gives exactly this division.
-/

/-! ## Readers -/

section Readers

variable {Stream : Type u} {Item : Type v}

/-- The items a reader gives until it reports the end of the stream. -/
inductive Reads (next : Stream -> Option (Item × Stream)) : Stream -> List Item -> Prop where
  | done {stream : Stream} : next stream = none -> Reads next stream []
  | more {stream rest : Stream} {item : Item} {items : List Item} :
      next stream = some (item, rest) -> Reads next rest items -> Reads next stream (item :: items)

/-- One round of a loop that reads until the end or until the body leaves it. -/
def consumingRound {State : Type w} {Result : Type w} (next : Stream -> Option (Item × Stream))
    (body : State -> Item -> State ⊕ Result) (finish : State -> Result)
    (state : Stream × State) : (Stream × State) ⊕ Result :=
  match next state.1 with
  | none => .inr (finish state.2)
  | some (item, rest) =>
      match body state.2 item with
      | .inl after => .inl (rest, after)
      | .inr result => .inr result

/-- What such a loop makes of all the items. -/
def consume {State : Type w} {Result : Type w} (body : State -> Item -> State ⊕ Result)
    (finish : State -> Result) : State -> List Item -> Result
  | state, [] => finish state
  | state, item :: items =>
      match body state item with
      | .inl after => consume body finish after items
      | .inr result => result

/-- The loop goes through the items, for every supply of rounds that goes beyond
them. -/
theorem Reads.boundedLoop_consume {State Result : Type w} {Failure : Type v}
    {next : Stream -> Option (Item × Stream)} {stream : Stream} {items : List Item}
    (reads : Reads next stream items) (body : State -> Item -> State ⊕ Result)
    (finish : State -> Result) (diverged : Failure) (state : State) {fuel : Nat}
    (enough : items.length < fuel) :
    boundedLoop diverged (fun state => .ok (consumingRound next body finish state)) fuel
        (stream, state) =
      .ok (consume body finish state items) := by
  induction reads generalizing state fuel with
  | done ended =>
      cases fuel with
      | zero => omega
      | succ fuel => simp only [boundedLoop, consumingRound, ended, consume]
  | @more _ _ item _ taken _ ih =>
      rw [List.length_cons] at enough
      cases fuel with
      | zero => omega
      | succ fuel =>
          simp only [boundedLoop, consumingRound, taken, consume]
          cases body state item with
          | inl after => exact ih after (by omega)
          | inr result => rfl

/-- One round of a loop that reads until the end. -/
def readingRound {State : Type w} (next : Stream -> Option (Item × Stream))
    (body : State -> Item -> State) (state : Stream × State) : (Stream × State) ⊕ State :=
  consumingRound next (fun state item => .inl (body state item)) id state

theorem consume_eq_foldl {State : Type w} (body : State -> Item -> State) (state : State)
    (items : List Item) :
    consume (fun state item => .inl (body state item)) id state items =
      items.foldl body state := by
  induction items generalizing state with
  | nil => rfl
  | cons item items ih => exact ih (body state item)

/-- A loop that reads until the end is a fold over the items. -/
theorem Reads.boundedLoop_eq {State : Type w} {Failure : Type v}
    {next : Stream -> Option (Item × Stream)} {stream : Stream} {items : List Item}
    (reads : Reads next stream items) (body : State -> Item -> State) (diverged : Failure)
    (state : State) {fuel : Nat} (enough : items.length < fuel) :
    boundedLoop diverged (fun state => .ok (readingRound next body state)) fuel (stream, state) =
      .ok (items.foldl body state) := by
  rw [← consume_eq_foldl]
  exact reads.boundedLoop_consume _ _ _ _ enough

theorem Reads.unique {next : Stream -> Option (Item × Stream)} {stream : Stream}
    {first second : List Item} (reads : Reads next stream first)
    (again : Reads next stream second) : first = second := by
  induction reads generalizing second with
  | done ended =>
      cases again with
      | done _ => rfl
      | more taken _ =>
          rw [ended] at taken
          cases taken
  | more taken _ ih =>
      cases again with
      | done ended =>
          rw [ended] at taken
          cases taken
      | more taken' rest =>
          rw [taken] at taken'
          cases taken'
          exact congrArg _ (ih rest)

/-- Two readers give the same items when they stay related. -/
theorem Reads.of_simulation {Other : Type u} {next : Stream -> Option (Item × Stream)}
    {other : Other -> Option (Item × Other)} (related : Stream -> Other -> Prop)
    (ends : forall stream mirror, related stream mirror -> next stream = none ->
      other mirror = none)
    (follows : forall stream mirror item rest, related stream mirror ->
      next stream = some (item, rest) ->
      Exists fun rest' => other mirror = some (item, rest') ∧ related rest rest')
    {stream : Stream} {items : List Item} (reads : Reads next stream items) {mirror : Other}
    (start : related stream mirror) : Reads other mirror items := by
  induction reads generalizing mirror with
  | done ended => exact .done (ends _ _ start ended)
  | more taken _ ih =>
      rcases follows _ _ _ _ start taken with ⟨rest, same, onward⟩
      exact .more same (ih onward)

end Readers

/-! ## Lines of bounded length -/

section Lines

variable {Symbol : Type u} (ends : Symbol -> Bool)

/-- The front of a sequence up to and including its first terminator, but no
more than `room` symbols, and what follows it. -/
def takeLine : Nat -> List Symbol -> List Symbol × List Symbol
  | 0, input => ([], input)
  | _ + 1, [] => ([], [])
  | room + 1, symbol :: input =>
      if ends symbol then ([symbol], input)
      else (symbol :: (takeLine room input).1, (takeLine room input).2)

/-- Put a symbol in front of the first line. -/
def extendLine (symbol : Symbol) : List (List Symbol) -> List (List Symbol)
  | [] => [[symbol]]
  | line :: lines => (symbol :: line) :: lines

/-- The lines of a sequence whose first line may take `room` symbols, and every
later one `limit`. -/
def linesFrom (limit : Nat) : Nat -> List Symbol -> List (List Symbol)
  | _, [] => []
  | room, symbol :: input =>
      if ends symbol || room ≤ 1 then [symbol] :: linesFrom limit limit input
      else extendLine symbol (linesFrom limit (room - 1) input)

/-- The lines of a sequence, none longer than `limit`. -/
def boundedLines (limit : Nat) (input : List Symbol) : List (List Symbol) :=
  linesFrom ends limit limit input

theorem takeLine_append (room : Nat) (input : List Symbol) :
    (takeLine ends room input).1 ++ (takeLine ends room input).2 = input := by
  induction input generalizing room with
  | nil => cases room <;> rfl
  | cons symbol input ih =>
      cases room with
      | zero => rfl
      | succ room =>
          simp only [takeLine]
          split
          · rfl
          · exact congrArg (symbol :: ·) (ih room)

theorem linesFrom_eq {limit room : Nat} {input : List Symbol} (nonempty : input ≠ [])
    (positive : 0 < room) :
    linesFrom ends limit room input =
      (takeLine ends room input).1 :: boundedLines ends limit (takeLine ends room input).2 := by
  induction input generalizing room with
  | nil => exact absurd rfl nonempty
  | cons symbol input ih =>
      cases room with
      | zero => omega
      | succ room =>
          simp only [linesFrom, takeLine]
          by_cases stops : ends symbol = true
          · simp only [stops, Bool.true_or, if_true]
            rfl
          · simp only [Bool.not_eq_true] at stops
            simp only [stops, Bool.false_or, decide_eq_true_eq, Bool.false_eq_true, if_false]
            cases room with
            | zero =>
                simp only [takeLine]
                rfl
            | succ room =>
                rw [if_neg (by omega), Nat.add_sub_cancel]
                cases input with
                | nil => rfl
                | cons next input =>
                    rw [ih (List.cons_ne_nil _ _) (Nat.succ_pos room)]
                    rfl

theorem boundedLines_eq {limit : Nat} {input : List Symbol} (nonempty : input ≠ [])
    (positive : 0 < limit) :
    boundedLines ends limit input =
      (takeLine ends limit input).1 :: boundedLines ends limit (takeLine ends limit input).2 :=
  linesFrom_eq ends nonempty positive

/-- Reading lines until the sequence is used up gives its division. -/
theorem reads_boundedLines (limit : Nat) (positive : 0 < limit) (input : List Symbol) :
    Reads (fun input : List Symbol =>
      if input = [] then none else some (takeLine ends limit input)) input
      (boundedLines ends limit input) := by
  generalize sized : input.length = size
  induction size using Nat.strongRecOn generalizing input with
  | _ size ih =>
      by_cases empty : input = []
      · subst empty
        exact .done (if_pos rfl)
      · rw [boundedLines_eq ends empty positive]
        have taken : 0 < (takeLine ends limit input).1.length := by
          cases input with
          | nil => exact absurd rfl empty
          | cons symbol input =>
              cases limit with
              | zero => omega
              | succ limit =>
                  simp only [takeLine]
                  split <;> exact Nat.succ_pos _
        have whole := congrArg List.length (takeLine_append ends limit input)
        rw [List.length_append] at whole
        exact .more (if_neg empty) (ih _ (by omega) _ rfl)

theorem length_linesFrom_le (limit room : Nat) (input : List Symbol) :
    (linesFrom ends limit room input).length ≤ input.length := by
  induction input generalizing room with
  | nil => exact Nat.le_refl _
  | cons symbol input ih =>
      rw [linesFrom, List.length_cons]
      split
      · exact Nat.succ_le_succ (ih limit)
      · have rest := ih (room - 1)
        cases lines : linesFrom ends limit (room - 1) input with
        | nil => exact Nat.succ_le_succ (Nat.zero_le _)
        | cons line lines' =>
            rw [lines] at rest
            exact Nat.le_succ_of_le rest

/-- Nothing is lost and nothing is moved. -/
theorem flatten_boundedLines {limit : Nat} (positive : 0 < limit) (input : List Symbol) :
    (boundedLines ends limit input).flatten = input := by
  have reads := reads_boundedLines ends limit positive input
  generalize boundedLines ends limit input = lines at reads
  induction reads with
  | done ended =>
      split at ended
      next empty => exact empty.symm
      next => cases ended
  | @more stream rest item items taken _ ih =>
      split at taken
      next => cases taken
      next =>
        have whole := takeLine_append ends limit stream
        rw [Option.some.inj taken] at whole
        rw [List.flatten_cons, ih]
        exact whole

/-- A line is not longer than the limit, and a terminator is its last symbol. -/
theorem line_of_mem_linesFrom {limit room : Nat} {input line : List Symbol} (positive : 0 < room)
    (large : room ≤ limit) (member : line ∈ linesFrom ends limit room input) :
    line.length ≤ limit ∧ forall symbol, symbol ∈ line.dropLast -> ends symbol = false := by
  -- The first line has less room than the others.
  have all : forall (input : List Symbol) (room : Nat), 0 < room -> room ≤ limit ->
      (forall line, (linesFrom ends limit room input).head? = some line -> line.length ≤ room) ∧
      forall line, line ∈ linesFrom ends limit room input ->
        line.length ≤ limit ∧ forall symbol, symbol ∈ line.dropLast -> ends symbol = false := by
    intro input
    induction input with
    | nil =>
        intro room _ _
        exact ⟨nofun, nofun⟩
    | cons symbol input ih =>
        intro room positive large
        rw [linesFrom]
        split
        · refine ⟨?_, ?_⟩
          · rintro line ⟨⟩
            exact positive
          · intro line member
            rcases List.mem_cons.mp member with rfl | later
            · exact ⟨by rw [List.length_singleton]; omega, nofun⟩
            · exact (ih limit (by omega) (Nat.le_refl _)).2 line later
        next unstopped =>
          simp only [Bool.or_eq_true, decide_eq_true_eq, not_or] at unstopped
          have rest := ih (room - 1) (by omega) (by omega)
          cases lines : linesFrom ends limit (room - 1) input with
          | nil =>
              refine ⟨?_, ?_⟩
              · rintro line ⟨⟩
                exact positive
              · intro line member
                rw [List.mem_singleton.mp member]
                exact ⟨by rw [List.length_singleton]; omega, nofun⟩
          | cons first others =>
              rw [lines] at rest
              have short := rest.1 first rfl
              refine ⟨?_, ?_⟩
              · rintro line ⟨⟩
                rw [List.length_cons]
                omega
              · intro line member
                rcases List.mem_cons.mp member with rfl | later
                · refine ⟨by rw [List.length_cons]; omega, ?_⟩
                  intro other inside
                  cases first with
                  | nil => cases inside
                  | cons next first =>
                      rcases List.mem_cons.mp inside with rfl | inside
                      · exact Bool.eq_false_iff.mpr unstopped.1
                      · exact (rest.2 _ List.mem_cons_self).2 other inside
                · exact rest.2 line (List.mem_cons_of_mem _ later)
  exact (all input room positive large).2 line member

/-- A sequence that ends with a terminator is divided by itself. -/
theorem linesFrom_append {limit : Nat} {first : List Symbol}
    (terminated : forall symbol, first.getLast? = some symbol -> ends symbol = true)
    (nonempty : first ≠ []) (room : Nat) (rest : List Symbol) :
    linesFrom ends limit room (first ++ rest) =
      linesFrom ends limit room first ++ boundedLines ends limit rest := by
  induction first generalizing room with
  | nil => exact absurd rfl nonempty
  | cons symbol first ih =>
      by_cases single : first = []
      · subst single
        have stops := terminated symbol rfl
        simp only [List.singleton_append, linesFrom, stops, Bool.true_or, if_true]
        rfl
      · have later := ih (by
          intro last same
          rw [List.getLast?_cons_of_ne_nil single] at terminated
          exact terminated last same) single
        simp only [List.cons_append, linesFrom]
        split
        · rw [later, List.cons_append]
        · rw [later]
          have some_line : linesFrom ends limit (room - 1) first ≠ [] := by
            cases first with
            | nil => exact absurd rfl single
            | cons next first =>
                rw [linesFrom]
                split
                · exact List.cons_ne_nil _ _
                · cases linesFrom ends limit (room - 1 - 1) first <;> exact List.cons_ne_nil _ _
          cases lines : linesFrom ends limit (room - 1) first with
          | nil => exact absurd lines some_line
          | cons line lines' => rfl

/-- A short line is read up to its terminator. -/
theorem boundedLines_terminated {limit : Nat} {line : List Symbol} {last : Symbol}
    (plain : forall symbol, symbol ∈ line -> ends symbol = false) (stops : ends last = true)
    (short : line.length < limit) (rest : List Symbol) :
    boundedLines ends limit (line ++ last :: rest) =
      (line ++ [last]) :: boundedLines ends limit rest := by
  have taken : forall (line : List Symbol) (room : Nat),
      (forall symbol, symbol ∈ line -> ends symbol = false) -> line.length < room ->
      takeLine ends room (line ++ last :: rest) = (line ++ [last], rest) := by
    intro line
    induction line with
    | nil =>
        intro room _ long
        cases room with
        | zero => omega
        | succ room => simp only [List.nil_append, takeLine, stops, if_true]
    | cons symbol line ih =>
        intro room unstopped long
        rw [List.length_cons] at long
        cases room with
        | zero => omega
        | succ room =>
            have here := unstopped symbol List.mem_cons_self
            have later := ih room
              (fun other member => unstopped other (List.mem_cons_of_mem _ member)) (by omega)
            simp only [List.cons_append, takeLine, here, Bool.false_eq_true, if_false, later]
  rw [boundedLines_eq ends (by simp) (by omega), taken line limit plain short]

/-- A line that fills the limit is cut there. -/
theorem boundedLines_full {limit : Nat} {line : List Symbol}
    (plain : forall symbol, symbol ∈ line -> ends symbol = false) (full : line.length = limit)
    (positive : 0 < limit) (rest : List Symbol) :
    boundedLines ends limit (line ++ rest) = line :: boundedLines ends limit rest := by
  have taken : forall (line : List Symbol),
      (forall symbol, symbol ∈ line -> ends symbol = false) ->
      takeLine ends line.length (line ++ rest) = (line, rest) := by
    intro line
    induction line with
    | nil =>
        intro _
        rfl
    | cons symbol line ih =>
        intro unstopped
        have here := unstopped symbol List.mem_cons_self
        have later := ih fun other member => unstopped other (List.mem_cons_of_mem _ member)
        simp only [List.length_cons, List.cons_append, takeLine, here, Bool.false_eq_true,
          if_false, later]
  have nonempty : line ++ rest ≠ [] := by
    intro empty
    rw [(List.append_eq_nil_iff.mp empty).1, List.length_nil] at full
    omega
  have read := taken line plain
  rw [full] at read
  rw [boundedLines_eq ends nonempty positive, read]

end Lines

end Foundation
end PdnsLogger
