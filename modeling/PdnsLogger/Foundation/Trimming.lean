import Mathlib.Data.List.DropRight
import Mathlib.Data.List.TakeWhile

namespace PdnsLogger
namespace Foundation

universe u

/-!
# Trimming a sequence on both sides

Symbols with a given property are removed from the right end of a sequence and
then from the left.  What is left over has no such symbol at either end, and a
sequence determines it together with the two parts removed, unless nothing is
left over.
-/

variable {Symbol : Type u} (space : Symbol -> Bool)

/-- Every symbol has the property. -/
def Spaces (text : List Symbol) : Prop :=
  forall symbol, symbol ∈ text -> space symbol = true

/-- Neither end has the property. -/
structure Trimmed (text : List Symbol) : Prop where
  head : forall symbol, text.head? = some symbol -> space symbol = false
  last : forall symbol, text.getLast? = some symbol -> space symbol = false

instance (text : List Symbol) : Decidable (Trimmed space text) :=
  decidable_of_iff ((forall symbol, symbol ∈ text.head? -> space symbol = false) ∧
      forall symbol, symbol ∈ text.getLast? -> space symbol = false)
    ⟨fun both => ⟨both.1, both.2⟩, fun trimmed => ⟨trimmed.head, trimmed.last⟩⟩

/-- Remove the symbols on the right, then those on the left. -/
def trim (text : List Symbol) : List Symbol :=
  (text.rdropWhile space).dropWhile space

variable {space}

theorem Spaces.nil : Spaces space [] :=
  nofun

theorem Spaces.append {first second : List Symbol} (left : Spaces space first)
    (right : Spaces space second) : Spaces space (first ++ second) := by
  intro symbol member
  rcases List.mem_append.mp member with member | member
  · exact left symbol member
  · exact right symbol member

theorem Spaces.of_append {first second : List Symbol} (both : Spaces space (first ++ second)) :
    Spaces space first ∧ Spaces space second :=
  ⟨fun symbol member => both symbol (List.mem_append_left _ member),
    fun symbol member => both symbol (List.mem_append_right _ member)⟩

/-- What is removed on the right does not matter. -/
theorem rdropWhile_append_spaces (text : List Symbol) {trail : List Symbol}
    (spaces : Spaces space trail) : (text ++ trail).rdropWhile space = text.rdropWhile space := by
  induction trail using List.reverseRecOn with
  | nil => rw [List.append_nil]
  | append_singleton trail symbol ih =>
      rw [← List.append_assoc, List.rdropWhile_concat_pos space _ symbol
        (spaces.of_append.2 symbol List.mem_cons_self)]
      exact ih spaces.of_append.1

theorem dropWhile_spaces_append {lead : List Symbol} (spaces : Spaces space lead)
    (text : List Symbol) : (lead ++ text).dropWhile space = text.dropWhile space := by
  induction lead with
  | nil => rfl
  | cons symbol lead ih =>
      rw [List.cons_append, List.dropWhile_cons_of_pos (spaces symbol List.mem_cons_self)]
      exact ih fun other member => spaces other (List.mem_cons_of_mem _ member)

theorem rdropWhile_of_last {text : List Symbol}
    (last : forall symbol, text.getLast? = some symbol -> space symbol = false) :
    text.rdropWhile space = text := by
  rw [List.rdropWhile_eq_self_iff]
  intro nonempty
  rw [last _ (List.getLast?_eq_some_getLast nonempty)]
  exact Bool.false_ne_true

theorem last_rdropWhile {text : List Symbol} {symbol : Symbol}
    (last : (text.rdropWhile space).getLast? = some symbol) : space symbol = false := by
  have kept : text.rdropWhile space ≠ [] := by
    intro empty
    rw [empty] at last
    cases last
  have visible := List.rdropWhile_last_not space text kept
  rw [List.getLast?_eq_some_getLast kept] at last
  rw [Option.some.inj last] at visible
  exact Bool.eq_false_iff.mpr visible

theorem dropWhile_of_head {text : List Symbol}
    (head : forall symbol, text.head? = some symbol -> space symbol = false) :
    text.dropWhile space = text := by
  cases text with
  | nil => rfl
  | cons symbol text =>
      rw [List.dropWhile_cons_of_neg]
      rw [head symbol rfl]
      exact Bool.false_ne_true

/-- Removal on the right stops before the front of a sequence when something
behind the front is left over. -/
theorem rdropWhile_append_of_ne_nil (front : List Symbol) {text : List Symbol}
    (nonempty : text.rdropWhile space ≠ []) :
    (front ++ text).rdropWhile space = front ++ text.rdropWhile space := by
  have kept : (text.reverse.dropWhile space).isEmpty = false := by
    rw [List.isEmpty_eq_false_iff]
    intro empty
    rw [List.rdropWhile, empty] at nonempty
    exact nonempty rfl
  rw [List.rdropWhile, List.reverse_append, List.dropWhile_append, if_neg (by simp [kept]),
    List.reverse_append, List.reverse_reverse]
  rfl

/-- Removal on the right does not go past a symbol without the property. -/
theorem rdropWhile_past (front : List Symbol) {symbol : Symbol} (kept : space symbol = false)
    (text : List Symbol) :
    (front ++ symbol :: text).rdropWhile space = front ++ symbol :: text.rdropWhile space := by
  by_cases empty : text.rdropWhile space = []
  · have spaces : Spaces space text := List.rdropWhile_eq_nil_iff.mp empty
    have cut := rdropWhile_append_spaces (front ++ [symbol]) spaces
    rw [List.append_assoc, List.singleton_append] at cut
    rw [cut, empty]
    apply rdropWhile_of_last
    intro last same
    rw [List.getLast?_concat] at same
    exact Option.some.inj same ▸ kept
  · have cut := rdropWhile_append_of_ne_nil (front ++ [symbol]) empty
    rw [List.append_assoc, List.singleton_append, List.append_assoc, List.singleton_append] at cut
    exact cut

/-- The right end of a sequence that still has something left over. -/
theorem rdropWhile_around (lead : List Symbol) {core trail : List Symbol} (nonempty : core ≠ [])
    (trimmed : Trimmed space core) (spaces : Spaces space trail) :
    (lead ++ core ++ trail).rdropWhile space = lead ++ core := by
  rw [rdropWhile_append_spaces _ spaces]
  apply rdropWhile_of_last
  intro symbol last
  rw [List.getLast?_append_of_ne_nil _ nonempty] at last
  exact trimmed.last symbol last

theorem dropWhile_around {lead core : List Symbol} (trimmed : Trimmed space core)
    (spaces : Spaces space lead) : (lead ++ core).dropWhile space = core := by
  rw [dropWhile_spaces_append spaces]
  exact dropWhile_of_head trimmed.head

/-- Every sequence is something trimmed between two stretches of spaces. -/
theorem exists_trim (space : Symbol -> Bool) (text : List Symbol) :
    Exists fun lead => Exists fun trail =>
      text = lead ++ trim space text ++ trail ∧ text.rdropWhile space = lead ++ trim space text ∧
        Spaces space lead ∧ Spaces space trail ∧ Trimmed space (trim space text) := by
  have left : (text.rdropWhile space).takeWhile space ++ trim space text =
      text.rdropWhile space := List.takeWhile_append_dropWhile
  refine ⟨(text.rdropWhile space).takeWhile space, text.rtakeWhile space, ?_, left.symm, ?_, ?_,
    ?_, ?_⟩
  · rw [left, List.rdropWhile_append_rtakeWhile]
  · intro symbol member
    exact List.mem_takeWhile_imp member
  · intro symbol member
    exact List.mem_rtakeWhile_imp member
  · intro symbol head
    have cut := List.head?_dropWhile_not space (text.rdropWhile space)
    rw [show (text.rdropWhile space).dropWhile space = trim space text from rfl, head] at cut
    exact cut
  · intro symbol last
    have nonempty : trim space text ≠ [] := by
      intro empty
      rw [empty] at last
      cases last
    have whole : (text.rdropWhile space).getLast? = some symbol := by
      rw [← left, List.getLast?_append_of_ne_nil _ nonempty, last]
    exact last_rdropWhile whole

/-- Trimming finds the middle part of every such division. -/
theorem trim_eq {lead core trail : List Symbol} (before : Spaces space lead)
    (trimmed : Trimmed space core) (after : Spaces space trail) :
    trim space (lead ++ core ++ trail) = core := by
  by_cases nonempty : core = []
  · subst nonempty
    rw [List.append_nil, trim, rdropWhile_append_spaces _ after]
    rw [List.rdropWhile_eq_nil_iff.mpr before]
    rfl
  · rw [trim, rdropWhile_around lead nonempty trimmed after]
    exact dropWhile_around trimmed before

/-- Trimming is the division into spaces and something trimmed. -/
theorem trim_eq_iff (text core : List Symbol) :
    trim space text = core ↔
      Exists fun lead => Exists fun trail => text = lead ++ core ++ trail ∧
        Spaces space lead ∧ Spaces space trail ∧ Trimmed space core := by
  constructor
  · rintro rfl
    rcases exists_trim space text with ⟨lead, trail, same, _, before, after, trimmed⟩
    exact ⟨lead, trail, same, before, after, trimmed⟩
  · rintro ⟨lead, trail, rfl, before, after, trimmed⟩
    exact trim_eq before trimmed after

end Foundation
end PdnsLogger
