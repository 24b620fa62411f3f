import PdnsLogger.Foundation.LineReading
import Mathlib.Data.List.Basic

namespace PdnsLogger
namespace Foundation

universe u

/-!
# Options on a command line

`getopt` goes through the words of a command line and returns one option at a
time.  Several options may share a word behind a single dash; an option that
takes an argument takes the rest of its word, or the next word when nothing is
left.  A word of two dashes ends the options.  Other words are operands, which
are either passed over or end the options too.

`Spells` describes the command lines that say a given sequence of options, with
all the ways there are to write it.  Reading a command line gives exactly the
sequence it spells.
-/

variable {Symbol : Type u}

/-- What the options look like.  The dash itself is no option. -/
structure OptionSyntax (Symbol : Type u) where
  dash : Symbol
  takesArgument : Symbol -> Option Bool
  permutes : Bool
  plainDash : takesArgument dash = none

/-- What one call returns. -/
inductive Occurrence (Symbol : Type u) where
  | plain (option : Symbol)
  | argument (option : Symbol) (text : List Symbol)
  | unknown (option : Symbol)
  | missing (option : Symbol)
  deriving DecidableEq, Repr

namespace OptionSyntax

variable (options : OptionSyntax Symbol)

/-- An option inside a word, with the rest of the word and the words behind. -/
def takeOption (option : Symbol) (cluster : List Symbol) (words : List (List Symbol)) :
    Occurrence Symbol × (List Symbol × List (List Symbol)) :=
  match options.takesArgument option with
  | none => (.unknown option, cluster, words)
  | some false => (.plain option, cluster, words)
  | some true =>
      match cluster, words with
      | next :: cluster, words => (.argument option (next :: cluster), [], words)
      | [], word :: words => (.argument option word, [], words)
      | [], [] => (.missing option, [], [])

/-- An option that takes no argument. -/
def flag (option : Symbol) : Occurrence Symbol :=
  if options.takesArgument option = none then .unknown option else .plain option

def Flags (flags : List Symbol) : Prop :=
  forall option, option ∈ flags -> options.takesArgument option ≠ some true

section Clusters

variable {options}

theorem takeOption_flag {option : Symbol} (plain : options.takesArgument option ≠ some true)
    (cluster : List Symbol) (words : List (List Symbol)) :
    options.takeOption option cluster words = (options.flag option, cluster, words) := by
  unfold takeOption flag
  cases takes : options.takesArgument option with
  | none => rfl
  | some argument =>
      cases argument with
      | false => rfl
      | true => exact absurd takes plain

theorem append_option_ne_dash {option : Symbol}
    (takes : options.takesArgument option = some true) (flags text : List Symbol) :
    flags ++ option :: text ≠ [options.dash] := by
  intro same
  cases flags with
  | nil =>
      cases same
      rw [options.plainDash] at takes
      cases takes
  | cons first flags => simp at same

variable (options)

/-- A cluster is flags, or flags and an option with an argument. -/
theorem exists_flags (cluster : List Symbol) :
    options.Flags cluster ∨ Exists fun flags => Exists fun option => Exists fun text =>
      cluster = flags ++ option :: text ∧ options.Flags flags ∧
        options.takesArgument option = some true := by
  induction cluster with
  | nil => exact .inl nofun
  | cons first cluster ih =>
      by_cases takes : options.takesArgument first = some true
      · exact .inr ⟨[], first, cluster, rfl, nofun, takes⟩
      · rcases ih with plain | ⟨flags, option, text, rfl, plain, argument⟩
        · exact .inl (List.forall_mem_cons.mpr ⟨takes, plain⟩)
        · exact .inr ⟨first :: flags, option, text, rfl,
            List.forall_mem_cons.mpr ⟨takes, plain⟩, argument⟩

end Clusters

variable [DecidableEq Symbol]

def operand (word : List Symbol) : Bool :=
  word.length ≤ 1 || word.head? != some options.dash

def nextWord : List (List Symbol) ->
    Option (Occurrence Symbol × (List Symbol × List (List Symbol)))
  | [] => none
  | word :: words =>
      if options.operand word then
        if options.permutes then nextWord words else none
      else
        match word with
        | _ :: option :: cluster =>
            if option = options.dash ∧ cluster = [] then none
            else some (options.takeOption option cluster words)
        | _ => none

/-- `getopt`, with the rest of the word under way and the words behind it. -/
def getopt : List Symbol × List (List Symbol) ->
    Option (Occurrence Symbol × (List Symbol × List (List Symbol)))
  | (option :: cluster, words) => some (options.takeOption option cluster words)
  | ([], words) => options.nextWord words

/-! ## Command lines -/

/-- The words say these options.  A word is read as a whole here, with the flags it
clusters and the argument it ends in or leaves to the next word; the scanner goes
from symbol to symbol and keeps what is left of the word in its state. -/
inductive Spells : List (List Symbol) -> List (Occurrence Symbol) -> Prop where
  | nil : Spells [] []
  | ended (words) : Spells ([options.dash, options.dash] :: words) []
  | passed {word words occurrences} (operand : options.operand word = true)
      (permutes : options.permutes = true) (rest : Spells words occurrences) :
      Spells (word :: words) occurrences
  | stopped {word} (words) (operand : options.operand word = true)
      (strict : options.permutes = false) : Spells (word :: words) []
  | flags {flags words occurrences} (nonempty : flags ≠ []) (other : flags ≠ [options.dash])
      (plain : options.Flags flags) (rest : Spells words occurrences) :
      Spells ((options.dash :: flags) :: words) (flags.map options.flag ++ occurrences)
  | attached {flags option text words occurrences} (plain : options.Flags flags)
      (takes : options.takesArgument option = some true) (nonempty : text ≠ [])
      (rest : Spells words occurrences) :
      Spells ((options.dash :: (flags ++ option :: text)) :: words)
        (flags.map options.flag ++ .argument option text :: occurrences)
  | separate {flags option text words occurrences} (plain : options.Flags flags)
      (takes : options.takesArgument option = some true) (rest : Spells words occurrences) :
      Spells ((options.dash :: (flags ++ [option])) :: text :: words)
        (flags.map options.flag ++ .argument option text :: occurrences)
  | missing {flags option} (plain : options.Flags flags)
      (takes : options.takesArgument option = some true) :
      Spells [options.dash :: (flags ++ [option])] (flags.map options.flag ++ [.missing option])

variable {options}

/-! ## Reading what is spelled -/

theorem reads_flags {flags : List Symbol} (plain : options.Flags flags) {rest : List Symbol}
    {words : List (List Symbol)} {occurrences : List (Occurrence Symbol)}
    (reads : Reads options.getopt (rest, words) occurrences) :
    Reads options.getopt (flags ++ rest, words) (flags.map options.flag ++ occurrences) := by
  induction flags with
  | nil => exact reads
  | cons option flags ih =>
      have here := plain option List.mem_cons_self
      have later := ih fun other member => plain other (List.mem_cons_of_mem _ member)
      exact .more (congrArg some (takeOption_flag here _ words)) later

/-- A word that begins with a dash and is not `--` is read as its cluster is. -/
theorem reads_word {option : Symbol} {cluster : List Symbol} {words : List (List Symbol)}
    {occurrences : List (Occurrence Symbol)}
    (other : ¬ (option = options.dash ∧ cluster = []))
    (reads : Reads options.getopt (option :: cluster, words) occurrences) :
    Reads options.getopt ([], (options.dash :: option :: cluster) :: words) occurrences := by
  have same : options.getopt ([], (options.dash :: option :: cluster) :: words) =
      options.getopt (option :: cluster, words) := by
    simp [getopt, nextWord, operand, other]
  cases reads with
  | done ended => exact .done (same.trans ended)
  | more taken rest => exact .more (same.trans taken) rest

theorem reads_word_append {flags rest : List Symbol} {words : List (List Symbol)}
    {occurrences : List (Occurrence Symbol)} (nonempty : flags ++ rest ≠ [])
    (other : flags ++ rest ≠ [options.dash])
    (reads : Reads options.getopt (flags ++ rest, words) occurrences) :
    Reads options.getopt ([], (options.dash :: (flags ++ rest)) :: words) occurrences := by
  generalize flags ++ rest = cluster at *
  cases cluster with
  | nil => exact absurd rfl nonempty
  | cons option cluster =>
      refine reads_word ?_ reads
      rintro ⟨rfl, rfl⟩
      exact other rfl

theorem reads_of_spells {words : List (List Symbol)} {occurrences : List (Occurrence Symbol)}
    (spells : options.Spells words occurrences) :
    Reads options.getopt ([], words) occurrences := by
  induction spells with
  | nil => exact .done rfl
  | ended words => exact .done (by simp [getopt, nextWord, operand])
  | @passed word words _ operand permutes _ ih =>
      have same : options.getopt ([], word :: words) = options.getopt ([], words) := by
        simp [getopt, nextWord, operand, permutes]
      cases ih with
      | done ended => exact .done (same.trans ended)
      | more taken rest => exact .more (same.trans taken) rest
  | stopped words operand strict => exact .done (by simp [getopt, nextWord, operand, strict])
  | flags nonempty other plain _ ih =>
      have word := reads_flags plain ih
      have read := reads_word_append (by simpa using nonempty) (by simpa using other) word
      simpa using read
  | @attached flags option text words _ plain takes nonempty _ ih =>
      refine reads_word_append (by simp) (append_option_ne_dash takes _ _) (reads_flags plain ?_)
      refine .more (congrArg some ?_) ih
      cases text with
      | nil => exact absurd rfl nonempty
      | cons next text => simp [takeOption, takes]
  | separate plain takes _ ih =>
      refine reads_word_append (by simp) (append_option_ne_dash takes _ _) (reads_flags plain ?_)
      exact .more (congrArg some (by simp [takeOption, takes])) ih
  | missing plain takes =>
      have none : Reads options.getopt ([], []) [] := .done rfl
      refine reads_word_append (by simp) (append_option_ne_dash takes _ _) (reads_flags plain ?_)
      exact .more (congrArg some (by simp [takeOption, takes])) none

/-! ## Every command line spells something -/

theorem exists_spells (options : OptionSyntax Symbol) (words : List (List Symbol)) :
    Exists fun occurrences => options.Spells words occurrences := by
  generalize count : words.length = size
  induction size using Nat.strongRecOn generalizing words with
  | _ size ih =>
      subst count
      cases words with
      | nil => exact ⟨[], .nil⟩
      | cons word words =>
          rcases ih words.length (Nat.lt_succ_self _) words rfl with ⟨occurrences, rest⟩
          by_cases operand : options.operand word = true
          · cases permutes : options.permutes with
            | true => exact ⟨_, .passed operand permutes rest⟩
            | false => exact ⟨_, .stopped words operand permutes⟩
          · match word with
            | [] => exact absurd rfl operand
            | [_] => exact absurd rfl operand
            | dash :: first :: cluster =>
                have same : dash = options.dash := by
                  simpa [OptionSyntax.operand] using operand
                subst same
                by_cases end_ : first :: cluster = [options.dash]
                · rw [end_]
                  exact ⟨_, .ended words⟩
                · rcases options.exists_flags (first :: cluster) with plain |
                    ⟨flags, option, text, divided, plain, takes⟩
                  · exact ⟨_, .flags (List.cons_ne_nil _ _) end_ plain rest⟩
                  · rw [divided]
                    cases text with
                    | cons next text =>
                        exact ⟨_, .attached plain takes (List.cons_ne_nil _ _) rest⟩
                    | nil =>
                        cases words with
                        | nil => exact ⟨_, .missing plain takes⟩
                        | cons text words =>
                            have fewer : words.length < (word :: text :: words).length := by
                              simp only [List.length_cons]
                              omega
                            rcases ih words.length fewer words rfl with ⟨others, rest⟩
                            exact ⟨_, .separate plain takes rest⟩

/-- A command line has one reading. -/
theorem Spells.unique {words : List (List Symbol)} {first second : List (Occurrence Symbol)}
    (spells : options.Spells words first) (again : options.Spells words second) :
    first = second :=
  (reads_of_spells spells).unique (reads_of_spells again)

theorem length_le_of_spells {words : List (List Symbol)}
    {occurrences : List (Occurrence Symbol)} (spells : options.Spells words occurrences) :
    occurrences.length ≤ words.flatten.length := by
  induction spells with
  | nil => exact Nat.le_refl _
  | ended words => exact Nat.zero_le _
  | passed _ _ _ ih =>
      simp only [List.flatten_cons, List.length_append]
      omega
  | stopped words => exact Nat.zero_le _
  | flags _ _ _ _ ih =>
      simp only [List.flatten_cons, List.length_append, List.length_cons, List.length_map]
      omega
  | attached _ _ _ _ ih =>
      simp only [List.flatten_cons, List.length_append, List.length_cons, List.length_map]
      omega
  | separate _ _ _ ih =>
      simp only [List.flatten_cons, List.length_append, List.length_cons, List.length_map,
        List.length_nil]
      omega
  | missing _ _ =>
      simp only [List.flatten_cons, List.flatten_nil, List.length_append, List.length_cons,
        List.length_map, List.length_nil]
      omega

end OptionSyntax

end Foundation
end PdnsLogger
