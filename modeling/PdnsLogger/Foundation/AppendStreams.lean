import Mathlib.Data.List.Basic
import Mathlib.Data.List.Infix
import Mathlib.Logic.Function.Basic

namespace PdnsLogger
namespace Foundation

universe u v w

/-!
# Files behind a buffered stream

A stream opened for appending keeps bytes back until its buffer is written out.
The library does this whenever it likes, in portions of any size, and completely
when the stream is flushed, closed or opened again on another file.  Where a name
leads at the moment of opening is decided outside, so an opening is labelled with
the file it reaches, or with nothing when it fails.

What counts is where an entry ends up.  `Outlet.reaching` is what a file holds
together with what the stream still keeps back for it; writing out does not
change it.  `Accounts` compares it with the generations of the stream: for each
opening, the file and the entries printed until the next one.  Every entry stands
undivided in the file that was open when it was printed, whatever was written out
in between.
-/

/-! ## Streams -/

/-- The file a stream leads to, and the bytes it keeps back. -/
structure AppendStream (File : Type u) (Byte : Type v) where
  file : File
  buffer : List Byte
  deriving DecidableEq

/-- The contents of all files, and the one stream, if it is open. -/
structure Outlet (File : Type u) (Byte : Type v) where
  contents : File -> List Byte
  stream : Option (AppendStream File Byte)

namespace Outlet

variable {File : Type u} {Byte : Type v} [DecidableEq File]

def drain (outlet : Outlet File Byte) (amount : Nat) : Outlet File Byte :=
  match outlet.stream with
  | none => outlet
  | some stream =>
      { contents := Function.update outlet.contents stream.file
          (outlet.contents stream.file ++ stream.buffer.take amount)
        stream := some { stream with buffer := stream.buffer.drop amount } }

def flush (outlet : Outlet File Byte) : Outlet File Byte :=
  match outlet.stream with
  | none => outlet
  | some stream => outlet.drain stream.buffer.length

def print (outlet : Outlet File Byte) (bytes : List Byte) : Outlet File Byte :=
  { outlet with stream := outlet.stream.map fun stream =>
      { stream with buffer := stream.buffer ++ bytes } }

/-- Close the stream and open it on the file that the name leads to. -/
def reopen (outlet : Outlet File Byte) (answer : Option File) : Outlet File Byte :=
  { outlet.flush with stream := answer.map fun file => ⟨file, []⟩ }

def close (outlet : Outlet File Byte) : Outlet File Byte :=
  outlet.reopen none

/-- What the stream keeps back for a file. -/
def unwritten (outlet : Outlet File Byte) (file : File) : List Byte :=
  match outlet.stream with
  | none => []
  | some stream => if stream.file = file then stream.buffer else []

/-- What a file holds once nothing is kept back. -/
def reaching (outlet : Outlet File Byte) (file : File) : List Byte :=
  outlet.contents file ++ outlet.unwritten file

variable {outlet : Outlet File Byte}

theorem stream_flush (outlet : Outlet File Byte) :
    outlet.flush.stream = outlet.stream.map fun stream => { stream with buffer := [] } := by
  rcases outlet with ⟨contents, _ | ⟨target, buffer⟩⟩
  · rfl
  · simp [flush, drain]

theorem isSome_stream_drain (outlet : Outlet File Byte) (amount : Nat) :
    (outlet.drain amount).stream.isSome = outlet.stream.isSome := by
  rcases outlet with ⟨contents, _ | ⟨target, buffer⟩⟩ <;> rfl

theorem unwritten_drain (outlet : Outlet File Byte) (amount : Nat) (file : File) :
    (outlet.drain amount).unwritten file = (outlet.unwritten file).drop amount := by
  rcases outlet with ⟨contents, _ | ⟨target, buffer⟩⟩
  · exact List.drop_nil.symm
  · simp only [drain, unwritten]
    split
    · rfl
    · exact List.drop_nil.symm

theorem unwritten_flush (outlet : Outlet File Byte) (file : File) :
    outlet.flush.unwritten file = [] := by
  rw [unwritten, stream_flush]
  cases outlet.stream with
  | none => rfl
  | some stream => simp

theorem unwritten_reopen (outlet : Outlet File Byte) (answer : Option File) (file : File) :
    (outlet.reopen answer).unwritten file = [] := by
  cases answer with
  | none => rfl
  | some target => simp [unwritten, reopen]

theorem reaching_drain (outlet : Outlet File Byte) (amount : Nat) (file : File) :
    (outlet.drain amount).reaching file = outlet.reaching file := by
  rcases outlet with ⟨contents, _ | ⟨target, buffer⟩⟩
  · rfl
  · by_cases same : target = file
    · subst same
      simp [drain, reaching, unwritten]
    · simp [drain, reaching, unwritten, same, Function.update_of_ne (Ne.symm same)]

theorem reaching_flush (outlet : Outlet File Byte) (file : File) :
    outlet.flush.reaching file = outlet.reaching file := by
  unfold flush
  split
  · rfl
  · exact reaching_drain outlet _ file

theorem reaching_reopen (outlet : Outlet File Byte) (answer : Option File) (file : File) :
    (outlet.reopen answer).reaching file = outlet.reaching file := by
  rw [← reaching_flush outlet file, reaching, reaching, outlet.unwritten_reopen,
    outlet.unwritten_flush]
  rfl

theorem reaching_print {stream : AppendStream File Byte} (opened : outlet.stream = some stream)
    (bytes : List Byte) (file : File) :
    (outlet.print bytes).reaching file =
      outlet.reaching file ++ if stream.file = file then bytes else [] := by
  simp only [reaching, unwritten, print, opened, Option.map_some]
  split
  · rw [List.append_assoc]
  · rw [List.append_nil, List.append_nil]

end Outlet

/-! ## Generations -/

section Generations

variable {File : Type u} {Byte : Type v} {Entry : Type w} [DecidableEq File]

/-- The entries of all generations that went to a file, oldest first. -/
def entriesOf (file : File) (generations : List (File × List Entry)) : List Entry :=
  (generations.filter fun generation => generation.1 = file).flatMap Prod.snd

theorem entriesOf_concat (file target : File) (generations : List (File × List Entry))
    (entries : List Entry) :
    entriesOf file (generations ++ [(target, entries)]) =
      entriesOf file generations ++ if target = file then entries else [] := by
  rw [entriesOf, List.filter_append, List.flatMap_append]
  by_cases same : target = file
  · simp [entriesOf, same]
  · simp [entriesOf, same]

theorem mem_of_mem_entriesOf {file : File} {generations : List (File × List Entry)}
    {entry : Entry} (member : entry ∈ entriesOf file generations) :
    entry ∈ generations.flatMap Prod.snd := by
  rcases List.mem_flatMap.mp member with ⟨generation, listed, inside⟩
  exact List.mem_flatMap.mpr ⟨generation, (List.mem_filter.mp listed).1, inside⟩

/-- Every file receives the entries of its generations behind what it held before,
and the open stream belongs to the latest generation. -/
structure Accounts (render : Entry -> List Byte) (initial : File -> List Byte)
    (generations : List (File × List Entry)) (outlet : Outlet File Byte) : Prop where
  reaches : forall file, outlet.reaching file =
    initial file ++ (entriesOf file generations).flatMap render
  latest : forall stream, outlet.stream = some stream ->
    Exists fun earlier => Exists fun entries =>
      generations = earlier ++ [(stream.file, entries)]

namespace Accounts

variable {render : Entry -> List Byte} {initial : File -> List Byte}
  {generations : List (File × List Entry)} {outlet : Outlet File Byte}

theorem unopened (initial : File -> List Byte) :
    Accounts render initial [] ⟨initial, none⟩ where
  reaches _ := rfl
  latest := nofun

theorem drain (accounts : Accounts render initial generations outlet) (amount : Nat) :
    Accounts render initial generations (outlet.drain amount) where
  reaches file := (outlet.reaching_drain amount file).trans (accounts.reaches file)
  latest := by
    intro stream opened
    unfold Outlet.drain at opened
    split at opened
    next absent => cases absent.symm.trans opened
    next before present =>
      cases Option.some.inj opened
      exact accounts.latest before present

theorem flush (accounts : Accounts render initial generations outlet) :
    Accounts render initial generations outlet.flush := by
  unfold Outlet.flush
  split
  · exact accounts
  · exact accounts.drain _

theorem reopen (accounts : Accounts render initial generations outlet) (file : File) :
    Accounts render initial (generations ++ [(file, [])]) (outlet.reopen (some file)) where
  reaches other := by
    rw [outlet.reaching_reopen, accounts.reaches other, entriesOf_concat]
    split <;> rw [List.append_nil]
  latest := by
    intro stream opened
    cases Option.some.inj opened
    exact ⟨generations, [], rfl⟩

/-- A stream that is closed, or not opened again, leaves the generations as they
are. -/
theorem close (accounts : Accounts render initial generations outlet) :
    Accounts render initial generations outlet.close where
  reaches file := (outlet.reaching_reopen none file).trans (accounts.reaches file)
  latest := nofun

/-- An entry printed to the stream belongs to the latest generation. -/
theorem print {earlier : List (File × List Entry)} {stream : AppendStream File Byte}
    {entries : List Entry}
    (accounts : Accounts render initial (earlier ++ [(stream.file, entries)]) outlet)
    (opened : outlet.stream = some stream) (entry : Entry) :
    Accounts render initial (earlier ++ [(stream.file, entries ++ [entry])])
      (outlet.print (render entry)) where
  reaches file := by
    have before := accounts.reaches file
    rw [entriesOf_concat] at before
    rw [Outlet.reaching_print opened, before, entriesOf_concat]
    split
    · simp only [List.flatMap_append, List.flatMap_cons, List.flatMap_nil, List.append_nil,
        List.append_assoc]
    · rw [List.append_nil, List.append_nil]
  latest := by
    intro other printed
    have same : other.file = stream.file := by
      rw [Outlet.print, opened] at printed
      cases Option.some.inj printed
      rfl
    exact ⟨earlier, entries ++ [entry], by rw [same]⟩

end Accounts

end Generations

/-! ## Reading the entries back

An entry followed by a separator is found again by dividing at the separators,
unless it contains one itself. -/

section Separators

variable {Symbol : Type u} [DecidableEq Symbol]

theorem length_splitOn (separator : Symbol) (text : List Symbol) :
    (text.splitOn separator).length = text.count separator + 1 := by
  induction text with
  | nil => rfl
  | cons symbol text ih =>
      rw [List.splitOn_cons_eq_if_modifyHead, List.count_cons]
      split
      · rw [List.length_cons, ih]
      · rw [List.length_modifyHead, ih, Nat.add_zero]

theorem count_terminated (separator : Symbol) (lines : List (List Symbol)) :
    (lines.flatMap (· ++ [separator])).count separator =
      lines.length + lines.flatten.count separator := by
  induction lines with
  | nil => rfl
  | cons line lines ih =>
      simp only [List.flatMap_cons, List.flatten_cons, List.count_append, List.length_cons, ih,
        List.count_singleton_self]
      omega

/-- Dividing at the separators gives the lines exactly when none of them contains
a separator. -/
theorem splitOn_terminated_iff (separator : Symbol) (lines : List (List Symbol)) :
    (lines.flatMap (· ++ [separator])).splitOn separator = lines ++ [[]] ↔
      forall line, line ∈ lines -> separator ∉ line := by
  constructor
  · intro divided
    have counted := congrArg List.length divided
    rw [length_splitOn, count_terminated, List.length_append, List.length_singleton] at counted
    have none : separator ∉ lines.flatten := List.count_eq_zero.mp (by omega)
    intro line member inside
    exact none (List.mem_flatten.mpr ⟨line, member, inside⟩)
  · intro unbroken
    induction lines with
    | nil => rfl
    | cons line lines ih =>
        rw [List.flatMap_cons, List.append_assoc, List.singleton_append,
          List.splitOn_append_cons_self_of_not_mem (unbroken line List.mem_cons_self),
          ih fun other member => unbroken other (List.mem_cons_of_mem line member)]
        rfl

end Separators

end Foundation
end PdnsLogger
