import Mathlib.Logic.Function.Basic

namespace PdnsLogger
namespace Foundation

universe u

/-!
# Recursive mutexes

A recursive mutex may be locked again by the thread that holds it, and is free when
it has been unlocked as often as it was locked.  A held mutex keeps the number of
times it was locked again, so that the number of its locks is never zero.

`Counts` compares the mutex with a count of the places where each thread stands
behind a lock.  While the two agree, at most one thread stands at such a place, and
whoever stands there can lock the mutex again and unlock it.
-/

/-- Who holds the mutex, and how often it was locked again. -/
structure RecursiveLock (Owner : Type u) where
  holder : Option (Owner × Nat)

namespace RecursiveLock

variable {Owner : Type u} [DecidableEq Owner]

def free : RecursiveLock Owner :=
  ⟨none⟩

/-- How often a thread has locked the mutex. -/
def depth (lock : RecursiveLock Owner) (who : Owner) : Nat :=
  match lock.holder with
  | none => 0
  | some (owner, again) => if owner = who then again + 1 else 0

/-- `pthread_mutex_lock`, unless it has to wait. -/
def acquire (lock : RecursiveLock Owner) (who : Owner) : Option (RecursiveLock Owner) :=
  match lock.holder with
  | none => some ⟨some (who, 0)⟩
  | some (owner, again) => if owner = who then some ⟨some (owner, again + 1)⟩ else none

/-- `pthread_mutex_unlock` by the holder. -/
def release (lock : RecursiveLock Owner) (who : Owner) : Option (RecursiveLock Owner) :=
  match lock.holder with
  | none => none
  | some (owner, 0) => if owner = who then some ⟨none⟩ else none
  | some (owner, again + 1) => if owner = who then some ⟨some (owner, again)⟩ else none

/-- A lock counts for the thread that takes it, which was the holder or found the
mutex free. -/
theorem depth_acquire {lock next : RecursiveLock Owner} {who : Owner}
    (taken : lock.acquire who = some next) (other : Owner) :
    next.depth other = lock.depth other + if other = who then 1 else 0 := by
  rcases lock with ⟨_ | ⟨owner, again⟩⟩
  · cases taken
    simp [depth, eq_comm]
  · simp only [acquire] at taken
    split at taken
    next held =>
      subst held
      cases taken
      by_cases here : other = owner
      · simp [depth, here]
      · simp [depth, here, Ne.symm here]
    next => cases taken

theorem depth_release {lock next : RecursiveLock Owner} {who : Owner}
    (taken : lock.release who = some next) (other : Owner) :
    lock.depth other = next.depth other + if other = who then 1 else 0 := by
  rcases lock with ⟨_ | ⟨owner, _ | again⟩⟩
  · cases taken
  · simp only [release] at taken
    split at taken
    next held =>
      subst held
      cases taken
      simp [depth, eq_comm]
    next => cases taken
  · simp only [release] at taken
    split at taken
    next held =>
      subst held
      cases taken
      by_cases here : other = owner
      · simp [depth, here]
      · simp [depth, here, Ne.symm here]
    next => cases taken

/-- The mutex is locked as often as counted.  A program counts the locks that a
thread has taken by the point where it stands, so that this relation is the
invariant by which its threads exclude each other. -/
def Counts (lock : RecursiveLock Owner) (held : Owner -> Nat) : Prop :=
  forall who, lock.depth who = held who

theorem counts_free : Counts (free : RecursiveLock Owner) fun _ => 0 :=
  fun _ => rfl

namespace Counts

variable {lock next : RecursiveLock Owner} {held after : Owner -> Nat} {who other : Owner}

theorem unique (counts : lock.Counts held) (one : 0 < held who) (two : 0 < held other) :
    who = other := by
  rw [← counts who] at one
  rw [← counts other] at two
  rcases lock with ⟨_ | ⟨owner, again⟩⟩
  · cases one
  · simp only [depth] at one two
    split at one
    next first =>
      split at two
      next second => exact first.symm.trans second
      next => cases two
    next => cases one

theorem acquire (counts : lock.Counts held) (taken : lock.acquire who = some next)
    (more : forall other, after other = held other + if other = who then 1 else 0) :
    next.Counts after := by
  intro other
  rw [depth_acquire taken, more, counts other]

theorem release (counts : lock.Counts held) (taken : lock.release who = some next)
    (fewer : forall other, held other = after other + if other = who then 1 else 0) :
    next.Counts after := by
  intro other
  have before := counts other
  rw [depth_release taken, fewer] at before
  exact Nat.add_right_cancel before

/-- A thread that holds the mutex can lock it again and can unlock it. -/
theorem holder (counts : lock.Counts held) (inside : 0 < held who) :
    (lock.acquire who).isSome = true ∧ (lock.release who).isSome = true := by
  rw [← counts who] at inside
  rcases lock with ⟨_ | ⟨owner, again⟩⟩
  · cases inside
  · simp only [depth] at inside
    split at inside
    next here =>
      cases again <;> simp [RecursiveLock.acquire, RecursiveLock.release, here]
    next => cases inside

/-- When nobody stands behind a lock the mutex is free for everybody. -/
theorem free (counts : lock.Counts held) (nobody : forall who, held who = 0) :
    lock = RecursiveLock.free := by
  rcases lock with ⟨_ | ⟨owner, again⟩⟩
  · rfl
  · have none := (counts owner).trans (nobody owner)
    simp [depth] at none

end Counts

theorem acquire_free (who : Owner) : ((free : RecursiveLock Owner).acquire who).isSome = true :=
  rfl

end RecursiveLock

end Foundation
end PdnsLogger
