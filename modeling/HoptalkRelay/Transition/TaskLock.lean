/-
**A lock that tasks take in turn.**

The lock of a single-threaded event loop: a task that asks gets it at once when nobody holds it and
nobody waits, and waits behind the others otherwise.  Releasing it only lets it go; the first
waiting task takes it when it runs next.

Main definitions:

* `Transition.TaskLock` — the holder, and who waits;
* `Transition.TaskLock.ask`, `Transition.TaskLock.release`, `Transition.TaskLock.takeNext?`,
  `Transition.TaskLock.leave` — what tasks do with it.

Main results:

* `Transition.TaskLock.holder_ask`, `Transition.TaskLock.takeNext?_eq_some` — **who holds it**;
* `Transition.TaskLock.waiters_ask`, `Transition.TaskLock.waiters_takeNext?` — who waits.
-/

import Mathlib.Data.List.Basic

set_option relaxedAutoImplicit false
set_option autoImplicit false

namespace Transition

structure TaskLock (τ : Type) where
  holder : Option τ
  /-- In the order in which they asked. -/
  waiters : List τ
  deriving DecidableEq

namespace TaskLock

variable {τ : Type}

/-- Nobody holds the lock or waits for it. -/
def free : TaskLock τ := ⟨none, []⟩

/-- Taken at once, or waited for. -/
def ask (lock : TaskLock τ) (task : τ) : TaskLock τ :=
  if lock.holder = none ∧ lock.waiters = [] then { lock with holder := some task }
  else { lock with waiters := lock.waiters ++ [task] }

def release (lock : TaskLock τ) : TaskLock τ := { lock with holder := none }

/-- The first waiting task takes a lock that nobody holds. -/
def takeNext? (lock : TaskLock τ) : Option (τ × TaskLock τ) :=
  match lock.holder, lock.waiters with
  | none, task :: waiters => some (task, ⟨some task, waiters⟩)
  | _, _ => none

/-- A task gives up waiting. -/
def leave [DecidableEq τ] (lock : TaskLock τ) (task : τ) : TaskLock τ :=
  { lock with waiters := lock.waiters.erase task }

variable {lock lock' : TaskLock τ} {task : τ}

@[simp] theorem holder_release : lock.release.holder = none := rfl

@[simp] theorem holder_leave [DecidableEq τ] : (lock.leave task).holder = lock.holder := rfl

/-- **Asking** gives a task only a lock that nobody held. -/
theorem holder_ask : (lock.ask task).holder = lock.holder ∨
    lock.holder = none ∧ (lock.ask task).holder = some task := by
  unfold ask
  split
  · next hfree => exact Or.inr ⟨hfree.1, rfl⟩
  · exact Or.inl rfl

/-- **The next task** takes a lock that nobody held. -/
theorem takeNext?_eq_some (h : lock.takeNext? = some (task, lock')) :
    lock.holder = none ∧ lock'.holder = some task := by
  unfold takeNext? at h
  split at h
  · next hholder _ =>
      obtain ⟨rfl, rfl⟩ := Prod.mk.inj (Option.some.inj h)
      exact ⟨hholder, rfl⟩
  · cases h

/-! ### Who waits -/

@[simp] theorem waiters_release : lock.release.waiters = lock.waiters := rfl

/-- A task that does not get the lock waits behind the others. -/
theorem waiters_ask : (lock.ask task).waiters = lock.waiters ∧
      (lock.ask task).holder = some task ∨
    (lock.ask task).waiters = lock.waiters ++ [task] ∧
      (lock.ask task).holder = lock.holder := by
  unfold ask
  split
  · exact Or.inl ⟨rfl, rfl⟩
  · exact Or.inr ⟨rfl, rfl⟩

/-- The next task is the one that waited longest. -/
theorem waiters_takeNext? (h : lock.takeNext? = some (task, lock')) :
    lock.waiters = task :: lock'.waiters := by
  unfold takeNext? at h
  split at h
  · next hwaiters =>
      obtain ⟨rfl, rfl⟩ := Prod.mk.inj (Option.some.inj h)
      exact hwaiters
  · cases h

/-- Another task that gives up waiting leaves a task where it is. -/
theorem count_leave [DecidableEq τ] {other : τ} (h : other ≠ task) :
    (lock.leave task).waiters.count other = lock.waiters.count other :=
  List.count_erase_of_ne h

end TaskLock

end Transition
