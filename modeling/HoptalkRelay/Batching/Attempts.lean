/-
**Items attempted one after the other.**

Each item is attempted some number of times before the next one is taken, so the log of the
attempts repeats the items in their order.

Main definitions:

* `Batching.AttemptedInOrder` — the attempts of some items;
* `Batching.LastAttempted` — the attempts while the last item is in hand.

Main results:

* `Batching.AttemptedInOrder.take`, `Batching.LastAttempted.attempt`,
  `Batching.LastAttempted.attemptedInOrder` — **an item is taken, attempted and put away**.
-/

import Mathlib.Data.List.Basic

set_option relaxedAutoImplicit false
set_option autoImplicit false

namespace Batching

variable {α : Type}

/-- Each of the items was attempted at most so many times, one item after the other. -/
def AttemptedInOrder (limit : ℕ) (items attempts : List α) : Prop :=
  ∃ counted : List (α × ℕ), counted.map Prod.fst = items ∧
    (∀ entry ∈ counted, entry.2 ≤ limit) ∧
    attempts = counted.flatMap fun entry => List.replicate entry.2 entry.1

/-- The last item was attempted at most so many times. -/
def LastAttempted (limit count : ℕ) (item : α) (items attempts : List α) : Prop :=
  ∃ earlier earlierAttempts times, items = earlier ++ [item] ∧ times ≤ count ∧
    AttemptedInOrder limit earlier earlierAttempts ∧
    attempts = earlierAttempts ++ List.replicate times item

section Attempts

variable {limit count : ℕ} {item : α} {items items' attempts attempts' : List α}

theorem AttemptedInOrder.append (h : AttemptedInOrder limit items attempts)
    (h' : AttemptedInOrder limit items' attempts') :
    AttemptedInOrder limit (items ++ items') (attempts ++ attempts') := by
  obtain ⟨counted, rfl, hle, rfl⟩ := h
  obtain ⟨counted', rfl, hle', rfl⟩ := h'
  refine ⟨counted ++ counted', List.map_append, fun entry hentry => ?_, List.flatMap_append.symm⟩
  rcases List.mem_append.1 hentry with hentry | hentry
  · exact hle entry hentry
  · exact hle' entry hentry

/-- Items that were not attempted. -/
theorem AttemptedInOrder.unattempted (limit : ℕ) (items : List α) :
    AttemptedInOrder limit items [] := by
  refine ⟨items.map fun item => (item, 0), ?_, ?_, ?_⟩
  · rw [List.map_map]
    exact List.map_id items
  · simp
  · simp [List.flatMap_map]

/-- One item with its attempts. -/
theorem AttemptedInOrder.replicate (hcount : count ≤ limit) (item : α) :
    AttemptedInOrder limit [item] (List.replicate count item) :=
  ⟨[(item, count)], rfl, by simpa using hcount, by simp⟩

theorem LastAttempted.attemptedInOrder (h : LastAttempted limit count item items attempts)
    (hcount : count ≤ limit) : AttemptedInOrder limit items attempts := by
  obtain ⟨earlier, earlierAttempts, times, rfl, htimes, hearlier, rfl⟩ := h
  exact hearlier.append (.replicate (Nat.le_trans htimes hcount) item)

/-- An item that was just taken. -/
theorem AttemptedInOrder.take (h : AttemptedInOrder limit items attempts) (item : α) :
    LastAttempted limit 0 item (items ++ [item]) attempts :=
  ⟨items, attempts, 0, rfl, Nat.le_refl 0, h, by simp⟩

/-- One more attempt of the last item. -/
theorem LastAttempted.attempt (h : LastAttempted limit count item items attempts) :
    LastAttempted limit (count + 1) item items (attempts ++ [item]) := by
  obtain ⟨earlier, earlierAttempts, times, rfl, htimes, hearlier, rfl⟩ := h
  refine ⟨earlier, earlierAttempts, times + 1, rfl, Nat.succ_le_succ htimes, hearlier, ?_⟩
  rw [List.append_assoc, List.replicate_succ']

theorem LastAttempted.mono (h : LastAttempted limit count item items attempts) {count' : ℕ}
    (hle : count ≤ count') : LastAttempted limit count' item items attempts := by
  obtain ⟨earlier, earlierAttempts, times, hitems, htimes, hearlier, hattempts⟩ := h
  exact ⟨earlier, earlierAttempts, times, hitems, Nat.le_trans htimes hle, hearlier, hattempts⟩

end Attempts

end Batching
