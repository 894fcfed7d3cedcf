/-
**Passes over a growing set of pending keys.**

Keys become pending in ascending order and are settled one at a time.  A pass is a snapshot of the
least pending keys; it may be given up at any key, and another pass starts over.  Whatever becomes
pending meanwhile is above the whole pass, so the keys are settled in ascending order, each once.

Main definitions:

* `Batching.IsPass` — the keys of a pass that are left;
* `Batching.IsSettledBelow` — the keys that were settled.

Main results:

* `Batching.IsPass.of_take` — a snapshot is a pass;
* `Batching.IsPass.grow`, `Batching.IsPass.tail` — a pass goes on;
* `Batching.IsSettledBelow.settle` — **keys are settled in ascending order**.
-/

import Mathlib.Order.Bounds.Basic
import Mathlib.Data.List.Basic

set_option relaxedAutoImplicit false
set_option autoImplicit false

namespace Batching

variable {κ : Type} [LinearOrder κ]

/-- The least pending keys, in ascending order. -/
structure IsPass (pending : κ → Prop) (keys : List κ) : Prop where
  sorted : keys.Pairwise (· < ·)
  pending_of_mem : ∀ k ∈ keys, pending k
  mem_or_lt : ∀ k, pending k → k ∈ keys ∨ ∀ i ∈ keys, i < k

/-- The settled keys, below a bound and below everything that is pending. -/
structure IsSettledBelow (bound : κ) (pending : κ → Prop) (settled : List κ) : Prop where
  sorted : settled.Pairwise (· < ·)
  lt_bound : ∀ s ∈ settled, s < bound
  lt_pending : ∀ s ∈ settled, ∀ k, pending k → s < k

section Pass

variable {pending pending' : κ → Prop} {keys rest : List κ} {k new : κ}

/-- A snapshot of the first pending keys is a pass. -/
theorem IsPass.of_take {all : List κ} (hsorted : all.Pairwise (· < ·))
    (hmem : ∀ k, pending k ↔ k ∈ all) (n : ℕ) : IsPass pending (all.take n) where
  sorted := hsorted.sublist (List.take_sublist n all)
  pending_of_mem k hk := (hmem k).2 (List.mem_of_mem_take hk)
  mem_or_lt k hk := by
    have hall : k ∈ all.take n ++ all.drop n := by
      rw [List.take_append_drop]
      exact (hmem k).1 hk
    have hpair : (all.take n ++ all.drop n).Pairwise (· < ·) := by
      rw [List.take_append_drop]
      exact hsorted
    rcases List.mem_append.1 hall with htaken | hdropped
    · exact Or.inl htaken
    · exact Or.inr fun i hi => (List.pairwise_append.1 hpair).2.2 i hi k hdropped

theorem IsPass.congr (h : IsPass pending keys) (hiff : ∀ k, pending' k ↔ pending k) :
    IsPass pending' keys where
  sorted := h.sorted
  pending_of_mem k hk := (hiff k).2 (h.pending_of_mem k hk)
  mem_or_lt k hk := h.mem_or_lt k ((hiff k).1 hk)

/-- The first key of a pass is the least pending one. -/
theorem IsPass.le_of_pending (h : IsPass pending (k :: rest)) {i : κ} (hi : pending i) :
    k ≤ i := by
  rcases h.mem_or_lt i hi with hmem | hlt
  · rcases List.mem_cons.1 hmem with rfl | hrest
    · exact le_refl i
    · exact ((List.pairwise_cons.1 h.sorted).1 i hrest).le
  · exact (hlt k List.mem_cons_self).le

/-- The first key alone. -/
theorem IsPass.head (h : IsPass pending (k :: rest)) : IsPass pending [k] where
  sorted := List.pairwise_singleton _ _
  pending_of_mem i hi := by
    rw [List.mem_singleton.1 hi]
    exact h.pending_of_mem k List.mem_cons_self
  mem_or_lt i hi := by
    rcases (h.le_of_pending hi).eq_or_lt with rfl | hlt
    · exact Or.inl List.mem_cons_self
    · refine Or.inr fun j hj => ?_
      rwa [List.mem_singleton.1 hj]

/-- The pass goes on when its first key is no longer pending. -/
theorem IsPass.tail (h : IsPass pending (k :: rest))
    (hiff : ∀ i, pending' i ↔ pending i ∧ i ≠ k) : IsPass pending' rest where
  sorted := (List.pairwise_cons.1 h.sorted).2
  pending_of_mem i hi :=
    (hiff i).2 ⟨h.pending_of_mem i (List.mem_cons_of_mem k hi),
      ((List.pairwise_cons.1 h.sorted).1 i hi).ne'⟩
  mem_or_lt i hi := by
    obtain ⟨hpending, hne⟩ := (hiff i).1 hi
    rcases h.mem_or_lt i hpending with hmem | hlt
    · exact Or.inl ((List.mem_cons.1 hmem).resolve_left hne)
    · exact Or.inr fun j hj => hlt j (List.mem_cons_of_mem k hj)

/-- A key above all that are pending leaves the pass as it is. -/
theorem IsPass.grow (h : IsPass pending keys) (hnew : ∀ i, pending i → i < new)
    (hiff : ∀ i, pending' i ↔ pending i ∨ i = new) : IsPass pending' keys where
  sorted := h.sorted
  pending_of_mem i hi := (hiff i).2 (Or.inl (h.pending_of_mem i hi))
  mem_or_lt i hi := by
    rcases (hiff i).1 hi with hpending | rfl
    · exact h.mem_or_lt i hpending
    · exact Or.inr fun j hj => hnew j (h.pending_of_mem j hj)

end Pass

section Settled

variable {bound bound' : κ} {pending pending' : κ → Prop} {settled : List κ} {k : κ}

/-- Nothing was settled yet. -/
theorem IsSettledBelow.nil (bound : κ) (pending : κ → Prop) :
    IsSettledBelow bound pending [] where
  sorted := List.Pairwise.nil
  lt_bound _ hs := absurd hs List.not_mem_nil
  lt_pending _ hs := absurd hs List.not_mem_nil

/-- What becomes pending is above the bound. -/
theorem IsSettledBelow.grow (h : IsSettledBelow bound pending settled) (hbound : bound ≤ bound')
    (hiff : ∀ i, pending' i → pending i ∨ bound ≤ i) : IsSettledBelow bound' pending' settled where
  sorted := h.sorted
  lt_bound s hs := lt_of_lt_of_le (h.lt_bound s hs) hbound
  lt_pending s hs i hi := by
    rcases hiff i hi with hpending | hle
    · exact h.lt_pending s hs i hpending
    · exact lt_of_lt_of_le (h.lt_bound s hs) hle

/-- **Keys are settled in ascending order** when each is the least pending one. -/
theorem IsSettledBelow.settle (h : IsSettledBelow bound pending settled) (hk : pending k)
    (hbound : k < bound) (hleast : ∀ i, pending i → k ≤ i)
    (hiff : ∀ i, pending' i → pending i ∧ i ≠ k) :
    IsSettledBelow bound pending' (settled ++ [k]) where
  sorted := by
    refine List.pairwise_append.2 ⟨h.sorted, List.pairwise_singleton _ _, fun s hs i hi => ?_⟩
    rw [List.mem_singleton.1 hi]
    exact h.lt_pending s hs k hk
  lt_bound s hs := by
    rcases List.mem_append.1 hs with hs | hs
    · exact h.lt_bound s hs
    · rwa [List.mem_singleton.1 hs]
  lt_pending s hs i hi := by
    obtain ⟨hpending, hne⟩ := hiff i hi
    rcases List.mem_append.1 hs with hs | hs
    · exact h.lt_pending s hs i hpending
    · rw [List.mem_singleton.1 hs]
      exact lt_of_le_of_ne (hleast i hpending) hne.symm

end Settled

end Batching
