/-
**Packing in order.**

A list of units is cut into consecutive bins, none heavier than a budget.  The greedy packing opens
a new bin only for a unit the open one has no room for.  It is compared with any other packing unit
by unit: the greedy one is never behind, where to be ahead is to have closed fewer bins, or as many
with no heavier a bin open.

A packing is also a way of cutting the joined units, and a cut that falls between units only is a
packing of them.

Main definitions:

* `Packing.IsPacking` — bins that hold the units in order, each within the budget;
* `Packing.Fill`, `Packing.Fill.addAll` — the greedy packing, as far as its loads go;
* `Packing.IsBoundary` — a position where a cut of a list may fall.

Main results:

* `Packing.Fill.Ahead.add` — one unit keeps the greedy packing ahead;
* `Packing.closed_lt_length` — **no packing has fewer bins than the greedy one**;
* `Packing.exists_bins` — **cuts between units group the units**.
-/

import Mathlib.Algebra.GroupWithZero.Nat
import Mathlib.Algebra.Order.BigOperators.Group.List

set_option relaxedAutoImplicit false
set_option autoImplicit false

namespace Packing

/-! ### Loads -/

/-- The bins hold the units in order, and none is heavier than the budget. -/
structure IsPacking {α : Type} (weight : α → ℕ) (budget : ℕ) (units : List α)
    (bins : List (List α)) : Prop where
  joins : bins.flatten = units
  fits : ∀ bin ∈ bins, (bin.map weight).sum ≤ budget

/-- How many bins are closed, and how heavy the open one is. -/
structure Fill where
  closed : ℕ
  load : ℕ

namespace Fill

variable {budget w : ℕ} {a b : Fill}

/-- A unit goes into the open bin if there is room, and into a new one otherwise. -/
def add (budget : ℕ) (fill : Fill) (w : ℕ) : Fill :=
  if budget < fill.load + w then ⟨fill.closed + 1, w⟩ else ⟨fill.closed, fill.load + w⟩

def addAll (budget : ℕ) (fill : Fill) (weights : List ℕ) : Fill :=
  weights.foldl (add budget) fill

@[simp] theorem addAll_nil (fill : Fill) : fill.addAll budget [] = fill := rfl

@[simp] theorem addAll_cons (fill : Fill) (weights : List ℕ) :
    fill.addAll budget (w :: weights) = (fill.add budget w).addAll budget weights := rfl

theorem addAll_append (fill : Fill) (weights weights' : List ℕ) :
    fill.addAll budget (weights ++ weights') =
      (fill.addAll budget weights).addAll budget weights' :=
  List.foldl_append

/-- Fewer bins are closed, or as many and the open one is no heavier. -/
def Ahead (a b : Fill) : Prop := a.closed < b.closed ∨ a.closed = b.closed ∧ a.load ≤ b.load

theorem Ahead.refl (a : Fill) : a.Ahead a := Or.inr ⟨rfl, le_rfl⟩

theorem Ahead.closed_le (h : a.Ahead b) : a.closed ≤ b.closed := by
  rcases h with hlt | ⟨heq, -⟩
  · exact hlt.le
  · exact heq.le

/-- To close a bin early is to fall behind. -/
theorem Ahead.close (h : a.Ahead b) : a.Ahead ⟨b.closed + 1, 0⟩ :=
  Or.inl (Nat.lt_succ_of_le h.closed_le)

/-- **One unit** that the other packing finds room for. -/
theorem Ahead.add (h : a.Ahead b) (hfits : b.load + w ≤ budget) :
    (a.add budget w).Ahead ⟨b.closed, b.load + w⟩ := by
  unfold Fill.add
  split
  · next hfull =>
      -- the other bin is lighter, so it is a later one
      rcases h with hlt | ⟨-, hload⟩
      · rcases Nat.lt_or_eq_of_le (Nat.succ_le_of_lt hlt) with hbehind | heq
        · exact Or.inl hbehind
        · exact Or.inr ⟨heq, Nat.le_add_left w b.load⟩
      · omega
  · rcases h with hlt | ⟨heq, hload⟩
    · exact Or.inl hlt
    · exact Or.inr ⟨heq, Nat.add_le_add_right hload w⟩

/-- A bin the other packing fills. -/
theorem Ahead.addAll {weights : List ℕ} (h : a.Ahead b) (hfits : b.load + weights.sum ≤ budget) :
    (a.addAll budget weights).Ahead ⟨b.closed, b.load + weights.sum⟩ := by
  induction weights generalizing a b with
  | nil => exact h
  | cons w weights ih =>
      rw [List.sum_cons, ← Nat.add_assoc] at hfits ⊢
      exact ih (h.add (le_trans (Nat.le_add_right _ _) hfits)) hfits

/-- The bins the other packing fills, one after the other. -/
theorem Ahead.closed_addAll_le {bins : List (List ℕ)} (h : a.Ahead b)
    (hfits : ∀ bin ∈ bins, bin.sum ≤ budget) :
    (a.addAll budget bins.flatten).closed ≤ b.closed + bins.length := by
  induction bins generalizing a b with
  | nil => exact h.closed_le
  | cons bin bins ih =>
      have hbin : 0 + bin.sum ≤ budget := by
        rw [Nat.zero_add]
        exact hfits bin List.mem_cons_self
      have hahead := h.close.addAll hbin
      rw [List.flatten_cons, addAll_append, List.length_cons]
      have hle := ih hahead fun bin hmem => hfits bin (List.mem_cons_of_mem _ hmem)
      dsimp only at hle
      omega

end Fill

/-- **No packing has fewer bins** than the greedy one closes, and the open one. -/
theorem closed_lt_length {α : Type} {weight : α → ℕ} {budget : ℕ} {units : List α}
    {bins : List (List α)} (h : IsPacking weight budget units bins) (hbins : bins ≠ []) :
    ((Fill.mk 0 0).addAll budget (units.map weight)).closed < bins.length := by
  obtain ⟨bin, rest, rfl⟩ := List.exists_cons_of_ne_nil hbins
  have hbin : 0 + (bin.map weight).sum ≤ budget := by
    rw [Nat.zero_add]
    exact h.fits bin List.mem_cons_self
  have hrest : ∀ weights ∈ rest.map (List.map weight), weights.sum ≤ budget := by
    intro weights hmem
    obtain ⟨other, hother, rfl⟩ := List.mem_map.1 hmem
    exact h.fits other (List.mem_cons_of_mem _ hother)
  have hahead := (Fill.Ahead.refl ⟨0, 0⟩).addAll hbin
  have hle := hahead.closed_addAll_le hrest
  rw [← h.joins, List.flatten_cons, List.map_append, Fill.addAll_append, List.map_flatten,
    List.length_cons]
  rw [List.length_map] at hle
  dsimp only at hle
  omega

/-! ### Boundaries -/

section Boundaries

variable {α : Type} {pieces parts units : List (List α)} {n : ℕ}

/-- The first pieces hold `n` elements. -/
def IsBoundary (pieces : List (List α)) (n : ℕ) : Prop :=
  ∃ first second, pieces = first ++ second ∧ first.flatten.length = n

theorem IsBoundary.zero (pieces : List (List α)) : IsBoundary pieces 0 := ⟨[], pieces, rfl, rfl⟩

theorem IsBoundary.append_left (h : IsBoundary pieces n) (first : List (List α)) :
    IsBoundary (first ++ pieces) (first.flatten.length + n) := by
  obtain ⟨before, after, rfl, rfl⟩ := h
  refine ⟨first ++ before, after, (List.append_assoc _ _ _).symm, ?_⟩
  rw [List.flatten_append, List.length_append]

theorem IsBoundary.append_right (h : IsBoundary pieces n) (second : List (List α)) :
    IsBoundary (pieces ++ second) n := by
  obtain ⟨before, after, rfl, rfl⟩ := h
  exact ⟨before, after ++ second, List.append_assoc _ _ _, rfl⟩

/-- A boundary inside two lists of pieces is one of the first or of the second list. -/
theorem isBoundary_append {first second : List (List α)} :
    IsBoundary (first ++ second) n ↔
      IsBoundary first n ∨ ∃ k, IsBoundary second k ∧ n = first.flatten.length + k := by
  constructor
  · rintro ⟨before, after, heq, rfl⟩
    rcases List.append_eq_append_iff.1 heq with ⟨middle, rfl, rfl⟩ | ⟨middle, rfl, rfl⟩
    · refine Or.inr ⟨middle.flatten.length, ⟨middle, after, rfl, rfl⟩, ?_⟩
      rw [List.flatten_append, List.length_append]
    · exact Or.inl ⟨before, middle, rfl, rfl⟩
  · rintro (h | ⟨k, h, rfl⟩)
    · exact h.append_right second
    · exact h.append_left first

theorem IsBoundary.le (h : IsBoundary pieces n) : n ≤ pieces.flatten.length := by
  obtain ⟨before, after, rfl, rfl⟩ := h
  rw [List.flatten_append, List.length_append]
  exact Nat.le_add_right _ _

/-- A piece lies on one side of every boundary. -/
theorem IsBoundary.not_inside {before after : List (List α)} {piece : List α}
    (h : IsBoundary (before ++ piece :: after) n) :
    n ≤ before.flatten.length ∨ before.flatten.length + piece.length ≤ n := by
  rcases isBoundary_append.1 h with hbefore | ⟨k, ⟨first, second, heq, rfl⟩, rfl⟩
  · exact Or.inl hbefore.le
  · rcases List.cons_eq_append_iff.1 heq with ⟨rfl, -⟩ | ⟨first, rfl, -⟩
    · exact Or.inl le_rfl
    · right
      rw [List.flatten_cons, List.length_append]
      omega

/-- A boundary of the bins is a boundary of what they hold. -/
theorem IsBoundary.of_map_flatten {bins : List (List (List α))}
    (h : IsBoundary (bins.map List.flatten) n) : IsBoundary bins.flatten n := by
  obtain ⟨before, after, heq, rfl⟩ := h
  obtain ⟨first, second, rfl, rfl, rfl⟩ := List.map_eq_append_iff.1 heq
  exact ⟨first.flatten, second.flatten, List.flatten_append, by rw [List.flatten_flatten]⟩

/-- **Cuts between units group the units.** -/
theorem exists_bins (hparts : parts ≠ []) (hjoins : units.flatten = parts.flatten)
    (hboundaries : ∀ n, IsBoundary parts n → IsBoundary units n) :
    ∃ bins : List (List (List α)), bins.flatten = units ∧ bins.map List.flatten = parts := by
  induction parts generalizing units with
  | nil => exact absurd rfl hparts
  | cons part parts ih =>
      cases hrest : parts with
      | nil =>
          refine ⟨[units], by simp, ?_⟩
          rw [hrest] at hjoins
          simpa using hjoins
      | cons next rest =>
          rw [← hrest]
          have hfirst : IsBoundary (part :: parts) part.length := ⟨[part], parts, rfl, by simp⟩
          obtain ⟨bin, second, rfl, hbin⟩ := hboundaries _ hfirst
          rw [List.flatten_append, List.flatten_cons] at hjoins
          obtain ⟨hpart, hsecond⟩ := List.append_inj hjoins hbin
          have hlater : ∀ n, IsBoundary parts n → IsBoundary second n := by
            intro n hn
            have hboth := hboundaries _ (hn.append_left [part])
            rcases isBoundary_append.1 hboth with hbefore | ⟨k, hk, heq⟩
            · -- only the end of the bin can lie in the bin
              have hle := hbefore.le
              rw [hbin] at hle
              have hzero : n = 0 := by
                simp only [List.flatten_cons, List.flatten_nil, List.append_nil] at hle
                omega
              exact hzero ▸ IsBoundary.zero second
            · have hnk : n = k := by
                simp only [List.flatten_cons, List.flatten_nil, List.append_nil] at heq
                omega
              exact hnk ▸ hk
          obtain ⟨bins, rfl, hbins⟩ := ih (by rw [hrest]; simp) hsecond hlater
          exact ⟨bin :: bins, rfl, by rw [List.map_cons, hpart, hbins]⟩

end Boundaries

end Packing
