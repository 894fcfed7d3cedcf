/-
**Bounded repetition.**

The repetition of a grammar, as an inductive derivation: between `lo` and `hi` letters in a row,
each one an element.  What is derived is described by its length and its letters.

Main definitions:

* `Formats.Repetition` — `lo*hi element`;
* `Formats.Star` — `*element`.

Main results:

* `Formats.repetition_iff`, `Formats.star_iff` — what is derived.
-/

import Mathlib.Data.List.Basic

set_option relaxedAutoImplicit false
set_option autoImplicit false

namespace Formats

variable {α : Type}

/-- Between `lo` and `hi` elements in a row. -/
inductive Repetition (element : α → Prop) : ℕ → ℕ → List α → Prop
  | nil {hi : ℕ} : Repetition element 0 hi []
  | cons {lo hi : ℕ} {c : α} {cs : List α} (hc : element c)
      (hcs : Repetition element (lo - 1) hi cs) : Repetition element lo (hi + 1) (c :: cs)

/-- Any number of elements in a row. -/
inductive Star (element : α → Prop) : List α → Prop
  | nil : Star element []
  | cons {c : α} {cs : List α} (hc : element c) (hcs : Star element cs) : Star element (c :: cs)

/-- **A repetition is described by its length and its letters.** -/
theorem repetition_iff {element : α → Prop} {lo hi : ℕ} {text : List α} :
    Repetition element lo hi text ↔
      lo ≤ text.length ∧ text.length ≤ hi ∧ ∀ c ∈ text, element c := by
  constructor
  · intro h
    induction h with
    | nil => simp
    | cons hc _ ih =>
        obtain ⟨hlo, hhi, hall⟩ := ih
        refine ⟨by rw [List.length_cons]; omega, by rw [List.length_cons]; omega, ?_⟩
        exact List.forall_mem_cons.mpr ⟨hc, hall⟩
  · rintro ⟨hlo, hhi, hall⟩
    induction text generalizing lo hi with
    | nil =>
        have hzero : lo = 0 := by simpa using hlo
        rw [hzero]
        exact Repetition.nil
    | cons c text ih =>
        obtain ⟨hc, hrest⟩ := List.forall_mem_cons.mp hall
        rw [List.length_cons] at hlo hhi
        cases hi with
        | zero => omega
        | succ hi => exact Repetition.cons hc (ih (by omega) (by omega) hrest)

/-- Any number of letters, each one an element. -/
theorem star_iff {element : α → Prop} {text : List α} :
    Star element text ↔ ∀ c ∈ text, element c := by
  constructor
  · intro h
    induction h with
    | nil => simp
    | cons hc _ ih => exact List.forall_mem_cons.mpr ⟨hc, ih⟩
  · intro hall
    induction text with
    | nil => exact Star.nil
    | cons c text ih =>
        obtain ⟨hc, hrest⟩ := List.forall_mem_cons.mp hall
        exact Star.cons hc (ih hrest)

end Formats
