/-
**Passing through a stage.**

A log of what something was over time has the latest entry first.  Something that only moves on to
later stages reaches each stage once and leaves it once.  A token that a step may only name while it
is not spent, and that it spends, is named once along a run.

Main definitions:

* `Transition.arrivals`, `Transition.departures` — how often a condition began and ended to hold.

Main results:

* `Transition.arrivals_le_one`, `Transition.departures_le_one` — **a stage is reached and left
  once**;
* `Transition.Machine.Run.spent_once` — **a token is spent once**.
-/

import HoptalkRelay.Transition.Run
import Mathlib.Data.List.Basic
import Mathlib.Order.Lattice

set_option relaxedAutoImplicit false
set_option autoImplicit false

namespace Transition

variable {α : Type}

/-- How often the condition began to hold. -/
def arrivals (p : α → Bool) : List α → ℕ
  | newer :: older :: log =>
      (if p newer && !p older then 1 else 0) + arrivals p (older :: log)
  | [first] => if p first then 1 else 0
  | [] => 0

/-- How often the condition ceased to hold. -/
def departures (p : α → Bool) : List α → ℕ
  | newer :: older :: log =>
      (if p older && !p newer then 1 else 0) + departures p (older :: log)
  | _ => 0

section Stages

variable {β : Type} [LinearOrder β] (stage : α → β) (c : β) {p : α → Bool} {log : List α}

/-- Nothing arrived at a stage that is still ahead. -/
theorem arrivals_eq_zero (hp : ∀ x ∈ log, p x = true ↔ stage x = c)
    (hbefore : ∀ x ∈ log, stage x < c) : arrivals p log = 0 := by
  have hnot : ∀ x ∈ log, p x = false := fun x hx => by
    rw [← Bool.not_eq_true, hp x hx]
    exact (hbefore x hx).ne
  clear hp hbefore
  induction log with
  | nil => rfl
  | cons x log ih =>
      have hx := hnot x List.mem_cons_self
      cases log with
      | nil => simp [arrivals, hx]
      | cons y log =>
          have hrest := ih fun z hz => hnot z (List.mem_cons_of_mem x hz)
          simp [arrivals, hx, hrest]

/-- **A stage is reached once.** -/
theorem arrivals_le_one (hp : ∀ x ∈ log, p x = true ↔ stage x = c)
    (hlater : log.Pairwise fun newer older => stage older ≤ stage newer) :
    arrivals p log ≤ 1 := by
  induction log with
  | nil => simp [arrivals]
  | cons x log ih =>
      have hrest := ih (fun z hz => hp z (List.mem_cons_of_mem x hz)) (List.pairwise_cons.1 hlater).2
      cases log with
      | nil =>
          unfold arrivals
          split <;> simp
      | cons y log =>
          unfold arrivals
          split
          · next harrived =>
              simp only [Bool.and_eq_true, Bool.not_eq_true'] at harrived
              have hx := (hp x List.mem_cons_self).1 harrived.1
              have hle := (List.pairwise_cons.1 hlater).1 y List.mem_cons_self
              have hne : stage y ≠ c := fun h => by
                rw [(hp y (by simp)).2 h] at harrived
                exact absurd harrived.2 (by simp)
              have hlt : stage y < c := lt_of_le_of_ne (hx ▸ hle) hne
              rw [arrivals_eq_zero stage c (fun z hz => hp z (List.mem_cons_of_mem x hz)) ?_]
              intro z hz
              rcases List.mem_cons.1 hz with rfl | hz'
              · exact hlt
              · have hordered := (List.pairwise_cons.1 hlater).2
                exact ((List.pairwise_cons.1 hordered).1 z hz').trans_lt hlt
          · simpa using hrest

/-- Nothing left a stage that is not behind yet. -/
theorem departures_eq_zero (hp : ∀ x ∈ log, p x = true ↔ stage x = c)
    (hlater : log.Pairwise fun newer older => stage older ≤ stage newer)
    (hreached : ∀ x ∈ log, stage x ≤ c) : departures p log = 0 := by
  induction log with
  | nil => rfl
  | cons x log ih =>
      have hrest := ih (fun z hz => hp z (List.mem_cons_of_mem x hz))
        (List.pairwise_cons.1 hlater).2 fun z hz => hreached z (List.mem_cons_of_mem x hz)
      cases log with
      | nil => rfl
      | cons y log =>
          have hle := (List.pairwise_cons.1 hlater).1 y List.mem_cons_self
          have hstays : p y = true → p x = true := fun hy => by
            rw [hp y (by simp)] at hy
            rw [hp x List.mem_cons_self]
            exact le_antisymm (hreached x List.mem_cons_self) (hy ▸ hle)
          unfold departures
          rw [hrest, if_neg]
          intro hleft
          simp only [Bool.and_eq_true, Bool.not_eq_true'] at hleft
          rw [hstays hleft.1] at hleft
          exact absurd hleft.2 (by simp)

/-- **A stage is left once.** -/
theorem departures_le_one (hp : ∀ x ∈ log, p x = true ↔ stage x = c)
    (hlater : log.Pairwise fun newer older => stage older ≤ stage newer) :
    departures p log ≤ 1 := by
  induction log with
  | nil => simp [departures]
  | cons x log ih =>
      have hordered := (List.pairwise_cons.1 hlater).2
      have hrest := ih (fun z hz => hp z (List.mem_cons_of_mem x hz)) hordered
      cases log with
      | nil => simp [departures]
      | cons y log =>
          unfold departures
          split
          · next hleft =>
              simp only [Bool.and_eq_true] at hleft
              have hy := (hp y (by simp)).1 hleft.1
              rw [departures_eq_zero stage c (fun z hz => hp z (List.mem_cons_of_mem x hz)) hordered ?_]
              intro z hz
              rcases List.mem_cons.1 hz with rfl | hz'
              · exact hy.le
              · exact hy ▸ (List.pairwise_cons.1 hordered).1 z hz'
          · simpa using hrest

end Stages

/-! ### A token that is spent -/

section Tokens

variable {σ ι ο κ : Type} {M : Machine σ ι ο} {s t : σ} {h : List (ι × ο)} {P : σ → Prop}
  {spent : σ → κ → Prop} {names : ο → Option κ}

/-- **A token is spent once.**  The tokens a run names were not spent at its start and are at its
end. -/
theorem Machine.Run.spent_once (run : M.Run s h t) (hs : P s)
    (hP : ∀ u i, P u → P (M.step u i).1)
    (hkeep : ∀ u i k, P u → spent u k → spent (M.step u i).1 k)
    (hspend : ∀ u i k, P u → names (M.step u i).2 = some k →
      ¬ spent u k ∧ spent (M.step u i).1 k) :
    (h.filterMap fun p => names p.2).Nodup ∧
      ∀ k ∈ h.filterMap fun p => names p.2, ¬ spent s k ∧ spent t k := by
  have hall : P t ∧ (∀ k, spent s k → spent t k) ∧ (h.filterMap fun p => names p.2).Nodup ∧
      ∀ k ∈ h.filterMap fun p => names p.2, ¬ spent s k ∧ spent t k := by
    refine run.invariant (P := fun h u => P u ∧ (∀ k, spent s k → spent u k) ∧
      (h.filterMap fun p => names p.2).Nodup ∧
        ∀ k ∈ h.filterMap fun p => names p.2, ¬ spent s k ∧ spent u k)
      ⟨hs, fun _ hk => hk, List.nodup_nil, by simp⟩
      fun h₁ u i _ _ ⟨hu, hbefore, hnodup, hnamed⟩ => ?_
    have hmono : ∀ k, spent s k → spent (M.step u i).1 k :=
      fun k hk => hkeep u i k hu (hbefore k hk)
    refine ⟨hP u i hu, hmono, ?_, fun k hk => ?_⟩
    · rw [List.filterMap_append]
      refine List.nodup_append.2 ⟨hnodup, ?_, fun k hk k' hnew heq => ?_⟩
      · cases hi : names (M.step u i).2 <;> simp [hi]
      subst heq
      obtain ⟨hnot, -⟩ := hspend u i k hu (by simpa using hnew)
      exact hnot (hnamed k hk).2
    · rw [List.filterMap_append] at hk
      rcases List.mem_append.1 hk with hk | hnew
      · exact ⟨(hnamed k hk).1, hkeep u i k hu (hnamed k hk).2⟩
      · obtain ⟨hnot, hspent⟩ := hspend u i k hu (by simpa using hnew)
        exact ⟨fun hk => hnot (hbefore k hk), hspent⟩
  exact hall.2.2

end Tokens

end Transition
