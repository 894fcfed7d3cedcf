/-
**A counter of failures with a window.**

The first failure starts a window of a fixed length.  While the counter is at its limit an attempt
is refused unseen; an attempt after the window's end starts the count again from zero; a success
clears it.  A window counts at most `limit` failures, but it starts at a failure, so a stretch of
time as long as a window can see the end of one window and the start of the next: up to
`2 * limit - 1` failures, and no more.

Main definitions:

* `Throttling.FailureCount` — the counter;
* `Throttling.Attempt`, `Throttling.Attempts` — one attempt, and a sequence of them with the clock
  readings and how they ended.

Main results:

* `Throttling.Attempts.isSound` — the counter never passes its limit;
* `Throttling.Attempts.of_open` — what an open window counts;
* `Throttling.Attempts.countP_counted_lt`, `Throttling.Attempts.countP_counted_le` — **the failures
  of one window length** without a success.
-/

import Mathlib.Algebra.Order.Monoid.Unbundled.Basic
import Mathlib.Data.List.Basic

set_option relaxedAutoImplicit false
set_option autoImplicit false

namespace Throttling

/-- The failures counted in the window, and when it started. -/
structure FailureCount (τ : Type) where
  count : ℕ
  startedAt : Option τ
  deriving DecidableEq

namespace FailureCount

variable {τ : Type}

/-- Nothing is counted. -/
@[simps]
def cleared : FailureCount τ := ⟨0, none⟩

/-- One more failure; the first one starts the window. -/
@[simps]
def failed (s : FailureCount τ) (now : τ) : FailureCount τ :=
  ⟨s.count + 1, s.startedAt.or (some now)⟩

/-- A window is open exactly while something is counted, and never counts more than the limit. -/
structure IsSound (limit : ℕ) (s : FailureCount τ) : Prop where
  isSome_iff : s.startedAt.isSome ↔ 0 < s.count
  count_le : s.count ≤ limit

theorem IsSound.cleared (limit : ℕ) : (cleared : FailureCount τ).IsSound limit :=
  ⟨by simp, Nat.zero_le limit⟩

variable [LinearOrder τ] [Add τ]

/-- The window is over. -/
def isOver (window : τ) (s : FailureCount τ) (now : τ) : Bool :=
  s.startedAt.any fun startedAt => startedAt + window ≤ now

/-- A window that is over is ended. -/
def checked (window : τ) (s : FailureCount τ) (now : τ) : FailureCount τ :=
  if s.isOver window now then FailureCount.cleared else s

end FailureCount

open FailureCount

/-- How an attempt ends. -/
inductive Ending
  | refused
  | counted
  | succeeded
  deriving DecidableEq

variable {τ : Type} [LinearOrder τ] [Add τ]

/-- One attempt: it is refused unseen, fails and is counted, or succeeds. -/
inductive Attempt (limit : ℕ) (window : τ) (s : FailureCount τ) (now : τ) :
    FailureCount τ → Ending → Prop
  | refused : Attempt limit window s now s .refused
  | counted (hcount : (s.checked window now).count < limit) :
      Attempt limit window s now ((s.checked window now).failed now) .counted
  | succeeded : Attempt limit window s now cleared .succeeded

/-- Attempts one after the other. -/
inductive Attempts (limit : ℕ) (window : τ) (s : FailureCount τ) :
    List (τ × Ending) → FailureCount τ → Prop
  | nil : Attempts limit window s [] s
  | snoc {h : List (τ × Ending)} {t u : FailureCount τ} {now : τ} {ending : Ending}
      (attempts : Attempts limit window s h t) (attempt : Attempt limit window t now u ending) :
      Attempts limit window s (h ++ [(now, ending)]) u

variable {limit : ℕ} {window : τ} {s t : FailureCount τ}

/-- One attempt keeps the counter within its limit. -/
theorem Attempt.isSound {now : τ} {ending : Ending} (h : Attempt limit window s now t ending)
    (hs : s.IsSound limit) : t.IsSound limit := by
  cases h with
  | refused => exact hs
  | counted hcount =>
      refine ⟨?_, hcount⟩
      cases hstarted : (s.checked window now).startedAt <;> simp [hstarted]
  | succeeded => exact .cleared limit

/-- **The counter never passes its limit.** -/
theorem Attempts.isSound {h : List (τ × Ending)} (attempts : Attempts limit window s h t)
    (hs : s.IsSound limit) : t.IsSound limit := by
  induction attempts with
  | nil => exact hs
  | snoc _ attempt ih => exact attempt.isSound ih

/-- **Until its end a window counts every failure** since the one that started it. -/
theorem Attempts.of_open {h : List (τ × Ending)} {startedAt : τ}
    (attempts : Attempts limit window s h t) (hstarted : s.startedAt = some startedAt)
    (hspan : ∀ entry ∈ h, entry.1 < startedAt + window)
    (hfailed : ∀ entry ∈ h, entry.2 ≠ .succeeded) :
    t = ⟨s.count + h.countP (fun entry => entry.2 = .counted), some startedAt⟩ := by
  induction attempts with
  | nil =>
      rw [List.countP_nil, Nat.add_zero, ← hstarted]
  | @snoc h t u now ending _ attempt ih =>
      have hold := ih (fun entry he => hspan entry (List.mem_append_left _ he))
        fun entry he => hfailed entry (List.mem_append_left _ he)
      have hnow := hspan (now, ending) (by simp)
      have hending := hfailed (now, ending) (by simp)
      rw [List.countP_append, List.countP_singleton]
      cases attempt with
      | refused => simpa using hold
      | succeeded => exact absurd rfl hending
      | counted =>
          have hopen : t.checked window now = t := by
            refine if_neg ?_
            rw [isOver, hold, Option.any_some, decide_eq_true_eq]
            exact not_le.mpr hnow
          rw [hopen, hold]
          simp [failed, Nat.add_assoc]

/-- At its end a window counts nothing. -/
theorem FailureCount.checked_of_over {startedAt now : τ} (hstarted : s.startedAt = some startedAt)
    (hnow : startedAt + window ≤ now) : s.checked window now = cleared := by
  refine if_pos ?_
  rw [isOver, hstarted, Option.any_some]
  exact decide_eq_true hnow

/-! ### The failures of one window length -/

/-- What `n` failures since `start` left: nothing; more failures of a window that was open before;
or a window that started since, after what was left of the one before.  In a stretch that is fresh
no window was open before. -/
inductive CountedSince (limit : ℕ) (start : τ) (isFresh : Prop) (n : ℕ) : FailureCount τ → Prop
  | nothing (hn : n = 0) : CountedSince limit start isFresh n cleared
  | before {s : FailureCount τ} {startedAt : τ} (hstarted : s.startedAt = some startedAt)
      (hstale : ¬ isFresh) (hn : n < s.count) (hcount : s.count ≤ limit) :
      CountedSince limit start isFresh n s
  | since {s : FailureCount τ} {startedAt : τ} (hstarted : s.startedAt = some startedAt)
      (hafter : start ≤ startedAt) (hfresh : isFresh → n ≤ s.count)
      (hn : n < limit + s.count) (hcount : s.count ≤ limit) :
      CountedSince limit start isFresh n s

omit [Add τ] in
/-- A sound counter at the start of the stretch. -/
theorem CountedSince.of_isSound (hs : s.IsSound limit) (start : τ) :
    CountedSince limit start (s.count = 0) 0 s := by
  obtain ⟨count, startedAt⟩ := s
  obtain ⟨hsome, hcount⟩ := hs
  cases startedAt with
  | none =>
      obtain rfl : count = 0 := by simpa using hsome
      exact .nothing rfl
  | some startedAt =>
      have hpos : 0 < count := by simpa using hsome
      exact .before rfl hpos.ne' hpos hcount

/-- One more attempt of the stretch. -/
theorem CountedSince.attempt [AddRightMono τ] {start now : τ} {isFresh : Prop} {n : ℕ}
    {ending : Ending} (h : CountedSince limit start isFresh n s)
    (attempt : Attempt limit window s now t ending) (hstart : start ≤ now)
    (hend : now < start + window) (hending : ending ≠ .succeeded) :
    CountedSince limit start isFresh (n + if ending = .counted then 1 else 0) t := by
  cases attempt with
  | refused => exact h
  | succeeded => exact absurd rfl hending
  | counted hcount =>
      rw [if_pos rfl]
      unfold checked at hcount ⊢
      split at hcount
      · next hover =>
          -- a window that is over started before the stretch
          rw [if_pos hover]
          rw [cleared_count] at hcount
          cases h with
          | nothing => simp [isOver] at hover
          | before hstarted hstale hn hle =>
              refine .since rfl hstart (fun hfresh => absurd hfresh hstale) ?_ hcount
              rw [failed_count, cleared_count]
              omega
          | since hstarted hafter hfresh hn hle =>
              rw [isOver, hstarted, Option.any_some, decide_eq_true_eq] at hover
              exact absurd (hover.trans_lt hend) (not_lt.2 (by gcongr))
      · next hopen =>
          rw [if_neg hopen]
          cases h with
          | nothing hn =>
              subst hn
              refine .since rfl hstart (fun _ => le_rfl) ?_ hcount
              simp only [failed_count, cleared_count] at hcount ⊢
              omega
          | before hstarted hstale hn hle =>
              refine .before (by rw [failed_startedAt, hstarted, Option.some_or]) hstale ?_ hcount
              rw [failed_count]
              omega
          | since hstarted hafter hfresh hn hle =>
              refine .since (by rw [failed_startedAt, hstarted, Option.some_or]) hafter
                (fun h => ?_) ?_ hcount
              · rw [failed_count]
                exact Nat.succ_le_succ (hfresh h)
              · rw [failed_count]
                omega

/-- The failures of a stretch, and what they left. -/
theorem Attempts.countedSince [AddRightMono τ] {h : List (τ × Ending)} {start : τ}
    (attempts : Attempts limit window s h t) (hs : s.IsSound limit)
    (hspan : ∀ entry ∈ h, start ≤ entry.1 ∧ entry.1 < start + window)
    (hfailed : ∀ entry ∈ h, entry.2 ≠ .succeeded) :
    CountedSince limit start (s.count = 0) (h.countP fun entry => entry.2 = .counted) t := by
  induction attempts with
  | nil => exact .of_isSound hs start
  | @snoc h t u now ending _ attempt ih =>
      have hold := ih (fun entry he => hspan entry (List.mem_append_left _ he))
        fun entry he => hfailed entry (List.mem_append_left _ he)
      obtain ⟨hstart, hend⟩ := hspan (now, ending) (by simp)
      have hnew := hold.attempt attempt hstart hend (hfailed (now, ending) (by simp))
      rw [List.countP_append, List.countP_singleton]
      simpa using hnew

/-- **In one window length** without a success fewer than two limits are counted. -/
theorem Attempts.countP_counted_lt [AddRightMono τ] {h : List (τ × Ending)} {start : τ}
    (attempts : Attempts limit window s h t) (hs : s.IsSound limit) (hlimit : 0 < limit)
    (hspan : ∀ entry ∈ h, start ≤ entry.1 ∧ entry.1 < start + window)
    (hfailed : ∀ entry ∈ h, entry.2 ≠ .succeeded) :
    h.countP (fun entry => entry.2 = .counted) < 2 * limit := by
  cases attempts.countedSince hs hspan hfailed with
  | nothing hn => omega
  | before _ _ hn hcount => omega
  | since _ _ _ hn hcount => omega

/-- From a counter that counts nothing at most one limit is counted. -/
theorem Attempts.countP_counted_le [AddRightMono τ] {h : List (τ × Ending)} {start : τ}
    (attempts : Attempts limit window s h t) (hs : s.IsSound limit) (hfresh : s.count = 0)
    (hspan : ∀ entry ∈ h, start ≤ entry.1 ∧ entry.1 < start + window)
    (hfailed : ∀ entry ∈ h, entry.2 ≠ .succeeded) :
    h.countP (fun entry => entry.2 = .counted) ≤ limit := by
  cases attempts.countedSince hs hspan hfailed with
  | nothing hn => omega
  | before _ hstale => exact absurd hfresh hstale
  | since _ _ hn _ hcount => exact (hn hfresh).trans hcount

end Throttling
