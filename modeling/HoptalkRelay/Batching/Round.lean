/-
**Rounds of work over a finite set.**

A round starts with the elements that are missing.  Elements are taken one after the other; the
element in hand is settled, or it is put back by taking another one, and elements may be withdrawn
at any time.  An orderly round takes the least element that is left each time and settles only the
element in hand.  The log of a round has the latest incident first.

Main definitions:

* `Batching.Incident` — what happens in a round;
* `Batching.left`, `Batching.inHand` — what is left of a round, and what is worked on;
* `Batching.Orderly` — the log of an orderly round.

Main results:

* `Batching.mem_left_iff` — an element is left until it is settled or withdrawn;
* `Batching.Orderly.sorted` — **an orderly round takes its elements in ascending order**;
* `Batching.Orderly.nodup_settled` — **and settles each of them once**.
-/

import Mathlib.Data.Finset.Erase
import Mathlib.Data.Finset.SDiff
import Mathlib.Tactic.Tauto
import Mathlib.Order.Bounds.Basic

set_option relaxedAutoImplicit false
set_option autoImplicit false

namespace Batching

/-- What happens in a round. -/
inductive Incident (α : Type)
  /-- The element is worked on. -/
  | taken (element : α)
  /-- The element that was worked on is done. -/
  | settled (element : α)
  /-- These elements need no more work. -/
  | withdrawn (elements : Finset α)
  deriving DecidableEq

variable {α : Type}

/-- The elements that were taken, the latest first. -/
def takenElements : List (Incident α) → List α
  | [] => []
  | .taken a :: log => a :: takenElements log
  | _ :: log => takenElements log

/-- The elements that were settled, the latest first. -/
def settledElements : List (Incident α) → List α
  | [] => []
  | .settled a :: log => a :: settledElements log
  | _ :: log => settledElements log

/-- The element that was taken last, until it is settled. -/
def inHand : List (Incident α) → Option α
  | [] => none
  | .taken a :: _ => some a
  | .settled _ :: _ => none
  | .withdrawn _ :: log => inHand log

/-- What is left of a round that started with these elements. -/
def left [DecidableEq α] (missing : Finset α) : List (Incident α) → Finset α
  | [] => missing
  | .taken _ :: log => left missing log
  | .settled a :: log => (left missing log).erase a
  | .withdrawn s :: log => left missing log \ s

/-- The element was withdrawn. -/
def IsWithdrawn (log : List (Incident α)) (a : α) : Prop :=
  ∃ s, Incident.withdrawn s ∈ log ∧ a ∈ s

section Elements

variable {log : List (Incident α)} {a : α}

theorem settled_mem_iff : Incident.settled a ∈ log ↔ a ∈ settledElements log := by
  induction log with
  | nil => simp [settledElements]
  | cons incident log ih => cases incident <;> simp [settledElements, ih]

theorem taken_mem_iff : Incident.taken a ∈ log ↔ a ∈ takenElements log := by
  induction log with
  | nil => simp [takenElements]
  | cons incident log ih => cases incident <;> simp [takenElements, ih]

end Elements

section Left

variable [DecidableEq α] {missing : Finset α} {log : List (Incident α)} {a b : α}

@[simp] theorem left_nil : left missing [] = missing := rfl

@[simp] theorem left_taken : left missing (.taken a :: log) = left missing log := rfl

@[simp] theorem left_settled : left missing (.settled a :: log) = (left missing log).erase a := rfl

@[simp] theorem left_withdrawn (s : Finset α) :
    left missing (.withdrawn s :: log) = left missing log \ s := rfl

/-- **An element is left** until it is settled or withdrawn. -/
theorem mem_left_iff :
    a ∈ left missing log ↔ a ∈ missing ∧ a ∉ settledElements log ∧ ¬ IsWithdrawn log a := by
  induction log with
  | nil => simp [settledElements, IsWithdrawn]
  | cons incident log ih =>
      cases incident with
      | taken b => simpa [settledElements, IsWithdrawn] using ih
      | settled b =>
          simp only [left_settled, Finset.mem_erase, ih, settledElements, IsWithdrawn,
            List.mem_cons, not_or, reduceCtorEq, false_or]
          tauto
      | withdrawn s =>
          simp only [left_withdrawn, Finset.mem_sdiff, ih, settledElements, IsWithdrawn,
            List.mem_cons, Incident.withdrawn.injEq]
          constructor
          · rintro ⟨⟨hmissing, hsettled, hnot⟩, has⟩
            refine ⟨hmissing, hsettled, ?_⟩
            rintro ⟨t, rfl | ht, hat⟩
            · exact has hat
            · exact hnot ⟨t, ht, hat⟩
          · rintro ⟨hmissing, hsettled, hnot⟩
            refine ⟨⟨hmissing, hsettled, ?_⟩, fun has => hnot ⟨s, Or.inl rfl, has⟩⟩
            rintro ⟨t, ht, hat⟩
            exact hnot ⟨t, Or.inr ht, hat⟩

theorem left_subset : left missing log ⊆ missing := fun _ h => (mem_left_iff.1 h).1

/-- One incident more leaves no more than before. -/
theorem left_cons_subset (incident : Incident α) :
    left missing (incident :: log) ⊆ left missing log := by
  cases incident with
  | taken b => exact subset_rfl
  | settled b => exact Finset.erase_subset _ _
  | withdrawn s => exact Finset.sdiff_subset

/-- **A round with nothing left** settled or withdrew every element. -/
theorem left_eq_empty_iff :
    left missing log = ∅ ↔ ∀ a ∈ missing, a ∈ settledElements log ∨ IsWithdrawn log a := by
  rw [Finset.eq_empty_iff_forall_notMem]
  constructor
  · intro h a ha
    by_contra hneither
    rw [not_or] at hneither
    exact h a (mem_left_iff.2 ⟨ha, hneither⟩)
  · intro h a ha
    obtain ⟨hmissing, hsettled, hwithdrawn⟩ := mem_left_iff.1 ha
    exact (h a hmissing).elim hsettled hwithdrawn

end Left

/-! ### Orderly rounds -/

section Orderly

variable [LinearOrder α]

/-- The least element that is left is taken each time, and only the element in hand is settled. -/
def Orderly (missing : Finset α) : List (Incident α) → Prop
  | [] => True
  | .taken a :: log => Orderly missing log ∧ IsLeast (left missing log : Set α) a
  | .settled a :: log => Orderly missing log ∧ inHand log = some a
  | .withdrawn _ :: log => Orderly missing log

variable {missing : Finset α} {log : List (Incident α)} {a b : α}

namespace Orderly

theorem tail {incident : Incident α} (h : Orderly missing (incident :: log)) :
    Orderly missing log := by
  cases incident with
  | taken a => exact h.1
  | settled a => exact h.1
  | withdrawn s => exact h

/-- A part of the log of an orderly round, up to some moment, is that of an orderly round. -/
theorem of_append {later : List (Incident α)} (h : Orderly missing (later ++ log)) :
    Orderly missing log := by
  induction later with
  | nil => exact h
  | cons incident later ih => exact ih h.tail

/-- **Each element was the least one left** when it was taken. -/
theorem isLeast {later : List (Incident α)} (h : Orderly missing (later ++ .taken a :: log)) :
    IsLeast (left missing log : Set α) a :=
  (of_append h).2

theorem mem_missing (h : Orderly missing log) (ha : a ∈ takenElements log) : a ∈ missing := by
  induction log with
  | nil => simp [takenElements] at ha
  | cons incident log ih =>
      cases incident with
      | taken b =>
          rcases List.mem_cons.1 ha with rfl | ha
          · exact left_subset h.2.1
          · exact ih h.1 ha
      | settled b => exact ih h.1 ha
      | withdrawn s => exact ih h ha

/-- What is left comes after what was taken. -/
theorem le_of_mem_left (h : Orderly missing log) (ha : a ∈ takenElements log)
    (hb : b ∈ left missing log) : a ≤ b := by
  induction log with
  | nil => simp [takenElements] at ha
  | cons incident log ih =>
      have hb' : b ∈ left missing log := left_cons_subset incident hb
      cases incident with
      | taken c =>
          rcases List.mem_cons.1 ha with rfl | ha
          · exact h.2.2 hb'
          · exact ih h.1 ha hb'
      | settled c => exact ih h.1 ha hb'
      | withdrawn s => exact ih h ha hb'

/-- **An orderly round takes its elements in ascending order.** -/
theorem sorted (h : Orderly missing log) : (takenElements log).Pairwise (· ≥ ·) := by
  induction log with
  | nil => exact .nil
  | cons incident log ih =>
      cases incident with
      | taken a => exact .cons (fun b hb => le_of_mem_left h.1 hb h.2.1) (ih h.1)
      | settled a => exact ih h.1
      | withdrawn s => exact ih h

/-- The element in hand was taken, and is not settled yet. -/
theorem of_inHand (h : Orderly missing log) (ha : inHand log = some a) :
    a ∈ takenElements log ∧ a ∉ settledElements log := by
  induction log with
  | nil => simp [inHand] at ha
  | cons incident log ih =>
      cases incident with
      | taken b =>
          obtain rfl := Option.some.inj ha
          exact ⟨List.mem_cons_self, (mem_left_iff.1 h.2.1).2.1⟩
      | settled b => simp [inHand] at ha
      | withdrawn s => exact ih h ha

/-- **An orderly round settles each element once.** -/
theorem nodup_settled (h : Orderly missing log) : (settledElements log).Nodup := by
  induction log with
  | nil => exact .nil
  | cons incident log ih =>
      cases incident with
      | taken a => exact ih h.1
      | settled a => exact .cons (h.1.of_inHand h.2).2 (ih h.1)
      | withdrawn s => exact ih h

/-- What is settled was taken before. -/
theorem settled_subset (h : Orderly missing log) : settledElements log ⊆ takenElements log := by
  induction log with
  | nil => exact List.Subset.refl _
  | cons incident log ih =>
      cases incident with
      | taken a => exact fun b hb => List.mem_cons_of_mem _ (ih h.1 hb)
      | settled a =>
          intro b hb
          rcases List.mem_cons.1 hb with rfl | hb
          · exact (h.1.of_inHand h.2).1
          · exact ih h.1 hb
      | withdrawn s => exact ih h

end Orderly

end Orderly

end Batching
