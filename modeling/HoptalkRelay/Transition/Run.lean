/-
**Runs of a deterministic machine.**

A machine takes one input at a time, changes its state and gives an output.  A run is recorded as
the list of its inputs with the outputs they were given, in the order they happened, so a property
of a run can speak about what was asked, what was answered and where the machine ended up.

Main definitions:

* `Transition.Machine`, `Transition.Machine.Run` — a machine, and its runs with their histories;
* `Transition.Machine.Run.Always` — what holds of every input of a history;
* `Transition.Machine.exec` — the run of a list of inputs;
* `Transition.Machine.instrument` — the machine with a history variable beside its state.

Main results:

* `Transition.Machine.Run.append`, `Transition.Machine.Run.split` — runs compose, and a run can be
  cut anywhere;
* `Transition.Machine.Run.invariant` — what holds at the start and is kept by every step holds;
* `Transition.Machine.Run.invariantTowards` — the same, in view of how the run ends;
* `Transition.Machine.Run.since` — what holds at the end and not at the start came to hold with an
  input, and held ever since;
* `Transition.Machine.Run.rel` — what every step relates, a run relates;
* `Transition.Machine.Run.always_snoc` — the inputs of a history, one after the other;
* `Transition.Machine.Run.instrument` — a history variable can be added to any run.
-/

import Mathlib.Data.List.Basic
import Mathlib.Logic.Relation

set_option relaxedAutoImplicit false
set_option autoImplicit false

namespace Transition

/-- A deterministic machine: its initial state, and what an input does to a state. -/
structure Machine (σ ι ο : Type) where
  init : σ
  step : σ → ι → σ × ο

namespace Machine

variable {σ ι ο : Type} (M : Machine σ ι ο)

/-- `M.Run s h t`: from `s` the machine took the inputs of `h`, gave the outputs of `h` and ended
in `t`. -/
inductive Run (s : σ) : List (ι × ο) → σ → Prop
  | nil : Run s [] s
  | snoc {h : List (ι × ο)} {t : σ} (run : Run s h t) (i : ι) :
      Run s (h ++ [(i, (M.step t i).2)]) (M.step t i).1

/-- A state some run from the initial state ends in. -/
def Reachable (s : σ) : Prop := ∃ h, M.Run M.init h s

variable {M}

namespace Run

variable {s t u : σ} {h h' : List (ι × ο)}

/-- One step is a run. -/
theorem single (s : σ) (i : ι) : M.Run s [(i, (M.step s i).2)] (M.step s i).1 :=
  Run.snoc Run.nil i

theorem append (run : M.Run s h t) (run' : M.Run t h' u) : M.Run s (h ++ h') u := by
  induction run' with
  | nil => simpa using run
  | snoc _ i ih =>
      rw [← List.append_assoc]
      exact ih.snoc i

/-- The run without steps stays where it is. -/
theorem nil_inv (run : M.Run s [] u) : u = s := by
  generalize hh : ([] : List (ι × ο)) = full at run
  cases run with
  | nil => rfl
  | snoc => simp at hh

/-- A run from the front: its first step, and the run after it. -/
theorem cons_inv {i : ι} {o : ο} (run : M.Run s ((i, o) :: h) u) :
    o = (M.step s i).2 ∧ M.Run (M.step s i).1 h u := by
  generalize hh : (i, o) :: h = full at run
  induction run generalizing h with
  | nil => simp at hh
  | @snoc h₁ t run j ih =>
      cases h₁ with
      | nil =>
          obtain rfl := nil_inv run
          simp only [List.nil_append, List.cons.injEq, Prod.mk.injEq] at hh
          obtain ⟨⟨rfl, ho⟩, rfl⟩ := hh
          exact ⟨ho, Run.nil⟩
      | cons p h₁ =>
          simp only [List.cons_append, List.cons.injEq] at hh
          obtain ⟨rfl, rfl⟩ := hh
          obtain ⟨ho, hrun⟩ := ih rfl
          exact ⟨ho, hrun.snoc j⟩

/-- A run can be cut anywhere. -/
theorem split (run : M.Run s (h ++ h') u) : ∃ t, M.Run s h t ∧ M.Run t h' u := by
  induction h generalizing s with
  | nil => exact ⟨s, Run.nil, run⟩
  | cons p h ih =>
      obtain ⟨i, o⟩ := p
      obtain ⟨rfl, hrun⟩ := cons_inv run
      obtain ⟨t, h₁, h₂⟩ := ih hrun
      exact ⟨t, (single s i).append h₁, h₂⟩

/-- Every step of a run was taken in a state the run passed through. -/
theorem step_of_mem {i : ι} {o : ο} (run : M.Run s h u) (hmem : (i, o) ∈ h) :
    ∃ h₁ h₂ t, h = h₁ ++ (i, o) :: h₂ ∧ M.Run s h₁ t ∧ o = (M.step t i).2 ∧
      M.Run (M.step t i).1 h₂ u := by
  obtain ⟨h₁, h₂, rfl⟩ := List.append_of_mem hmem
  obtain ⟨t, hrun₁, hrun₂⟩ := run.split
  exact ⟨h₁, h₂, t, rfl, hrun₁, cons_inv hrun₂⟩

/-- **The invariant rule.**  What holds of the empty history and is kept by every step of the run
holds at its end. -/
theorem invariant {P : List (ι × ο) → σ → Prop} (run : M.Run s h t) (hnil : P [] s)
    (hstep : ∀ h₁ u i, M.Run s h₁ u → h₁ ++ [(i, (M.step u i).2)] <+: h → P h₁ u →
      P (h₁ ++ [(i, (M.step u i).2)]) (M.step u i).1) : P h t := by
  induction run with
  | nil => exact hnil
  | @snoc h₁ u run i ih =>
      refine hstep h₁ u i run (List.prefix_refl _) (ih fun h₂ v j hrun hpre hP => ?_)
      exact hstep h₂ v j hrun (hpre.trans (List.prefix_append _ _)) hP

/-- An invariant of the state alone: it holds at the start and every input keeps it. -/
theorem invariant' {P : σ → Prop} (run : M.Run s h t) (hs : P s)
    (hstep : ∀ u i, P u → P (M.step u i).1) : P t :=
  run.invariant (P := fun _ u => P u) hs fun _ u i _ _ hu => hstep u i hu

/-- An invariant of the state that is kept in view of the rest of the run. -/
theorem invariantTowards {P : σ → Prop} (run : M.Run s h t) (hs : P s)
    (hstep : ∀ u i h₂, (i, (M.step u i).2) ∈ h → M.Run (M.step u i).1 h₂ t → P u →
      P (M.step u i).1) : P t := by
  induction h generalizing s with
  | nil =>
      obtain rfl := run.nil_inv
      exact hs
  | cons p h ih =>
      obtain ⟨i, o⟩ := p
      obtain ⟨rfl, hrun⟩ := cons_inv run
      refine ih hrun (hstep s i h List.mem_cons_self hrun hs) fun u j h₂ hmem hrun' hu => ?_
      exact hstep u j h₂ (List.mem_cons_of_mem _ hmem) hrun' hu

/-- A property that the start lacks and the end has: the input it came with, and those that kept
it since. -/
theorem since {P : σ → Prop} {entered kept : ι × ο → Prop} (run : M.Run s h t) (hs : ¬ P s)
    (hentered : ∀ u i, ¬ P u → P (M.step u i).1 → entered (i, (M.step u i).2))
    (hkept : ∀ u i, P u → P (M.step u i).1 → kept (i, (M.step u i).2)) (ht : P t) :
    ∃ earlier p later, h = earlier ++ p :: later ∧ entered p ∧ ∀ q ∈ later, kept q := by
  induction run with
  | nil => exact absurd ht hs
  | @snoc h₁ u run i ih =>
      by_cases hu : P u
      · obtain ⟨earlier, p, later, rfl, hp, hlater⟩ := ih hu
        refine ⟨earlier, p, later ++ [(i, (M.step u i).2)], by simp, hp, fun q hq => ?_⟩
        rcases List.mem_append.1 hq with hq | hq
        · exact hlater q hq
        · rw [List.mem_singleton.1 hq]
          exact hkept u i hu ht
      · exact ⟨h₁, (i, (M.step u i).2), [], rfl, hentered u i hu ht, by simp⟩

/-- Every input of a history is one that `Q` allows in the state it was taken in. -/
def Always (M : Machine σ ι ο) (Q : σ → ι → Prop) (s : σ) : List (ι × ο) → Prop
  | [] => True
  | p :: h => Q s p.1 ∧ Always M Q (M.step s p.1).1 h

instance Always.decidable {Q : σ → ι → Prop} [∀ s i, Decidable (Q s i)] :
    ∀ (s : σ) (h : List (ι × ο)), Decidable (Always M Q s h)
  | _, [] => isTrue trivial
  | s, p :: h => @instDecidableAnd _ _ _ (Always.decidable (M.step s p.1).1 h)

/-- The inputs of a history that a run continues. -/
theorem always_snoc {Q : σ → ι → Prop} (run : M.Run s h t) (p : ι × ο) :
    Always M Q s (h ++ [p]) ↔ Always M Q s h ∧ Q t p.1 := by
  induction h generalizing s with
  | nil =>
      obtain rfl := run.nil_inv
      simp [Always]
  | cons q h ih =>
      obtain ⟨i, o⟩ := q
      rw [List.cons_append, Always, ih (cons_inv run).2, Always, and_assoc]

/-- A weaker condition holds of every input as well. -/
theorem Always.imp {Q R : σ → ι → Prop} (himp : ∀ u i, Q u i → R u i) :
    ∀ {s : σ} {h : List (ι × ο)}, Always M Q s h → Always M R s h
  | _, [], _ => trivial
  | _, _ :: _, ⟨hfirst, hrest⟩ => ⟨himp _ _ hfirst, Always.imp himp hrest⟩

/-- A relation that every step of a run establishes, and that composes, relates its ends. -/
theorem rel {R : σ → σ → Prop} (run : M.Run s h t) (hrefl : ∀ u, R u u)
    (htrans : ∀ u v w, R u v → R v w → R u w)
    (hstep : ∀ h₁ u i, M.Run s h₁ u → h₁ ++ [(i, (M.step u i).2)] <+: h → R u (M.step u i).1) :
    R s t :=
  run.invariant (P := fun _ u => R s u) (hrefl s) fun h₁ u i hrun hpre hu =>
    htrans _ _ _ hu (hstep h₁ u i hrun hpre)

end Run

variable (M)

/-! ### Running a list of inputs -/

/-- The history and the state after the machine took the inputs one after the other. -/
def exec (s : σ) (inputs : List ι) : List (ι × ο) × σ :=
  inputs.foldl
    (fun reached i =>
      match M.step reached.2 i with
      | (t, o) => (reached.1 ++ [(i, o)], t))
    ([], s)

/-- Every list of inputs gives a run. -/
theorem run_exec (s : σ) (inputs : List ι) :
    M.Run s (M.exec s inputs).1 (M.exec s inputs).2 := by
  unfold exec
  suffices h : ∀ (before : List (ι × ο)) (t : σ), M.Run s before t →
      M.Run s
        (inputs.foldl (fun reached i =>
          match M.step reached.2 i with
          | (t, o) => (reached.1 ++ [(i, o)], t)) (before, t)).1
        (inputs.foldl (fun reached i =>
          match M.step reached.2 i with
          | (t, o) => (reached.1 ++ [(i, o)], t)) (before, t)).2 from h [] s Run.nil
  intro before t run
  induction inputs generalizing before t with
  | nil => exact run
  | cons i inputs ih => exact ih _ _ (run.snoc i)

/-- The history of a list of inputs has these inputs. -/
theorem map_fst_exec (s : σ) (inputs : List ι) : (M.exec s inputs).1.map Prod.fst = inputs := by
  unfold exec
  suffices h : ∀ (before : List (ι × ο)) (t : σ),
      (inputs.foldl (fun reached i =>
        match M.step reached.2 i with
        | (t, o) => (reached.1 ++ [(i, o)], t)) (before, t)).1.map Prod.fst =
        before.map Prod.fst ++ inputs from h [] s
  intro before t
  induction inputs generalizing before t with
  | nil => simp
  | cons i inputs ih =>
      rw [List.foldl_cons, ih]
      simp

/-- **Two runs** whose inputs are related one by one end in the same state and give the same
outputs, when no state tells related inputs apart. -/
theorem exec_congr {R : ι → ι → Prop} (hstep : ∀ s i j, R i j → M.step s j = M.step s i)
    {inputs inputs' : List ι} (h : List.Forall₂ R inputs inputs') (s : σ) :
    (M.exec s inputs').2 = (M.exec s inputs).2 ∧
      (M.exec s inputs').1.map Prod.snd = (M.exec s inputs).1.map Prod.snd := by
  unfold exec
  suffices hgeneral : ∀ (before before' : List (ι × ο)) (t : σ),
      before'.map Prod.snd = before.map Prod.snd →
      (inputs'.foldl (fun reached i =>
          match M.step reached.2 i with
          | (t, o) => (reached.1 ++ [(i, o)], t)) (before', t)).2 =
        (inputs.foldl (fun reached i =>
          match M.step reached.2 i with
          | (t, o) => (reached.1 ++ [(i, o)], t)) (before, t)).2 ∧
      (inputs'.foldl (fun reached i =>
          match M.step reached.2 i with
          | (t, o) => (reached.1 ++ [(i, o)], t)) (before', t)).1.map Prod.snd =
        (inputs.foldl (fun reached i =>
          match M.step reached.2 i with
          | (t, o) => (reached.1 ++ [(i, o)], t)) (before, t)).1.map Prod.snd from
    hgeneral [] [] s rfl
  induction h with
  | nil => exact fun _ _ _ heq => ⟨rfl, heq⟩
  | cons hrelated _ ih =>
      intro before before' t heq
      rw [List.foldl_cons, List.foldl_cons]
      simp only [hstep t _ _ hrelated]
      exact ih _ _ _ (by simp [heq])

/-! ### History variables -/

/-- The machine with a history variable: `upd` says what a step does to it, from the state before
the step, the input and the state after it. -/
def instrument {γ : Type} (g₀ : γ) (upd : γ → σ → ι → σ → γ) : Machine (σ × γ) ι ο where
  init := (M.init, g₀)
  step s i := (((M.step s.1 i).1, upd s.2 s.1 i (M.step s.1 i).1), (M.step s.1 i).2)

variable {M} {γ : Type} {g₀ : γ} {upd : γ → σ → ι → σ → γ}

/-- A history variable can be added to any run. -/
theorem Run.instrument {s t : σ} {h : List (ι × ο)} (run : M.Run s h t) (g : γ) :
    ∃ g', (M.instrument g₀ upd).Run (s, g) h (t, g') := by
  induction run with
  | nil => exact ⟨g, Run.nil⟩
  | snoc _ i ih =>
      obtain ⟨g', hrun⟩ := ih
      exact ⟨_, hrun.snoc i⟩

/-- Forgetting the history variable gives a run of the machine. -/
theorem Run.forget {s t : σ × γ} {h : List (ι × ο)} (run : (M.instrument g₀ upd).Run s h t) :
    M.Run s.1 h t.1 := by
  induction run with
  | nil => exact Run.nil
  | snoc _ i ih => exact ih.snoc i

end Machine

end Transition
