/-
**A set of limited size.**

Elements are offered to a set one after the other; a new one is refused when the set is full.  A set
that is to become another one is offered what is missing first, loses what is extra then, and is
offered once more what it refused: whatever the sets have in common and wherever it became full, it
ends as the other set if that fits at all.

Main definitions:

* `Capacity.offer` — a list of elements, offered in order;
* `Capacity.converge` — missing elements, extra elements, refused elements.

Main results:

* `Capacity.card_offer` — nothing is lost and nothing is counted twice;
* `Capacity.le_card_of_refused` — only a full set refuses;
* `Capacity.converge_eq` — **the set becomes the one it was to become**.
-/

import Mathlib.Data.Finset.Card
import Mathlib.Data.Finset.SDiff

set_option relaxedAutoImplicit false
set_option autoImplicit false

namespace Capacity

variable {κ : Type} [DecidableEq κ] {capacity : ℕ} {s : Finset κ} {keys : List κ} {k : κ}

/-- Elements offered one after the other: the set then, and those it refused. -/
def offer (capacity : ℕ) : Finset κ → List κ → Finset κ × List κ
  | s, [] => (s, [])
  | s, k :: keys =>
      if k ∉ s ∧ capacity ≤ s.card then
        ((offer capacity s keys).1, k :: (offer capacity s keys).2)
      else offer capacity (insert k s) keys

@[simp] theorem offer_nil : offer capacity s [] = (s, []) := rfl

theorem offer_refused (hk : k ∉ s) (hfull : capacity ≤ s.card) :
    offer capacity s (k :: keys) =
      ((offer capacity s keys).1, k :: (offer capacity s keys).2) :=
  if_pos ⟨hk, hfull⟩

theorem offer_accepted (h : ¬ (k ∉ s ∧ capacity ≤ s.card)) :
    offer capacity s (k :: keys) = offer capacity (insert k s) keys :=
  if_neg h

theorem subset_offer (capacity : ℕ) (s : Finset κ) (keys : List κ) :
    s ⊆ (offer capacity s keys).1 := by
  induction keys generalizing s with
  | nil => exact Finset.Subset.refl s
  | cons k keys ih =>
      unfold offer
      split
      · exact ih s
      · exact (Finset.subset_insert k s).trans (ih (insert k s))

/-- Only offered elements are refused. -/
theorem refused_sublist (capacity : ℕ) (s : Finset κ) (keys : List κ) :
    (offer capacity s keys).2.Sublist keys := by
  induction keys generalizing s with
  | nil => exact List.Sublist.refl []
  | cons k keys ih =>
      unfold offer
      split
      · exact (ih s).cons_cons k
      · exact (ih (insert k s)).cons k

/-- What the set holds then: what it held, and what was offered and not refused. -/
theorem mem_offer_iff (hnodup : keys.Nodup) (hnew : ∀ k ∈ keys, k ∉ s) :
    k ∈ (offer capacity s keys).1 ↔
      k ∈ s ∨ k ∈ keys ∧ k ∉ (offer capacity s keys).2 := by
  induction keys generalizing s with
  | nil => simp
  | cons first keys ih =>
      obtain ⟨hfirst, hnodup⟩ := List.nodup_cons.1 hnodup
      have hfirstNew := hnew first List.mem_cons_self
      by_cases hfull : first ∉ s ∧ capacity ≤ s.card
      · rw [offer_refused hfull.1 hfull.2]
        rw [ih hnodup fun other hother => hnew other (List.mem_cons_of_mem _ hother)]
        constructor
        · rintro (hs | ⟨hkeys, hrefused⟩)
          · exact Or.inl hs
          · refine Or.inr ⟨List.mem_cons_of_mem _ hkeys, ?_⟩
            rintro (_ | hmem)
            · exact hfirst hkeys
            · exact hrefused (by assumption)
        · rintro (hs | ⟨hkeys, hrefused⟩)
          · exact Or.inl hs
          · rw [List.mem_cons, not_or] at hrefused
            exact Or.inr ⟨(List.mem_cons.1 hkeys).resolve_left hrefused.1, hrefused.2⟩
      · rw [offer_accepted hfull]
        have hnew' : ∀ other ∈ keys, other ∉ insert first s := by
          intro other hother hmem
          rcases Finset.mem_insert.1 hmem with rfl | hs
          · exact hfirst hother
          · exact hnew other (List.mem_cons_of_mem _ hother) hs
        have hkept : first ∉ (offer capacity (insert first s) keys).2 := fun hmem =>
          hfirst ((refused_sublist _ _ _).subset hmem)
        rw [ih hnodup hnew', Finset.mem_insert, List.mem_cons]
        constructor
        · rintro ((rfl | hs) | ⟨hkeys, hrefused⟩)
          · exact Or.inr ⟨Or.inl rfl, hkept⟩
          · exact Or.inl hs
          · exact Or.inr ⟨Or.inr hkeys, hrefused⟩
        · rintro (hs | ⟨rfl | hkeys, hrefused⟩)
          · exact Or.inl (Or.inr hs)
          · exact Or.inl (Or.inl rfl)
          · exact Or.inr ⟨hkeys, hrefused⟩

/-- **Nothing is lost**: an offered element is in the set or refused. -/
theorem card_offer (hnodup : keys.Nodup) (hnew : ∀ k ∈ keys, k ∉ s) :
    (offer capacity s keys).1.card + (offer capacity s keys).2.length =
      s.card + keys.length := by
  induction keys generalizing s with
  | nil => rfl
  | cons first keys ih =>
      obtain ⟨hfirst, hnodup⟩ := List.nodup_cons.1 hnodup
      have hfirstNew := hnew first List.mem_cons_self
      by_cases hfull : first ∉ s ∧ capacity ≤ s.card
      · have hrest := ih hnodup fun other hother => hnew other (List.mem_cons_of_mem _ hother)
        rw [offer_refused hfull.1 hfull.2, List.length_cons, List.length_cons]
        dsimp only
        omega
      · have hnew' : ∀ other ∈ keys, other ∉ insert first s := by
          intro other hother hmem
          rcases Finset.mem_insert.1 hmem with rfl | hs
          · exact hfirst hother
          · exact hnew other (List.mem_cons_of_mem _ hother) hs
        rw [offer_accepted hfull, ih hnodup hnew', Finset.card_insert_of_notMem hfirstNew,
          List.length_cons]
        omega

/-- **Only a full set refuses**, and it stays full. -/
theorem le_card_of_refused (h : (offer capacity s keys).2 ≠ []) :
    capacity ≤ (offer capacity s keys).1.card := by
  induction keys generalizing s with
  | nil => exact absurd rfl h
  | cons first keys ih =>
      by_cases hfull : first ∉ s ∧ capacity ≤ s.card
      · rw [offer_refused hfull.1 hfull.2]
        exact hfull.2.trans (Finset.card_le_card (subset_offer _ _ _))
      · rw [offer_accepted hfull] at h ⊢
        exact ih h

/-- A set with room for everything refuses nothing. -/
theorem refused_eq_nil (hnodup : keys.Nodup) (hnew : ∀ k ∈ keys, k ∉ s)
    (hroom : s.card + keys.length ≤ capacity) : (offer capacity s keys).2 = [] := by
  by_contra hrefused
  have hfull := le_card_of_refused hrefused
  have hcard : (offer capacity s keys).1.card + (offer capacity s keys).2.length =
      s.card + keys.length := card_offer hnodup hnew
  have hpos := List.length_pos_iff.2 hrefused
  omega

/-- Missing elements, extra elements, refused elements. -/
def converge (capacity : ℕ) (s : Finset κ) (missing extra : List κ) : Finset κ × List κ :=
  let offered := offer capacity s missing
  if extra = [] then offered else offer capacity (offered.1 \ extra.toFinset) offered.2

/-- **The set becomes the one it was to become.** -/
theorem converge_eq {target : Finset κ} {missing extra : List κ} (hnodup : missing.Nodup)
    (hmissing : ∀ k, k ∈ missing ↔ k ∈ target ∧ k ∉ s)
    (hextra : ∀ k, k ∈ extra ↔ k ∈ s ∧ k ∉ target) (hfits : target.card ≤ capacity) :
    converge capacity s missing extra = (target, []) := by
  have hnew : ∀ k ∈ missing, k ∉ s := fun k hk => ((hmissing k).1 hk).2
  have hlength : missing.length = (target \ s).card := by
    rw [← List.toFinset_card_of_nodup hnodup]
    congr 1
    ext k
    rw [List.mem_toFinset, hmissing, Finset.mem_sdiff]
  have hsublist := refused_sublist capacity s missing
  unfold converge
  dsimp only
  split
  · next hnone =>
      -- nothing is extra, so there was room for everything
      have hsubset : s ⊆ target := by
        intro k hk
        by_contra htarget
        have hmem := (hextra k).2 ⟨hk, htarget⟩
        rw [hnone] at hmem
        cases hmem
      have hroom : s.card + missing.length ≤ capacity := by
        rw [hlength, Finset.card_sdiff_of_subset hsubset]
        have hle := Finset.card_le_card hsubset
        omega
      have hrefused := refused_eq_nil hnodup hnew hroom
      refine Prod.ext ?_ hrefused
      ext k
      rw [mem_offer_iff hnodup hnew, hrefused, hmissing]
      constructor
      · rintro (hs | ⟨⟨htarget, -⟩, -⟩)
        · exact hsubset hs
        · exact htarget
      · intro htarget
        by_cases hs : k ∈ s
        · exact Or.inl hs
        · exact Or.inr ⟨⟨htarget, hs⟩, List.not_mem_nil⟩
  · -- what is left of the set is part of the target, and the refused elements are the rest of it
    have hrest : ∀ k, k ∈ (offer capacity s missing).1 \ extra.toFinset ↔
        k ∈ target ∧ k ∉ (offer capacity s missing).2 := by
      intro k
      rw [Finset.mem_sdiff, mem_offer_iff hnodup hnew, List.mem_toFinset, hextra, hmissing]
      constructor
      · rintro ⟨hs | ⟨⟨htarget, -⟩, hrefused⟩, hkept⟩
        · have htarget : k ∈ target := by
            by_contra hnot
            exact hkept ⟨hs, hnot⟩
          exact ⟨htarget, fun hmem => hnew k (hsublist.subset hmem) hs⟩
        · exact ⟨htarget, hrefused⟩
      · rintro ⟨htarget, hrefused⟩
        refine ⟨?_, fun hboth => hboth.2 htarget⟩
        by_cases hs : k ∈ s
        · exact Or.inl hs
        · exact Or.inr ⟨⟨htarget, hs⟩, hrefused⟩
    have hnodup' : (offer capacity s missing).2.Nodup := hsublist.nodup hnodup
    have hnew' : ∀ k ∈ (offer capacity s missing).2,
        k ∉ (offer capacity s missing).1 \ extra.toFinset := fun k hk hmem =>
      ((hrest k).1 hmem).2 hk
    have hrefused : ∀ k ∈ (offer capacity s missing).2, k ∈ target := fun k hk =>
      ((hmissing k).1 (hsublist.subset hk)).1
    have hroom : ((offer capacity s missing).1 \ extra.toFinset).card +
        (offer capacity s missing).2.length ≤ capacity := by
      have heq : (offer capacity s missing).1 \ extra.toFinset =
          target \ (offer capacity s missing).2.toFinset := by
        ext k
        rw [hrest, Finset.mem_sdiff, List.mem_toFinset]
      have hsubset : (offer capacity s missing).2.toFinset ⊆ target := fun k hk =>
        hrefused k (List.mem_toFinset.1 hk)
      rw [heq, Finset.card_sdiff_of_subset hsubset, List.toFinset_card_of_nodup hnodup']
      have hle := Finset.card_le_card hsubset
      rw [List.toFinset_card_of_nodup hnodup'] at hle
      omega
    have hnone := refused_eq_nil hnodup' hnew' hroom
    refine Prod.ext ?_ hnone
    ext k
    rw [mem_offer_iff hnodup' hnew', hnone, hrest]
    constructor
    · rintro (⟨htarget, -⟩ | ⟨hmem, -⟩)
      · exact htarget
      · exact hrefused k hmem
    · intro htarget
      by_cases hmem : k ∈ (offer capacity s missing).2
      · exact Or.inr ⟨hmem, List.not_mem_nil⟩
      · exact Or.inl ⟨htarget, hmem⟩

end Capacity
