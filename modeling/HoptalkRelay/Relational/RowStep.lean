/-
**What a write does to the row of a key.**

Between two states of a table the row of a key is the same, was changed, was created or was
deleted.  `Table.Steps` says this of every key, with the relation the changes follow, so that a
property of single rows needs one case for each of these and never looks at the write itself.  A
created row always has a key the table had not given yet.

Main definitions:

* `Relational.RowStep` — what happened to the row of one key;
* `Relational.Table.Steps` — what happened to all of them.

Main results:

* `Relational.Table.steps_put`, `Relational.Table.steps_insert`,
  `Relational.Table.steps_updateWhere`, `Relational.Table.steps_deleteWhere` — the writes;
* `Relational.Table.Steps.origin`, `Relational.Table.Steps.outcome` — where a row comes from, and
  what becomes of it.
-/

import HoptalkRelay.Relational.Table

set_option relaxedAutoImplicit false
set_option autoImplicit false

namespace Relational

variable {ρ : Type}

/-- What happened to the row of one key. -/
inductive RowStep (change : ρ → ρ → Prop) (create delete : ρ → Prop) :
    Option ρ → Option ρ → Prop
  | same (row : Option ρ) : RowStep change create delete row row
  | changed {r s : ρ} (h : change r s) : RowStep change create delete (some r) (some s)
  | created {s : ρ} (h : create s) : RowStep change create delete none (some s)
  | deleted {r : ρ} (h : delete r) : RowStep change create delete (some r) none

namespace Table

variable [Keyed ρ] {change : ρ → ρ → Prop} {create delete : ρ → Prop} {t u : Table ρ}

/-- What happened to the rows of a table, and that a key is never given again. -/
structure Steps (change : ρ → ρ → Prop) (create delete : ρ → Prop) (t u : Table ρ) : Prop where
  row : ∀ k, RowStep change create delete (t.get? k) (u.get? k)
  nextKey : t.nextKey ≤ u.nextKey
  fresh : ∀ r ∈ u, t.get? (key r) = none → t.nextKey ≤ key r

theorem Steps.refl (t : Table ρ) : Steps change create delete t t where
  row _ := .same _
  nextKey := le_rfl
  fresh r hr hnone := by
    rw [get?_key hr] at hnone
    cases hnone

/-! ### The writes -/

/-- Replacing a row changes it. -/
theorem steps_put {r s : ρ} (hr : r ∈ t) (hkey : key s = key r) (h : change r s) :
    Steps change create delete t (t.put s) where
  row k := by
    rw [get?_put]
    split
    · next hk =>
        have hfound : t.get? k = some r := by rw [hk, hkey, get?_key hr]
        rw [hfound]
        exact .changed h
    · exact .same _
  nextKey := le_rfl
  fresh q hq hnone := by
    rcases (mem_put_iff hr hkey).1 hq with rfl | ⟨hq, -⟩
    · rw [hkey, get?_key hr] at hnone
      cases hnone
    · rw [get?_key hq] at hnone
      cases hnone

/-- An insertion creates a row. -/
theorem steps_insert {mk : ℕ → ρ} (h : create (mk t.nextKey))
    (hkey : ∀ k, key (mk k) = k := by intros; rfl) : Steps change create delete t (t.insert mk hkey) where
  row k := by
    rw [get?_insert]
    split
    · next hk =>
        have hnone : t.get? k = none := hk ▸ get?_nextKey t
        rw [hnone]
        exact .created (hk ▸ h)
    · exact .same _
  nextKey := Nat.le_succ _
  fresh q hq hnone := by
    rcases (mem_insert (h := hkey)).1 hq with hq | rfl
    · rw [get?_key hq] at hnone
      cases hnone
    · exact (hkey _).ge

/-- An update changes the rows that satisfy its condition. -/
theorem steps_updateWhere {p : ρ → Bool} {f : ρ → ρ} (h : ∀ r ∈ t, p r = true → change r (f r))
    (hkey : ∀ r, p r = true → key (f r) = key r := by intros; rfl) :
    Steps change create delete t (t.updateWhere p f hkey) where
  row k := by
    rw [get?_updateWhere]
    cases hk : t.get? k with
    | none => exact .same _
    | some r =>
        by_cases hp : p r = true
        · simpa [hp] using RowStep.changed (h r (mem_of_get? hk) hp)
        · simpa [hp] using RowStep.same (some r)
  nextKey := le_rfl
  fresh q hq hnone := by
    obtain ⟨r, hr, rfl⟩ := (mem_updateWhere (h := hkey)).1 hq
    rw [key_ite (h := hkey), get?_key hr] at hnone
    cases hnone

/-- A deletion deletes the rows that satisfy its condition. -/
theorem steps_deleteWhere {p : ρ → Bool} (h : ∀ r ∈ t, p r = true → delete r) :
    Steps change create delete t (t.deleteWhere p) where
  row k := by
    rw [get?_deleteWhere]
    cases hk : t.get? k with
    | none => exact .same _
    | some r =>
        by_cases hp : p r = true
        · simpa [hp, Option.filter] using RowStep.deleted (h r (mem_of_get? hk) hp)
        · simpa [hp, Option.filter] using RowStep.same (some r)
  nextKey := le_rfl
  fresh q hq hnone := by
    rw [get?_key (mem_deleteWhere.1 hq).1] at hnone
    cases hnone

/-! ### Reading the steps of a table -/

namespace Steps

variable (h : Steps change create delete t u)

include h

/-- Where a row comes from: it was there, it is a changed one, or it was created. -/
theorem origin {s : ρ} (hs : s ∈ u) :
    s ∈ t ∨ (∃ r ∈ t, key r = key s ∧ change r s) ∨ t.nextKey ≤ key s ∧ create s := by
  have hstep := h.row (key s)
  rw [get?_key hs] at hstep
  generalize hk : t.get? (key s) = row at hstep
  cases hstep with
  | same => exact Or.inl (mem_of_get? hk)
  | changed hchange => exact Or.inr (Or.inl ⟨_, mem_of_get? hk, key_of_get? hk, hchange⟩)
  | created hcreate => exact Or.inr (Or.inr ⟨h.fresh s hs hk, hcreate⟩)

/-- What becomes of a row: it is still there, it was changed, or it was deleted. -/
theorem outcome {k : ℕ} {r : ρ} (hr : t.get? k = some r) :
    u.get? k = some r ∨ (∃ s, u.get? k = some s ∧ change r s) ∨ u.get? k = none ∧ delete r := by
  have hstep := h.row k
  rw [hr] at hstep
  generalize u.get? k = row at hstep
  cases hstep with
  | same => exact Or.inl rfl
  | changed hchange => exact Or.inr (Or.inl ⟨_, rfl, hchange⟩)
  | deleted hdelete => exact Or.inr (Or.inr ⟨rfl, hdelete⟩)

/-- A key that was given and finds no row never finds one again. -/
theorem get?_eq_none {k : ℕ} (hk : t.get? k = none) (hgiven : k < t.nextKey) :
    u.get? k = none := by
  by_contra hne
  obtain ⟨s, hs⟩ := Option.ne_none_iff_exists'.1 hne
  have hkey := key_of_get? hs
  have := h.fresh s (mem_of_get? hs) (hkey ▸ hk)
  omega

end Steps

/-! ### Following a row -/

/-- What became of a row: a later one in this sense, or none for good. -/
structure Followed (later : ρ → ρ → Prop) (r : ρ) (t : Table ρ) : Prop where
  given : key r < t.nextKey
  later : ∀ s, t.get? (key r) = some s → later r s

variable {later : ρ → ρ → Prop} {r : ρ}

/-- A row is followed from the table it is in. -/
theorem followed_of_mem (hrefl : later r r) (hr : r ∈ t) : Followed later r t where
  given := t.below r hr
  later := by
    intro s hs
    obtain rfl := Option.some.inj ((get?_key hr).symm.trans hs)
    exact hrefl

/-- **A row is followed through any steps that make it a later one.** -/
theorem Followed.steps (h : Followed later r t)
    (hchange : ∀ s s', t.get? (key r) = some s → later r s → change s s' → later r s')
    (hsteps : Steps change create delete t u) : Followed later r u where
  given := h.given.trans_le hsteps.nextKey
  later := by
    intro s hs
    cases hfound : t.get? (key r) with
    | none =>
        rw [hsteps.get?_eq_none hfound h.given] at hs
        cases hs
    | some s₀ =>
        rcases hsteps.outcome hfound with hsame | ⟨s', hs', hchanged⟩ | ⟨hnone, -⟩
        · exact h.later s (hfound.trans (hsame.symm.trans hs))
        · obtain rfl := Option.some.inj (hs'.symm.trans hs)
          exact hchange s₀ s' hfound (h.later s₀ hfound) hchanged
        · rw [hnone] at hs
          cases hs

end Table

end Relational
