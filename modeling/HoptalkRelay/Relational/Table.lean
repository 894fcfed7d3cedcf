/-
**Tables with a primary key.**

A table is the list of its rows in the order of their primary keys, together with the key the
next insertion will get.  Both well-formedness conditions are carried by the structure: the keys
increase strictly along the list, and every key lies below the next one.  So a table never holds
two rows with one key and never gives a key twice, also after the row that had it was deleted.

The writes are those of a relational store: insert one row, update or delete the rows that satisfy
a condition.  An update cannot rewrite the key.  Every write comes with the equation that says
which row a key finds afterwards, so a development over tables never looks at the lists again.

Main definitions:

* `Relational.Table`, `Relational.Table.get?` — a table, and the row a key finds;
* `Relational.Table.insert`, `Relational.Table.updateWhere`, `Relational.Table.deleteWhere`,
  `Relational.Table.put` — the writes;
* `Relational.Table.filter`, `Relational.Table.first?`, `Relational.Table.count` — the queries;
* `Relational.orderBy`, `Relational.firstBy?` — ordered queries.

Main results:

* `Relational.Table.get?_insert`, `Relational.Table.get?_updateWhere`,
  `Relational.Table.get?_deleteWhere`, `Relational.Table.get?_put` — what a write does to a key;
* `Relational.Table.count_put` — how replacing one row changes a count;
* `Relational.Table.length_eq_count` — counting rows by their keys;
* `Relational.foldl_rows`, `Relational.foldl_put` — loops over rows that were read before;
* `Relational.firstBy?_eq_some` — the first row of an ordered query is a least one.
-/

import Mathlib.Algebra.GroupWithZero.Nat
import Mathlib.Data.List.Sort
import Mathlib.Data.List.Pairwise
import Mathlib.Data.List.Count
import Mathlib.Data.List.Perm.Subperm
import Mathlib.Logic.Relation

set_option relaxedAutoImplicit false
set_option autoImplicit false

namespace Relational

/-- A type of rows, each with its primary key. -/
class Keyed (ρ : Type) where
  /-- The primary key of a row. -/
  key : ρ → ℕ

export Keyed (key)

/-- A table: its rows in key order, and the key of the next insertion. -/
structure Table (ρ : Type) [Keyed ρ] where
  rows : List ρ
  nextKey : ℕ
  sorted : rows.Pairwise fun a b => key a < key b
  below : ∀ r ∈ rows, key r < nextKey

namespace Table

variable {ρ : Type} [Keyed ρ]

instance : Membership ρ (Table ρ) := ⟨fun t r => r ∈ t.rows⟩

theorem mem_rows {t : Table ρ} {r : ρ} : r ∈ t.rows ↔ r ∈ t := Iff.rfl

/-- The table without rows. -/
def empty : Table ρ where
  rows := []
  nextKey := 1
  sorted := List.Pairwise.nil
  below := by simp

@[simp] theorem not_mem_empty (r : ρ) : r ∉ (empty : Table ρ) := by
  simp [← mem_rows, empty]

/-! ### The row a key finds -/

/-- The row with the given key. -/
def get? (t : Table ρ) (k : ℕ) : Option ρ := t.rows.find? fun r => key r = k

/-- Two rows of a table with one key are the same row. -/
theorem eq_of_key_eq {t : Table ρ} {r s : ρ} (hr : r ∈ t) (hs : s ∈ t) (h : key r = key s) :
    r = s := by
  by_contra hne
  have hp : t.rows.Pairwise fun a b => key a ≠ key b := t.sorted.imp fun h => Nat.ne_of_lt h
  have : Std.Symm fun a b : ρ => key a ≠ key b := ⟨fun _ _ h => h.symm⟩
  exact hp.forall hr hs hne h

theorem get?_eq_some {t : Table ρ} {k : ℕ} {r : ρ} : t.get? k = some r ↔ r ∈ t ∧ key r = k := by
  constructor
  · intro h
    exact ⟨List.mem_of_find?_eq_some h, by simpa using List.find?_some h⟩
  · rintro ⟨hr, rfl⟩
    cases h : t.rows.find? fun s => key s = key r with
    | none => simpa using List.find?_eq_none.1 h r hr
    | some s =>
        have hs : key s = key r := by simpa using List.find?_some h
        rw [get?, h, eq_of_key_eq (List.mem_of_find?_eq_some h) hr hs]

theorem get?_key {t : Table ρ} {r : ρ} (h : r ∈ t) : t.get? (key r) = some r :=
  get?_eq_some.2 ⟨h, rfl⟩

theorem mem_of_get? {t : Table ρ} {k : ℕ} {r : ρ} (h : t.get? k = some r) : r ∈ t :=
  (get?_eq_some.1 h).1

theorem key_of_get? {t : Table ρ} {k : ℕ} {r : ρ} (h : t.get? k = some r) : key r = k :=
  (get?_eq_some.1 h).2

theorem get?_eq_none {t : Table ρ} {k : ℕ} : t.get? k = none ↔ ∀ r ∈ t, key r ≠ k := by
  simp [get?, List.find?_eq_none, ← mem_rows]

theorem get?_nextKey (t : Table ρ) : t.get? t.nextKey = none :=
  get?_eq_none.2 fun r hr => Nat.ne_of_lt (t.below r hr)

/-- A key that finds a row was given. -/
theorem lt_nextKey_of_isSome {t : Table ρ} {k : ℕ} (h : (t.get? k).isSome) : k < t.nextKey := by
  obtain ⟨r, hr⟩ := Option.isSome_iff_exists.1 h
  have hbelow := t.below r (mem_of_get? hr)
  rwa [key_of_get? hr] at hbelow

@[simp] theorem get?_empty (k : ℕ) : (empty : Table ρ).get? k = none := rfl

/-- A table is determined by the rows its keys find. -/
theorem mem_iff_of_get?_eq {t u : Table ρ} (h : ∀ k, t.get? k = u.get? k) (r : ρ) :
    r ∈ t ↔ r ∈ u := by
  constructor
  · intro hr
    exact mem_of_get? (h (key r) ▸ get?_key hr)
  · intro hr
    exact mem_of_get? ((h (key r)).trans (get?_key hr))

/-! ### Queries -/

/-- The rows that satisfy a condition, in key order. -/
def filter (t : Table ρ) (p : ρ → Bool) : List ρ := t.rows.filter p

/-- The first row that satisfies a condition, in key order. -/
def first? (t : Table ρ) (p : ρ → Bool) : Option ρ := t.rows.find? p

/-- The number of rows that satisfy a condition. -/
def count (t : Table ρ) (p : ρ → Bool) : ℕ := t.rows.countP p

/-- Whether some row satisfies a condition. -/
def any (t : Table ρ) (p : ρ → Bool) : Bool := t.rows.any p

@[simp] theorem mem_filter {t : Table ρ} {p : ρ → Bool} {r : ρ} :
    r ∈ t.filter p ↔ r ∈ t ∧ p r = true := List.mem_filter

theorem any_eq_true {t : Table ρ} {p : ρ → Bool} : t.any p = true ↔ ∃ r ∈ t, p r = true := by
  simp [any, ← mem_rows]

theorem any_eq_false {t : Table ρ} {p : ρ → Bool} : t.any p = false ↔ ∀ r ∈ t, p r = false := by
  simp [any, ← mem_rows]

theorem pairwise_filter (t : Table ρ) (p : ρ → Bool) :
    (t.filter p).Pairwise fun a b => key a < key b := t.sorted.filter p

theorem nodup_filter (t : Table ρ) (p : ρ → Bool) : (t.filter p).Nodup :=
  (t.pairwise_filter p).imp fun h heq => by simp [heq] at h

theorem first?_eq_some {t : Table ρ} {p : ρ → Bool} {r : ρ} (h : t.first? p = some r) :
    r ∈ t ∧ p r = true := ⟨List.mem_of_find?_eq_some h, List.find?_some h⟩

theorem first?_eq_none {t : Table ρ} {p : ρ → Bool} :
    t.first? p = none ↔ ∀ r ∈ t, p r = false := by
  simp [first?, List.find?_eq_none, ← mem_rows]

/-- A condition that only one row satisfies finds this row. -/
theorem first?_eq_of_unique {t : Table ρ} {p : ρ → Bool} {r : ρ} (hr : r ∈ t) (hp : p r = true)
    (huniq : ∀ s ∈ t, p s = true → s = r) : t.first? p = some r := by
  cases h : t.first? p with
  | none => simp [first?_eq_none.1 h r hr] at hp
  | some s => rw [huniq s (first?_eq_some h).1 (first?_eq_some h).2]

/-! ### Sums over the rows -/

/-- The sum of what the rows contribute. -/
def total (t : Table ρ) (w : ρ → ℕ) : ℕ := (t.rows.map w).sum

theorem count_eq_total (t : Table ρ) (p : ρ → Bool) :
    t.count p = t.total fun r => if p r then 1 else 0 := by
  unfold count total
  induction t.rows with
  | nil => rfl
  | cons r rows ih => rw [List.countP_cons, List.map_cons, List.sum_cons, ih, Nat.add_comm]

/-- The rows of a kind, and what else they contribute. -/
theorem count_add_sum_filter (t : Table ρ) (p : ρ → Bool) (w : ρ → ℕ) :
    t.count p + ((t.filter p).map w).sum = t.total fun r => if p r then 1 + w r else 0 := by
  unfold count filter total
  induction t.rows with
  | nil => rfl
  | cons r rows ih =>
      rw [List.countP_cons, List.filter_cons, List.map_cons, List.sum_cons, ← ih]
      cases p r with
      | false => simp
      | true =>
          simp only [if_true, List.map_cons, List.sum_cons]
          omega

/-! ### Insertion -/

/-- Insert a row under the next key. -/
def insert (t : Table ρ) (mk : ℕ → ρ) (h : ∀ k, key (mk k) = k := by intros; rfl) : Table ρ where
  rows := t.rows ++ [mk t.nextKey]
  nextKey := t.nextKey + 1
  sorted := by
    refine List.pairwise_append.2 ⟨t.sorted, List.pairwise_singleton _ _, ?_⟩
    intro a ha b hb
    rw [List.mem_singleton.1 hb, h]
    exact t.below a ha
  below := by
    intro r hr
    rcases List.mem_append.1 hr with hr | hr
    · exact Nat.lt_succ_of_lt (t.below r hr)
    · rw [List.mem_singleton.1 hr, h]
      exact Nat.lt_succ_self _

section Insert

variable {t : Table ρ} {mk : ℕ → ρ} {h : ∀ k, key (mk k) = k}

@[simp] theorem nextKey_insert : (t.insert mk h).nextKey = t.nextKey + 1 := rfl

@[simp] theorem mem_insert {r : ρ} : r ∈ t.insert mk h ↔ r ∈ t ∨ r = mk t.nextKey := by
  simp [← mem_rows, insert]

theorem get?_insert (k : ℕ) :
    (t.insert mk h).get? k = if k = t.nextKey then some (mk k) else t.get? k := by
  split
  · next hk => exact get?_eq_some.2 ⟨mem_insert.2 (Or.inr (by rw [hk])), h k⟩
  · next hk =>
      cases hg : t.get? k with
      | none =>
          refine get?_eq_none.2 fun r hr => ?_
          rcases mem_insert.1 hr with hr | rfl
          · exact get?_eq_none.1 hg r hr
          · exact fun heq => hk (by rw [← heq, h])
      | some r =>
          exact get?_eq_some.2 ⟨mem_insert.2 (Or.inl (mem_of_get? hg)), key_of_get? hg⟩

/-- A row that was there before an insertion is found as before. -/
theorem get?_insert_of_mem {k : ℕ} {r : ρ} (hr : t.get? k = some r) :
    (t.insert mk h).get? k = some r := by
  rw [get?_insert, if_neg, hr]
  rintro rfl
  simp [get?_nextKey] at hr

theorem count_insert (p : ρ → Bool) :
    (t.insert mk h).count p = t.count p + if p (mk t.nextKey) then 1 else 0 := by
  simp [count, insert, List.countP_append, List.countP_cons]

theorem total_insert (w : ρ → ℕ) : (t.insert mk h).total w = t.total w + w (mk t.nextKey) := by
  simp [total, insert]

end Insert

/-! ### Updates -/

/-- Update the rows that satisfy a condition; the key of a row cannot be rewritten. -/
def updateWhere (t : Table ρ) (p : ρ → Bool) (f : ρ → ρ)
    (h : ∀ r, p r = true → key (f r) = key r := by intros; rfl) : Table ρ where
  rows := t.rows.map fun r => if p r then f r else r
  nextKey := t.nextKey
  sorted := by
    have hkey : ∀ r, key (if p r = true then f r else r) = key r := by
      intro r
      split
      · next hp => exact h r hp
      · rfl
    refine List.pairwise_map.2 (t.sorted.imp fun hab => ?_)
    rw [hkey, hkey]
    exact hab
  below := by
    intro r hr
    obtain ⟨s, hs, rfl⟩ := List.mem_map.1 hr
    have := t.below s hs
    split
    · next hp => rwa [h s hp]
    · exact this

section Update

variable {t : Table ρ} {p : ρ → Bool} {f : ρ → ρ} {h : ∀ r, p r = true → key (f r) = key r}

@[simp] theorem nextKey_updateWhere : (t.updateWhere p f h).nextKey = t.nextKey := rfl

theorem mem_updateWhere {r : ρ} :
    r ∈ t.updateWhere p f h ↔ ∃ s ∈ t, (if p s = true then f s else s) = r := by
  simp [← mem_rows, updateWhere]

include h in
theorem key_ite (r : ρ) : key (if p r = true then f r else r) = key r := by
  split
  · next hp => exact h r hp
  · rfl

theorem get?_updateWhere (k : ℕ) :
    (t.updateWhere p f h).get? k = (t.get? k).map fun r => if p r = true then f r else r := by
  cases hg : t.get? k with
  | none =>
      refine get?_eq_none.2 fun r hr => ?_
      obtain ⟨s, hs, rfl⟩ := mem_updateWhere.1 hr
      rw [key_ite (h := h)]
      exact get?_eq_none.1 hg s hs
  | some r =>
      refine get?_eq_some.2 ⟨mem_updateWhere.2 ⟨r, mem_of_get? hg, rfl⟩, ?_⟩
      rw [key_ite (h := h), key_of_get? hg]

end Update

/-- Replace the row with the key of `r` by `r`; nothing happens when there is none. -/
def put (t : Table ρ) (r : ρ) : Table ρ :=
  t.updateWhere (fun s => key s = key r) (fun _ => r) (by simp [eq_comm])

section Put

variable {t : Table ρ} {r : ρ}

@[simp] theorem nextKey_put : (t.put r).nextKey = t.nextKey := rfl

theorem get?_put (k : ℕ) :
    (t.put r).get? k = if k = key r then (t.get? k).map fun _ => r else t.get? k := by
  rw [put, get?_updateWhere]
  cases hg : t.get? k with
  | none => simp
  | some s =>
      have hs := key_of_get? hg
      by_cases hk : k = key r <;> simp [hs, hk]

theorem mem_put {s : ρ} (hr : (t.get? (key r)).isSome) :
    s ∈ t.put r ↔ s = r ∨ (s ∈ t ∧ key s ≠ key r) := by
  obtain ⟨r₀, hr₀⟩ := Option.isSome_iff_exists.1 hr
  constructor
  · intro hs
    have hg := get?_key hs
    rw [get?_put] at hg
    split at hg
    · left
      rename_i hk
      simpa [hk, hr₀, eq_comm] using hg
    · next hk => exact Or.inr ⟨mem_of_get? hg, hk⟩
  · rintro (rfl | ⟨hs, hk⟩)
    · refine mem_of_get? (k := key s) ?_
      simp [get?_put, hr₀]
    · refine mem_of_get? (k := key s) ?_
      rw [get?_put, if_neg hk, get?_key hs]

/-- A replaced row is there. -/
theorem mem_put_self {s : ρ} (hs : s ∈ t) (hkey : key r = key s) : r ∈ t.put r :=
  (mem_put (by rw [hkey, get?_key hs]; rfl)).2 (Or.inl rfl)

/-- The rows of a table after one of them was replaced. -/
theorem mem_put_iff {s x : ρ} (hs : s ∈ t) (hkey : key r = key s) :
    x ∈ t.put r ↔ x = r ∨ (x ∈ t ∧ key x ≠ key s) := by
  rw [mem_put (by rw [hkey, get?_key hs]; rfl), hkey]

@[simp] theorem put_put {a b : ρ} (hab : key a = key b) : (t.put a).put b = t.put b := by
  simp only [put, updateWhere, mk.injEq, List.map_map, and_true]
  refine List.map_congr_left fun s _ => ?_
  by_cases hs : key s = key b <;> simp [hs, hab]

/-- Putting a row that is already there changes nothing. -/
theorem put_self (hr : r ∈ t) : t.put r = t := by
  have : (t.rows.map fun s => if decide (key s = key r) = true then r else s) = t.rows := by
    refine (List.map_congr_left fun s hs => ?_).trans (List.map_id _)
    split
    · next hk => exact (eq_of_key_eq hs hr (by simpa using hk)).symm
    · rfl
  cases t
  simp only [put, updateWhere, mk.injEq, and_true]
  exact this

/-- The table seen through a view of its rows. -/
def view (t : Table ρ) (f : ρ → ρ) (h : ∀ r, key (f r) = key r) : Table ρ :=
  t.updateWhere (fun _ => true) f fun r _ => h r

/-- A row replaced by one that looks the same leaves the view. -/
theorem view_put {s : ρ} {f : ρ → ρ} {h : ∀ r, key (f r) = key r} (hs : s ∈ t)
    (hkey : key r = key s) (hsame : f r = f s) : (t.put r).view f h = t.view f h := by
  simp only [view, put, updateWhere, mk.injEq, List.map_map, and_true]
  refine List.map_congr_left fun x hx => ?_
  by_cases hxr : key x = key r
  · obtain rfl := eq_of_key_eq hx hs (hxr.trans hkey)
    simp [hxr, hsame]
  · simp [hxr]

/-- Updating by a condition that only one row satisfies is putting the updated row. -/
theorem updateWhere_eq_put {p : ρ → Bool} {f : ρ → ρ} {h : ∀ r, p r = true → key (f r) = key r}
    (hr : r ∈ t) (hp : p r = true) (huniq : ∀ s ∈ t, p s = true → s = r) :
    t.updateWhere p f h = t.put (f r) := by
  simp only [put, updateWhere, mk.injEq, and_true]
  refine List.map_congr_left fun s hs => ?_
  by_cases hk : key s = key r
  · have := eq_of_key_eq hs hr hk
    subst this
    simp [hp, h s hp]
  · have hps : ¬ p s = true := fun hps => hk (by rw [huniq s hs hps])
    simp [hps, h r hp, hk]

/-- Replacing one row changes a sum over the rows by what the row and its replacement
contribute. -/
theorem total_put (w : ρ → ℕ) {s : ρ} (hs : s ∈ t) (hk : key s = key r) :
    (t.put r).total w + w s = t.total w + w r := by
  have hrows : ∀ l : List ρ, l.Pairwise (fun a b => key a < key b) → s ∈ l →
      ((l.map fun x => if decide (key x = key r) = true then r else x).map w).sum + w s =
        (l.map w).sum + w r := by
    intro l hl hsl
    induction l with
    | nil => simp at hsl
    | cons a l ih =>
        obtain ⟨hal, hl⟩ := List.pairwise_cons.1 hl
        rcases List.mem_cons.1 hsl with rfl | hsl
        · have hrest : (l.map fun x => if decide (key x = key r) = true then r else x) = l := by
            refine (List.map_congr_left fun x hx => ?_).trans (List.map_id _)
            have := hal x hx
            simp [show key x ≠ key r by omega]
          simp only [List.map_cons, hrest, List.sum_cons, hk, decide_true, if_true]
          omega
        · have hne : key a ≠ key r := by
            have := hal s hsl
            omega
          simp only [List.map_cons, List.sum_cons, hne, decide_false]
          have := ih hl hsl
          simp only [Bool.false_eq_true, if_false]
          omega
  exact hrows t.rows t.sorted hs

/-- Replacing one row changes a count by what the row and its replacement contribute. -/
theorem count_put (p : ρ → Bool) {s : ρ} (hs : s ∈ t) (hk : key s = key r) :
    (t.put r).count p + (if p s then 1 else 0) = t.count p + if p r then 1 else 0 := by
  rw [count_eq_total, count_eq_total]
  exact total_put _ hs hk

end Put

/-! ### Deletion -/

/-- Delete the rows that satisfy a condition. -/
def deleteWhere (t : Table ρ) (p : ρ → Bool) : Table ρ where
  rows := t.rows.filter fun r => !p r
  nextKey := t.nextKey
  sorted := t.sorted.filter _
  below := fun r hr => t.below r (List.mem_filter.1 hr).1

section Delete

variable {t : Table ρ} {p : ρ → Bool}

@[simp] theorem nextKey_deleteWhere : (t.deleteWhere p).nextKey = t.nextKey := rfl

@[simp] theorem mem_deleteWhere {r : ρ} : r ∈ t.deleteWhere p ↔ r ∈ t ∧ p r = false := by
  simp [← mem_rows, deleteWhere]

theorem get?_deleteWhere (k : ℕ) :
    (t.deleteWhere p).get? k = (t.get? k).filter fun r => !p r := by
  cases hg : (t.deleteWhere p).get? k with
  | none =>
      cases hr : t.get? k with
      | none => rfl
      | some r =>
          have hne := get?_eq_none.1 hg r
          rw [mem_deleteWhere] at hne
          by_cases hp : p r = true
          · simp [Option.filter, hp]
          · exact absurd (key_of_get? hr) (hne ⟨mem_of_get? hr, by simpa using hp⟩)
  | some r =>
      obtain ⟨hmem, hkey⟩ := get?_eq_some.1 hg
      obtain ⟨hr, hp⟩ := mem_deleteWhere.1 hmem
      simp [get?_eq_some.2 ⟨hr, hkey⟩, Option.filter, hp]

theorem count_deleteWhere_le (q : ρ → Bool) : (t.deleteWhere p).count q ≤ t.count q :=
  List.Sublist.countP_le List.filter_sublist

end Delete

/-! ### Counting -/

/-- A count is at most another when every row of the first is a row of the second. -/
theorem count_le_count {t : Table ρ} {p q : ρ → Bool} (h : ∀ r ∈ t, p r = true → q r = true) :
    t.count p ≤ t.count q := List.countP_mono_left h

theorem count_eq_length_filter (t : Table ρ) (p : ρ → Bool) : t.count p = (t.filter p).length :=
  List.countP_eq_length_filter

/-- Two tables with the same rows of a kind have equally many of them. -/
theorem count_eq_of_mem_iff {t u : Table ρ} {p : ρ → Bool}
    (h : ∀ r, p r = true → (r ∈ t ↔ r ∈ u)) : t.count p = u.count p := by
  rw [count_eq_length_filter, count_eq_length_filter]
  refine List.Perm.length_eq ?_
  refine (List.perm_ext_iff_of_nodup (nodup_filter t p) (nodup_filter u p)).2 fun r => ?_
  simp only [mem_filter]
  exact and_congr_left (h r)

/-- A table whose counted rows are rows of another counts at most as many. -/
theorem count_le_of_mem {t u : Table ρ} {p : ρ → Bool}
    (h : ∀ r ∈ u, p r = true → r ∈ t) : u.count p ≤ t.count p := by
  rw [count_eq_length_filter, count_eq_length_filter]
  refine (List.Nodup.subperm (nodup_filter u p) fun r hr => ?_).length_le
  obtain ⟨hr, hp⟩ := mem_filter.1 hr
  exact mem_filter.2 ⟨h r hr hp, hp⟩

/-- A table that lacks a counted row of the other counts fewer. -/
theorem count_lt_of_mem {t u : Table ρ} {p : ρ → Bool}
    (h : ∀ r ∈ u, p r = true → r ∈ t) {s : ρ} (hs : s ∈ t) (hp : p s = true) (hnot : s ∉ u) :
    u.count p < t.count p := by
  rw [count_eq_length_filter, count_eq_length_filter]
  have hnodup : (s :: u.filter p).Nodup :=
    List.nodup_cons.2 ⟨fun hmem => hnot (mem_filter.1 hmem).1, nodup_filter u p⟩
  refine Nat.lt_of_succ_le (List.Nodup.subperm hnodup fun r hr => ?_).length_le
  rcases List.mem_cons.1 hr with rfl | hr
  · exact mem_filter.2 ⟨hs, hp⟩
  · obtain ⟨hr, hp⟩ := mem_filter.1 hr
    exact mem_filter.2 ⟨h r hr hp, hp⟩

/-- A list of keys that are those of the rows of a kind, each once, is as long as there are such
rows. -/
theorem length_eq_count {t : Table ρ} {p : ρ → Bool} {keys : List ℕ} (hnodup : keys.Nodup)
    (h : ∀ k, k ∈ keys ↔ ∃ r ∈ t, p r = true ∧ key r = k) : keys.length = t.count p := by
  have hkeys : ((t.filter p).map key).Nodup :=
    List.pairwise_map.2 ((pairwise_filter t p).imp fun hlt => hlt.ne)
  have hlength : ((t.filter p).map key).length = (t.filter p).length := List.length_map _
  rw [count_eq_length_filter, ← hlength]
  refine List.Perm.length_eq ((List.perm_ext_iff_of_nodup hnodup hkeys).2 fun k => ?_)
  rw [h k, List.mem_map]
  refine exists_congr fun r => ?_
  rw [mem_filter, and_assoc]

theorem count_eq_zero {t : Table ρ} {p : ρ → Bool} : t.count p = 0 ↔ ∀ r ∈ t, p r = false := by
  simp [count, List.countP_eq_zero, ← mem_rows]

/-- Where a kind has one row, this row exists. -/
theorem exists_of_count_eq_one {t : Table ρ} {p : ρ → Bool} (h : t.count p = 1) :
    ∃ r ∈ t, p r = true := by
  have hpos : 0 < t.rows.countP p := by rw [← count, h]; exact Nat.one_pos
  exact List.countP_pos_iff.1 hpos

/-- Where a kind has at most one row, all of its rows are equal. -/
theorem eq_of_count_le_one {t : Table ρ} {p : ρ → Bool} (h : t.count p ≤ 1) {r s : ρ}
    (hr : r ∈ t) (hpr : p r = true) (hs : s ∈ t) (hps : p s = true) : r = s := by
  rw [count_eq_length_filter] at h
  have hr' : r ∈ t.filter p := mem_filter.2 ⟨hr, hpr⟩
  have hs' : s ∈ t.filter p := mem_filter.2 ⟨hs, hps⟩
  rcases hrows : t.filter p with _ | ⟨x, _ | ⟨y, rest⟩⟩
  · rw [hrows] at hr'
    cases hr'
  · rw [hrows, List.mem_singleton] at hr' hs'
    rw [hr', hs']
  · rw [hrows] at h
    simp at h

/-- An update after which no more rows satisfy a condition does not raise its count. -/
theorem count_updateWhere_le {t : Table ρ} {p : ρ → Bool} {f : ρ → ρ}
    {h : ∀ r, p r = true → key (f r) = key r} (q : ρ → Bool)
    (hq : ∀ r ∈ t, p r = true → q (f r) = true → q r = true) :
    (t.updateWhere p f h).count q ≤ t.count q := by
  simp only [count, updateWhere, List.countP_map]
  refine List.countP_mono_left fun r hr => ?_
  by_cases hp : p r = true
  · simpa [hp] using hq r hr hp
  · simp [hp]

end Table

/-! ### Loops over rows that were read before -/

/-- **The loop rule.**  A transaction reads rows with different keys and then works on one after
the other.  When the work on a row follows `W`, keeps `I` and leaves the rows with other keys in
the table, each row is still there when its turn comes, and the loop follows `W` and keeps `I`. -/
theorem foldl_rows {σ α ρ : Type} [Keyed ρ] {W : σ → σ → Prop} {I : σ → Prop}
    (table : σ → Table ρ) (row : α → ρ) (work : σ → α → σ) (l : List α)
    (hwork : ∀ s, ∀ a ∈ l, I s → row a ∈ table s →
      Relation.ReflTransGen W s (work s a) ∧ I (work s a) ∧
        ∀ r ∈ table s, key r ≠ key (row a) → r ∈ table (work s a))
    (s : σ) (hs : I s) (hnodup : (l.map fun a => key (row a)).Nodup)
    (hmem : ∀ a ∈ l, row a ∈ table s) :
    Relation.ReflTransGen W s (l.foldl work s) ∧ I (l.foldl work s) := by
  induction l generalizing s with
  | nil => exact ⟨.refl, hs⟩
  | cons a l ih =>
      obtain ⟨hnot, hnodup⟩ := List.nodup_cons.1 hnodup
      obtain ⟨hsteps, hI, hrest⟩ := hwork s a List.mem_cons_self hs (hmem a List.mem_cons_self)
      have hmem' : ∀ b ∈ l, row b ∈ table (work s a) := by
        intro b hb
        refine hrest _ (hmem b (List.mem_cons_of_mem _ hb)) fun hkey => hnot ?_
        exact List.mem_map.2 ⟨b, hb, hkey⟩
      obtain ⟨hsteps', hI'⟩ := ih (fun t b hb => hwork t b (List.mem_cons_of_mem _ hb))
        (work s a) hI hnodup hmem'
      exact ⟨hsteps.trans hsteps', hI'⟩

/-- The loop rule for work that replaces the row it is about: afterwards the rows worked on are
replaced, and the others are as they were. -/
theorem foldl_put {σ ρ : Type} [Keyed ρ] {W : σ → σ → Prop} {I : σ → Prop}
    (table : σ → Table ρ) (f : ρ → ρ) (work : σ → ρ → σ) (l : List ρ)
    (hkey : ∀ r, key (f r) = key r)
    (hwork : ∀ s, ∀ r ∈ l, I s → r ∈ table s →
      Relation.ReflTransGen W s (work s r) ∧ I (work s r) ∧ table (work s r) = (table s).put (f r))
    (s : σ) (hs : I s) (hnodup : (l.map key).Nodup) (hmem : ∀ r ∈ l, r ∈ table s) :
    Relation.ReflTransGen W s (l.foldl work s) ∧ I (l.foldl work s) ∧
      ∀ r, r ∈ table (l.foldl work s) ↔
        (∃ q ∈ l, f q = r) ∨ r ∈ table s ∧ key r ∉ l.map key := by
  induction l generalizing s with
  | nil => exact ⟨.refl, hs, by simp⟩
  | cons a l ih =>
      obtain ⟨hnot, hnodup⟩ := List.nodup_cons.1 hnodup
      have ha := hmem a List.mem_cons_self
      obtain ⟨hsteps, hI, htable⟩ := hwork s a List.mem_cons_self hs ha
      have hrest : ∀ r, r ∈ table (work s a) ↔ r = f a ∨ r ∈ table s ∧ key r ≠ key a := by
        intro r
        rw [htable]
        exact Table.mem_put_iff ha (hkey a)
      obtain ⟨hsteps', hI', hall⟩ := ih (fun t b hb => hwork t b (List.mem_cons_of_mem _ hb))
        (work s a) hI hnodup fun b hb => (hrest b).2 (Or.inr ⟨hmem b (List.mem_cons_of_mem _ hb),
          fun h => hnot (h ▸ List.mem_map_of_mem hb)⟩)
      refine ⟨hsteps.trans hsteps', hI', fun r => ?_⟩
      rw [List.foldl_cons, hall, hrest]
      simp only [List.mem_cons, List.map_cons, not_or, exists_eq_or_imp]
      constructor
      · rintro (h | ⟨rfl | ⟨hr, hra⟩, hrl⟩)
        · exact Or.inl (Or.inr h)
        · exact Or.inl (Or.inl rfl)
        · exact Or.inr ⟨hr, hra, hrl⟩
      · rintro ((rfl | h) | ⟨hr, hra, hrl⟩)
        · exact Or.inr ⟨Or.inl rfl, by rwa [hkey]⟩
        · exact Or.inl h
        · exact Or.inr ⟨Or.inr ⟨hr, hra⟩, hrl⟩

/-! ### Ordered queries -/

/-- Rows in the ascending order of a sort key; rows with equal sort keys keep their order. -/
def orderBy {ρ κ : Type} [LinearOrder κ] (f : ρ → κ) (l : List ρ) : List ρ :=
  l.insertionSort fun a b => f a ≤ f b

/-- The first row in the ascending order of a sort key. -/
def firstBy? {ρ κ : Type} [LinearOrder κ] (f : ρ → κ) (l : List ρ) : Option ρ :=
  (orderBy f l).head?

section Order

variable {ρ κ : Type} [LinearOrder κ] {f : ρ → κ} {l : List ρ}

theorem orderBy_perm (f : ρ → κ) (l : List ρ) : (orderBy f l).Perm l :=
  List.perm_insertionSort _ l

@[simp] theorem mem_orderBy {r : ρ} : r ∈ orderBy f l ↔ r ∈ l := (orderBy_perm f l).mem_iff

theorem pairwise_orderBy (f : ρ → κ) (l : List ρ) :
    (orderBy f l).Pairwise fun a b => f a ≤ f b := by
  have : Std.Total fun a b : ρ => f a ≤ f b := ⟨fun a b => le_total (f a) (f b)⟩
  have : IsTrans ρ fun a b : ρ => f a ≤ f b := ⟨fun _ _ _ h h' => h.trans h'⟩
  exact List.pairwise_insertionSort _ l

theorem firstBy?_eq_none : firstBy? f l = none ↔ l = [] := by
  rw [firstBy?, List.head?_eq_none_iff]
  constructor
  · intro h
    exact List.Perm.eq_nil (h ▸ (orderBy_perm f l).symm)
  · rintro rfl
    rfl

/-- The first row of an ordered query is one of its rows, and a least one. -/
theorem firstBy?_eq_some {r : ρ} (h : firstBy? f l = some r) : r ∈ l ∧ ∀ s ∈ l, f r ≤ f s := by
  obtain ⟨rest, hrest⟩ := List.head?_eq_some_iff.1 h
  have hp := pairwise_orderBy f l
  rw [hrest, List.pairwise_cons] at hp
  refine ⟨mem_orderBy.1 (hrest ▸ List.mem_cons_self), fun s hs => ?_⟩
  have hs' : s ∈ r :: rest := hrest ▸ mem_orderBy.2 hs
  rcases List.mem_cons.1 hs' with rfl | hs'
  · exact le_refl _
  · exact hp.1 s hs'

end Order

end Relational
