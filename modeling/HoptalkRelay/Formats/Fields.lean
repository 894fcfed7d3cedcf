/-
**Fields between separators.**

A text whose fields stand between single separators can be cut at every separator, or at the first
few only, so that what follows them is one last piece with its separators kept.  Either way the
pieces joined by the separator are the text again, and joined pieces come apart as they were when
only the last one may hold a separator.

Main definitions:

* `Formats.join` — pieces joined by a separator;
* `Formats.splitAtMost` — cutting at the first separators.

Main results:

* `Formats.join_splitAtMost` — the pieces joined again;
* `Formats.splitAtMost_join` — joined pieces, cut again;
* `Formats.take_splitAtMost` — the pieces before the last cut are those of cutting everywhere.
-/

import Mathlib.Data.List.TakeWhile

set_option relaxedAutoImplicit false
set_option autoImplicit false

namespace Formats

variable {α : Type} [DecidableEq α]

/-- The pieces with one separator between any two neighbours. -/
def join (sep : α) (pieces : List (List α)) : List α := [sep].intercalate pieces

/-- Cut at the first `n` separators: at most `n + 1` pieces, the last one uncut. -/
def splitAtMost (sep : α) : ℕ → List α → List (List α)
  | 0, text => [text]
  | n + 1, text =>
      match text.dropWhile (· ≠ sep) with
      | [] => [text]
      | _ :: rest => text.takeWhile (· ≠ sep) :: splitAtMost sep n rest

section Join

variable (sep : α)

omit [DecidableEq α] in
@[simp] theorem join_nil : join sep [] = [] := rfl

omit [DecidableEq α] in
@[simp] theorem join_singleton (piece : List α) : join sep [piece] = piece :=
  List.intercalate_singleton

omit [DecidableEq α] in
theorem join_cons_cons (piece next : List α) (pieces : List (List α)) :
    join sep (piece :: next :: pieces) = piece ++ sep :: join sep (next :: pieces) := by
  unfold join
  rw [List.intercalate_cons_cons, List.append_assoc]
  rfl

omit [DecidableEq α] in
theorem join_cons (piece : List α) {pieces : List (List α)} (hpieces : pieces ≠ []) :
    join sep (piece :: pieces) = piece ++ sep :: join sep pieces := by
  cases pieces with
  | nil => exact absurd rfl hpieces
  | cons next pieces => exact join_cons_cons sep piece next pieces

omit [DecidableEq α] in
/-- Joining commutes with a map of the letters. -/
theorem map_join {β : Type} (f : α → β) (pieces : List (List α)) :
    (join sep pieces).map f = join (f sep) (pieces.map (List.map f)) := by
  induction pieces with
  | nil => rfl
  | cons piece pieces ih =>
      cases pieces with
      | nil => simp
      | cons next pieces =>
          rw [join_cons_cons, List.map_append, List.map_cons, ih, List.map_cons, List.map_cons,
            List.map_cons, join_cons_cons]

end Join

/-! ### Cutting -/

section Split

variable {sep : α}

/-- A text without a separator is its own first piece. -/
theorem splitAtMost_of_not_mem {text : List α} (h : sep ∉ text) (n : ℕ) :
    splitAtMost sep n text = [text] := by
  cases n with
  | zero => rfl
  | succ n =>
      have hdrop : text.dropWhile (· ≠ sep) = [] := by
        rw [List.dropWhile_eq_nil_iff]
        intro c hc
        have hne : c ≠ sep := fun heq => h (heq ▸ hc)
        exact decide_eq_true hne
      rw [splitAtMost, hdrop]

/-- The first piece ends at the first separator. -/
theorem splitAtMost_append {piece : List α} (h : sep ∉ piece) (n : ℕ) (rest : List α) :
    splitAtMost sep (n + 1) (piece ++ sep :: rest) = piece :: splitAtMost sep n rest := by
  have hpiece : ∀ c ∈ piece, (decide (c ≠ sep)) = true := fun c hc =>
    decide_eq_true fun heq => h (heq ▸ hc)
  have hdrop : (piece ++ sep :: rest).dropWhile (· ≠ sep) = sep :: rest := by
    rw [List.dropWhile_append_of_pos hpiece, List.dropWhile_cons_of_neg (by simp)]
  have htake : (piece ++ sep :: rest).takeWhile (· ≠ sep) = piece := by
    rw [List.takeWhile_append_of_pos hpiece, List.takeWhile_cons_of_neg (by simp),
      List.append_nil]
  rw [splitAtMost, hdrop, htake]

/-- A text with a separator, cut at its first one. -/
theorem exists_first_separator {text : List α} (h : sep ∈ text) :
    ∃ piece rest, sep ∉ piece ∧ text = piece ++ sep :: rest := by
  induction text with
  | nil => simp at h
  | cons c text ih =>
      by_cases hc : c = sep
      · exact ⟨[], text, by simp, by rw [hc, List.nil_append]⟩
      · have hmem : sep ∈ text := by
          rcases List.mem_cons.mp h with heq | hmem
          · exact absurd heq.symm hc
          · exact hmem
        obtain ⟨piece, rest, hpiece, htext⟩ := ih hmem
        refine ⟨c :: piece, rest, ?_, by rw [htext, List.cons_append]⟩
        intro hsep
        rcases List.mem_cons.mp hsep with heq | hsep
        · exact hc heq.symm
        · exact hpiece hsep

theorem splitAtMost_ne_nil (n : ℕ) (text : List α) : splitAtMost sep n text ≠ [] := by
  cases n with
  | zero => exact List.cons_ne_nil text []
  | succ n =>
      by_cases h : sep ∈ text
      · obtain ⟨piece, rest, hpiece, rfl⟩ := exists_first_separator h
        rw [splitAtMost_append hpiece]
        exact List.cons_ne_nil piece _
      · rw [splitAtMost_of_not_mem h]
        exact List.cons_ne_nil text []

/-- The pieces joined again are the text. -/
theorem join_splitAtMost (n : ℕ) (text : List α) : join sep (splitAtMost sep n text) = text := by
  induction n generalizing text with
  | zero => exact join_singleton sep text
  | succ n ih =>
      by_cases h : sep ∈ text
      · obtain ⟨piece, rest, hpiece, rfl⟩ := exists_first_separator h
        rw [splitAtMost_append hpiece, join_cons sep piece (splitAtMost_ne_nil n rest), ih]
      · rw [splitAtMost_of_not_mem h, join_singleton]

/-- **Joined pieces come apart as they were** when only the last one may hold a separator. -/
theorem splitAtMost_join {pieces : List (List α)} (h : ∀ piece ∈ pieces, sep ∉ piece)
    (last : List α) :
    splitAtMost sep pieces.length (join sep (pieces ++ [last])) = pieces ++ [last] := by
  induction pieces with
  | nil =>
      rw [List.nil_append, join_singleton]
      rfl
  | cons piece pieces ih =>
      have hrest : ∀ p ∈ pieces, sep ∉ p := fun p hp => h p (List.mem_cons_of_mem _ hp)
      rw [List.cons_append, join_cons sep piece (by simp), List.length_cons,
        splitAtMost_append (h piece List.mem_cons_self), ih hrest]

/-- The pieces joined again are the text. -/
theorem join_splitOn (text : List α) : join sep (text.splitOn sep) = text :=
  List.intercalate_splitOn sep

/-- Joined pieces without a separator come apart as they were. -/
theorem splitOn_join {pieces : List (List α)} (h : ∀ piece ∈ pieces, sep ∉ piece)
    (hpieces : pieces ≠ []) : (join sep pieces).splitOn sep = pieces :=
  List.splitOn_intercalate sep h hpieces

/-- No piece of cutting everywhere holds a separator. -/
theorem not_mem_of_mem_splitOn {text piece : List α} (h : piece ∈ text.splitOn sep) :
    sep ∉ piece := by
  induction text generalizing piece with
  | nil => simp_all
  | cons c text ih =>
      rw [List.splitOn_cons_eq_if_modifyHead] at h
      split at h
      · rcases List.mem_cons.mp h with rfl | h
        · simp
        · exact ih h
      · rename_i hc
        obtain ⟨head, pieces, hpieces⟩ := List.exists_cons_of_ne_nil (List.splitOn_ne_nil sep text)
        rw [hpieces, List.modifyHead_cons] at h
        rcases List.mem_cons.mp h with rfl | h
        · intro hmem
          rcases List.mem_cons.mp hmem with rfl | hmem
          · exact hc (beq_self_eq_true _)
          · exact ih (by rw [hpieces]; exact List.mem_cons_self) hmem
        · exact ih (by rw [hpieces]; exact List.mem_cons_of_mem _ h)

/-- The pieces before the last cut are those of cutting everywhere. -/
theorem take_splitAtMost (n : ℕ) (text : List α) :
    (splitAtMost sep n text).take n = (text.splitOn sep).take n := by
  induction n generalizing text with
  | zero => rw [List.take_zero, List.take_zero]
  | succ n ih =>
      by_cases h : sep ∈ text
      · obtain ⟨piece, rest, hpiece, rfl⟩ := exists_first_separator h
        rw [splitAtMost_append hpiece, List.splitOn_append_cons_self_of_not_mem hpiece,
          List.take_succ_cons, List.take_succ_cons, ih]
      · rw [splitAtMost_of_not_mem h, List.splitOn_eq_singleton h]

end Split

end Formats
