/-
**The splitter makes the fewest parts.**

Both packings of the splitter are greedy ones, of the code points of the text and of its grapheme
clusters, where a cluster that is longer than a part stands for its code points.  Every cut of the
text is a packing of its code points, and a cut that keeps the shorter clusters whole is a packing
of those units as well, so the packer's count is the least one each time.

Main definitions:

* `HoptalkRelay.IsSplit` — a text cut into pieces of at most 104 bytes;
* `HoptalkRelay.KeepsPieces` — no piece that fits into a part is cut.

Main results:

* `HoptalkRelay.packUnitsIntoParts_spec` — what the packer makes of its units;
* `HoptalkRelay.length_le_of_keepsPieces` — no cut that keeps the pieces has fewer parts;
* `HoptalkRelay.split_message_text_fewest` — **the splitter makes the fewest parts, and keeps the
  clusters when it can**.
-/

import HoptalkRelay.Packing.Greedy
import HoptalkRelay.Protocol.MessageSplitting
import Mathlib.Order.Bounds.Basic

set_option relaxedAutoImplicit false
set_option autoImplicit false

namespace HoptalkRelay

open Packing

/-! ### Cuts of a text -/

/-- The text cut at code points into pieces of at most 104 bytes. -/
structure IsSplit (text : Text) (parts : List Text) : Prop where
  joins : parts.flatten = text
  fits : ∀ part ∈ parts, countUtf8Bytes part ≤ partTextMaximumBytes

/-- No cut falls inside a piece that fits into a part. -/
def KeepsPieces (pieces parts : List Text) : Prop :=
  ∀ before piece after, pieces = before ++ piece :: after →
    countUtf8Bytes piece ≤ partTextMaximumBytes →
    ∀ n, IsBoundary parts n →
      n ≤ before.flatten.length ∨ before.flatten.length + piece.length ≤ n

/-! ### Bytes -/

section Bytes

variable {text : Text} {units : List Text}

@[simp] theorem countUtf8Bytes_nil : countUtf8Bytes [] = 0 := rfl

theorem countUtf8Bytes_pos (h : text ≠ []) : 0 < countUtf8Bytes text := by
  obtain ⟨c, rest, rfl⟩ := List.exists_cons_of_ne_nil h
  have hc : 0 < c.utf8Size := Char.utf8Size_pos c
  simp only [countUtf8Bytes, List.map_cons, List.sum_cons]
  omega

/-- The bytes of joined units. -/
theorem countUtf8Bytes_flatten (units : List Text) :
    countUtf8Bytes units.flatten = (units.map countUtf8Bytes).sum := by
  induction units with
  | nil => rfl
  | cons unit units ih =>
      rw [List.flatten_cons, countUtf8Bytes_append, ih, List.map_cons, List.sum_cons]

@[simp] theorem flatten_codePoints (text : Text) : (codePoints text).flatten = text := by
  induction text with
  | nil => rfl
  | cons c text ih =>
      change [c] ++ (codePoints text).flatten = c :: text
      rw [ih, List.singleton_append]

theorem countUtf8Bytes_of_mem_codePoints {unit : Text} (h : unit ∈ codePoints text) :
    countUtf8Bytes unit ≤ longestCodePointBytes := by
  obtain ⟨c, -, rfl⟩ := List.mem_map.1 h
  have hc : c.utf8Size ≤ 4 := Char.utf8Size_le_four c
  simpa [countUtf8Bytes, longestCodePointBytes] using hc

/-- Every position of a text lies between two code points. -/
theorem isBoundary_codePoints {n : ℕ} (h : n ≤ text.length) : IsBoundary (codePoints text) n := by
  refine ⟨codePoints (text.take n), codePoints (text.drop n), ?_, ?_⟩
  · rw [codePoints, codePoints, codePoints, ← List.map_append, List.take_append_drop]
  · rw [flatten_codePoints, List.length_take, Nat.min_eq_left h]

end Bytes

/-! ### The packer -/

section Packer

variable {budget : ℕ} {units : List Text} {packer : PartPacker} {unit : Text}

/-- The packer after these units: its parts group them, and are as many as the greedy packing of
their bytes has closed. -/
structure PackerOk (budget : ℕ) (units : List Text) (packer : PartPacker) : Prop where
  budget_eq : packer.partByteBudget = budget
  bytes : packer.currentPartBytes = countUtf8Bytes packer.currentPartUnits.flatten
  fits : packer.currentPartBytes ≤ budget
  started : packer.finishedParts ≠ [] → packer.currentPartUnits.flatten ≠ []
  fill : (Fill.mk 0 0).addAll budget (units.map countUtf8Bytes) =
    ⟨packer.finishedParts.length, packer.currentPartBytes⟩
  bins : ∃ bins : List (List Text), packer.finishedParts = bins.map List.flatten ∧
    bins.flatten ++ packer.currentPartUnits = units ∧
    ∀ bin ∈ bins, bin.flatten ≠ [] ∧ countUtf8Bytes bin.flatten ≤ budget

theorem PackerOk.new (budget : ℕ) : PackerOk budget [] { partByteBudget := budget } :=
  ⟨rfl, rfl, Nat.zero_le _, fun h => absurd rfl h, rfl, [], rfl, rfl,
    fun _ h => absurd h List.not_mem_nil⟩

/-- **One unit** that fits into a part. -/
theorem PackerOk.addUnit (h : PackerOk budget units packer)
    (hunit : countUtf8Bytes unit ≤ budget) :
    PackerOk budget (units ++ [unit]) (packer.addUnit unit) := by
  obtain ⟨bins, hfinished, hjoins, hbins⟩ := h.bins
  have hfill : (Fill.mk 0 0).addAll budget ((units ++ [unit]).map countUtf8Bytes) =
      Fill.add budget ⟨packer.finishedParts.length, packer.currentPartBytes⟩
        (countUtf8Bytes unit) := by
    rw [List.map_append, Fill.addAll_append, h.fill]
    rfl
  by_cases hfull : budget < packer.currentPartBytes + countUtf8Bytes unit
  · have hcurrent : packer.currentPartUnits.flatten ≠ [] := by
      intro hnil
      have hbytes := h.bytes
      rw [hnil, countUtf8Bytes_nil] at hbytes
      omega
    have hunits : packer.currentPartUnits ≠ [] := by
      intro hnil
      exact hcurrent (by rw [hnil]; rfl)
    have hadd : packer.addUnit unit =
        { packer with
          finishedParts := packer.finishedParts ++ [packer.currentPartUnits.flatten]
          currentPartUnits := [unit]
          currentPartBytes := countUtf8Bytes unit } := by
      simp [PartPacker.addUnit, PartPacker.finishCurrentPart, h.budget_eq, hfull, hunits]
    rw [hadd]
    refine ⟨h.budget_eq, by simp, hunit, fun _ => ?_, ?_,
      bins ++ [packer.currentPartUnits], ?_, ?_, ?_⟩
    · -- the unit did not fit, so it has bytes
      intro hnil
      have hempty : unit = [] := by simpa using hnil
      rw [hempty, countUtf8Bytes_nil] at hfull
      have hfits := h.fits
      omega
    · rw [hfill, Fill.add, if_pos hfull, List.length_append]
      rfl
    · rw [hfinished, List.map_append]
      rfl
    · rw [List.flatten_append, List.flatten_singleton, hjoins]
    · intro bin hbin
      rcases List.mem_append.1 hbin with hold | hnew
      · exact hbins bin hold
      · obtain rfl := List.mem_singleton.1 hnew
        exact ⟨hcurrent, h.bytes ▸ h.fits⟩
  · have hadd : packer.addUnit unit =
        { packer with
          currentPartUnits := packer.currentPartUnits ++ [unit]
          currentPartBytes := packer.currentPartBytes + countUtf8Bytes unit } := by
      simp [PartPacker.addUnit, h.budget_eq, hfull]
    rw [hadd]
    refine ⟨h.budget_eq, ?_, Nat.le_of_not_lt hfull, fun hparts => ?_, ?_,
      bins, hfinished, ?_, hbins⟩
    · rw [h.bytes, List.flatten_append, List.flatten_singleton, countUtf8Bytes_append]
    · rw [List.flatten_append]
      exact List.append_ne_nil_of_left_ne_nil (h.started hparts) _
    · rw [hfill, Fill.add, if_neg hfull]
    · rw [← List.append_assoc, hjoins]

/-- Units that fit into a part, one after the other. -/
theorem PackerOk.foldl_addUnit {later : List Text} (h : PackerOk budget units packer)
    (hlater : ∀ unit ∈ later, countUtf8Bytes unit ≤ budget) :
    PackerOk budget (units ++ later) (later.foldl PartPacker.addUnit packer) := by
  induction later generalizing units packer with
  | nil => rwa [List.append_nil]
  | cons unit later ih =>
      have hnext := h.addUnit (hlater unit List.mem_cons_self)
      have hall := ih hnext fun other hmem => hlater other (List.mem_cons_of_mem _ hmem)
      rwa [List.append_assoc, List.singleton_append] at hall

/-- What the packer packs: a unit longer than a part stands for its code points. -/
def packedUnits (budget : ℕ) (units : List Text) : List Text :=
  units.flatMap fun unit => if budget < countUtf8Bytes unit then codePoints unit else [unit]

theorem packedUnits_cons (budget : ℕ) (unit : Text) (units : List Text) :
    packedUnits budget (unit :: units) =
      (if budget < countUtf8Bytes unit then codePoints unit else [unit]) ++
        packedUnits budget units := by
  rw [packedUnits, List.flatMap_cons]
  rfl

theorem packedUnits_append (budget : ℕ) (units later : List Text) :
    packedUnits budget (units ++ later) = packedUnits budget units ++ packedUnits budget later :=
  List.flatMap_append

theorem fits_of_mem_packedUnits (hbudget : longestCodePointBytes ≤ budget)
    (h : unit ∈ packedUnits budget units) : countUtf8Bytes unit ≤ budget := by
  obtain ⟨whole, -, hmem⟩ := List.mem_flatMap.1 h
  split at hmem
  · exact (countUtf8Bytes_of_mem_codePoints hmem).trans hbudget
  · next hfits =>
      obtain rfl := List.mem_singleton.1 hmem
      exact Nat.le_of_not_lt hfits

@[simp] theorem flatten_packedUnits (budget : ℕ) (units : List Text) :
    (packedUnits budget units).flatten = units.flatten := by
  induction units with
  | nil => rfl
  | cons unit units ih =>
      rw [packedUnits_cons, List.flatten_append, ih, List.flatten_cons]
      split
      · rw [flatten_codePoints]
      · rw [List.flatten_singleton]

theorem foldl_addUnitOrCodePoints (units : List Text) (packer : PartPacker) :
    units.foldl addUnitOrCodePoints packer =
      (packedUnits packer.partByteBudget units).foldl PartPacker.addUnit packer := by
  induction units generalizing packer with
  | nil => rfl
  | cons unit units ih =>
      have hbudget : ∀ (later : List Text) (packer : PartPacker),
          (later.foldl PartPacker.addUnit packer).partByteBudget = packer.partByteBudget := by
        intro later
        induction later with
        | nil => exact fun _ => rfl
        | cons next later ihl =>
            intro packer
            rw [List.foldl_cons, ihl]
            unfold PartPacker.addUnit
            dsimp only
            split <;> rfl
      have hone : addUnitOrCodePoints packer unit =
          (if packer.partByteBudget < countUtf8Bytes unit then codePoints unit
            else [unit]).foldl PartPacker.addUnit packer := by
        unfold addUnitOrCodePoints
        split <;> rfl
      rw [List.foldl_cons, ih, packedUnits_cons, List.foldl_append, hone, hbudget]

/-- **What the packer makes of its units**: parts that group them, in the greedy number. -/
theorem packUnitsIntoParts_spec (hbudget : longestCodePointBytes ≤ budget)
    (hunits : units.flatten ≠ []) :
    ∃ bins : List (List Text), packUnitsIntoParts units budget = .ok (bins.map List.flatten) ∧
      bins.flatten = packedUnits budget units ∧
      (∀ bin ∈ bins, bin.flatten ≠ [] ∧ countUtf8Bytes bin.flatten ≤ budget) ∧
      bins.length = ((Fill.mk 0 0).addAll budget
        ((packedUnits budget units).map countUtf8Bytes)).closed + 1 := by
  have hfits : ∀ unit ∈ packedUnits budget units, countUtf8Bytes unit ≤ budget :=
    fun unit hmem => fits_of_mem_packedUnits hbudget hmem
  have hok := (PackerOk.new budget).foldl_addUnit hfits
  rw [List.nil_append] at hok
  have hpacked : packUnitsIntoParts units budget =
      .ok ((packedUnits budget units).foldl PartPacker.addUnit
        { partByteBudget := budget }).finish := by
    rw [packUnitsIntoParts, if_neg (Nat.not_lt.2 hbudget), foldl_addUnitOrCodePoints]
  rw [hpacked]
  generalize (packedUnits budget units).foldl PartPacker.addUnit { partByteBudget := budget } =
    packer at hok
  obtain ⟨bins, hfinished, hjoins, hbins⟩ := hok.bins
  have hcurrent : packer.currentPartUnits.flatten ≠ [] := by
    by_cases hparts : packer.finishedParts = []
    · intro hnil
      have hflatten := congrArg List.flatten hjoins
      have hnone : bins = [] := List.map_eq_nil_iff.1 (hfinished ▸ hparts)
      rw [hnone, List.flatten_nil, List.nil_append, hnil, flatten_packedUnits] at hflatten
      exact hunits hflatten.symm
    · exact hok.started hparts
  have hnotnil : packer.currentPartUnits ≠ [] := by
    intro hnil
    exact hcurrent (by rw [hnil]; rfl)
  have hfinish : packer.finish = packer.finishedParts ++ [packer.currentPartUnits.flatten] := by
    rw [PartPacker.finish, PartPacker.finishCurrentPart]
    exact if_neg hnotnil
  refine ⟨bins ++ [packer.currentPartUnits], ?_, ?_, ?_, ?_⟩
  · rw [hfinish, hfinished, List.map_append]
    rfl
  · rw [List.flatten_append, List.flatten_singleton, hjoins]
  · intro bin hbin
    rcases List.mem_append.1 hbin with hold | hnew
    · exact hbins bin hold
    · obtain rfl := List.mem_singleton.1 hnew
      exact ⟨hcurrent, hok.bytes ▸ hok.fits⟩
  · rw [hok.fill, hfinished, List.length_append, List.length_map]
    rfl

end Packer

/-! ### Cuts that keep the pieces -/

section Pieces

variable {text : Text} {pieces parts : List Text} {n : ℕ}

/-- Every cut keeps the code points. -/
theorem keepsPieces_codePoints (text : Text) (parts : List Text) :
    KeepsPieces (codePoints text) parts := by
  intro before piece after heq _ n _
  have hmem : piece ∈ codePoints text := by
    rw [heq]
    exact List.mem_append_right _ List.mem_cons_self
  obtain ⟨c, -, rfl⟩ := List.mem_map.1 hmem
  rw [List.length_singleton]
  omega

/-- A position that falls inside no shorter piece lies between two packed units. -/
theorem isBoundary_packedUnits (hle : n ≤ pieces.flatten.length)
    (hkept : ∀ before piece after, pieces = before ++ piece :: after →
      countUtf8Bytes piece ≤ partTextMaximumBytes →
      n ≤ before.flatten.length ∨ before.flatten.length + piece.length ≤ n) :
    IsBoundary (packedUnits partTextMaximumBytes pieces) n := by
  induction pieces generalizing n with
  | nil =>
      obtain rfl : n = 0 := Nat.le_zero.1 hle
      exact .zero _
  | cons piece pieces ih =>
      rw [packedUnits_cons]
      rcases Nat.le_total n piece.length with hinside | hbeyond
      · refine IsBoundary.append_right ?_ _
        split
        · exact isBoundary_codePoints hinside
        · next hfits =>
            rcases hkept [] piece pieces rfl (Nat.le_of_not_lt hfits) with hzero | hend
            · obtain rfl : n = 0 := Nat.le_zero.1 hzero
              exact .zero _
            · have hlength : n = piece.length := by
                simp only [List.flatten_nil, List.length_nil] at hend
                omega
              exact ⟨[piece], [], rfl, by rw [hlength, List.flatten_singleton]⟩
      · obtain ⟨k, rfl⟩ := Nat.exists_eq_add_of_le hbeyond
        have hlater : IsBoundary (packedUnits partTextMaximumBytes pieces) k := by
          refine ih ?_ fun before other after heq hfits => ?_
          · rw [List.flatten_cons, List.length_append] at hle
            omega
          · have hboth := hkept (piece :: before) other after (by rw [heq]; rfl) hfits
            rw [List.flatten_cons, List.length_append] at hboth
            omega
        have hflatten : (if partTextMaximumBytes < countUtf8Bytes piece then codePoints piece
            else [piece]).flatten.length = piece.length := by
          split
          · rw [flatten_codePoints]
          · rw [List.flatten_singleton]
        exact hflatten ▸ hlater.append_left _

/-- The number of parts the packer makes of these pieces. -/
def packedPartCount (pieces : List Text) : ℕ :=
  ((Fill.mk 0 0).addAll partTextMaximumBytes
    ((packedUnits partTextMaximumBytes pieces).map countUtf8Bytes)).closed + 1

/-- **No cut that keeps the pieces has fewer parts.** -/
theorem length_le_of_keepsPieces (hparts : IsSplit pieces.flatten parts)
    (hpieces : pieces.flatten ≠ []) (hkeeps : KeepsPieces pieces parts) :
    packedPartCount pieces ≤ parts.length := by
  have hnotnil : parts ≠ [] := by
    rintro rfl
    exact hpieces hparts.joins.symm
  have hboundaries : ∀ n, IsBoundary parts n →
      IsBoundary (packedUnits partTextMaximumBytes pieces) n := fun n hn =>
    isBoundary_packedUnits (hparts.joins ▸ hn.le) fun before piece after heq hfits =>
      hkeeps before piece after heq hfits n hn
  obtain ⟨bins, hjoins, hbins⟩ := exists_bins hnotnil
    ((flatten_packedUnits _ _).trans hparts.joins.symm) hboundaries
  have hpacking : IsPacking countUtf8Bytes partTextMaximumBytes
      (packedUnits partTextMaximumBytes pieces) bins := by
    refine ⟨hjoins, fun bin hbin => ?_⟩
    rw [← countUtf8Bytes_flatten]
    exact hparts.fits _ (hbins ▸ List.mem_map_of_mem hbin)
  have hlt := closed_lt_length hpacking (by
    rintro rfl
    exact hnotnil hbins.symm)
  rw [← hbins, List.length_map]
  exact hlt

/-- Parts that group the packed units keep the pieces. -/
theorem keepsPieces_of_bins {bins : List (List Text)}
    (hjoins : bins.flatten = packedUnits partTextMaximumBytes pieces) :
    KeepsPieces pieces (bins.map List.flatten) := by
  intro before piece after heq hfits n hn
  have hboundary := hn.of_map_flatten
  rw [hjoins, heq, packedUnits_append, packedUnits_cons, if_neg (Nat.not_lt.2 hfits),
    List.singleton_append] at hboundary
  have hside := hboundary.not_inside
  rwa [flatten_packedUnits] at hside

/-- **The packer's parts** of some pieces of the text. -/
theorem packUnitsIntoParts_pieces (hpieces : pieces.flatten ≠ []) :
    ∃ parts, packUnitsIntoParts pieces partTextMaximumBytes = .ok parts ∧
      IsSplit pieces.flatten parts ∧ (∀ part ∈ parts, part ≠ []) ∧ KeepsPieces pieces parts ∧
      parts.length = packedPartCount pieces := by
  obtain ⟨bins, hpacked, hjoins, hbins, hlength⟩ :=
    packUnitsIntoParts_spec (by decide : longestCodePointBytes ≤ partTextMaximumBytes) hpieces
  refine ⟨_, hpacked, ⟨?_, fun part hpart => ?_⟩, fun part hpart => ?_,
    keepsPieces_of_bins hjoins, ?_⟩
  · rw [← List.flatten_flatten, hjoins, flatten_packedUnits]
  · obtain ⟨bin, hbin, rfl⟩ := List.mem_map.1 hpart
    exact (hbins bin hbin).2
  · obtain ⟨bin, hbin, rfl⟩ := List.mem_map.1 hpart
    exact (hbins bin hbin).1
  · rw [List.length_map, hlength]
    rfl

end Pieces

/-! ### The splitter -/

/-- The numbers of parts a text can be cut into. -/
def splitLengths (text : Text) : Set ℕ := {n | ∃ parts, IsSplit text parts ∧ parts.length = n}

/-- **The splitter makes the fewest parts**, of at most 104 bytes each and none of them empty; it
refuses a text that needs more than ten.  And no segmenter piece that fits into a part is cut,
unless every cut into so few parts cuts one. -/
theorem split_message_text_fewest (splitIntoGraphemeClusters : Text → List Text)
    (messageText : Text) (hnonempty : messageText ≠ [])
    (hallowed : ∀ c ∈ messageText, isAllowedPartTextCharacter c = true)
    (hjoins : (splitIntoGraphemeClusters messageText).flatten = messageText) :
    ∃ minimum, IsLeast (splitLengths messageText) minimum ∧
      (maximumPartCount < minimum →
        splitMessageText messageText splitIntoGraphemeClusters =
          .error (.messageTooLong (countUtf8Bytes messageText) minimum)) ∧
      (minimum ≤ maximumPartCount → ∃ parts,
        splitMessageText messageText splitIntoGraphemeClusters = .ok parts ∧
          parts.length = minimum ∧ parts.flatten = messageText ∧
          (∀ part ∈ parts, part ≠ [] ∧ countUtf8Bytes part ≤ partTextMaximumBytes) ∧
          (KeepsPieces (splitIntoGraphemeClusters messageText) parts ↔
            ∃ other, IsSplit messageText other ∧ other.length = minimum ∧
              KeepsPieces (splitIntoGraphemeClusters messageText) other)) := by
  have hcodePoints : (codePoints messageText).flatten ≠ [] := by
    rwa [flatten_codePoints]
  obtain ⟨codePointParts, hpacked, hsplit, hfull, -, hlength⟩ :=
    packUnitsIntoParts_pieces hcodePoints
  rw [flatten_codePoints] at hsplit
  have hpieces : (splitIntoGraphemeClusters messageText).flatten ≠ [] := by
    rwa [hjoins]
  obtain ⟨graphemeParts, hpackedPieces, hsplitPieces, hfullPieces, hkeeps, hlengthPieces⟩ :=
    packUnitsIntoParts_pieces hpieces
  rw [hjoins] at hsplitPieces
  have hleast : ∀ parts, IsSplit messageText parts → codePointParts.length ≤ parts.length := by
    intro parts hparts
    rw [hlength]
    refine length_le_of_keepsPieces ?_ hcodePoints (keepsPieces_codePoints messageText parts)
    rwa [flatten_codePoints]
  have hleastPieces : ∀ parts, IsSplit messageText parts →
      KeepsPieces (splitIntoGraphemeClusters messageText) parts →
        graphemeParts.length ≤ parts.length := by
    intro parts hparts hkept
    rw [hlengthPieces]
    refine length_le_of_keepsPieces ?_ hpieces hkept
    rwa [hjoins]
  have hsplitText : splitMessageText messageText splitIntoGraphemeClusters =
      if maximumPartCount < codePointParts.length then
        .error (.messageTooLong (countUtf8Bytes messageText) codePointParts.length)
      else .ok (if graphemeParts.length = codePointParts.length then graphemeParts
        else codePointParts) := by
    have hcount : (if graphemeParts.length = codePointParts.length then graphemeParts
        else codePointParts).length = codePointParts.length := by
      split
      · assumption
      · rfl
    have hall : messageText.all isAllowedPartTextCharacter = true := List.all_eq_true.2 hallowed
    simp only [splitMessageText, requireSplittableMessageText, if_neg hnonempty, hall, hjoins,
      hpacked, hpackedPieces, not_true_eq_false, if_false, ne_eq, bind, Except.bind, pure,
      Except.pure, throw, throwThe, MonadExceptOf.throw]
    rw [hcount]
  refine ⟨codePointParts.length, ⟨⟨codePointParts, hsplit, rfl⟩, ?_⟩, fun hlong => ?_,
    fun hshort => ⟨_, by rw [hsplitText, if_neg (Nat.not_lt.2 hshort)], ?_⟩⟩
  · rintro n ⟨parts, hparts, rfl⟩
    exact hleast parts hparts
  · rw [hsplitText, if_pos hlong]
  · split
    · next heq =>
        refine ⟨heq, hsplitPieces.joins, fun part hpart =>
          ⟨hfullPieces part hpart, hsplitPieces.fits part hpart⟩, fun hkept => ?_, fun _ => hkeeps⟩
        exact ⟨graphemeParts, hsplitPieces, heq, hkept⟩
    · next hne =>
        -- a cut as short that keeps the pieces would make the grapheme parts as few
        have hnone : ∀ other, IsSplit messageText other → other.length = codePointParts.length →
            ¬ KeepsPieces (splitIntoGraphemeClusters messageText) other := by
          intro other hother hfew hkept
          refine hne (Nat.le_antisymm ?_ (hleast graphemeParts hsplitPieces))
          exact hfew ▸ hleastPieces other hother hkept
        refine ⟨rfl, hsplit.joins, fun part hpart =>
          ⟨hfull part hpart, hsplit.fits part hpart⟩, fun hkept => ?_, ?_⟩
        · exact absurd hkept (hnone codePointParts hsplit rfl)
        · rintro ⟨other, hother, hfew, hkept⟩
          exact absurd hkept (hnone other hother hfew)

/-- An accent that belongs to the last letter of a text of 106 bytes. -/
def sampleClusters : List Text :=
  codePoints ('a' :: List.replicate 34 '\u20ac') ++ [['e', '\u0301']]

/-- The accent stays with its letter, and the two parts are the fewest there are. -/
theorem split_message_text_fewest_sampleClusters :
    splitMessageText sampleClusters.flatten (fun _ => sampleClusters) =
        .ok ['a' :: List.replicate 34 '\u20ac', ['e', '\u0301']] ∧
      IsLeast (splitLengths sampleClusters.flatten) 2 := by
  have hsplit : splitMessageText sampleClusters.flatten (fun _ => sampleClusters) =
      .ok ['a' :: List.replicate 34 '\u20ac', ['e', '\u0301']] := by decide +kernel
  obtain ⟨minimum, hleast, hlong, hshort⟩ := split_message_text_fewest (fun _ => sampleClusters)
    sampleClusters.flatten (by decide +kernel) (List.all_eq_true.1 (by decide +kernel)) rfl
  rw [hsplit] at hlong hshort
  by_cases hle : minimum ≤ maximumPartCount
  · obtain ⟨parts, hparts, rfl, -⟩ := hshort hle
    obtain rfl := Except.ok.inj hparts
    exact ⟨hsplit, hleast⟩
  · cases hlong (Nat.lt_of_not_le hle)

end HoptalkRelay
