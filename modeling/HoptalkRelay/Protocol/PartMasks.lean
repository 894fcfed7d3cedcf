/-
**Masks of parts.**

Bit `n - 1` of a mask stands for part `n`.  What the masks of a message's deliveries have in
common is said bit by bit: a mask lies below `2 ^ n` when it has no bit beyond part `n`, and two
masks are disjoint when their intersection is zero.

Main results:

* `HoptalkRelay.partsOfMask_and_xor_bit`, `HoptalkRelay.partsOfMask_and_xor` — clearing bits removes
  parts;
* `HoptalkRelay.testBit_maskWithout`, `HoptalkRelay.testBit_calculateAllPartsMask` — the bits;
* `HoptalkRelay.maskWithout_and_self` — what is left is disjoint from what was removed;
* `HoptalkRelay.maskWithout_calculateAllPartsMask_eq_zero` — nothing is left exactly when every
  part was reported;
* `HoptalkRelay.lt_of_convertReceivedSetToPartsMask` — the mask of a received-set.
-/

import HoptalkRelay.Protocol.ReceivedSets
import Mathlib.Data.Nat.Bitwise
import Mathlib.Order.Interval.Finset.Nat

set_option relaxedAutoImplicit false
set_option autoImplicit false

namespace HoptalkRelay

/-! ### Bits -/

@[simp] theorem testBit_maskWithout (mask removed i : ℕ) :
    (maskWithout mask removed).testBit i = (mask.testBit i && !removed.testBit i) := by
  rw [maskWithout, Nat.testBit_xor, Nat.testBit_and]
  cases mask.testBit i <;> cases removed.testBit i <;> rfl

@[simp] theorem testBit_calculateAllPartsMask (partCount : PartCount) (i : ℕ) :
    (calculateAllPartsMask partCount).testBit i = decide (i < partCount.val) :=
  Nat.testBit_two_pow_sub_one partCount.val i

@[simp] theorem testBit_partsMaskMaximum (i : ℕ) :
    partsMaskMaximum.testBit i = decide (i < maximumPartCount) :=
  Nat.testBit_two_pow_sub_one maximumPartCount i

theorem calculateAllPartsMask_lt (partCount : PartCount) :
    calculateAllPartsMask partCount < 2 ^ partCount.val := by
  have hpos := Nat.two_pow_pos partCount.val
  unfold calculateAllPartsMask
  omega

theorem calculateAllPartsMask_ne_zero (partCount : PartCount) :
    calculateAllPartsMask partCount ≠ 0 := by
  intro hzero
  have hbit := testBit_calculateAllPartsMask partCount 0
  rw [hzero, Nat.zero_testBit] at hbit
  have hpos : 0 < partCount.val := partCount.property.1
  simp [hpos] at hbit

/-- A mask has no bit from its bound on. -/
theorem testBit_of_lt {n mask i : ℕ} (h : mask < 2 ^ n) (hi : mask.testBit i = true) : i < n := by
  by_contra hge
  rw [not_lt] at hge
  rw [Nat.testBit_eq_false_of_lt (h.trans_le (Nat.pow_le_pow_right (by decide) hge))] at hi
  exact absurd hi (by decide)

/-! ### Removing parts -/

theorem maskWithout_lt {n mask : ℕ} (h : mask < 2 ^ n) (removed : ℕ) :
    maskWithout mask removed < 2 ^ n := by
  refine Nat.lt_pow_two_of_testBit _ fun i hi => ?_
  rw [testBit_maskWithout, Bool.and_eq_false_iff]
  exact Or.inl (Nat.testBit_eq_false_of_lt (h.trans_le (Nat.pow_le_pow_right (by decide) hi)))

theorem and_lt {n mask : ℕ} (h : mask < 2 ^ n) (kept : ℕ) : mask &&& kept < 2 ^ n := by
  refine Nat.lt_pow_two_of_testBit _ fun i hi => ?_
  rw [Nat.testBit_and, Bool.and_eq_false_iff]
  exact Or.inl (Nat.testBit_eq_false_of_lt (h.trans_le (Nat.pow_le_pow_right (by decide) hi)))

/-- **What is left is disjoint from what was removed.** -/
theorem maskWithout_and_self (mask removed : ℕ) : maskWithout mask removed &&& removed = 0 := by
  refine Nat.eq_of_testBit_eq fun i => ?_
  rw [Nat.testBit_and, testBit_maskWithout, Nat.zero_testBit]
  cases mask.testBit i <;> cases removed.testBit i <;> rfl

/-- Removing a disjoint mask removes nothing. -/
theorem maskWithout_of_disjoint {mask removed : ℕ} (h : mask &&& removed = 0) :
    maskWithout mask removed = mask := by
  rw [maskWithout, h, Nat.xor_zero]

theorem and_and_eq_zero {mask other : ℕ} (h : mask &&& other = 0) (kept : ℕ) :
    mask &&& kept &&& other = 0 := by
  rw [Nat.land_assoc, Nat.land_comm kept, ← Nat.land_assoc, h, Nat.zero_and]

/-- Clearing the bits of a mask of at most ten parts leaves none of them. -/
theorem and_xor_and_self (round : ℕ) {mask : ℕ} (h : mask < 2 ^ maximumPartCount) :
    round &&& (partsMaskMaximum ^^^ mask) &&& mask = 0 := by
  refine Nat.eq_of_testBit_eq fun i => ?_
  rw [Nat.testBit_and, Nat.testBit_and, Nat.testBit_xor, testBit_partsMaskMaximum,
    Nat.zero_testBit]
  cases hi : mask.testBit i with
  | false => simp
  | true => simp [testBit_of_lt h hi]

/-- **Nothing is left exactly when every part was reported.** -/
theorem maskWithout_calculateAllPartsMask_eq_zero {partCount : PartCount} {received : ℕ}
    (h : received < 2 ^ partCount.val) :
    maskWithout (calculateAllPartsMask partCount) received = 0 ↔
      received = calculateAllPartsMask partCount := by
  constructor
  · intro hzero
    refine Nat.eq_of_testBit_eq fun i => ?_
    have hbit := testBit_maskWithout (calculateAllPartsMask partCount) received i
    rw [hzero, Nat.zero_testBit, testBit_calculateAllPartsMask] at hbit
    rw [testBit_calculateAllPartsMask]
    cases hi : received.testBit i with
    | false => simpa [hi] using hbit
    | true => simp [testBit_of_lt h hi]
  · rintro rfl
    rw [maskWithout, Nat.and_self, Nat.xor_self]

/-! ### The parts of a mask -/

/-- The numbers of the parts a mask stands for. -/
def partsOfMask (mask : ℕ) : Finset ℕ :=
  (Finset.Icc 1 maximumPartCount).filter fun partNumber => mask.testBit (partNumber - 1)

theorem mem_partsOfMask {mask partNumber : ℕ} :
    partNumber ∈ partsOfMask mask ↔
      1 ≤ partNumber ∧ partNumber ≤ maximumPartCount ∧ mask.testBit (partNumber - 1) = true := by
  simp [partsOfMask, and_assoc]

/-- A mask of at most ten parts without a part is zero. -/
theorem partsOfMask_eq_empty_iff {mask : ℕ} (h : mask < 2 ^ maximumPartCount) :
    partsOfMask mask = ∅ ↔ mask = 0 := by
  constructor
  · intro hempty
    refine Nat.eq_of_testBit_eq fun i => ?_
    rw [Nat.zero_testBit]
    by_contra hbit
    rw [Bool.not_eq_false] at hbit
    have hlt := testBit_of_lt h hbit
    have hmem : i + 1 ∈ partsOfMask mask :=
      mem_partsOfMask.2 ⟨by omega, by omega, by simpa using hbit⟩
    rw [hempty] at hmem
    simp at hmem
  · rintro rfl
    simp [partsOfMask]

/-- **Clearing the bit of a part** removes the part. -/
theorem partsOfMask_and_xor_bit (mask : ℕ) {partNumber : ℕ} (hpart : 0 < partNumber) :
    partsOfMask (mask &&& (partsMaskMaximum ^^^ 2 ^ (partNumber - 1))) =
      (partsOfMask mask).erase partNumber := by
  ext n
  simp only [mem_partsOfMask, Finset.mem_erase, Nat.testBit_and, Nat.testBit_xor,
    testBit_partsMaskMaximum, Nat.testBit_two_pow]
  by_cases hn : 1 ≤ n ∧ n ≤ maximumPartCount
  · have hlt : n - 1 < maximumPartCount := by omega
    by_cases heq : n = partNumber
    · simp [heq]
      omega
    · have hne : partNumber - 1 ≠ n - 1 := by omega
      simp [hn.1, hn.2, hlt, heq, hne]
  · constructor
    · rintro ⟨h₁, h₂, -⟩
      exact absurd ⟨h₁, h₂⟩ hn
    · rintro ⟨-, h₁, h₂, -⟩
      exact absurd ⟨h₁, h₂⟩ hn

/-- **Clearing the bits of a set of parts** removes them. -/
theorem partsOfMask_and_xor (mask removed : ℕ) :
    partsOfMask (mask &&& (partsMaskMaximum ^^^ removed)) =
      partsOfMask mask \ partsOfMask removed := by
  ext n
  simp only [mem_partsOfMask, Finset.mem_sdiff, Nat.testBit_and, Nat.testBit_xor,
    testBit_partsMaskMaximum]
  by_cases hn : 1 ≤ n ∧ n ≤ maximumPartCount
  · have hlt : n - 1 < maximumPartCount := by omega
    simp [hn.1, hn.2, hlt]
  · constructor
    · rintro ⟨h₁, h₂, -⟩
      exact absurd ⟨h₁, h₂⟩ hn
    · rintro ⟨⟨h₁, h₂, -⟩, -⟩
      exact absurd ⟨h₁, h₂⟩ hn

/-! ### Received-sets -/

theorem receivedSetMaskFrom_lt (partIndex : ℕ) (receivedSet : Text) :
    receivedSetMaskFrom partIndex receivedSet < 2 ^ (partIndex + receivedSet.length) := by
  induction receivedSet generalizing partIndex with
  | nil => exact Nat.two_pow_pos _
  | cons c receivedSet ih =>
      rw [receivedSetMaskFrom, List.length_cons]
      have hrest := ih (partIndex + 1)
      rw [show partIndex + 1 + receivedSet.length = partIndex + (receivedSet.length + 1) by omega]
        at hrest
      refine Nat.or_lt_two_pow ?_ hrest
      split
      · exact Nat.pow_lt_pow_right (by decide) (by omega)
      · exact Nat.two_pow_pos _

/-- **The mask of a received-set** has no bit beyond its last character. -/
theorem lt_of_convertReceivedSetToPartsMask {receivedSet : Text} {partCount : PartCount}
    {mask : ℕ} (hmatch : receivedSetMatchesPartCount receivedSet partCount = true)
    (h : convertReceivedSetToPartsMask receivedSet = some mask) : mask < 2 ^ partCount.val := by
  unfold convertReceivedSetToPartsMask at h
  split at h
  · obtain rfl := Option.some.inj h
    have hlt := receivedSetMaskFrom_lt 0 receivedSet
    rwa [Nat.zero_add, beq_iff_eq.mp hmatch] at hlt
  · simp at h

theorem two_pow_partCount_le (partCount : PartCount) :
    2 ^ partCount.val ≤ 2 ^ maximumPartCount :=
  Nat.pow_le_pow_right (by decide) partCount.property.2

end HoptalkRelay
