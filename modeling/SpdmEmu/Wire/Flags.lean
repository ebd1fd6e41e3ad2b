import Mathlib.Data.Nat.Bitwise
import Mathlib.Data.Set.Insert
import Mathlib.Order.Interval.Set.Defs

/-!
# Words as sets of flags

A flag word is the set of its bits, `flags`. The tests that C code makes with masks are stated here
on these sets: two words have a bit in common, one word has all the bits of another, a word has
exactly one bit, and a bitmap has or gets the bit of an index.
-/

set_option autoImplicit false

namespace SpdmEmu.Wire

/-- The bits that are set in a word. -/
def flags (x : Nat) : Set Nat := {i | x.testBit i = true}

@[simp] theorem mem_flags {x i : Nat} : i ∈ flags x ↔ x.testBit i = true := Iff.rfl

@[simp] theorem flags_zero : flags 0 = ∅ := by
  ext i
  simp

theorem flags_and (x y : Nat) : flags (x &&& y) = flags x ∩ flags y := by
  ext i
  simp

theorem flags_or (x y : Nat) : flags (x ||| y) = flags x ∪ flags y := by
  ext i
  simp

theorem flags_two_pow (n : Nat) : flags (2 ^ n) = {n} := by
  ext i
  simp [Nat.testBit_two_pow, eq_comm]

/-- The words `0x1`, `0x3`, `0x7` and so on are the initial sets of bits. -/
theorem flags_two_pow_sub_one (n : Nat) : flags (2 ^ n - 1) = Set.Iio n := by
  ext i
  simp [Nat.testBit_two_pow_sub_one]

theorem flags_injective : Function.Injective flags := by
  intro x y h
  apply Nat.eq_of_testBit_eq
  intro i
  have hi : i ∈ flags x ↔ i ∈ flags y := by rw [h]
  exact Bool.eq_iff_iff.2 hi

theorem flags_nonempty_iff (x : Nat) : (flags x).Nonempty ↔ x ≠ 0 := by
  constructor
  · rintro ⟨i, hi⟩ rfl
    simp at hi
  · intro h
    exact Nat.exists_testBit_of_ne_zero h

/-! ## Tests of 16-bit words -/

/-- A test with a mask asks for a bit in common. -/
theorem and_ne_zero_iff (x mask : UInt16) :
    x &&& mask ≠ 0 ↔ (flags x.toNat ∩ flags mask.toNat).Nonempty := by
  rw [← flags_and, ← UInt16.toNat_and, flags_nonempty_iff, ne_eq, ne_eq, ← UInt16.toNat_inj]
  rfl

/-- The comparison `(x & y) == x` asks for all the bits of `x` in `y`. -/
theorem and_eq_left_iff (x y : UInt16) : x &&& y = x ↔ flags x.toNat ⊆ flags y.toNat := by
  rw [← UInt16.toNat_inj, UInt16.toNat_and, ← flags_injective.eq_iff, flags_and]
  exact Set.inter_eq_left

/-! ## Sets of 32-bit words -/

/-- The comparison `(x & y) == y` asks for all the bits of `y` in `x`. -/
theorem and_eq_right_iff (x y : UInt32) : x &&& y = y ↔ flags y.toNat ⊆ flags x.toNat := by
  rw [← UInt32.toNat_inj, UInt32.toNat_and, ← flags_injective.eq_iff, flags_and]
  exact Set.inter_eq_right

/-- `x & ~y` has the bits of `x` that `y` has not. -/
theorem mem_flags_and_not {x y : UInt32} {i : Nat} :
    i ∈ flags (x &&& ~~~y).toNat ↔ i ∈ flags x.toNat ∧ i ∉ flags y.toNat := by
  show (x.toBitVec &&& ~~~y.toBitVec).getLsbD i = true ↔
    x.toBitVec.getLsbD i = true ∧ ¬ y.toBitVec.getLsbD i = true
  rw [BitVec.getLsbD_and, BitVec.getLsbD_not]
  by_cases hi : i < 32
  · simp [hi]
  · simp [BitVec.getLsbD_of_ge _ _ (Nat.le_of_not_lt hi)]

/-! ## Single bits of 32-bit words -/

/-- Clearing the lowest bit of a word leaves nothing exactly when it was the only one. -/
theorem and_sub_one_eq_zero_iff {x : UInt32} (hx : x ≠ 0) :
    x &&& (x - 1) = 0 ↔ ∃ i, flags x.toNat = {i} := by
  have hpos : x.toNat ≠ 0 := fun h => hx (UInt32.toNat_inj.1 h)
  have hsub : (x - 1).toNat = x.toNat - 1 :=
    UInt32.toNat_sub_of_le _ _ (UInt32.le_iff_toNat_le.2 (Nat.one_le_iff_ne_zero.2 hpos))
  rw [← UInt32.toNat_inj, UInt32.toNat_and, hsub]
  refine (Nat.and_sub_one_eq_zero_iff_isPowerOfTwo hpos).trans (exists_congr fun i => ?_)
  rw [← flags_two_pow, flags_injective.eq_iff]

/-- A word with at most one bit that meets another word has exactly one bit, and it is in both. -/
theorem single_and_ne_zero_iff (x y : UInt32) :
    (x = 0 ∨ x &&& (x - 1) = 0) ∧ x &&& y ≠ 0 ↔ ∃ i ∈ flags y.toNat, flags x.toNat = {i} := by
  have hmeets : x &&& y ≠ 0 ↔ (flags x.toNat ∩ flags y.toNat).Nonempty := by
    rw [← flags_and, ← UInt32.toNat_and, flags_nonempty_iff, ne_eq, ne_eq, ← UInt32.toNat_inj]
    rfl
  rw [hmeets]
  constructor
  · rintro ⟨hsingle, hcommon⟩
    have hx : x ≠ 0 := by
      rintro rfl
      simp at hcommon
    obtain ⟨i, hi⟩ := (and_sub_one_eq_zero_iff hx).1 (hsingle.resolve_left hx)
    rw [hi, Set.singleton_inter_nonempty] at hcommon
    exact ⟨i, hcommon, hi⟩
  · rintro ⟨i, hy, hi⟩
    have hx : x ≠ 0 := by
      rintro rfl
      simp at hi
    refine ⟨.inr ((and_sub_one_eq_zero_iff hx).2 ⟨i, hi⟩), ?_⟩
    rw [hi, Set.singleton_inter_nonempty]
    exact hy

/-! ## Bitmaps -/

theorem flags_one_shiftLeft {index : UInt8} (h : index ≤ 7) :
    flags ((1 : UInt8) <<< index).toNat = {index.toNat} := by
  have hle : index.toNat ≤ 7 := UInt8.le_iff_toNat_le.1 h
  have hlt : 2 ^ index.toNat < 2 ^ 8 := Nat.pow_lt_pow_right (by decide) (by omega)
  have hpow : ((1 : UInt8) <<< index).toNat = 2 ^ index.toNat := by
    rw [UInt8.toNat_shiftLeft, Nat.mod_eq_of_lt (by omega : index.toNat < 8)]
    show 1 <<< index.toNat % 2 ^ 8 = 2 ^ index.toNat
    rw [Nat.one_shiftLeft, Nat.mod_eq_of_lt hlt]
  rw [hpow, flags_two_pow]

/-- The test of a bitmap for an index. -/
theorem bitmap_and_ne_zero_iff (bitmap : UInt8) {index : UInt8} (h : index ≤ 7) :
    bitmap &&& (1 <<< index) ≠ 0 ↔ index.toNat ∈ flags bitmap.toNat := by
  rw [ne_eq, ← UInt8.toNat_inj, ← ne_eq]
  show (bitmap &&& (1 <<< index)).toNat ≠ 0 ↔ _
  rw [← flags_nonempty_iff, UInt8.toNat_and, flags_and, flags_one_shiftLeft h,
    Set.inter_singleton_nonempty]

/-- The bitmap after an index was added. -/
theorem flags_bitmap_or (bitmap : UInt8) {index : UInt8} (h : index ≤ 7) :
    flags (bitmap ||| (1 <<< index)).toNat = insert index.toNat (flags bitmap.toNat) := by
  rw [UInt8.toNat_or, flags_or, flags_one_shiftLeft h, Set.union_singleton]

end SpdmEmu.Wire
