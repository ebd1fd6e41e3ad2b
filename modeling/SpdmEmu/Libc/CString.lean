import Mathlib.Data.List.Infix
import SpdmEmu.Wire.Reading

/-!
# Strings in memory

A C string is a sequence of bytes other than 0 with a 0 behind it. `StringAt` says that one stands
at an address, `OccursAt` where one string occurs in another, and `FindsByte` is the contract of the
functions that search for a byte (C11, 7.24.5.1 and 7.24.5.2).
-/

set_option autoImplicit false

namespace SpdmEmu.Libc

open SpdmEmu.Wire

/-- The string `s` stands at an address, with its terminator. -/
structure StringAt (m : Mem) (address : Nat) (s : Bytes) : Prop where
  bytes : m.load address s.length = s
  terminator : m (address + s.length) = 0
  nonzero : ∀ b ∈ s, b ≠ 0

/-- The address is one of the string at `start` or of its terminator. -/
def InString (start : Nat) (s : Bytes) (address : Nat) : Prop :=
  start ≤ address ∧ address ≤ start + s.length

/-- The string `p` stands in `s` at the position `k`. -/
def OccursAt (p s : Bytes) (k : Nat) : Prop := k ≤ s.length ∧ p <+: s.drop k

/-- The first position at which `p` stands in `s`. -/
def FirstAt (p s : Bytes) (k : Nat) : Prop := OccursAt p s k ∧ ∀ j < k, ¬ OccursAt p s j

/-- A run that searches the `n` bytes at an address for a byte: it returns the address of the first
such byte, or `NULL` if there is none, and reads no other byte. -/
structure FindsByte (m : Mem) (ptr n : Nat) (c : UInt8) (run : Traced (Option Nat)) : Prop where
  result : run.value = some (((m.load ptr n).findIdx? (· == c)).map (ptr + ·))
  reads : ∀ address ∈ run.reads, ptr ≤ address ∧ address < ptr + n

/-! ## Bytes of a range -/

theorem mem_load {m : Mem} {ptr n : Nat} {c : UInt8} :
    c ∈ m.load ptr n ↔ ∃ i < n, m (ptr + i) = c := by
  simp [Mem.load]

theorem take_load (m : Mem) (ptr n k : Nat) :
    (m.load ptr n).take k = m.load ptr (min n k) := by
  rw [Mem.load, Mem.load, ← List.map_take, List.take_range, Nat.min_comm]

theorem findIdx?_load_eq_some {m : Mem} {ptr n i : Nat} {f : UInt8 → Bool} :
    (m.load ptr n).findIdx? f = some i ↔
      i < n ∧ f (m (ptr + i)) = true ∧ ∀ j < i, f (m (ptr + j)) = false := by
  rw [List.findIdx?_eq_some_iff_getElem]
  simp [Mem.load, and_left_comm]

namespace FindsByte

/-- Reads of the searched bytes may come before the search. -/
theorem append_reads_iff {m : Mem} {ptr n : Nat} {c : UInt8} {value : Option (Option Nat)}
    {before reads : List Nat}
    (hbefore : ∀ address ∈ before, ptr ≤ address ∧ address < ptr + n) :
    FindsByte m ptr n c ⟨value, before ++ reads⟩ ↔ FindsByte m ptr n c ⟨value, reads⟩ := by
  constructor
  · intro h
    exact ⟨h.result, fun a ha => h.reads a (List.mem_append_right before ha)⟩
  · intro h
    refine ⟨h.result, fun a ha => ?_⟩
    rcases List.mem_append.mp ha with ha | ha
    · exact hbefore a ha
    · exact h.reads a ha

end FindsByte

/-- A run that reads up to the byte it returns. -/
theorem findsByte_some_iff {m : Mem} {ptr n i : Nat} {c : UInt8} :
    FindsByte m ptr n c ⟨some (some (ptr + i)), List.range' ptr (i + 1)⟩ ↔
      (m.load ptr n).findIdx? (· == c) = some i := by
  constructor
  · intro h
    have hresult := Option.some.inj h.result.symm
    obtain ⟨j, hj, hij⟩ := Option.map_eq_some_iff.mp hresult
    obtain rfl : j = i := by omega
    exact hj
  · intro h
    refine ⟨by rw [h]; rfl, ?_⟩
    intro address haddress
    have hi := (findIdx?_load_eq_some.mp h).1
    rw [List.mem_range'_1] at haddress
    omega

/-- A run that reads `k` bytes and returns `NULL`. -/
theorem findsByte_none_iff {m : Mem} {ptr n k : Nat} {c : UInt8} :
    FindsByte m ptr n c ⟨some none, List.range' ptr k⟩ ↔ c ∉ m.load ptr n ∧ k ≤ n := by
  have habsent : (m.load ptr n).findIdx? (· == c) = none ↔ c ∉ m.load ptr n := by
    simp [List.findIdx?_eq_none_iff, List.forall_mem_ne']
  constructor
  · intro h
    have hresult := Option.map_eq_none_iff.mp (Option.some.inj h.result.symm)
    refine ⟨habsent.mp hresult, ?_⟩
    by_contra hlt
    -- the last byte that is read
    have hlast := h.reads (ptr + (k - 1)) (List.mem_range'_1.mpr (by omega))
    omega
  · rintro ⟨hc, hk⟩
    refine ⟨by rw [habsent.mpr hc]; rfl, ?_⟩
    intro address haddress
    rw [List.mem_range'_1] at haddress
    omega

/-! ## Strings -/

namespace StringAt

variable {m : Mem} {address : Nat} {s : Bytes}

theorem getElem (h : StringAt m address s) {i : Nat} (hi : i < s.length) :
    m (address + i) = s[i] := by
  have hload : (m.load address s.length)[i]? = s[i]? := by rw [h.bytes]
  simpa [Mem.load, hi] using hload

theorem ne_zero (h : StringAt m address s) {i : Nat} (hi : i < s.length) :
    m (address + i) ≠ 0 := by
  rw [h.getElem hi]
  exact h.nonzero _ (List.getElem_mem hi)

/-- Up to the terminator, the 0 is the terminator. -/
theorem eq_zero_iff (h : StringAt m address s) {i : Nat} (hi : i ≤ s.length) :
    m (address + i) = 0 ↔ i = s.length := by
  constructor
  · intro hzero
    by_contra hne
    exact h.ne_zero (by omega) hzero
  · rintro rfl
    exact h.terminator

theorem tail {b : UInt8} (h : StringAt m address (b :: s)) : StringAt m (address + 1) s := by
  refine ⟨?_, ?_, fun c hc => h.nonzero c (List.mem_cons_of_mem b hc)⟩
  · apply List.ext_getElem (by simp)
    intro i h1 h2
    have hi := h.getElem (i := i + 1) (by simpa using h2)
    simpa [Mem.load, Nat.add_assoc, Nat.add_comm 1 i] using hi
  · simpa [Nat.add_assoc, Nat.add_comm 1 s.length] using h.terminator

/-- The string with its terminator, as one range of the memory. -/
theorem load_terminated (h : StringAt m address s) :
    m.load address (s.length + 1) = s ++ [0] := by
  rw [Mem.load_add, h.bytes]
  simp [Mem.load, h.terminator]

end StringAt

/-! ## Occurrences -/

variable {p s : Bytes}

theorem isInfix_iff_occursAt : p <:+: s ↔ ∃ k, OccursAt p s k := by
  constructor
  · rintro ⟨before, after, h⟩
    refine ⟨before.length, ?_, after, ?_⟩
    · rw [← h]
      simp
    · rw [← h]
      simp
  · rintro ⟨k, -, h⟩
    exact h.isInfix.trans (List.drop_suffix k s).isInfix

theorem FirstAt.eq {j k : Nat} (hj : FirstAt p s j) (hk : FirstAt p s k) : j = k := by
  rcases Nat.lt_trichotomy j k with h | h | h
  · exact absurd hj.1 (hk.2 j h)
  · exact h
  · exact absurd hk.1 (hj.2 k h)

/-- Too little is left of `s`. -/
theorem not_occursAt_of_lt {k : Nat} (h : s.length < k + p.length) : ¬ OccursAt p s k := by
  rintro ⟨hk, hprefix⟩
  have := hprefix.length_le
  rw [List.length_drop] at this
  omega

/-- `s` agrees with `p` at every index of `p`. -/
theorem occursAt_of_getElem? {k : Nat} (hk : k ≤ s.length)
    (h : ∀ i < p.length, s[k + i]? = p[i]?) : OccursAt p s k := by
  refine ⟨hk, List.prefix_iff_getElem?.mpr ?_⟩
  intro i hi
  rw [List.getElem?_drop, h i hi, List.getElem?_eq_getElem hi]

theorem OccursAt.getElem? {k i : Nat} (h : OccursAt p s k) (hi : i < p.length) :
    s[k + i]? = p[i]? := by
  have := List.prefix_iff_getElem?.mp h.2 i hi
  rw [← List.getElem?_drop, this, List.getElem?_eq_getElem hi]

end SpdmEmu.Libc
