import SpdmEmu.Wire.Packed

/-!
# Memory behind a pointer

A C function that receives a pointer and a length can write past the length. `Mem` is the memory
that starts at a pointer, without an end, so that such a write is a change at a high index and
"nothing is written past `n`" is a statement about the indices from `n` on, for every initial
content.
-/

set_option autoImplicit false

namespace SpdmEmu.Wire

/-- The memory that starts at a pointer. -/
abbrev Mem := Nat → UInt8

namespace Mem

/-- Write `bs` at the offset `off`. -/
def store (m : Mem) (off : Nat) (bs : Bytes) : Mem := fun i =>
  if i < off then m i else (bs[i - off]?).getD (m i)

/-- Read `n` bytes at the offset `off`. -/
def load (m : Mem) (off n : Nat) : Bytes := (List.range n).map fun i => m (off + i)

@[simp] theorem length_load (m : Mem) (off n : Nat) : (m.load off n).length = n := by
  simp [load]

@[simp] theorem store_nil (m : Mem) (off : Nat) : m.store off [] = m := by
  funext i
  simp [store]

/-- A write leaves the bytes before it alone. -/
theorem store_of_lt (m : Mem) {off i : Nat} (bs : Bytes) (h : i < off) : m.store off bs i = m i :=
  if_pos h

/-- A write leaves the bytes after it alone. -/
theorem store_of_ge (m : Mem) {off i : Nat} (bs : Bytes) (h : off + bs.length ≤ i) :
    m.store off bs i = m i := by
  have hi : ¬ i < off := by omega
  have hget : bs[i - off]? = none := List.getElem?_eq_none (by omega)
  simp [store, hi, hget]

theorem store_at (m : Mem) {off i : Nat} (bs : Bytes) (h : i < bs.length) :
    m.store off bs (off + i) = bs[i] := by
  have hi : ¬ off + i < off := by omega
  have hsub : off + i - off = i := by omega
  simp [store, hi, hsub, List.getElem?_eq_getElem h]

/-- Two writes of which the second starts where the first ends are one write. -/
theorem store_append (m : Mem) (off : Nat) (xs ys : Bytes) :
    (m.store off xs).store (off + xs.length) ys = m.store off (xs ++ ys) := by
  funext i
  -- before the seam the second write does nothing, after it the first
  by_cases h1 : i < off + xs.length
  · rw [store_of_lt _ _ h1]
    by_cases h2 : i < off
    · rw [store_of_lt _ _ h2, store_of_lt _ _ h2]
    · have hx : i - off < xs.length := by omega
      simp [store, h2, List.getElem?_append_left hx]
  · have h2 : ¬ i < off := by omega
    have hx : xs.length ≤ i - off := by omega
    have e : i - (off + xs.length) = i - off - xs.length := by omega
    have hxn : xs[i - off]? = none := List.getElem?_eq_none hx
    simp [store, h1, h2, List.getElem?_append_right hx, hxn, e]

/-- Reading back what was written. -/
@[simp] theorem load_store (m : Mem) (off : Nat) (bs : Bytes) :
    (m.store off bs).load off bs.length = bs := by
  apply List.ext_getElem
  · simp
  · intro i h1 h2
    simp [load, store_at m bs h2]

theorem load_add (m : Mem) (off a b : Nat) :
    m.load off (a + b) = m.load off a ++ m.load (off + a) b := by
  simp [load, List.range_add, Nat.add_assoc]

theorem load_succ (m : Mem) (off n : Nat) :
    m.load off (n + 1) = m off :: m.load (off + 1) n := by
  rw [Nat.add_comm n 1, load_add]
  rfl

/-- What is read in one piece can be read in two. -/
theorem load_of_load_append {m : Mem} {off : Nat} {xs ys : Bytes}
    (h : m.load off (xs.length + ys.length) = xs ++ ys) :
    m.load off xs.length = xs ∧ m.load (off + xs.length) ys.length = ys := by
  rw [load_add] at h
  exact List.append_inj h (length_load _ _ _)

theorem load_store_take (m : Mem) {n : Nat} (bs : Bytes) (h : n ≤ bs.length) :
    (m.store 0 bs).load 0 n = bs.take n := by
  have hsplit := load_add (m.store 0 bs) 0 n (bs.length - n)
  rw [Nat.add_sub_cancel' h, load_store] at hsplit
  have htake := congrArg (List.take n) hsplit
  rw [List.take_left' (length_load _ _ _)] at htake
  exact htake.symm

theorem load_store_drop (m : Mem) {n : Nat} (bs : Bytes) (h : n ≤ bs.length) :
    (m.store 0 bs).load n (bs.length - n) = bs.drop n := by
  have hsplit := load_add (m.store 0 bs) 0 n (bs.length - n)
  rw [Nat.add_sub_cancel' h, load_store, Nat.zero_add] at hsplit
  have hdrop := congrArg (List.drop n) hsplit
  rw [List.drop_left' (length_load _ _ _)] at hdrop
  exact hdrop.symm

/-- Writes before an offset do not change what is read there. -/
theorem load_store_of_le (m : Mem) {off start : Nat} (bs : Bytes) (n : Nat)
    (h : off + bs.length ≤ start) : (m.store off bs).load start n = m.load start n := by
  apply List.map_congr_left
  intro i _
  exact store_of_ge m bs (by omega)

/-- A header written at the start and the bytes after it. -/
theorem load_store_append (m : Mem) {header : Bytes} {k : Nat} (hk : header.length = k) (n : Nat) :
    (m.store 0 header).load 0 (k + n) = header ++ m.load k n := by
  subst hk
  rw [load_add, load_store, Nat.zero_add, load_store_of_le m header n (by omega)]

/-- The bytes up to an offset and what is written there. -/
theorem load_store_end (m : Mem) (off : Nat) (bs : Bytes) :
    (m.store off bs).load 0 (off + bs.length) = m.load 0 off ++ bs := by
  rw [load_add, Nat.zero_add, load_store]
  congr 1
  apply List.map_congr_left
  intro i hi
  exact store_of_lt m bs (by rw [List.mem_range] at hi; omega)

/-- A write shows at an index below its end for some initial content: a function that writes `bs`
at `off` whatever the memory holds can be seen to touch every index it covers. -/
theorem exists_store_ne {off i : Nat} (bs : Bytes) (h1 : off ≤ i) (h2 : i < off + bs.length) :
    ∃ m : Mem, m.store off bs i ≠ m i := by
  obtain ⟨k, rfl⟩ := Nat.exists_eq_add_of_le h1
  have hk : k < bs.length := by omega
  -- memory that differs from what is written
  refine ⟨fun _ => bs[k] + 1, ?_⟩
  rw [store_at _ bs hk]
  intro h
  simp at h

end Mem

end SpdmEmu.Wire
