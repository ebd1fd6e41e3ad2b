import Mathlib.Tactic.Ring

/-!
# Packed structures

A message of a byte-oriented protocol is a C structure without padding: its size is fixed, writing
it yields that many bytes, and reading it looks at the first `size` bytes of a byte string and at
nothing else. `Packed α` is such a layout for values of type `α`. A program that only reads and
writes whole structures can be verified for every layout; the combinators at the end of the module
build concrete ones from little-endian integers, byte blobs, reserved bytes and concatenation.
-/

set_option autoImplicit false

namespace SpdmEmu.Wire

universe u v

/-- A byte string. -/
abbrev Bytes := List UInt8

/-- The layout of a packed structure with values in `α`. Reading is total; a reader checks the
length of its input before it relies on the result. -/
structure Packed (α : Type u) where
  size : Nat
  encode : α → Bytes
  decode : Bytes → α
  length_encode : ∀ a, (encode a).length = size
  decode_append : ∀ a rest, decode (encode a ++ rest) = a

namespace Packed

variable {α : Type u} {β : Type v}

@[simp] theorem length_encode_eq (p : Packed α) (a : α) : (p.encode a).length = p.size :=
  p.length_encode a

@[simp] theorem decode_encode_append (p : Packed α) (a : α) (rest : Bytes) :
    p.decode (p.encode a ++ rest) = a :=
  p.decode_append a rest

@[simp] theorem decode_encode (p : Packed α) (a : α) : p.decode (p.encode a) = a := by
  have h := p.decode_append a []
  rwa [List.append_nil] at h

/-- The bytes after a structure are what remains when its size is dropped. -/
@[simp] theorem drop_encode_append (p : Packed α) (a : α) (rest : Bytes) :
    (p.encode a ++ rest).drop p.size = rest := by
  rw [← p.length_encode a, List.drop_left]

end Packed

/-! ## Little-endian integers -/

/-- The `n` little-endian bytes of `x`. -/
def leBytes : Nat → Nat → Bytes
  | 0, _ => []
  | n + 1, x => UInt8.ofNat x :: leBytes n (x / 256)

/-- The value of the first `n` bytes read as a little-endian number. -/
def leValue : Nat → Bytes → Nat
  | 0, _ => 0
  | _ + 1, [] => 0
  | n + 1, b :: bs => b.toNat + 256 * leValue n bs

theorem length_leBytes (n x : Nat) : (leBytes n x).length = n := by
  induction n generalizing x with
  | zero => rfl
  | succ n ih => simp [leBytes, ih]

theorem leValue_leBytes (n x : Nat) (rest : Bytes) :
    leValue n (leBytes n x ++ rest) = x % 256 ^ n := by
  induction n generalizing x with
  | zero => simp [leValue, Nat.mod_one]
  | succ n ih =>
      have hb : (UInt8.ofNat x).toNat = x % 256 := rfl
      simp only [leBytes, List.cons_append, leValue, ih, hb]
      rw [Nat.pow_succ, Nat.mul_comm (256 ^ n) 256, Nat.mod_mul]

namespace Packed

variable {α : Type u} {β : Type v}

/-- A single byte. -/
def u8 : Packed UInt8 where
  size := 1
  encode x := [x]
  decode bs := bs.headD 0
  length_encode _ := rfl
  decode_append _ _ := rfl

/-- A 16-bit little-endian integer. -/
def u16 : Packed UInt16 where
  size := 2
  encode x := leBytes 2 x.toNat
  decode bs := UInt16.ofNat (leValue 2 bs)
  length_encode x := length_leBytes 2 x.toNat
  decode_append x rest := by
    rw [leValue_leBytes, Nat.mod_eq_of_lt (by simpa using x.toNat_lt)]
    exact UInt16.ofNat_toNat

/-- A 32-bit little-endian integer. -/
def u32 : Packed UInt32 where
  size := 4
  encode x := leBytes 4 x.toNat
  decode bs := UInt32.ofNat (leValue 4 bs)
  length_encode x := length_leBytes 4 x.toNat
  decode_append x rest := by
    rw [leValue_leBytes, Nat.mod_eq_of_lt (by simpa using x.toNat_lt)]
    exact UInt32.ofNat_toNat

/-- A 64-bit little-endian integer. -/
def u64 : Packed UInt64 where
  size := 8
  encode x := leBytes 8 x.toNat
  decode bs := UInt64.ofNat (leValue 8 bs)
  length_encode x := length_leBytes 8 x.toNat
  decode_append x rest := by
    rw [leValue_leBytes, Nat.mod_eq_of_lt (by simpa using x.toNat_lt)]
    exact UInt64.ofNat_toNat

/-- One structure after the other. -/
def pair (p : Packed α) (q : Packed β) : Packed (α × β) where
  size := p.size + q.size
  encode x := p.encode x.1 ++ q.encode x.2
  decode bs := (p.decode bs, q.decode (bs.drop p.size))
  length_encode x := by rw [List.length_append, p.length_encode, q.length_encode]
  decode_append x rest := by
    rw [List.append_assoc, p.decode_append, p.drop_encode_append, q.decode_append]

/-- `n` reserved bytes and nothing else. -/
def reserved (n : Nat) : Packed Unit where
  size := n
  encode _ := List.replicate n 0
  decode _ := ()
  length_encode _ := List.length_replicate
  decode_append _ _ := rfl

/-- A structure followed by `n` reserved bytes, written as zero and not read. -/
def reserve (p : Packed α) (n : Nat) : Packed α where
  size := p.size + n
  encode x := p.encode x ++ List.replicate n 0
  decode := p.decode
  length_encode x := by rw [List.length_append, p.length_encode, List.length_replicate]
  decode_append x rest := by rw [List.append_assoc, p.decode_append]

/-- The same bytes seen through another type. -/
def view (p : Packed α) (f : α → β) (g : β → α) (hfg : ∀ b, f (g b) = b) : Packed β where
  size := p.size
  encode b := p.encode (g b)
  decode bs := f (p.decode bs)
  length_encode b := p.length_encode (g b)
  decode_append b rest := by rw [p.decode_append, hfg]

/-- The elements of an array, one after the other. -/
def encodeList (p : Packed α) (xs : List α) : Bytes := xs.flatMap p.encode

/-- `n` consecutive structures. -/
def decodeList (p : Packed α) : Nat → Bytes → List α
  | 0, _ => []
  | n + 1, bs => p.decode bs :: p.decodeList n (bs.drop p.size)

theorem length_decodeList (p : Packed α) (n : Nat) (bs : Bytes) :
    (p.decodeList n bs).length = n := by
  induction n generalizing bs with
  | zero => rfl
  | succ n ih => simp [decodeList, ih]

theorem length_encodeList (p : Packed α) (xs : List α) :
    (p.encodeList xs).length = xs.length * p.size := by
  induction xs with
  | nil => simp [encodeList]
  | cons x xs ih =>
      simp only [encodeList, List.flatMap_cons, List.length_append] at ih ⊢
      rw [ih, p.length_encode, List.length_cons]
      ring

theorem decodeList_encodeList (p : Packed α) (xs : List α) (rest : Bytes) :
    p.decodeList xs.length (p.encodeList xs ++ rest) = xs := by
  induction xs with
  | nil => rfl
  | cons x xs ih =>
      simp only [encodeList, List.flatMap_cons, List.append_assoc] at ih ⊢
      simp only [List.length_cons, decodeList, p.decode_append, p.drop_encode_append, ih]

/-- An array of `n` structures. -/
def array (p : Packed α) (n : Nat) : Packed (Vector α n) where
  size := n * p.size
  encode xs := p.encodeList xs.toList
  decode bs := ⟨(p.decodeList n bs).toArray, by simp [length_decodeList]⟩
  length_encode xs := by rw [length_encodeList, Vector.length_toList]
  decode_append xs rest := by
    apply Vector.toList_inj.mp
    have h := p.decodeList_encodeList xs.toList rest
    rw [Vector.length_toList] at h
    exact h

end Packed

end SpdmEmu.Wire
