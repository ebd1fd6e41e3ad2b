import SpdmEmu.Wire.Packed

/-!
# Byte order of the host and of the network

A program that moves 32-bit values through memory and a network works with two byte orders.
`bytes32` and `value32` are the store and the load of either order, and `ntohl`, which is also
`htonl`, reads the bytes a value has on the host in network order. Whatever the host, its store
after `ntohl` writes network order, `ntohl` after its load reads network order, and `ntohl` is its
own inverse.
-/

set_option autoImplicit false

namespace SpdmEmu.Wire

theorem leValue_lt (n : Nat) (bs : Bytes) : leValue n bs < 256 ^ n := by
  induction n generalizing bs with
  | zero => simp [leValue]
  | succ n ih =>
      cases bs with
      | nil => simp [leValue]
      | cons b bs =>
          have hb : b.toNat < 256 := b.toNat_lt
          have hrest := ih bs
          rw [leValue, Nat.pow_succ]
          omega

/-- The little-endian bytes of the value of `n` bytes are these bytes. -/
theorem leBytes_leValue {n : Nat} {bs : Bytes} (h : bs.length = n) :
    leBytes n (leValue n bs) = bs := by
  induction n generalizing bs with
  | zero => exact (List.length_eq_zero_iff.1 h).symm
  | succ n ih =>
      cases bs with
      | nil => cases h
      | cons b bs =>
          have hb : b.toNat < 256 := b.toNat_lt
          -- the first byte is the remainder by 256, the others are the quotient
          have hbyte : UInt8.ofNat (b.toNat + 256 * leValue n bs) = b := by
            apply UInt8.toNat_inj.1
            rw [UInt8.toNat_ofNat']
            omega
          have hquot : (b.toNat + 256 * leValue n bs) / 256 = leValue n bs := by omega
          rw [leValue, leBytes, hbyte, hquot, ih (Nat.succ_inj.1 h)]

/-- The order in which a value's bytes stand in memory or on the network. -/
inductive ByteOrder where
  | little
  | big
deriving DecidableEq, Repr

/-- The bytes of a 32-bit value. -/
def bytes32 (order : ByteOrder) (x : UInt32) : Bytes :=
  match order with
  | .little => leBytes 4 x.toNat
  | .big => (leBytes 4 x.toNat).reverse

/-- The 32-bit value of the first four bytes. -/
def value32 (order : ByteOrder) (bs : Bytes) : UInt32 :=
  match order with
  | .little => UInt32.ofNat (leValue 4 (bs.take 4))
  | .big => UInt32.ofNat (leValue 4 (bs.take 4).reverse)

/-- `ntohl` and `htonl` on a host of the given byte order. -/
def ntohl (host : ByteOrder) (x : UInt32) : UInt32 := value32 .big (bytes32 host x)

@[simp] theorem length_bytes32 (order : ByteOrder) (x : UInt32) :
    (bytes32 order x).length = 4 := by
  cases order <;> simp [bytes32, length_leBytes]

private theorem ofNat_leValue_leBytes (x : UInt32) :
    UInt32.ofNat (leValue 4 (leBytes 4 x.toNat)) = x := by
  have h := leValue_leBytes 4 x.toNat []
  rw [List.append_nil, Nat.mod_eq_of_lt (by simpa using x.toNat_lt)] at h
  rw [h, UInt32.ofNat_toNat]

private theorem leBytes_ofNat_leValue {bs : Bytes} (h : bs.length = 4) :
    leBytes 4 (UInt32.ofNat (leValue 4 bs)).toNat = bs := by
  have hlt : leValue 4 bs < 2 ^ 32 := leValue_lt 4 bs
  rw [UInt32.toNat_ofNat_of_lt' hlt, leBytes_leValue h]

@[simp] theorem value32_bytes32_append (order : ByteOrder) (x : UInt32) (rest : Bytes) :
    value32 order (bytes32 order x ++ rest) = x := by
  have htake : (bytes32 order x ++ rest).take 4 = bytes32 order x :=
    List.take_left' (length_bytes32 order x)
  cases order with
  | little =>
      rw [value32, htake, bytes32]
      exact ofNat_leValue_leBytes x
  | big =>
      rw [value32, htake, bytes32, List.reverse_reverse]
      exact ofNat_leValue_leBytes x

theorem bytes32_value32 (order : ByteOrder) {bs : Bytes} (h : bs.length = 4) :
    bytes32 order (value32 order bs) = bs := by
  have htake : bs.take 4 = bs := List.take_of_length_le (by omega)
  cases order with
  | little =>
      rw [value32, htake, bytes32]
      exact leBytes_ofNat_leValue h
  | big =>
      have hreverse : bs.reverse.length = 4 := by simpa using h
      rw [value32, htake, bytes32, leBytes_ofNat_leValue hreverse, List.reverse_reverse]

/-- The value at the head of enough bytes, and what follows it. -/
theorem bytes32_append_drop (order : ByteOrder) {bs : Bytes} (h : 4 ≤ bs.length) :
    bytes32 order (value32 order bs) ++ bs.drop 4 = bs := by
  have hlength : (bs.take 4).length = 4 := by
    rw [List.length_take]
    omega
  have hvalue : value32 order bs = value32 order (bs.take 4) := by
    simp only [value32, List.take_take, Nat.min_self]
  rw [hvalue, bytes32_value32 order hlength, List.take_append_drop]

/-- Loading on the host and converting reads network order. -/
theorem ntohl_value32 (host : ByteOrder) {bs : Bytes} (h : bs.length = 4) :
    ntohl host (value32 host bs) = value32 .big bs := by
  rw [ntohl, bytes32_value32 host h]

/-- Converting and storing on the host writes network order. -/
theorem bytes32_ntohl (host : ByteOrder) (x : UInt32) :
    bytes32 host (ntohl host x) = bytes32 .big x := by
  cases host with
  | little =>
      have hlength : (leBytes 4 x.toNat).reverse.length = 4 := by simp [length_leBytes]
      have htake : (leBytes 4 x.toNat).take 4 = leBytes 4 x.toNat :=
        List.take_of_length_le (by rw [length_leBytes])
      simp only [ntohl, bytes32, value32, htake]
      exact leBytes_ofNat_leValue hlength
  | big =>
      rw [ntohl]
      exact bytes32_value32 .big (length_bytes32 _ _)

@[simp] theorem ntohl_ntohl (host : ByteOrder) (x : UInt32) : ntohl host (ntohl host x) = x := by
  have h := value32_bytes32_append .big x []
  rw [List.append_nil] at h
  rw [ntohl, bytes32_ntohl, h]

end SpdmEmu.Wire
