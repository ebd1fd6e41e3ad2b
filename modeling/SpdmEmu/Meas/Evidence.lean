import SpdmEmu.Meas.Collection
import SpdmEmu.Wire.ByteOrder

/-!
# Evidence from a measurement record

`ParseMeasurement.parse` of `spdm_device_verifier_tool/SpdmMeasurement.py` walks over a measurement
record and makes evidence of its blocks: the digest of a block that is not raw, and the number of a
raw secure version number. Other blocks are passed over.

The block is read through a `ctypes` structure that is not packed. Its fields are where the record
has them up to the value type, but it has 8 bytes, one more than the headers of a block, and a
record that ends before them is an error. A block with a value has these bytes.

The host is little-endian.
-/

set_option autoImplicit false

namespace SpdmEmu.Meas.Verifier

open SpdmEmu.Wire

/-! ## The tool -/

/-- The choices of `--alg`. -/
inductive HashAlg where
  | sha256
  | sha384
  | sha512
deriving DecidableEq, Repr

/-- `SupportHashAlgMap` -/
def HashAlg.code : HashAlg → Nat
  | .sha256 => 1
  | .sha384 => 7
  | .sha512 => 8

/-- An entry of `evidences`. -/
inductive Evidence where
  | digest (index : UInt8) (alg : Nat) (hex : String)
  | svn (index : UInt8) (svn : Nat)
deriving DecidableEq, Repr

/-- `ValueError` of `from_buffer`: fewer bytes are left than the structure has. -/
inductive ParseError where
  | bufferSizeTooSmall
deriving DecidableEq, Repr

/-- `MEASUREMENT_BLK` -/
structure MeasurementBlk where
  index : UInt8
  measurementSpecification : UInt8
  measurementSize : UInt16
  measurementValueType : UInt8
  measurementValueSize : UInt16

/-- The layout that `ctypes` gives it: `MEASUREMENT_SPEC_HDR` has a byte of padding. -/
def measurementBlk : Packed MeasurementBlk :=
  (Packed.u8.pair (Packed.u8.pair (Packed.u16.pair ((Packed.u8.reserve 1).pair Packed.u16)))).view
    (fun x => ⟨x.1, x.2.1, x.2.2.1, x.2.2.2.1, x.2.2.2.2⟩)
    (fun b => (b.index, b.measurementSpecification, b.measurementSize, b.measurementValueType,
      b.measurementValueSize))
    (fun _ => rfl)

def hexDigit (n : Nat) : Char := "0123456789abcdef".toList.getD n '0'

/-- `bytearray.hex` -/
def hex (bytes : Bytes) : String :=
  String.ofList (bytes.flatMap fun b => [hexDigit (b.toNat / 16), hexDigit (b.toNat % 16)])

/-- The loop of `ParseMeasurement.parse`. -/
def parseFrom (alg : HashAlg) (binData : Bytes) (offset : Nat) (evidences : List Evidence) :
    Except ParseError (List Evidence) :=
  if _h : offset < binData.length then
    let left := binData.drop offset
    if left.length < measurementBlk.size then .error .bufferSizeTooSmall
    else
      let measurement := measurementBlk.decode left
      let next := offset + (2 + 2 + measurement.measurementSize.toNat)
      if measurement.measurementValueType &&& 128 = 0 then
        let value := (binData.drop (offset + 7)).take (next - (offset + 7))
        parseFrom alg binData next (evidences ++ [.digest measurement.index alg.code (hex value)])
      else if measurement.measurementValueType ^^^ 128 = 7 then
        let svn := binData.drop (offset + 7)
        if svn.length < Packed.u64.size then .error .bufferSizeTooSmall
        else
          parseFrom alg binData next
            (evidences ++ [.svn measurement.index (Packed.u64.decode svn).toNat])
      else parseFrom alg binData next evidences
  else .ok evidences
termination_by binData.length - offset

/-- `ParseMeasurement.parse`: the evidences that are written to the output. -/
def parse (alg : HashAlg) (binData : Bytes) : Except ParseError (List Evidence) :=
  parseFrom alg binData 0 []

/-! ## The record format -/

/-- A DMTF measurement block. -/
structure DmtfBlock where
  index : UInt8
  measurementSpecification : UInt8
  valueType : UInt8
  value : Bytes
  length_pos : 0 < value.length
  length_le : value.length ≤ 65532
  svn_length : valueType = 0x87 → value.length = 8

namespace DmtfBlock

/-- The bytes of a block. -/
def bytes (b : DmtfBlock) : Bytes :=
  b.index :: b.measurementSpecification ::
    (Packed.u16.encode (UInt16.ofNat (3 + b.value.length)) ++
      (b.valueType :: (Packed.u16.encode (UInt16.ofNat b.value.length) ++ b.value)))

/-- The evidence of a block: the digest if it is not raw, the number if it is a raw secure version
number. -/
def evidence (alg : HashAlg) (b : DmtfBlock) : Option Evidence :=
  if b.valueType &&& 128 = 0 then some (.digest b.index alg.code (hex b.value))
  else if b.valueType = 0x87 then some (.svn b.index (leValue 8 b.value))
  else none

theorem length_bytes (b : DmtfBlock) : b.bytes.length = 7 + b.value.length := by
  have hsize : Packed.u16.size = 2 := rfl
  simp only [bytes, List.length_cons, List.length_append, Packed.length_encode_eq, hsize]
  omega

/-- The value is what is left of a block behind its headers. -/
theorem drop_bytes_append (b : DmtfBlock) (rest : Bytes) :
    (b.bytes ++ rest).drop 7 = b.value ++ rest := by
  have h : b.bytes ++ rest =
      (b.index :: b.measurementSpecification ::
        (Packed.u16.encode (UInt16.ofNat (3 + b.value.length)) ++
          (b.valueType :: Packed.u16.encode (UInt16.ofNat b.value.length)))) ++
        (b.value ++ rest) := by
    simp only [bytes, List.cons_append, List.append_assoc]
  rw [h]
  exact List.drop_left' rfl

/-- The structure of the tool reads the fields of a block where they are. -/
theorem decode_bytes_append (b : DmtfBlock) (rest : Bytes) :
    (measurementBlk.decode (b.bytes ++ rest)).index = b.index ∧
      (measurementBlk.decode (b.bytes ++ rest)).measurementSize.toNat = 3 + b.value.length ∧
      (measurementBlk.decode (b.bytes ++ rest)).measurementValueType = b.valueType := by
  have hlength := b.length_le
  have hsize : (UInt16.ofNat (3 + b.value.length)).toNat = 3 + b.value.length :=
    UInt16.toNat_ofNat_of_lt' (by show _ < 2 ^ 16; omega)
  refine ⟨rfl, ?_, ?_⟩
  · show (Packed.u16.decode ((Packed.u16.encode (UInt16.ofNat (3 + b.value.length)) ++
      (b.valueType :: (Packed.u16.encode (UInt16.ofNat b.value.length) ++ b.value))) ++
        rest)).toNat = _
    rw [List.append_assoc, Packed.decode_encode_append, hsize]
  · rfl

end DmtfBlock

/-! ## The walk -/

section Walk

variable {alg : HashAlg} {binData rest : Bytes} {offset : Nat}

theorem xor_eq_seven_iff (valueType : UInt8) : valueType ^^^ 128 = 7 ↔ valueType = 0x87 := by
  constructor
  · intro h
    have hcancel : (valueType ^^^ 128) ^^^ 128 = 7 ^^^ 128 := congrArg (· ^^^ 128) h
    rw [UInt8.xor_assoc, UInt8.xor_self, UInt8.xor_zero] at hcancel
    exact hcancel
  · rintro rfl
    rfl

/-- The number is read from the eight bytes of the value, whatever follows them. -/
theorem leValue_append {n : Nat} {xs : Bytes} (h : xs.length = n) (ys : Bytes) :
    leValue n (xs ++ ys) = leValue n xs := by
  induction xs generalizing n with
  | nil =>
      subst h
      rfl
  | cons x xs ih =>
      subst h
      simp only [List.cons_append, List.length_cons, leValue, ih rfl]

/-- One pass: the block at the offset gives its evidence, and the next pass is behind it. -/
theorem parseFrom_block (b : DmtfBlock) (hleft : binData.drop offset = b.bytes ++ rest)
    (evidences : List Evidence) :
    parseFrom alg binData offset evidences =
      parseFrom alg binData (offset + b.bytes.length) (evidences ++ (b.evidence alg).toList) := by
  have hpos := b.length_pos
  have hbytes := b.length_bytes
  have hsize : measurementBlk.size = 8 := rfl
  obtain ⟨hindex, hmeasurement, htype⟩ := b.decode_bytes_append rest
  have hlength : (b.bytes ++ rest).length = 7 + b.value.length + rest.length := by
    rw [List.length_append, hbytes]
  have hinside : offset < binData.length := by
    have hdrop := congrArg List.length hleft
    rw [List.length_drop, hlength] at hdrop
    omega
  have hvalue : binData.drop (offset + 7) = b.value ++ rest := by
    rw [← List.drop_drop, hleft, b.drop_bytes_append]
  have hnext : offset + (2 + 2 + (3 + b.value.length)) = offset + b.bytes.length := by omega
  have htake : offset + b.bytes.length - (offset + 7) = b.value.length := by omega
  have hroom : ¬ (b.bytes ++ rest).length < measurementBlk.size := by omega
  rw [parseFrom, dif_pos hinside]
  simp only [hleft, if_neg hroom, hindex, hmeasurement, htype, hnext, hvalue, htake, List.take_left,
    xor_eq_seven_iff]
  -- the three kinds of block
  by_cases hdigest : b.valueType &&& 128 = 0
  · simp only [DmtfBlock.evidence, if_pos hdigest, Option.toList_some]
  · by_cases hsvn : b.valueType = 0x87
    · have height := b.svn_length hsvn
      have hlt : leValue 8 b.value < 2 ^ 64 := leValue_lt 8 b.value
      have hu64 : Packed.u64.size = 8 := rfl
      have henough : ¬ (b.value ++ rest).length < Packed.u64.size := by
        rw [List.length_append]
        omega
      have hnumber : (Packed.u64.decode (b.value ++ rest)).toNat = leValue 8 b.value := by
        show (UInt64.ofNat (leValue 8 (b.value ++ rest))).toNat = _
        rw [leValue_append height, UInt64.toNat_ofNat_of_lt' hlt]
      simp only [DmtfBlock.evidence, if_neg hdigest, if_pos hsvn, if_neg henough, hnumber,
        Option.toList_some]
    · simp only [DmtfBlock.evidence, if_neg hdigest, if_neg hsvn, Option.toList_none,
        List.append_nil]

/-- The passes over the blocks that are left. -/
theorem parseFrom_blocks (blocks : List DmtfBlock)
    (hleft : binData.drop offset = blocks.flatMap DmtfBlock.bytes) (evidences : List Evidence) :
    parseFrom alg binData offset evidences =
      .ok (evidences ++ blocks.filterMap (DmtfBlock.evidence alg)) := by
  induction blocks generalizing offset evidences with
  | nil =>
      have hend : ¬ offset < binData.length := by
        rw [List.flatMap_nil, List.drop_eq_nil_iff] at hleft
        omega
      rw [parseFrom, dif_neg hend, List.filterMap_nil, List.append_nil]
  | cons b blocks ih =>
      rw [List.flatMap_cons] at hleft
      have hbehind : binData.drop (offset + b.bytes.length) =
          blocks.flatMap DmtfBlock.bytes := by
        rw [← List.drop_drop, hleft, List.drop_left]
      rw [parseFrom_block b hleft, ih hbehind, List.append_assoc]
      cases hevidence : b.evidence alg with
      | none => rw [List.filterMap_cons_none hevidence, Option.toList_none, List.nil_append]
      | some e =>
          rw [List.filterMap_cons_some hevidence, Option.toList_some, List.singleton_append]

end Walk

/-- **Evidence extraction inverts the record format.** On the concatenation of any blocks the tool
ends without an error, with one evidence for each block that has one, in order. -/
theorem parse_blocks (alg : HashAlg) (blocks : List DmtfBlock) :
    parse alg (blocks.flatMap DmtfBlock.bytes) =
      .ok (blocks.filterMap (DmtfBlock.evidence alg)) :=
  parseFrom_blocks blocks rfl []

/-- The evidence of a digest and of a version number. -/
example : ([⟨1, 1, 0, [0xAB, 0x0C], by decide, by decide, by decide⟩,
    ⟨0xFD, 1, 0x84, [9], by decide, by decide, by decide⟩,
    ⟨0x10, 1, 0x87, [7, 0, 0, 0, 0, 0, 0, 0], by decide, by decide, by decide⟩] :
      List DmtfBlock).filterMap (DmtfBlock.evidence .sha256) =
    [.digest 1 1 "ab0c", .svn 0x10 7] := by
  decide +kernel

/-! ## The blocks of the device -/

/-- The headers of a block are packed, as the tool reads them. -/
structure PackedHeaders (S : Spdm) : Prop where
  common : ∀ c, S.commonHeader.encode c =
    c.index :: c.measurementSpecification :: Packed.u16.encode c.measurementSize
  dmtf : ∀ d, S.dmtfHeader.encode d = d.valueType :: Packed.u16.encode d.valueSize

/-- What the device writes for a value is a block of the format. -/
theorem bytes_eq_block {S : Spdm} (h : PackedHeaders S) (b : DmtfBlock)
    (hspec : b.measurementSpecification = S.specificationDmtf) :
    b.bytes = block S b.index b.valueType b.value := by
  have hle := b.length_le
  have hvalue : (UInt16.ofNat b.value.length).toNat = b.value.length :=
    UInt16.toNat_ofNat_of_lt' (by show _ < 2 ^ 16; omega)
  rw [DmtfBlock.bytes, block, blockHeader, h.common, h.dmtf, hspec, S.dmtfHeader_size, hvalue]
  simp only [List.cons_append, List.append_assoc]

end SpdmEmu.Meas.Verifier
