import SpdmEmu.Libspdm.Status

/-!
# The measurements of the device sample

`libspdm_measurement_collection` of `spdm_device_secret_lib/meas.c`. The device has seven
measurements: four images, which are returned as hashes or as raw bytes, its secure version number,
a manifest and its device mode. A request is for their number, for all of them or for one.

The values of `spdm.h` and the hash functions are not part of the repository and are parameters.
-/

set_option autoImplicit false

namespace SpdmEmu.Meas

open SpdmEmu.Wire SpdmEmu.Libspdm

/-! ## The structures of SPDM -/

/-- `spdm_measurement_block_common_header_t` -/
structure CommonHeader where
  index : UInt8
  measurementSpecification : UInt8
  measurementSize : UInt16
deriving DecidableEq, Repr

/-- `spdm_measurement_block_dmtf_header_t` -/
structure DmtfHeader where
  valueType : UInt8
  valueSize : UInt16
deriving DecidableEq, Repr

/-- `spdm_measurements_device_mode_t` -/
structure DeviceMode where
  operationalModeCapabilities : UInt32
  operationalModeState : UInt32
  deviceModeCapabilities : UInt32
  deviceModeState : UInt32
deriving DecidableEq, Repr

/-- The value types the device uses. -/
inductive ValueType where
  | immutableRom
  | measurementManifest
  | deviceMode
  | secureVersionNumber
deriving DecidableEq, Repr

/-- `SPDM_MEASUREMENT_DEVICE_OPERATION_MODE_*` -/
inductive OperationMode where
  | manufacturingMode
  | validationMode
  | normalMode
  | recoveryMode
  | rmaMode
  | decommissionedMode
deriving DecidableEq, Repr

/-- `SPDM_MEASUREMENT_DEVICE_MODE_*` -/
inductive DebugMode where
  | nonInvasiveIsActive
  | invasiveIsActive
  | nonInvasiveHasBeenActive
  | invasiveHasBeenActive
  | invasiveHasBeenActiveAfterMfg
deriving DecidableEq, Repr

/-- The values and layouts of `spdm.h`, and two statuses of libspdm. -/
structure Spdm where
  specificationDmtf : UInt8
  rawBitStreamOnly : UInt32
  rawBitStreamRequested : UInt8
  generateSignature : UInt8
  totalNumberOfMeasurements : UInt8
  allMeasurements : UInt8
  indexMeasurementManifest : UInt8
  indexDeviceMode : UInt8
  valueType : ValueType → UInt8
  rawBitStream : UInt8
  typeMask : UInt8
  operationMode : OperationMode → UInt32
  debugMode : DebugMode → UInt32
  messageVersion12 : UInt8
  versionNumberShiftBit : Nat
  contentNoChangeDetected : UInt8
  contentChangeNoDetection : UInt8
  measInternalError : LibspdmReturn
  measInvalidIndex : LibspdmReturn
  commonHeader : Packed CommonHeader
  dmtfHeader : Packed DmtfHeader
  secureVersionNumber : Packed UInt64
  deviceMode : Packed DeviceMode
  /-- The requests and indices are distinct, with those of the source. -/
  indices_nodup : [totalNumberOfMeasurements, allMeasurements, 1, 2, 3, 4, 0x10,
    indexMeasurementManifest, indexDeviceMode].Nodup
  indexMeasurementManifest_gt : 4 < indexMeasurementManifest.toNat
  indexDeviceMode_gt : 4 < indexDeviceMode.toNat
  commonHeader_size : commonHeader.size = 4
  dmtfHeader_size : dmtfHeader.size = 3
  secureVersionNumber_size : secureVersionNumber.size = 8
  deviceMode_size : deviceMode.size = 16

/-- The hash functions of libspdm: `libspdm_get_measurement_hash_size` and
`libspdm_measurement_hash_all`, where `none` is a failure. -/
structure MeasurementHash where
  size : UInt32 → Nat
  hashAll : UInt32 → Bytes → Option Bytes
  length_hashAll : ∀ {algo data h}, hashAll algo data = some h → h.length = size algo

/-- `LIBSPDM_MEASUREMENT_BLOCK_HASH_NUMBER` -/
def blockHashNumber : Nat := 4

/-- `LIBSPDM_MEASUREMENT_BLOCK_NUMBER` -/
def blockNumber : UInt8 := 4 + 1 + 1 + 1

/-- `LIBSPDM_MEASUREMENT_RAW_DATA_SIZE` -/
def rawDataSize : Nat := 72

/-- `LIBSPDM_MEASUREMENT_MANIFEST_SIZE` -/
def manifestSize : Nat := 128

/-- `LIBSPDM_MEASUREMENT_INDEX_SVN` -/
def indexSvn : UInt8 := 0x10

variable (S : Spdm) (H : MeasurementHash)

/-- `sizeof(spdm_measurement_block_dmtf_t)` -/
def blockHeaderSize : Nat := S.commonHeader.size + S.dmtfHeader.size

/-! ## The blocks -/

/-- The two headers of a block with a value of `valueSize` bytes, as every filler sets them. -/
def blockHeader (index valueType : UInt8) (valueSize : Nat) : Bytes :=
  S.commonHeader.encode
      ⟨index, S.specificationDmtf,
        UInt16.ofNat (S.dmtfHeader.size + (UInt16.ofNat valueSize).toNat)⟩ ++
    S.dmtfHeader.encode ⟨valueType, UInt16.ofNat valueSize⟩

/-- The common shape of the fillers: the headers, then the value, if there is one. It returns the
size of the block, 0 for a failure. -/
def fillBlock (index valueType : UInt8) (valueSize : Nat) (value : Option Bytes) (m : Mem)
    (off : Nat) : Nat × Mem :=
  let m := m.store off (blockHeader S index valueType valueSize)
  match value with
  | none => (0, m)
  | some bytes =>
      (blockHeaderSize S + valueSize, m.store (off + blockHeaderSize S) bytes)

/-- `libspdm_fill_measurement_image_hash_block` -/
def fillMeasurementImageHashBlock (useBitStream : Bool) (algo : UInt32) (index : UInt8) :
    Mem → Nat → Nat × Mem :=
  let data := List.replicate rawDataSize index
  if !useBitStream then fillBlock S index (index - 1) (H.size algo) (H.hashAll algo data)
  else fillBlock S index ((index - 1) ||| S.rawBitStream) rawDataSize (some data)

/-- `libspdm_fill_measurement_svn_block` -/
def fillMeasurementSvnBlock : Mem → Nat → Nat × Mem :=
  fillBlock S indexSvn (S.valueType .secureVersionNumber ||| S.rawBitStream)
    S.secureVersionNumber.size (some (S.secureVersionNumber.encode 0x7))

/-- `libspdm_fill_measurement_manifest_block` -/
def fillMeasurementManifestBlock : Mem → Nat → Nat × Mem :=
  fillBlock S S.indexMeasurementManifest (S.valueType .measurementManifest ||| S.rawBitStream)
    manifestSize (some (List.replicate manifestSize S.indexMeasurementManifest))

/-- The device mode that the device reports. -/
def reportedDeviceMode : DeviceMode where
  operationalModeCapabilities :=
    S.operationMode .manufacturingMode ||| S.operationMode .validationMode |||
      S.operationMode .normalMode ||| S.operationMode .recoveryMode |||
      S.operationMode .rmaMode ||| S.operationMode .decommissionedMode
  operationalModeState := S.operationMode .normalMode
  deviceModeCapabilities :=
    S.debugMode .nonInvasiveIsActive ||| S.debugMode .invasiveIsActive |||
      S.debugMode .nonInvasiveHasBeenActive ||| S.debugMode .invasiveHasBeenActive |||
      S.debugMode .invasiveHasBeenActiveAfterMfg
  deviceModeState :=
    S.debugMode .nonInvasiveIsActive ||| S.debugMode .invasiveHasBeenActiveAfterMfg

/-- `libspdm_fill_measurement_device_mode_block` -/
def fillMeasurementDeviceModeBlock : Mem → Nat → Nat × Mem :=
  fillBlock S S.indexDeviceMode (S.valueType .deviceMode ||| S.rawBitStream) S.deviceMode.size
    (some (S.deviceMode.encode (reportedDeviceMode S)))

/-! ## The collection -/

/-- The arguments that are only read. -/
structure Request where
  spdmVersion : UInt16
  measurementSpecification : UInt8
  measurementHashAlgo : UInt32
  measurementsIndex : UInt8
  requestAttribute : UInt8

/-- The arguments that are written: `content_changed`, which may be null, the count, the buffer and
its size. -/
structure Output where
  contentChanged : Option UInt8
  measurementsCount : UInt8
  measurements : Mem
  measurementsSize : Nat

/-- `use_bit_stream` -/
def useBitStream (r : Request) : Bool :=
  r.measurementHashAlgo == S.rawBitStreamOnly ||
    (r.requestAttribute &&& S.rawBitStreamRequested) != 0

/-- The size of an image block. -/
def imageBlockSize (r : Request) : Nat :=
  if !useBitStream S r then blockHeaderSize S + H.size r.measurementHashAlgo
  else blockHeaderSize S + rawDataSize

/-- The code at `successful_return`. -/
def successfulReturn (r : Request) (out : Output) : LibspdmReturn × Output :=
  let changed :=
    if S.messageVersion12.toNat ≤ r.spdmVersion.toNat >>> S.versionNumberShiftBit then
      out.contentChanged.map fun _ =>
        if r.requestAttribute &&& S.generateSignature ≠ 0 then S.contentNoChangeDetected
        else S.contentChangeNoDetection
    else out.contentChanged
  (.success, { out with contentChanged := changed })

/-- The loop over the image blocks, with the place of the next block. -/
def fillImages (r : Request) : List UInt8 → Mem → Nat → Option Nat × Mem
  | [], m, off => (some off, m)
  | index :: rest, m, off =>
      match fillMeasurementImageHashBlock S H (useBitStream S r) r.measurementHashAlgo index m
        off with
      | (0, m) => (none, m)
      | (size + 1, m) => fillImages r rest m (off + (size + 1))

/-- `total_size_needed` of all measurements. -/
def allSize (r : Request) : Nat :=
  blockHashNumber * imageBlockSize S H r + (blockHeaderSize S + S.secureVersionNumber.size) +
    (blockHeaderSize S + manifestSize) + (blockHeaderSize S + S.deviceMode.size)

/-- The branch for all measurements. -/
def collectAll (r : Request) (out : Output) : LibspdmReturn × Output :=
  if allSize S H r > out.measurementsSize then (.bufferTooSmall, out)
  else
    let out := { out with measurementsSize := allSize S H r, measurementsCount := blockNumber }
    match fillImages S H r [1, 2, 3, 4] out.measurements 0 with
    | (none, m) => (S.measInternalError, { out with measurements := m })
    | (some off, m) =>
        let (svn, m) := fillMeasurementSvnBlock S m off
        let (manifest, m) := fillMeasurementManifestBlock S m (off + svn)
        let (_, m) := fillMeasurementDeviceModeBlock S m (off + svn + manifest)
        successfulReturn S r { out with measurements := m }

/-- The common shape of the branches for one index. -/
def collectOne (r : Request) (needed : Nat) (fill : Mem → Nat → Nat × Mem) (out : Output) :
    LibspdmReturn × Output :=
  if needed > out.measurementsSize then (.bufferTooSmall, out)
  else
    let out := { out with measurementsCount := 1, measurementsSize := needed }
    let (size, m) := fill out.measurements 0
    let out := { out with measurements := m }
    if size = 0 then (S.measInternalError, out) else successfulReturn S r out

/-- `libspdm_measurement_collection` -/
def measurementCollection (r : Request) (out : Output) : LibspdmReturn × Output :=
  let algo := r.measurementHashAlgo
  let index := r.measurementsIndex
  if r.measurementSpecification ≠ S.specificationDmtf ∨ algo = 0 then (.unsupportedCap, out)
  else if index = S.totalNumberOfMeasurements then
    successfulReturn S r { out with measurementsCount := blockNumber }
  else if index = S.allMeasurements then collectAll S H r out
  else if index.toNat ≤ blockHashNumber then
    collectOne S r (imageBlockSize S H r)
      (fillMeasurementImageHashBlock S H (useBitStream S r) algo index) out
  else if index = indexSvn then
    collectOne S r (blockHeaderSize S + S.secureVersionNumber.size) (fillMeasurementSvnBlock S) out
  else if index = S.indexMeasurementManifest then
    collectOne S r (blockHeaderSize S + manifestSize) (fillMeasurementManifestBlock S) out
  else if index = S.indexDeviceMode then
    collectOne S r (blockHeaderSize S + S.deviceMode.size) (fillMeasurementDeviceModeBlock S) out
  else (S.measInvalidIndex, { out with measurementsCount := 0 })

/-! ## What the fillers write -/

section Blocks

variable {S H}

theorem length_blockHeader (index valueType : UInt8) (valueSize : Nat) :
    (blockHeader S index valueType valueSize).length = blockHeaderSize S := by
  simp only [blockHeader, blockHeaderSize, List.length_append, Packed.length_encode_eq]

theorem blockHeaderSize_eq : blockHeaderSize S = 7 := by
  rw [blockHeaderSize, S.commonHeader_size, S.dmtfHeader_size]

/-- A filler that succeeds writes its block. -/
theorem fillBlock_some (index valueType : UInt8) (value : Bytes) (m : Mem) (off : Nat) :
    fillBlock S index valueType value.length (some value) m off =
      (blockHeaderSize S + value.length,
        m.store off (blockHeader S index valueType value.length ++ value)) := by
  have hlen := length_blockHeader (S := S) index valueType value.length
  simp only [fillBlock, ← Mem.store_append, hlen]

/-- Whether it succeeds or not, a filler writes nothing behind its block. -/
theorem fillBlock_of_ge {index valueType : UInt8} {valueSize : Nat} {value : Option Bytes}
    (hvalue : ∀ bytes, value = some bytes → bytes.length = valueSize) (m : Mem) (off : Nat)
    {j : Nat} (hj : off + (blockHeaderSize S + valueSize) ≤ j) :
    (fillBlock S index valueType valueSize value m off).2 j = m j := by
  have hheader : m.store off (blockHeader S index valueType valueSize) j = m j :=
    Mem.store_of_ge _ _ (by rw [length_blockHeader]; omega)
  cases hcase : value with
  | none => exact hheader
  | some bytes =>
      have hlen := hvalue bytes hcase
      refine (Mem.store_of_ge _ _ ?_).trans hheader
      omega

/-- The size a filler returns is that of its block, or 0. -/
theorem fst_fillBlock (index valueType : UInt8) (valueSize : Nat) (value : Option Bytes) (m : Mem)
    (off : Nat) :
    (fillBlock S index valueType valueSize value m off).1 = 0 ∨
      (fillBlock S index valueType valueSize value m off).1 = blockHeaderSize S + valueSize := by
  cases value with
  | none => exact .inl rfl
  | some bytes => exact .inr rfl

/-- A block whose size field is its DMTF header and its value, and which has that size. -/
def WellFormedBlock (S : Spdm) (block : Bytes) : Prop :=
  let common := S.commonHeader.decode block
  let dmtf := S.dmtfHeader.decode (block.drop S.commonHeader.size)
  common.measurementSize.toNat = S.dmtfHeader.size + dmtf.valueSize.toNat ∧
    block.length = S.commonHeader.size + common.measurementSize.toNat

theorem wellFormedBlock_of_lt (index valueType : UInt8) {value : Bytes}
    (h : S.dmtfHeader.size + value.length < 2 ^ 16) :
    WellFormedBlock S (blockHeader S index valueType value.length ++ value) := by
  have hvalue : (UInt16.ofNat value.length).toNat = value.length :=
    UInt16.toNat_ofNat_of_lt' (by show _ < 2 ^ 16; omega)
  have hsize : (UInt16.ofNat (S.dmtfHeader.size + value.length)).toNat =
      S.dmtfHeader.size + value.length := UInt16.toNat_ofNat_of_lt' h
  have hlen := length_blockHeader (S := S) index valueType value.length
  rw [blockHeaderSize] at hlen
  rw [WellFormedBlock, List.length_append, hlen]
  simp only [blockHeader, List.append_assoc, Packed.decode_encode_append,
    Packed.drop_encode_append]
  rw [hvalue, hsize]
  exact ⟨rfl, Nat.add_assoc _ _ _⟩

/-- A filler of blocks of `size` bytes returns that size or 0, and writes nothing behind a block. -/
def Bounded (fill : Mem → Nat → Nat × Mem) (size : Nat) : Prop :=
  ∀ m off, ((fill m off).1 = 0 ∨ (fill m off).1 = size) ∧
    ∀ j, off + size ≤ j → (fill m off).2 j = m j

theorem bounded_fillBlock {index valueType : UInt8} {valueSize : Nat} {value : Option Bytes}
    (hvalue : ∀ bytes, value = some bytes → bytes.length = valueSize) :
    Bounded (fillBlock S index valueType valueSize value) (blockHeaderSize S + valueSize) :=
  fun m off => ⟨fst_fillBlock _ _ _ _ _ _, fun _ hj => fillBlock_of_ge hvalue m off hj⟩

theorem bounded_fillMeasurementImageHashBlock (r : Request) (index : UInt8) :
    Bounded (fillMeasurementImageHashBlock S H (useBitStream S r) r.measurementHashAlgo index)
      (imageBlockSize S H r) := by
  cases hstream : useBitStream S r with
  | false =>
      simp only [fillMeasurementImageHashBlock, imageBlockSize, hstream, Bool.not_false, if_true]
      exact bounded_fillBlock fun bytes h => H.length_hashAll h
  | true =>
      simp only [fillMeasurementImageHashBlock, imageBlockSize, hstream, Bool.not_true,
        Bool.false_eq_true, if_false]
      refine bounded_fillBlock fun bytes h => ?_
      cases h
      exact List.length_replicate

theorem bounded_fillMeasurementSvnBlock :
    Bounded (fillMeasurementSvnBlock S) (blockHeaderSize S + S.secureVersionNumber.size) := by
  refine bounded_fillBlock fun bytes h => ?_
  cases h
  exact S.secureVersionNumber.length_encode _

theorem bounded_fillMeasurementManifestBlock :
    Bounded (fillMeasurementManifestBlock S) (blockHeaderSize S + manifestSize) := by
  refine bounded_fillBlock fun bytes h => ?_
  cases h
  exact List.length_replicate

theorem bounded_fillMeasurementDeviceModeBlock :
    Bounded (fillMeasurementDeviceModeBlock S) (blockHeaderSize S + S.deviceMode.size) := by
  refine bounded_fillBlock fun bytes h => ?_
  cases h
  exact S.deviceMode.length_encode _

/-- The loop over the images stays in front of the place it returns. -/
theorem fillImages_bounded (r : Request) (l : List UInt8) (m : Mem) (off : Nat) :
    (∀ off', (fillImages S H r l m off).1 = some off' →
      off' = off + l.length * imageBlockSize S H r) ∧
    ∀ j, off + l.length * imageBlockSize S H r ≤ j → (fillImages S H r l m off).2 j = m j := by
  induction l generalizing m off with
  | nil =>
      refine ⟨fun off' h => ?_, fun j _ => rfl⟩
      cases h
      simp
  | cons index rest ih =>
      obtain ⟨hsize, hsame⟩ := bounded_fillMeasurementImageHashBlock (S := S) (H := H) r index m off
      rw [List.length_cons, Nat.succ_mul]
      simp only [fillImages]
      split
      · rename_i m₁ hfill
        rw [hfill] at hsame
        exact ⟨fun off' h => by simp at h, fun j hj => hsame j (by omega)⟩
      · rename_i size m₁ hfill
        rw [hfill] at hsize hsame
        have hblock : size + 1 = imageBlockSize S H r := hsize.resolve_left (Nat.succ_ne_zero size)
        obtain ⟨hoff, hrest⟩ := ih m₁ (off + (size + 1))
        refine ⟨fun off' h => ?_, fun j hj => ?_⟩
        · rw [hoff off' h]
          omega
        · rw [hrest j (by omega)]
          exact hsame j (by omega)

@[simp] theorem measurements_successfulReturn (r : Request) (out : Output) :
    (successfulReturn S r out).2.measurements = out.measurements := rfl

theorem collectOne_of_ge {r : Request} {needed : Nat} {fill : Mem → Nat → Nat × Mem}
    (hfill : Bounded fill needed) (out : Output) {j : Nat} (hj : out.measurementsSize ≤ j) :
    (collectOne S r needed fill out).2.measurements j = out.measurements j := by
  rw [collectOne]
  split_ifs with hsmall
  · rfl
  · have hsame := (hfill out.measurements 0).2 j (by omega)
    dsimp only
    split_ifs
    · exact hsame
    · exact hsame

theorem collectAll_of_ge (r : Request) (out : Output) {j : Nat} (hj : out.measurementsSize ≤ j) :
    (collectAll S H r out).2.measurements j = out.measurements j := by
  rw [collectAll]
  split_ifs with hsmall
  · rfl
  · obtain ⟨hoff, hsame⟩ := fillImages_bounded (S := S) (H := H) r [1, 2, 3, 4] out.measurements 0
    have hall : blockHashNumber * imageBlockSize S H r +
        (blockHeaderSize S + S.secureVersionNumber.size) + (blockHeaderSize S + manifestSize) +
        (blockHeaderSize S + S.deviceMode.size) ≤ j := Nat.le_trans (Nat.not_lt.1 hsmall) hj
    have hfour : [(1 : UInt8), 2, 3, 4].length = blockHashNumber := rfl
    rw [hfour] at hoff hsame
    have himages := hsame j (by omega)
    dsimp only
    split
    · rename_i m hfill
      rw [hfill] at himages
      exact himages
    · rename_i off m hfill
      rw [hfill] at himages hoff
      have hplace := hoff off rfl
      -- each of the three fillers starts where the one before it ends
      obtain ⟨hsvn, hsvnSame⟩ := bounded_fillMeasurementSvnBlock (S := S) m off
      generalize fillMeasurementSvnBlock S m off = a at hsvn hsvnSame ⊢
      obtain ⟨hmanifest, hmanifestSame⟩ :=
        bounded_fillMeasurementManifestBlock (S := S) a.2 (off + a.1)
      generalize fillMeasurementManifestBlock S a.2 (off + a.1) = b
        at hmanifest hmanifestSame ⊢
      obtain ⟨-, hmodeSame⟩ :=
        bounded_fillMeasurementDeviceModeBlock (S := S) b.2 (off + a.1 + b.1)
      show (fillMeasurementDeviceModeBlock S b.2 (off + a.1 + b.1)).2 j = _
      rw [hmodeSame j (by omega), hmanifestSame j (by omega), hsvnSame j (by omega)]
      exact himages

/-- Nothing is written behind the buffer, whatever is asked for. -/
theorem measurementCollection_of_ge (r : Request) (out : Output) {j : Nat}
    (hj : out.measurementsSize ≤ j) :
    (measurementCollection S H r out).2.measurements j = out.measurements j := by
  rw [measurementCollection]
  split_ifs
  · rfl
  · rfl
  · exact collectAll_of_ge r out hj
  · exact collectOne_of_ge (bounded_fillMeasurementImageHashBlock r _) out hj
  · exact collectOne_of_ge bounded_fillMeasurementSvnBlock out hj
  · exact collectOne_of_ge bounded_fillMeasurementManifestBlock out hj
  · exact collectOne_of_ge bounded_fillMeasurementDeviceModeBlock out hj
  · rfl

end Blocks

/-! ## The records -/

/-- The hash algorithm is supported: raw bytes only, or a hash that fits a block and succeeds. -/
def Supported (algo : UInt32) : Prop :=
  algo ≠ 0 ∧ (algo ≠ S.rawBitStreamOnly →
    S.dmtfHeader.size + H.size algo < 2 ^ 16 ∧ ∀ data, (H.hashAll algo data).isSome)

/-- The bytes of a block. -/
def block (index valueType : UInt8) (value : Bytes) : Bytes :=
  blockHeader S index valueType value.length ++ value

/-- The bytes are a block whose size fits its field. -/
def IsBlock (bytes : Bytes) : Prop :=
  ∃ index valueType value, bytes = block S index valueType value ∧
    S.dmtfHeader.size + value.length < 2 ^ 16

/-- The block of an image. -/
def imageBlock (r : Request) (index : UInt8) : Bytes :=
  let data := List.replicate rawDataSize index
  if !useBitStream S r then
    block S index (index - 1) ((H.hashAll r.measurementHashAlgo data).getD [])
  else block S index ((index - 1) ||| S.rawBitStream) data

def svnBlock : Bytes :=
  block S indexSvn (S.valueType .secureVersionNumber ||| S.rawBitStream)
    (S.secureVersionNumber.encode 0x7)

def manifestBlock : Bytes :=
  block S S.indexMeasurementManifest (S.valueType .measurementManifest ||| S.rawBitStream)
    (List.replicate manifestSize S.indexMeasurementManifest)

def deviceModeBlock : Bytes :=
  block S S.indexDeviceMode (S.valueType .deviceMode ||| S.rawBitStream)
    (S.deviceMode.encode (reportedDeviceMode S))

/-- The indices of the measurements, in the order of the record. -/
def order : List UInt8 := [1, 2, 3, 4, indexSvn, S.indexMeasurementManifest, S.indexDeviceMode]

/-- The block of each index. -/
def blockOf (r : Request) (index : UInt8) : Bytes :=
  if index.toNat ≤ blockHashNumber then imageBlock S H r index
  else if index = indexSvn then svnBlock S
  else if index = S.indexMeasurementManifest then manifestBlock S
  else deviceModeBlock S

/-- The request for another index under the same attribute. -/
def Request.at (r : Request) (index : UInt8) : Request := { r with measurementsIndex := index }

/-- `total_size_needed` for an index that the device has, or for all of them. -/
def neededSize (r : Request) : Nat :=
  if r.measurementsIndex = S.allMeasurements then allSize S H r
  else if r.measurementsIndex.toNat ≤ blockHashNumber then imageBlockSize S H r
  else if r.measurementsIndex = indexSvn then blockHeaderSize S + S.secureVersionNumber.size
  else if r.measurementsIndex = S.indexMeasurementManifest then blockHeaderSize S + manifestSize
  else blockHeaderSize S + S.deviceMode.size

/-- The record that was returned. -/
def Output.record (out : Output) : Bytes := out.measurements.load 0 out.measurementsSize

section Records

variable {S H} {r : Request}

theorem IsBlock.wellFormed {bytes : Bytes} (h : IsBlock S bytes) : WellFormedBlock S bytes := by
  obtain ⟨index, valueType, value, rfl, hlt⟩ := h
  exact wellFormedBlock_of_lt index valueType hlt

/-- A filler that writes the given block wherever it is put. -/
structure Fills (fill : Mem → Nat → Nat × Mem) (needed : Nat) (bytes : Bytes) : Prop where
  length : bytes.length = needed
  pos : 0 < needed
  fill : ∀ m off, fill m off = (needed, m.store off bytes)
  isBlock : IsBlock S bytes

theorem fills_fillBlock (index valueType : UInt8) {value : Bytes} {valueSize : Nat}
    (hlen : value.length = valueSize) (h : S.dmtfHeader.size + valueSize < 2 ^ 16) :
    Fills (S := S) (fillBlock S index valueType valueSize (some value))
      (blockHeaderSize S + valueSize) (block S index valueType value) := by
  subst hlen
  refine ⟨?_, ?_, fun m off => fillBlock_some index valueType value m off,
    index, valueType, value, rfl, h⟩
  · rw [block, List.length_append, length_blockHeader]
  · rw [blockHeaderSize_eq]
    omega

theorem fills_image (h : Supported S H r.measurementHashAlgo) (index : UInt8) :
    Fills (S := S)
      (fillMeasurementImageHashBlock S H (useBitStream S r) r.measurementHashAlgo index)
      (imageBlockSize S H r) (imageBlock S H r index) := by
  cases hstream : useBitStream S r with
  | false =>
      -- the algorithm is a hash, since no raw bytes are returned
      have halgo : r.measurementHashAlgo ≠ S.rawBitStreamOnly := by
        intro heq
        simp [useBitStream, heq] at hstream
      obtain ⟨hfits, hsucceeds⟩ := h.2 halgo
      obtain ⟨hash, hhash⟩ :=
        Option.isSome_iff_exists.1 (hsucceeds (List.replicate rawDataSize index))
      simp only [fillMeasurementImageHashBlock, imageBlockSize, imageBlock, hstream, hhash,
        Bool.not_false, if_true, Option.getD_some]
      exact fills_fillBlock index (index - 1) (H.length_hashAll hhash) hfits
  | true =>
      simp only [fillMeasurementImageHashBlock, imageBlockSize, imageBlock, hstream,
        Bool.not_true, Bool.false_eq_true, if_false]
      refine fills_fillBlock index _ List.length_replicate ?_
      rw [S.dmtfHeader_size]
      decide

theorem fills_svn : Fills (S := S) (fillMeasurementSvnBlock S)
    (blockHeaderSize S + S.secureVersionNumber.size) (svnBlock S) := by
  refine fills_fillBlock _ _ (S.secureVersionNumber.length_encode _) ?_
  rw [S.dmtfHeader_size, S.secureVersionNumber_size]
  decide

theorem fills_manifest : Fills (S := S) (fillMeasurementManifestBlock S)
    (blockHeaderSize S + manifestSize) (manifestBlock S) := by
  refine fills_fillBlock _ _ List.length_replicate ?_
  rw [S.dmtfHeader_size]
  decide

theorem fills_deviceMode : Fills (S := S) (fillMeasurementDeviceModeBlock S)
    (blockHeaderSize S + S.deviceMode.size) (deviceModeBlock S) := by
  refine fills_fillBlock _ _ (S.deviceMode.length_encode _) ?_
  rw [S.dmtfHeader_size, S.deviceMode_size]
  decide

/-- The images lie one behind the other. -/
theorem fillImages_eq (h : Supported S H r.measurementHashAlgo) (l : List UInt8) (m : Mem)
    (off : Nat) :
    fillImages S H r l m off = (some (off + (l.flatMap (imageBlock S H r)).length),
      m.store off (l.flatMap (imageBlock S H r))) := by
  induction l generalizing m off with
  | nil => simp [fillImages]
  | cons index rest ih =>
      have hfills := fills_image h index
      obtain ⟨size, hsize⟩ := Nat.exists_eq_succ_of_ne_zero (Nat.ne_of_gt hfills.pos)
      have hlen := hfills.length
      simp only [fillImages, hfills.fill, hsize]
      rw [ih, List.flatMap_cons, List.length_append, hlen, ← Mem.store_append, hlen, hsize]
      simp only [Nat.succ_eq_add_one, Nat.add_assoc]

/-- The index of a measurement is none of the other requests. -/
theorem ne_of_mem_order {index : UInt8} (h : index ∈ order S) :
    index ≠ S.totalNumberOfMeasurements ∧ index ≠ S.allMeasurements := by
  have hnodup : (S.totalNumberOfMeasurements :: S.allMeasurements :: order S).Nodup :=
    S.indices_nodup
  rw [List.nodup_cons, List.nodup_cons] at hnodup
  refine ⟨?_, ?_⟩
  · rintro rfl
    exact hnodup.1 (List.mem_cons_of_mem _ h)
  · rintro rfl
    exact hnodup.2.1 h

theorem indexMeasurementManifest_ne : S.indexMeasurementManifest ≠ indexSvn ∧
    S.indexDeviceMode ≠ indexSvn ∧ S.indexDeviceMode ≠ S.indexMeasurementManifest := by
  have h := S.indices_nodup
  simp only [List.nodup_cons, List.mem_cons, not_or] at h
  obtain ⟨-, -, -, -, -, -, hsvn, hmanifest, -⟩ := h
  exact ⟨fun heq => hsvn.1 heq.symm, fun heq => hsvn.2.1 heq.symm, fun heq => hmanifest.1 heq.symm⟩

/-- The branch of one index writes the block of that index. -/
theorem measurementCollection_at (h : Supported S H r.measurementHashAlgo)
    (hspec : r.measurementSpecification = S.specificationDmtf) {index : UInt8}
    (hindex : index ∈ order S) :
    ∃ fill, Fills (S := S) fill (neededSize S H (r.at index)) (blockOf S H r index) ∧
      ∀ out, measurementCollection S H (r.at index) out =
        collectOne S (r.at index) (neededSize S H (r.at index)) fill out := by
  obtain ⟨htotal, hall⟩ : (r.at index).measurementsIndex ≠ S.totalNumberOfMeasurements ∧
      (r.at index).measurementsIndex ≠ S.allMeasurements := ne_of_mem_order hindex
  have hvalid : ¬ ((r.at index).measurementSpecification ≠ S.specificationDmtf ∨
      (r.at index).measurementHashAlgo = 0) := not_or.2 ⟨not_not_intro hspec, h.1⟩
  by_cases himage : (r.at index).measurementsIndex.toNat ≤ blockHashNumber
  · refine ⟨fillMeasurementImageHashBlock S H (useBitStream S r) r.measurementHashAlgo index, ?_,
      fun out => ?_⟩
    · have hblock : blockOf S H r index = imageBlock S H r index := if_pos himage
      simp only [neededSize, hblock, if_neg hall, if_pos himage]
      exact fills_image h index
    · simp only [measurementCollection, neededSize, if_neg hvalid, if_neg htotal, if_neg hall,
        if_pos himage]
      rfl
  · by_cases hsvn : (r.at index).measurementsIndex = indexSvn
    · refine ⟨fillMeasurementSvnBlock S, ?_, fun out => ?_⟩
      · have hblock : blockOf S H r index = svnBlock S := (if_neg himage).trans (if_pos hsvn)
        simp only [neededSize, hblock, if_neg hall, if_neg himage, if_pos hsvn]
        exact fills_svn
      · simp only [measurementCollection, neededSize, if_neg hvalid, if_neg htotal, if_neg hall,
          if_neg himage, if_pos hsvn]
    · by_cases hmanifest : (r.at index).measurementsIndex = S.indexMeasurementManifest
      · refine ⟨fillMeasurementManifestBlock S, ?_, fun out => ?_⟩
        · have hblock : blockOf S H r index = manifestBlock S :=
            (if_neg himage).trans ((if_neg hsvn).trans (if_pos hmanifest))
          simp only [neededSize, hblock, if_neg hall, if_neg himage, if_neg hsvn, if_pos hmanifest]
          exact fills_manifest
        · simp only [measurementCollection, neededSize, if_neg hvalid, if_neg htotal, if_neg hall,
            if_neg himage, if_neg hsvn, if_pos hmanifest]
      · -- no index is left but that of the device mode
        have hmode : (r.at index).measurementsIndex = S.indexDeviceMode := by
          simp only [order, List.mem_cons, List.not_mem_nil, or_false] at hindex
          rcases hindex with rfl | rfl | rfl | rfl | rfl | rfl | rfl
          · exact absurd (show (1 : UInt8).toNat ≤ blockHashNumber by decide) himage
          · exact absurd (show (2 : UInt8).toNat ≤ blockHashNumber by decide) himage
          · exact absurd (show (3 : UInt8).toNat ≤ blockHashNumber by decide) himage
          · exact absurd (show (4 : UInt8).toNat ≤ blockHashNumber by decide) himage
          · exact absurd rfl hsvn
          · exact absurd rfl hmanifest
          · rfl
        refine ⟨fillMeasurementDeviceModeBlock S, ?_, fun out => ?_⟩
        · have hblock : blockOf S H r index = deviceModeBlock S :=
            (if_neg himage).trans ((if_neg hsvn).trans (if_neg hmanifest))
          simp only [neededSize, hblock, if_neg hall, if_neg himage, if_neg hsvn,
            if_neg hmanifest]
          exact fills_deviceMode
        · simp only [measurementCollection, neededSize, if_neg hvalid, if_neg htotal, if_neg hall,
            if_neg himage, if_neg hsvn, if_neg hmanifest, if_pos hmode]

theorem collectOne_of_fills {needed : Nat} {fill : Mem → Nat → Nat × Mem} {bytes : Bytes}
    (hfills : Fills (S := S) fill needed bytes) {out : Output}
    (hroom : needed ≤ out.measurementsSize) :
    collectOne S r needed fill out = successfulReturn S r
      { out with
        measurementsCount := 1
        measurementsSize := needed
        measurements := out.measurements.store 0 bytes } := by
  simp only [collectOne, if_neg (Nat.not_lt.2 hroom), hfills.fill,
    if_neg (Nat.ne_of_gt hfills.pos)]

/-- The bytes of all blocks, in order. -/
theorem flatMap_blockOf (r : Request) : (order S).flatMap (blockOf S H r) =
    [1, 2, 3, 4].flatMap (imageBlock S H r) ++ (svnBlock S ++ (manifestBlock S ++
      deviceModeBlock S)) := by
  obtain ⟨hmanifest, hmode, hne⟩ := indexMeasurementManifest_ne (S := S)
  have hsvnGt : ¬ indexSvn.toNat ≤ blockHashNumber := by decide
  have hmanifestGt : ¬ S.indexMeasurementManifest.toNat ≤ blockHashNumber :=
    Nat.not_le.2 S.indexMeasurementManifest_gt
  have hmodeGt : ¬ S.indexDeviceMode.toNat ≤ blockHashNumber :=
    Nat.not_le.2 S.indexDeviceMode_gt
  have himage : ∀ index : UInt8, index.toNat ≤ blockHashNumber →
      blockOf S H r index = imageBlock S H r index := fun _ hindex => if_pos hindex
  have hsvn : blockOf S H r indexSvn = svnBlock S := by simp [blockOf, hsvnGt]
  have hmanifestOf : blockOf S H r S.indexMeasurementManifest = manifestBlock S := by
    simp [blockOf, hmanifestGt, hmanifest]
  have hmodeOf : blockOf S H r S.indexDeviceMode = deviceModeBlock S := by
    simp [blockOf, hmodeGt, hmode, hne]
  simp only [order, List.flatMap_cons, List.flatMap_nil, hsvn, hmanifestOf, hmodeOf,
    himage 1 (by decide), himage 2 (by decide), himage 3 (by decide), himage 4 (by decide),
    List.append_nil, List.append_assoc]

theorem length_flatMap_blockOf (h : Supported S H r.measurementHashAlgo) :
    ((order S).flatMap (blockOf S H r)).length = allSize S H r := by
  have himages : ∀ l : List UInt8, (l.flatMap (imageBlock S H r)).length =
      l.length * imageBlockSize S H r := by
    intro l
    induction l with
    | nil => simp
    | cons index rest ih =>
        rw [List.flatMap_cons, List.length_append, ih, (fills_image h index).length,
          List.length_cons, Nat.succ_mul, Nat.add_comm]
  rw [flatMap_blockOf, List.length_append, List.length_append, List.length_append, himages,
    fills_svn.length, fills_manifest.length, fills_deviceMode.length, allSize]
  simp only [List.length_cons, List.length_nil, blockHashNumber]
  omega

/-- The branch of all measurements writes all blocks. -/
theorem collectAll_of_room (h : Supported S H r.measurementHashAlgo) {out : Output}
    (hroom : allSize S H r ≤ out.measurementsSize) :
    collectAll S H r out = successfulReturn S r
      { out with
        measurementsSize := allSize S H r
        measurementsCount := blockNumber
        measurements := out.measurements.store 0 ((order S).flatMap (blockOf S H r)) } := by
  rw [flatMap_blockOf, ← Mem.store_append, ← Mem.store_append, ← Mem.store_append]
  simp only [collectAll, if_neg (Nat.not_lt.2 hroom), fillImages_eq h, fills_svn.fill,
    fills_manifest.fill, fills_svn.length, fills_manifest.length]
  rw [fills_deviceMode.fill]

theorem measurementCollection_all (h : Supported S H r.measurementHashAlgo)
    (hspec : r.measurementSpecification = S.specificationDmtf) (out : Output) :
    measurementCollection S H (r.at S.allMeasurements) out =
      collectAll S H (r.at S.allMeasurements) out := by
  have hvalid : ¬ ((r.at S.allMeasurements).measurementSpecification ≠ S.specificationDmtf ∨
      (r.at S.allMeasurements).measurementHashAlgo = 0) := not_or.2 ⟨not_not_intro hspec, h.1⟩
  have htotal : (r.at S.allMeasurements).measurementsIndex ≠ S.totalNumberOfMeasurements := by
    intro heq
    have hnodup := S.indices_nodup
    rw [List.nodup_cons] at hnodup
    exact hnodup.1 (heq ▸ List.mem_cons_self)
  simp only [measurementCollection, if_neg hvalid, if_neg htotal]
  exact if_pos rfl

theorem measurementCollection_total (h : Supported S H r.measurementHashAlgo)
    (hspec : r.measurementSpecification = S.specificationDmtf) (out : Output) :
    measurementCollection S H (r.at S.totalNumberOfMeasurements) out =
      successfulReturn S (r.at S.totalNumberOfMeasurements)
        { out with measurementsCount := blockNumber } := by
  have hvalid : ¬ ((r.at S.totalNumberOfMeasurements).measurementSpecification ≠
      S.specificationDmtf ∨ (r.at S.totalNumberOfMeasurements).measurementHashAlgo = 0) :=
    not_or.2 ⟨not_not_intro hspec, h.1⟩
  simp only [measurementCollection, if_neg hvalid]
  exact if_pos rfl

/-- What the request for one index returns in a buffer that has the room. -/
theorem record_measurementCollection_at (h : Supported S H r.measurementHashAlgo)
    (hspec : r.measurementSpecification = S.specificationDmtf) {index : UInt8}
    (hindex : index ∈ order S) {out : Output}
    (hroom : neededSize S H (r.at index) ≤ out.measurementsSize) :
    (measurementCollection S H (r.at index) out).1 = .success ∧
      (measurementCollection S H (r.at index) out).2.record = blockOf S H r index ∧
      (measurementCollection S H (r.at index) out).2.measurementsSize =
        (blockOf S H r index).length ∧
      (measurementCollection S H (r.at index) out).2.measurementsCount = 1 ∧
      IsBlock S (blockOf S H r index) := by
  obtain ⟨fill, hfills, hbranch⟩ := measurementCollection_at h hspec hindex
  rw [hbranch, collectOne_of_fills hfills hroom]
  refine ⟨rfl, ?_, hfills.length.symm, rfl, hfills.isBlock⟩
  show (out.measurements.store 0 (blockOf S H r index)).load 0 (neededSize S H (r.at index)) = _
  rw [← hfills.length, Mem.load_store]

/-- **The measurement record is consistent.** For a supported algorithm, any attribute and buffers
with enough room, the record of all measurements is the concatenation of the records of the single
ones, with the count of the total number and the sum of the sizes, and the size field of each block
is its DMTF header and its value. Whatever is asked for, nothing is written behind the buffer, and a
buffer without the room is refused. -/
theorem measurement_record_consistent (h : Supported S H r.measurementHashAlgo)
    (hspec : r.measurementSpecification = S.specificationDmtf) :
    (∀ (out : Output) (single : UInt8 → Output),
      neededSize S H (r.at S.allMeasurements) ≤ out.measurementsSize →
      (∀ i ∈ order S, neededSize S H (r.at i) ≤ (single i).measurementsSize) →
      let all := measurementCollection S H (r.at S.allMeasurements) out
      let one := fun i => measurementCollection S H (r.at i) (single i)
      let total := measurementCollection S H (r.at S.totalNumberOfMeasurements) out
      all.1 = .success ∧ total.1 = .success ∧
      (∀ i ∈ order S, (one i).1 = .success ∧ (one i).2.measurementsCount = 1 ∧
        WellFormedBlock S (one i).2.record) ∧
      all.2.record = (order S).flatMap (fun i => (one i).2.record) ∧
      all.2.measurementsSize = ((order S).map fun i => (one i).2.measurementsSize).sum ∧
      all.2.measurementsCount = total.2.measurementsCount) ∧
    (∀ (request : Request) (out : Output) (j : Nat), out.measurementsSize ≤ j →
      (measurementCollection S H request out).2.measurements j = out.measurements j) ∧
    ∀ i ∈ S.allMeasurements :: order S, ∀ out : Output,
      out.measurementsSize < neededSize S H (r.at i) →
      (measurementCollection S H (r.at i) out).1 = .bufferTooSmall := by
  have hneeded : neededSize S H (r.at S.allMeasurements) = allSize S H r := if_pos rfl
  refine ⟨?_, fun request out j hj => measurementCollection_of_ge request out hj, ?_⟩
  · intro out single hroom hsingle all one total
    have hone : ∀ i ∈ order S, _ := fun i hi =>
      record_measurementCollection_at h hspec hi (hsingle i hi)
    have hall : all = successfulReturn S (r.at S.allMeasurements) _ :=
      (measurementCollection_all h hspec out).trans
        (collectAll_of_room (r := r.at S.allMeasurements) h (hneeded ▸ hroom))
    have htotal : total = successfulReturn S (r.at S.totalNumberOfMeasurements) _ :=
      measurementCollection_total h hspec out
    have hrecords : ((order S).flatMap fun i => (one i).2.record) =
        (order S).flatMap (blockOf S H r) := by
      simp only [List.flatMap]
      exact congrArg List.flatten (List.map_congr_left fun i hi => (hone i hi).2.1)
    have hsizes : ((order S).map fun i => (one i).2.measurementsSize) =
        (order S).map fun i => (blockOf S H r i).length :=
      List.map_congr_left fun i hi => (hone i hi).2.2.1
    have hlength := length_flatMap_blockOf h
    refine ⟨?_, ?_, fun i hi => ?_, ?_, ?_, ?_⟩
    · rw [hall]
      rfl
    · rw [htotal]
      rfl
    · obtain ⟨hstatus, hrecord, -, hcount, hblock⟩ := hone i hi
      exact ⟨hstatus, hcount, by rw [hrecord]; exact hblock.wellFormed⟩
    · rw [hrecords, hall]
      show (out.measurements.store 0 ((order S).flatMap (blockOf S H r))).load 0 (allSize S H r) = _
      rw [← hlength, Mem.load_store]
    · rw [hsizes, ← List.length_flatMap, hlength, hall]
      rfl
    · rw [hall, htotal]
      rfl
  · intro i hi out hsmall
    rcases List.mem_cons.1 hi with rfl | hmem
    · rw [hneeded] at hsmall
      rw [measurementCollection_all h hspec out]
      exact congrArg Prod.fst (if_pos hsmall)
    · obtain ⟨fill, -, hbranch⟩ := measurementCollection_at h hspec hmem
      rw [hbranch, collectOne, if_pos hsmall]

end Records

/-! ## Concrete values -/

/-- Concrete values. The two statuses stand for any two errors. -/
def Spdm.sample : Spdm where
  specificationDmtf := 1
  rawBitStreamOnly := 1
  rawBitStreamRequested := 2
  generateSignature := 1
  totalNumberOfMeasurements := 0
  allMeasurements := 0xFF
  indexMeasurementManifest := 0xFD
  indexDeviceMode := 0xFE
  valueType
    | .immutableRom => 0
    | .measurementManifest => 4
    | .deviceMode => 5
    | .secureVersionNumber => 7
  rawBitStream := 0x80
  typeMask := 0x7F
  operationMode
    | .manufacturingMode => 1
    | .validationMode => 2
    | .normalMode => 4
    | .recoveryMode => 8
    | .rmaMode => 16
    | .decommissionedMode => 32
  debugMode
    | .nonInvasiveIsActive => 1
    | .invasiveIsActive => 2
    | .nonInvasiveHasBeenActive => 4
    | .invasiveHasBeenActive => 8
    | .invasiveHasBeenActiveAfterMfg => 16
  messageVersion12 := 0x12
  versionNumberShiftBit := 8
  contentNoChangeDetected := 0x20
  contentChangeNoDetection := 0
  measInternalError := .raw 0x80030002
  measInvalidIndex := .raw 0x80030001
  commonHeader := (Packed.u8.pair (Packed.u8.pair Packed.u16)).view
    (fun x => ⟨x.1, x.2.1, x.2.2⟩)
    (fun c => (c.index, c.measurementSpecification, c.measurementSize)) (fun _ => rfl)
  dmtfHeader := (Packed.u8.pair Packed.u16).view
    (fun x => ⟨x.1, x.2⟩) (fun d => (d.valueType, d.valueSize)) (fun _ => rfl)
  secureVersionNumber := Packed.u64
  deviceMode := (Packed.u32.pair (Packed.u32.pair (Packed.u32.pair Packed.u32))).view
    (fun x => ⟨x.1, x.2.1, x.2.2.1, x.2.2.2⟩)
    (fun d => (d.operationalModeCapabilities, d.operationalModeState, d.deviceModeCapabilities,
      d.deviceModeState)) (fun _ => rfl)
  indices_nodup := by decide
  indexMeasurementManifest_gt := by decide
  indexDeviceMode_gt := by decide
  commonHeader_size := rfl
  dmtfHeader_size := rfl
  secureVersionNumber_size := rfl
  deviceMode_size := rfl

/-- A hash of 32 zero bytes, for every algorithm. -/
def MeasurementHash.sample : MeasurementHash where
  size _ := 32
  hashAll _ _ := some (List.replicate 32 0)
  length_hashAll h := by
    cases h
    rfl

/-- A request for version 1.2 with the algorithm 2, which is a hash. -/
def sampleRequest : Request := ⟨0x1200, 1, 2, 0, 0⟩

theorem supported_sample : Supported .sample .sample sampleRequest.measurementHashAlgo :=
  ⟨by decide, fun _ => ⟨by decide, fun _ => rfl⟩⟩

/-- With the hash, all measurements take 329 bytes, and a buffer of 328 is refused. -/
theorem measurement_record_consistent_sample :
    Supported .sample .sample sampleRequest.measurementHashAlgo ∧
    (measurementCollection .sample .sample (sampleRequest.at 0xFF)
      ⟨none, 0, fun _ => 0, 329⟩).1 = .success ∧
    (measurementCollection .sample .sample (sampleRequest.at 0xFF)
      ⟨none, 0, fun _ => 0, 328⟩).1 = .bufferTooSmall :=
  ⟨supported_sample,
    ((measurement_record_consistent supported_sample rfl).1 ⟨none, 0, fun _ => 0, 329⟩
      (fun _ => ⟨none, 0, fun _ => 0, 329⟩) (by decide +kernel) (by decide +kernel)).1,
    (measurement_record_consistent supported_sample rfl).2.2 0xFF (List.mem_cons_self)
      ⟨none, 0, fun _ => 0, 328⟩ (by decide +kernel)⟩

end SpdmEmu.Meas
