import Mathlib.Data.List.Induction
import SpdmEmu.Meas.Collection

/-!
# The measurement summary hash

`libspdm_generate_measurement_summary_hash` of `spdm_device_secret_lib/meas.c`. It collects all
measurements, walks over their blocks by the size each of them declares, copies the selected ones
to a second buffer, and hashes what it copied.

The blocks are of the shape that the collection writes, so the walk meets the start of each of them
in turn (`Gathered`).
-/

set_option autoImplicit false

namespace SpdmEmu.Meas

open SpdmEmu.Wire SpdmEmu.Libspdm

/-- The hash functions of libspdm: `libspdm_get_hash_size` and `libspdm_hash_all`, where `none` is a
failure. -/
structure BaseHash where
  size : UInt32 → UInt32
  hashAll : UInt32 → Bytes → Option Bytes

/-- The types of summary of `spdm.h`. -/
structure SummaryTypes where
  noMeasurementSummaryHash : UInt8
  tcbComponentMeasurementHash : UInt8
  allMeasurementsHash : UInt8
  nodup : [noMeasurementSummaryHash, tcbComponentMeasurementHash, allMeasurementsHash].Nodup

/-- The arguments of the function that are read. -/
structure SummaryRequest where
  spdmVersion : UInt16
  baseHashAlgo : UInt32
  measurementSpecification : UInt8
  measurementHashAlgo : UInt32
  summaryHashType : UInt8
  summaryHashSize : UInt32

variable (S : Spdm) (H : MeasurementHash) (B : BaseHash) (T : SummaryTypes)

/-! ## The walk -/

/-- The common header of the block at an offset. -/
def commonAt (m : Mem) (off : Nat) : CommonHeader :=
  S.commonHeader.decode (m.load off S.commonHeader.size)

/-- The DMTF header of the block at an offset. -/
def dmtfAt (m : Mem) (off : Nat) : DmtfHeader :=
  S.dmtfHeader.decode (m.load (off + S.commonHeader.size) S.dmtfHeader.size)

/-- `measurment_block_size` -/
def blockSizeAt (m : Mem) (off : Nat) : Nat :=
  S.commonHeader.size + (commonAt S m off).measurementSize.toNat

/-- The place of the block after `n` passes of either loop. The first loop does nothing else, since
it only asserts. -/
def placeAfter (m : Mem) : Nat → Nat
  | 0 => 0
  | n + 1 => placeAfter m n + blockSizeAt S m (placeAfter m n)

/-- The variables of the second loop: `measurement_data` and `measurment_data_size`. -/
structure Gather where
  data : Mem
  dataSize : Nat

/-- The block with this value type is hashed. -/
def selects (summaryHashType valueType : UInt8) : Bool :=
  summaryHashType == T.allMeasurementsHash ||
    valueType &&& S.typeMask == S.valueType .immutableRom

/-- The version is below 1.2. -/
def below12 (spdmVersion : UInt16) : Bool :=
  spdmVersion.toNat < S.messageVersion12.toNat <<< S.versionNumberShiftBit

/-- The bytes that are copied of the block at an offset. -/
def copied (spdmVersion : UInt16) (m : Mem) (off : Nat) : Bytes :=
  if below12 S spdmVersion then
    m.load (off + S.commonHeader.size) (commonAt S m off).measurementSize.toNat
  else m.load off (S.commonHeader.size + (commonAt S m off).measurementSize.toNat)

/-- One pass of the second loop. -/
def gatherBlock (q : SummaryRequest) (bufferSize : Nat) (m : Mem) (off : Nat) (g : Gather) :
    Gather :=
  if selects S T q.summaryHashType (dmtfAt S m off).valueType then
    let bytes := copied S q.spdmVersion m off
    ⟨copyMem g.data g.dataSize (bufferSize - g.dataSize) bytes, g.dataSize + bytes.length⟩
  else g

/-- The second loop after `n` passes. -/
def gather (q : SummaryRequest) (bufferSize : Nat) (m : Mem) (data : Mem) : Nat → Gather
  | 0 => ⟨data, 0⟩
  | n + 1 => gatherBlock S T q bufferSize m (placeAfter S m n) (gather q bufferSize m data n)

/-- The request for all measurements. -/
def SummaryRequest.collection (q : SummaryRequest) : Request :=
  ⟨q.spdmVersion, q.measurementSpecification, q.measurementHashAlgo, 0xFF, 0⟩

/-- `libspdm_generate_measurement_summary_hash`: the result and the hash, if one was written. The
two local buffers have `LIBSPDM_MAX_MEASUREMENT_RECORD_SIZE` bytes of any content. -/
def generateMeasurementSummaryHash (q : SummaryRequest) (bufferSize : Nat)
    (deviceMeasurement measurementData : Mem) (deviceMeasurementCount : UInt8) :
    Bool × Option Bytes :=
  if q.summaryHashType = T.noMeasurementSummaryHash then (true, none)
  else if q.summaryHashType = T.tcbComponentMeasurementHash ∨
      q.summaryHashType = T.allMeasurementsHash then
    if q.summaryHashSize ≠ B.size q.baseHashAlgo then (false, none)
    else
      let (status, out) := measurementCollection S H q.collection
        ⟨none, deviceMeasurementCount, deviceMeasurement, bufferSize⟩
      if status.isError then (false, none)
      else
        let g := gather S T q bufferSize out.measurements measurementData
          out.measurementsCount.toNat
        match B.hashAll q.baseHashAlgo (g.data.load 0 g.dataSize) with
        | none => (false, none)
        | some hash => (true, some hash)
  else (false, none)

/-! ## The hashed bytes -/

/-- The blocks of the record, in order. -/
def recordBlocks (r : Request) : List Bytes := (order S).map (blockOf S H r)

/-- The block is of value type immutable ROM. -/
def isImmutableRom (bytes : Bytes) : Bool :=
  (S.dmtfHeader.decode (bytes.drop S.commonHeader.size)).valueType &&& S.typeMask ==
    S.valueType .immutableRom

/-- The blocks that a summary covers. -/
def summaryBlocks (summaryHashType : UInt8) (blocks : List Bytes) : List Bytes :=
  if summaryHashType = T.allMeasurementsHash then blocks else blocks.filter (isImmutableRom S)

/-- A block as it is hashed: without its common header below version 1.2. -/
def hashedBlock (spdmVersion : UInt16) (bytes : Bytes) : Bytes :=
  if below12 S spdmVersion then bytes.drop S.commonHeader.size else bytes

/-- The bytes that a summary covers. -/
def summaryBytes (q : SummaryRequest) (blocks : List Bytes) : Bytes :=
  (summaryBlocks S T q.summaryHashType blocks).flatMap (hashedBlock S q.spdmVersion)

section Walk

variable {S H B T} {q : SummaryRequest} {m : Mem} {blocks : List Bytes}

/-- What the loop reads of a block. -/
structure ReadsBlock (S : Spdm) (m : Mem) (off : Nat) (bytes : Bytes) : Prop where
  size : blockSizeAt S m off = bytes.length
  valueType : (dmtfAt S m off).valueType =
    (S.dmtfHeader.decode (bytes.drop S.commonHeader.size)).valueType
  copied : ∀ spdmVersion, copied S spdmVersion m off = hashedBlock S spdmVersion bytes
  headers : blockHeaderSize S ≤ bytes.length

/-- A block in memory is read as it is. -/
theorem readsBlock {off : Nat} {bytes : Bytes} (hblock : IsBlock S bytes)
    (hload : m.load off bytes.length = bytes) : ReadsBlock S m off bytes := by
  obtain ⟨index, valueType, value, rfl, hlt⟩ := hblock
  have hvalue : (UInt16.ofNat value.length).toNat = value.length :=
    UInt16.toNat_ofNat_of_lt' (by show _ < 2 ^ 16; omega)
  have hsize : (UInt16.ofNat (S.dmtfHeader.size + value.length)).toNat =
      S.dmtfHeader.size + value.length := UInt16.toNat_ofNat_of_lt' hlt
  generalize hc : (⟨index, S.specificationDmtf,
    UInt16.ofNat (S.dmtfHeader.size + (UInt16.ofNat value.length).toNat)⟩ : CommonHeader) = c
  generalize hd : (⟨valueType, UInt16.ofNat value.length⟩ : DmtfHeader) = d
  have hmeasurement : c.measurementSize.toNat = S.dmtfHeader.size + value.length := by
    rw [← hc, hvalue, hsize]
  have hbytes : block S index valueType value =
      S.commonHeader.encode c ++ (S.dmtfHeader.encode d ++ value) := by
    rw [block, blockHeader, hc, hd, List.append_assoc]
  rw [hbytes] at hload ⊢
  have hlength : (S.commonHeader.encode c ++ (S.dmtfHeader.encode d ++ value)).length =
      S.commonHeader.size + c.measurementSize.toNat := by
    rw [List.length_append, List.length_append, S.commonHeader.length_encode,
      S.dmtfHeader.length_encode, hmeasurement]
  -- the memory holds the common header, the DMTF header and the value
  rw [List.length_append] at hload
  obtain ⟨hcommon, hrest⟩ := Mem.load_of_load_append hload
  rw [S.commonHeader.length_encode] at hcommon hrest
  have hrest' := hrest
  rw [List.length_append] at hrest'
  obtain ⟨hdmtf, -⟩ := Mem.load_of_load_append hrest'
  rw [S.dmtfHeader.length_encode] at hdmtf
  have hcommonAt : commonAt S m off = c := by
    rw [commonAt, hcommon, Packed.decode_encode]
  have hvalueLength : (S.dmtfHeader.encode d ++ value).length = c.measurementSize.toNat := by
    rw [List.length_append, S.dmtfHeader.length_encode, hmeasurement]
  refine ⟨?_, ?_, fun spdmVersion => ?_, ?_⟩
  · rw [blockSizeAt, hcommonAt, hlength]
  · rw [dmtfAt, hdmtf, Packed.decode_encode, Packed.drop_encode_append,
      Packed.decode_encode_append]
  · rw [copied, hashedBlock, hcommonAt, Packed.drop_encode_append, ← hvalueLength, hrest,
      ← S.commonHeader.length_encode c, hload]
  · rw [hlength, hmeasurement, blockHeaderSize]
    omega

/-- The blocks lie in memory one behind the other. -/
structure HoldsBlocks (S : Spdm) (m : Mem) (blocks : List Bytes) : Prop where
  isBlock : ∀ bytes ∈ blocks, IsBlock S bytes
  load : m.load 0 blocks.flatten.length = blocks.flatten

/-- The block behind the first ones. -/
theorem HoldsBlocks.readsBlock (h : HoldsBlocks S m blocks) {front rest : List Bytes}
    {bytes : Bytes} (hsplit : blocks = front ++ bytes :: rest) :
    ReadsBlock S m front.flatten.length bytes := by
  have hload := h.load
  rw [hsplit, List.flatten_append, List.flatten_cons, List.length_append] at hload
  obtain ⟨-, hbehind⟩ := Mem.load_of_load_append hload
  rw [List.length_append, Nat.zero_add] at hbehind
  refine Meas.readsBlock (h.isBlock bytes ?_) (Mem.load_of_load_append hbehind).1
  rw [hsplit]
  exact List.mem_append_right _ List.mem_cons_self

/-- Each pass starts at the block behind those of the passes before it. -/
theorem HoldsBlocks.placeAfter_eq (h : HoldsBlocks S m blocks) {n : Nat} (hn : n ≤ blocks.length) :
    placeAfter S m n = (blocks.take n).flatten.length := by
  induction n with
  | zero => rfl
  | succ n ih =>
      have hlt : n < blocks.length := hn
      have hsplit : blocks = blocks.take n ++ blocks[n] :: blocks.drop (n + 1) := by
        rw [← List.drop_eq_getElem_cons hlt, List.take_append_drop]
      rw [placeAfter, ih (Nat.le_of_lt hlt), (h.readsBlock hsplit).size,
        List.take_succ_eq_append_getElem hlt, List.flatten_append, List.length_append]
      simp

/-- The selection of the loop is that of the blocks. -/
theorem summaryBytes_append_singleton (q : SummaryRequest) (front : List Bytes) (bytes : Bytes) :
    summaryBytes S T q (front ++ [bytes]) = summaryBytes S T q front ++
      if q.summaryHashType = T.allMeasurementsHash ∨ isImmutableRom S bytes = true then
        hashedBlock S q.spdmVersion bytes else [] := by
  rw [summaryBytes, summaryBytes, summaryBlocks, summaryBlocks]
  by_cases hall : q.summaryHashType = T.allMeasurementsHash
  · simp [hall]
  · cases hrom : isImmutableRom S bytes <;> simp [hall, hrom]

theorem length_hashedBlock_le (spdmVersion : UInt16) (bytes : Bytes) :
    (hashedBlock S spdmVersion bytes).length ≤ bytes.length := by
  rw [hashedBlock]
  split
  · rw [List.length_drop]
    omega
  · exact Nat.le_refl _

theorem length_summaryBytes_le (q : SummaryRequest) (blocks : List Bytes) :
    (summaryBytes S T q blocks).length ≤ blocks.flatten.length := by
  induction blocks using List.reverseRecOn with
  | nil =>
      rw [summaryBytes, summaryBlocks]
      split <;> simp
  | append_singleton front bytes ih =>
      have hbytes := length_hashedBlock_le (S := S) q.spdmVersion bytes
      rw [summaryBytes_append_singleton, List.length_append, List.flatten_append,
        List.length_append]
      have hlast : [bytes].flatten.length = bytes.length := by simp
      split
      · omega
      · rw [List.length_nil]
        omega

/-- The second loop has gathered the bytes of the selected blocks among the first ones. -/
structure Gathered (S : Spdm) (T : SummaryTypes) (q : SummaryRequest) (blocks : List Bytes)
    (g : Gather) : Prop where
  dataSize : g.dataSize = (summaryBytes S T q blocks).length
  load : g.data.load 0 g.dataSize = summaryBytes S T q blocks

/-- One more block is gathered, if the buffer has the size of the blocks. -/
theorem Gathered.gatherBlock {front : List Bytes} {bytes : Bytes} {bufferSize off : Nat}
    {g : Gather} (h : Gathered S T q front g) (hreads : ReadsBlock S m off bytes)
    (hfits : (front ++ [bytes]).flatten.length ≤ bufferSize) :
    Gathered S T q (front ++ [bytes]) (gatherBlock S T q bufferSize m off g) := by
  have hall := length_summaryBytes_le (S := S) (T := T) q (front ++ [bytes])
  have hselects : selects S T q.summaryHashType (dmtfAt S m off).valueType = true ↔
      q.summaryHashType = T.allMeasurementsHash ∨ isImmutableRom S bytes = true := by
    rw [selects, hreads.valueType, Bool.or_eq_true, beq_iff_eq]
    rfl
  rw [summaryBytes_append_singleton] at hall
  simp only [Meas.gatherBlock, hselects]
  by_cases hselected : q.summaryHashType = T.allMeasurementsHash ∨ isImmutableRom S bytes = true
  · rw [if_pos hselected, List.length_append] at hall
    have hroom : (hashedBlock S q.spdmVersion bytes).length ≤ bufferSize - g.dataSize := by
      rw [h.dataSize]
      omega
    rw [if_pos hselected, hreads.copied, copyMem_of_le _ _ hroom]
    refine ⟨?_, ?_⟩
    · rw [summaryBytes_append_singleton, if_pos hselected, List.length_append, h.dataSize]
    · rw [summaryBytes_append_singleton, if_pos hselected, Mem.load_store_end, h.load]
  · rw [if_neg hselected]
    refine ⟨?_, ?_⟩
    · rw [summaryBytes_append_singleton, if_neg hselected, List.append_nil, h.dataSize]
    · rw [summaryBytes_append_singleton, if_neg hselected, List.append_nil, h.load]

/-- After each pass the bytes of the selected blocks so far are gathered. -/
theorem HoldsBlocks.gathered (h : HoldsBlocks S m blocks) {bufferSize : Nat}
    (hfits : blocks.flatten.length ≤ bufferSize) (q : SummaryRequest) (data : Mem) {n : Nat}
    (hn : n ≤ blocks.length) :
    Gathered S T q (blocks.take n) (gather S T q bufferSize m data n) := by
  induction n with
  | zero =>
      rw [List.take_zero]
      refine ⟨?_, ?_⟩
      · rw [summaryBytes, summaryBlocks]
        split <;> rfl
      · rw [summaryBytes, summaryBlocks]
        split <;> rfl
  | succ n ih =>
      have hlt : n < blocks.length := hn
      have hsplit : blocks = blocks.take n ++ blocks[n] :: blocks.drop (n + 1) := by
        rw [← List.drop_eq_getElem_cons hlt, List.take_append_drop]
      have hle : (blocks.take (n + 1)).flatten.length ≤ blocks.flatten.length := by
        have hparts := congrArg List.length
          (congrArg List.flatten (List.take_append_drop (n + 1) blocks))
        rw [List.flatten_append, List.length_append] at hparts
        omega
      rw [gather, h.placeAfter_eq (Nat.le_of_lt hlt), List.take_succ_eq_append_getElem hlt]
      rw [List.take_succ_eq_append_getElem hlt] at hle
      exact (ih (Nat.le_of_lt hlt)).gatherBlock (h.readsBlock hsplit) (Nat.le_trans hle hfits)

/-- The collection leaves the blocks in the local buffer. -/
theorem holdsBlocks_collection (h : Supported S H q.measurementHashAlgo)
    (hspec : q.measurementSpecification = S.specificationDmtf)
    (hindex : S.allMeasurements = 0xFF) {out : Output}
    (hfits : allSize S H q.collection ≤ out.measurementsSize) :
    (measurementCollection S H q.collection out).1 = .success ∧
      (measurementCollection S H q.collection out).2.measurementsCount = blockNumber ∧
      (measurementCollection S H q.collection out).2.measurementsSize =
        (recordBlocks S H q.collection).flatten.length ∧
      HoldsBlocks S (measurementCollection S H q.collection out).2.measurements
        (recordBlocks S H q.collection) := by
  have hrequest : q.collection.at S.allMeasurements = q.collection := by
    rw [hindex]
    rfl
  have hcollect := measurementCollection_all (r := q.collection) h hspec out
  rw [hrequest, collectAll_of_room h hfits] at hcollect
  have hflatten : (recordBlocks S H q.collection).flatten =
      (order S).flatMap (blockOf S H q.collection) := rfl
  rw [hcollect]
  refine ⟨rfl, rfl, ?_, ?_, ?_⟩
  · rw [hflatten, length_flatMap_blockOf h]
    rfl
  · intro bytes hbytes
    obtain ⟨i, hi, rfl⟩ := List.mem_map.1 hbytes
    obtain ⟨fill, hfills, -⟩ := measurementCollection_at (r := q.collection) h hspec hi
    exact hfills.isBlock
  · rw [hflatten, measurements_successfulReturn, Mem.load_store]

/-- **The summary hash covers the right bytes.** For every version, algorithms and content of the
local buffers, if the record fits them: the result is the base hash of the selected blocks in record
order, without their common headers below version 1.2. Each pass of the walk is at a block inside
the collected bytes, the last one ends where they end, and what is copied stays inside its
buffer. -/
theorem summary_hash_covers (h : Supported S H q.measurementHashAlgo)
    (hspec : q.measurementSpecification = S.specificationDmtf)
    (hindex : S.allMeasurements = 0xFF)
    (htype : q.summaryHashType = T.tcbComponentMeasurementHash ∨
      q.summaryHashType = T.allMeasurementsHash)
    (hsize : q.summaryHashSize = B.size q.baseHashAlgo)
    (hbase : ∀ data, (B.hashAll q.baseHashAlgo data).isSome) {bufferSize : Nat}
    (hfits : allSize S H q.collection ≤ bufferSize) (deviceMeasurement measurementData : Mem)
    (deviceMeasurementCount : UInt8) :
    let blocks := recordBlocks S H q.collection
    let out := (measurementCollection S H q.collection
      ⟨none, deviceMeasurementCount, deviceMeasurement, bufferSize⟩).2
    let count := out.measurementsCount.toNat
    let place := placeAfter S out.measurements
    out.record = blocks.flatten ∧
    generateMeasurementSummaryHash S H B T q bufferSize deviceMeasurement measurementData
        deviceMeasurementCount =
      (true, B.hashAll q.baseHashAlgo (summaryBytes S T q blocks)) ∧
    (∀ n < count, blockHeaderSize S ≤ blockSizeAt S out.measurements (place n) ∧
      place n + blockSizeAt S out.measurements (place n) ≤ out.measurementsSize) ∧
    place count = out.measurementsSize ∧
    ∀ n ≤ count, (gather S T q bufferSize out.measurements measurementData n).dataSize ≤
      bufferSize := by
  intro blocks out count place
  obtain ⟨hstatus, hcount, hlength, hholds⟩ :
      (measurementCollection S H q.collection
        ⟨none, deviceMeasurementCount, deviceMeasurement, bufferSize⟩).1 = .success ∧
      out.measurementsCount = blockNumber ∧ out.measurementsSize = blocks.flatten.length ∧
      HoldsBlocks S out.measurements blocks := holdsBlocks_collection h hspec hindex hfits
  have hblocks : count = blocks.length := by
    show out.measurementsCount.toNat = _
    rw [hcount]
    rfl
  have hroom : blocks.flatten.length ≤ bufferSize := by
    have hflatten : blocks.flatten.length = allSize S H q.collection := length_flatMap_blockOf h
    rw [hflatten]
    exact hfits
  have hplace : ∀ n, n ≤ count → place n = (blocks.take n).flatten.length :=
    fun n hn => hholds.placeAfter_eq (hblocks ▸ hn)
  have hend : place count = out.measurementsSize := by
    rw [hplace count (Nat.le_refl _), hblocks, List.take_length, hlength]
  have hgathered : ∀ n, n ≤ count → Gathered S T q (blocks.take n)
      (gather S T q bufferSize out.measurements measurementData n) :=
    fun n hn => hholds.gathered hroom q measurementData (hblocks ▸ hn)
  -- the places of the passes grow, so each block ends before the last place
  have hmono : ∀ n, n ≤ count → place n ≤ out.measurementsSize := by
    intro n hn
    have hparts := congrArg List.length (congrArg List.flatten (List.take_append_drop n blocks))
    rw [List.flatten_append, List.length_append] at hparts
    rw [hplace n hn, hlength]
    omega
  refine ⟨?_, ?_, fun n hn => ⟨?_, hmono (n + 1) hn⟩, hend, fun n hn => ?_⟩
  · show out.measurements.load 0 out.measurementsSize = _
    rw [hlength, hholds.load]
  · have hall := hgathered count (Nat.le_refl _)
    rw [hblocks, List.take_length, ← hblocks] at hall
    have hnone : q.summaryHashType ≠ T.noMeasurementSummaryHash := by
      have hnodup := T.nodup
      simp only [List.nodup_cons, List.mem_cons, List.not_mem_nil, or_false, not_or] at hnodup
      rcases htype with htcb | hallType
      · rw [htcb]
        exact fun heq => hnodup.1.1 heq.symm
      · rw [hallType]
        exact fun heq => hnodup.1.2 heq.symm
    obtain ⟨hash, hhash⟩ := Option.isSome_iff_exists.1 (hbase (summaryBytes S T q blocks))
    have hload : (gather S T q bufferSize out.measurements measurementData count).data.load 0
        (gather S T q bufferSize out.measurements measurementData count).dataSize =
          summaryBytes S T q blocks := hall.load
    simp only [generateMeasurementSummaryHash, if_neg hnone, if_pos htype,
      if_neg (not_not_intro hsize), hstatus, LibspdmReturn.isError, Bool.false_eq_true, if_false]
    rw [hload, hhash]
  · have hlt : n < blocks.length := hblocks ▸ hn
    have hsplit : blocks = blocks.take n ++ blocks[n] :: blocks.drop (n + 1) := by
      rw [← List.drop_eq_getElem_cons hlt, List.take_append_drop]
    have hreads := hholds.readsBlock hsplit
    rw [hplace n (Nat.le_of_lt hn), hreads.size]
    exact hreads.headers
  · have hle := length_summaryBytes_le (S := S) (T := T) q (blocks.take n)
    have hplaceLe := hmono n hn
    rw [hplace n hn, hlength] at hplaceLe
    rw [(hgathered n hn).dataSize]
    omega

end Walk

/-! ## Concrete values -/

/-- The types of summary of SPDM. -/
def SummaryTypes.sample : SummaryTypes := ⟨0, 1, 0xFF, by decide⟩

/-- A hash of 32 bytes that are all the number of bytes hashed. -/
def BaseHash.sample : BaseHash where
  size _ := 32
  hashAll _ data := some (List.replicate 32 (UInt8.ofNat data.length))

/-- A summary of the components of the trusted base. -/
def sampleSummary (spdmVersion : UInt16) : SummaryRequest := ⟨spdmVersion, 0, 1, 2, 1, 32⟩

/-- The block of index 1 is the only one that is hashed, with 39 bytes in version 1.2. -/
theorem summary_hash_covers_sample :
    allSize .sample .sample (sampleSummary 0x1200).collection ≤ 0x1000 ∧
    generateMeasurementSummaryHash .sample .sample .sample .sample (sampleSummary 0x1200) 0x1000
      (fun _ => 0) (fun _ => 0) 0 = (true, some (List.replicate 32 39)) := by
  have hfits : allSize .sample .sample (sampleSummary 0x1200).collection ≤ 0x1000 := by
    decide +kernel
  refine ⟨hfits, ?_⟩
  have hcovers := (summary_hash_covers (S := .sample) (H := .sample) (B := .sample) (T := .sample)
    (q := sampleSummary 0x1200) supported_sample rfl rfl (.inl rfl) rfl (fun _ => rfl) hfits
    (fun _ => 0) (fun _ => 0) 0).2.1
  rw [hcovers]
  decide +kernel

end SpdmEmu.Meas
