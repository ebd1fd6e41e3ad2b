import Mathlib.Data.List.Forall2
import SpdmEmu.Libc.Strtoull
import SpdmEmu.Libspdm.Status
import SpdmEmu.Tdisp.Standard

/-!
# The report from a JSON file

`pci_tdisp_device_interface_report_load_from_json` of `library/pci_tdisp_device_lib_sample` makes
the interface report from a file. It reads each number with `json_get_uint`, which takes any JSON
integer and what `strtoull` makes of a string, and stores it in the width of its field.

The values of jansson are given as data: an object is looked up by name, integers have 64 bits, and
strings have no NUL, which `json_load_file` refuses. The layouts of the two packed structures are
parameters.
-/

set_option autoImplicit false

namespace SpdmEmu.Tdisp

open SpdmEmu.Wire SpdmEmu.Libspdm SpdmEmu.Libc

/-! ## Documents -/

/-- The bytes of a JSON string, at a pointer with a NUL behind them. -/
structure JsonText where
  bytes : Bytes
  noNul : 0 ∉ bytes

/-- `strlen` -/
def JsonText.strlen (text : JsonText) : Nat := (text.bytes.takeWhile (· != 0)).length

theorem JsonText.strlen_eq (text : JsonText) : text.strlen = text.bytes.length := by
  have hall : ∀ b ∈ text.bytes, (b != 0) = true := fun b hb =>
    bne_iff_ne.2 fun heq => text.noNul (heq ▸ hb)
  rw [JsonText.strlen, List.takeWhile_eq_self_iff.2 hall]

/-- `json_t` -/
inductive JsonValue where
  | object (members : List (String × JsonValue))
  | array (elements : List JsonValue)
  | string (text : JsonText)
  | integer (n : Int64)
  /-- the bits of a double -/
  | real (bits : UInt64)
  | boolean (b : Bool)
  | null

/-- The members of a JSON object. -/
abbrev JsonMembers := List (String × JsonValue)

/-- `json_get_uint` -/
def jsonGetUint (object : JsonMembers) (field : String) : Option UInt64 :=
  match object.lookup field with
  | some (.integer n) => some n.toUInt64
  | some (.string text) =>
      -- only a sign in the first place is refused, `strtoull` takes one behind white space
      if text.bytes.head?.any isSign then none
      else if (strtoull text.bytes).rest = text.bytes ∨ (strtoull text.bytes).rest ≠ [] ∨
          (strtoull text.bytes).outOfRange = true then none
      else some (strtoull text.bytes).value
  | _ => none

/-! ## Reports -/

/-- `pci_tdisp_device_interface_report_struct_t` -/
structure ReportHeader where
  interfaceInfo : UInt16
  msiXMessageControl : UInt16
  lnrControl : UInt16
  tphControl : UInt32
  mmioRangeCount : UInt32
deriving DecidableEq, Repr

/-- The two packed structures of a report. -/
structure ReportLayout where
  header : Packed ReportHeader
  mmioRange : Packed MmioRange
  header_size : header.size = 16
  mmioRange_size : mmioRange.size = 16

/-- The parts of a report. -/
structure Report where
  header : ReportHeader
  ranges : List MmioRange
  infoLen : UInt32
  info : Bytes
deriving DecidableEq

/-- The report as bytes. -/
def Report.bytes (L : ReportLayout) (r : Report) : Bytes :=
  L.header.encode r.header ++
    (L.mmioRange.encodeList r.ranges ++ (Packed.u32.encode r.infoLen ++ r.info))

/-- Take bytes apart as a header, its number of ranges, a length and exactly that many bytes. -/
def parseReport (L : ReportLayout) (bs : Bytes) : Option Report :=
  let header := L.header.decode bs
  let afterHeader := bs.drop L.header.size
  let count := header.mmioRangeCount.toNat
  let afterRanges := afterHeader.drop (count * L.mmioRange.size)
  let infoLen := Packed.u32.decode afterRanges
  let info := afterRanges.drop 4
  if L.header.size + count * L.mmioRange.size + 4 ≤ bs.length ∧ info.length = infoLen.toNat then
    some ⟨header, L.mmioRange.decodeList count afterHeader, infoLen, info⟩
  else none

/-! ## The loader -/

/-- `MAX_MMIO_RANGE_COUNT` -/
def maxMmioRangeCount : Nat := 4

/-- The header that the loader fills in. -/
def readHeader (root : JsonMembers) (mmioRangeCount : Nat) : Option ReportHeader := do
  let interfaceInfo ← jsonGetUint root "interface_info"
  let msiXMessageControl ← jsonGetUint root "msi_x_message_control"
  let lnrControl ← jsonGetUint root "lnr_control"
  let tphControl ← jsonGetUint root "tph_control"
  pure ⟨interfaceInfo.toUInt16, msiXMessageControl.toUInt16, lnrControl.toUInt16,
    tphControl.toUInt32, UInt32.ofNat mmioRangeCount⟩

/-- The range that the loader fills in for an element of `mmio_ranges`. -/
def readRange : JsonValue → Option MmioRange
  | .object element => do
      let firstPage ← jsonGetUint element "first_page"
      let numberOfPages ← jsonGetUint element "number_of_pages"
      let rangeAttributes ← jsonGetUint element "range_attributes"
      let rangeId ← jsonGetUint element "range_id"
      pure ⟨firstPage, numberOfPages.toUInt32, rangeAttributes.toUInt16, rangeId.toUInt16⟩
  | _ => none

section Loader

variable (L : ReportLayout)

/-- The loop over `mmio_ranges`: whether it came to its end, the memory, and `buffer_ptr`. -/
def storeRanges (bufferSize : Nat) : List JsonValue → Mem → Nat → Bool × Mem × Nat
  | [], buffer, pointer => (true, buffer, pointer)
  | element :: elements, buffer, pointer =>
      match readRange element with
      | none => (false, buffer, pointer)
      | some range =>
          storeRanges bufferSize elements
            (copyMem buffer pointer (bufferSize - pointer) (L.mmioRange.encode range))
            (pointer + L.mmioRange.size)

/-- The part from the computation of the size on. -/
def storeReport (root : JsonMembers) (ranges : List JsonValue) (info : JsonText) (buffer : Mem)
    (bufferSize : Nat) (reportSize : UInt16) : Bool × Mem × UInt16 :=
  let infoLen := UInt32.ofNat info.strlen
  let totalSize := L.header.size + ranges.length * L.mmioRange.size + 4 + infoLen.toNat
  if totalSize > bufferSize then (false, buffer, reportSize)
  else
    let buffer := buffer.store 0 (List.replicate bufferSize 0)
    match readHeader root ranges.length with
    | none => (false, buffer, reportSize)
    | some header =>
        let buffer := copyMem buffer 0 bufferSize (L.header.encode header)
        let loop := storeRanges L bufferSize ranges buffer L.header.size
        if loop.1 then
          let pointer := loop.2.2
          let buffer := copyMem loop.2.1 pointer (bufferSize - pointer) (Packed.u32.encode infoLen)
          let buffer := copyMem buffer (pointer + 4) (bufferSize - (pointer + 4))
            (info.bytes.take infoLen.toNat)
          (true, buffer, UInt16.ofNat totalSize)
        else (false, loop.2.1, reportSize)

/-- `pci_tdisp_device_interface_report_load_from_json`, for what `json_load_file` returns: whether
it succeeds, the memory at `buffer`, and `*report_size`. -/
def interfaceReportLoadFromJson (document : Option JsonValue) (buffer : Mem) (bufferSize : Nat)
    (reportSize : UInt16) : Bool × Mem × UInt16 :=
  match document with
  | some (.object root) =>
      match root.lookup "mmio_ranges" with
      | some (.array ranges) =>
          if ranges.length > maxMmioRangeCount then (false, buffer, reportSize)
          else
            match root.lookup "device_specific_info" with
            | some (.string info) => storeReport L root ranges info buffer bufferSize reportSize
            | _ => (false, buffer, reportSize)
      | _ => (false, buffer, reportSize)
  | _ => (false, buffer, reportSize)

end Loader

/-! ## What a report takes apart into -/

section Parse

variable {L : ReportLayout}

theorem Report.length_bytes (r : Report) :
    (r.bytes L).length = 16 + 16 * r.ranges.length + 4 + r.info.length := by
  have hlen : (Packed.u32.encode r.infoLen).length = 4 := Packed.length_encode_eq _ _
  rw [Report.bytes, List.length_append, List.length_append, List.length_append,
    Packed.length_encode_eq, Packed.length_encodeList, hlen, L.header_size, L.mmioRange_size]
  omega

/-- A report whose counts are right comes back from its bytes. -/
theorem parseReport_bytes {r : Report} (hcount : r.header.mmioRangeCount.toNat = r.ranges.length)
    (hinfo : r.infoLen.toNat = r.info.length) : parseReport L (r.bytes L) = some r := by
  have hdrop : (L.mmioRange.encodeList r.ranges ++ (Packed.u32.encode r.infoLen ++ r.info)).drop
      (r.ranges.length * L.mmioRange.size) = Packed.u32.encode r.infoLen ++ r.info :=
    List.drop_left' (by rw [Packed.length_encodeList])
  have hrest : (Packed.u32.encode r.infoLen ++ r.info).drop 4 = r.info :=
    Packed.drop_encode_append Packed.u32 r.infoLen r.info
  have hlength : L.header.size + r.ranges.length * L.mmioRange.size + 4 ≤ (r.bytes L).length := by
    rw [Report.length_bytes, L.header_size, L.mmioRange_size]
    omega
  rw [parseReport]
  simp only [Report.bytes, Packed.decode_encode_append, Packed.drop_encode_append, hcount, hdrop,
    hrest, Packed.decodeList_encodeList]
  exact if_pos ⟨hlength, hinfo.symm⟩

end Parse

/-! ## A load that succeeds -/

section Loaded

variable {L : ReportLayout}

/-- A copy to the end of what is stored, with room for it. -/
theorem copyMem_store_end (buffer : Mem) {bufferSize : Nat} {done bs : Bytes}
    (h : done.length + bs.length ≤ bufferSize) :
    copyMem (buffer.store 0 done) done.length (bufferSize - done.length) bs =
      buffer.store 0 (done ++ bs) := by
  have happend := Mem.store_append buffer 0 done bs
  rw [Nat.zero_add] at happend
  rw [copyMem_of_le _ _ (by omega), happend]

/-- **The loop over the ranges** stores them behind what is there, one after the other. -/
theorem storeRanges_spec {bufferSize : Nat} {ranges : List JsonValue} {buffer : Mem} {done : Bytes}
    (hroom : done.length + ranges.length * L.mmioRange.size ≤ bufferSize)
    (hend : (storeRanges L bufferSize ranges (buffer.store 0 done) done.length).1 = true) :
    ∃ rs, List.Forall₂ (fun element range => readRange element = some range) ranges rs ∧
      storeRanges L bufferSize ranges (buffer.store 0 done) done.length =
        (true, buffer.store 0 (done ++ L.mmioRange.encodeList rs),
          (done ++ L.mmioRange.encodeList rs).length) := by
  -- along the elements, with the bytes that are stored before
  induction ranges generalizing done with
  | nil => exact ⟨[], .nil, by simp [storeRanges, Packed.encodeList]⟩
  | cons element ranges ih =>
      rw [storeRanges] at hend ⊢
      cases hread : readRange element with
      | none => simp [hread] at hend
      | some range =>
          have hlen : (L.mmioRange.encode range).length = L.mmioRange.size :=
            Packed.length_encode_eq _ _
          rw [List.length_cons, Nat.succ_mul] at hroom
          have hstore : copyMem (buffer.store 0 done) done.length (bufferSize - done.length)
              (L.mmioRange.encode range) = buffer.store 0 (done ++ L.mmioRange.encode range) :=
            copyMem_store_end buffer (by omega)
          have hnext : done.length + L.mmioRange.size =
              (done ++ L.mmioRange.encode range).length := by
            rw [List.length_append, hlen]
          simp only [hread, hstore, hnext] at hend ⊢
          obtain ⟨rs, hrs, hloop⟩ := ih (by omega) hend
          refine ⟨range :: rs, .cons hread hrs, ?_⟩
          rw [hloop, List.append_assoc]
          rfl

/-- What a successful load has read and stored. -/
structure Loaded (L : ReportLayout) (buffer : Mem) (bufferSize : Nat) (root : JsonMembers)
    (ranges : List JsonValue) (info : JsonText) (r : Report) (result : Mem × UInt16) : Prop where
  ranges_eq : root.lookup "mmio_ranges" = some (.array ranges)
  count_le : ranges.length ≤ maxMmioRangeCount
  info_eq : root.lookup "device_specific_info" = some (.string info)
  header_eq : readHeader root ranges.length = some r.header
  range_eq : List.Forall₂ (fun element range => readRange element = some range) ranges r.ranges
  infoLen_eq : r.infoLen = UInt32.ofNat info.bytes.length
  stored_info : r.info = info.bytes.take r.infoLen.toNat
  length_le : (r.bytes L).length ≤ bufferSize
  memory : result.1 = (buffer.store 0 (List.replicate bufferSize 0)).store 0 (r.bytes L)
  size : result.2 = UInt16.ofNat (r.bytes L).length

/-- The part from the computation of the size on, if it comes to its end. -/
theorem storeReport_spec {root : JsonMembers} {ranges : List JsonValue} {info : JsonText}
    {buffer : Mem} {bufferSize : Nat} {reportSize : UInt16}
    (hranges : root.lookup "mmio_ranges" = some (.array ranges))
    (hcount : ranges.length ≤ maxMmioRangeCount)
    (hinfo : root.lookup "device_specific_info" = some (.string info))
    (hend : (storeReport L root ranges info buffer bufferSize reportSize).1 = true) :
    ∃ r, Loaded L buffer bufferSize root ranges info r
      (storeReport L root ranges info buffer bufferSize reportSize).2 := by
  rw [storeReport, JsonText.strlen_eq] at hend ⊢
  dsimp only at hend ⊢
  split_ifs at hend ⊢ with hsize
  cases hheader : readHeader root ranges.length with
  | none => simp [hheader] at hend
  | some header =>
      rw [hheader] at hend
      dsimp only at hend ⊢
      generalize hzero : buffer.store 0 (List.replicate bufferSize 0) = zeroed at hend ⊢
      generalize hlen : UInt32.ofNat info.bytes.length = infoLen at hend hsize ⊢
      have hheaderLen : (L.header.encode header).length = L.header.size :=
        Packed.length_encode_eq _ _
      have hu32 : (Packed.u32.encode infoLen).length = 4 := Packed.length_encode_eq _ _
      rw [copyMem_of_le _ _ (by omega), ← hheaderLen] at hend ⊢
      split_ifs at hend ⊢ with hloop
      obtain ⟨rs, hrs, hstored⟩ := storeRanges_spec (by omega) hloop
      have hrsLen : (L.mmioRange.encodeList rs).length = ranges.length * L.mmioRange.size := by
        rw [Packed.length_encodeList, hrs.length_eq]
      have htake : (info.bytes.take infoLen.toNat).length = infoLen.toNat := by
        rw [List.length_take, Nat.min_eq_left]
        rw [← hlen]
        exact Nat.mod_le _ _
      -- the length goes behind the ranges, and the bytes behind the length
      generalize hdone : L.header.encode header ++ L.mmioRange.encodeList rs = done at hstored
      have hdoneLen : done.length = L.header.size + ranges.length * L.mmioRange.size := by
        rw [← hdone, List.length_append, hheaderLen, hrsLen]
      have hlenEnd : (done ++ Packed.u32.encode infoLen).length = done.length + 4 := by
        rw [List.length_append, hu32]
      rw [hstored]
      dsimp only
      rw [copyMem_store_end _ (by omega), ← hlenEnd, copyMem_store_end _ (by omega)]
      have hbytes : (Report.mk header rs infoLen (info.bytes.take infoLen.toNat)).bytes L =
          done ++ Packed.u32.encode infoLen ++ info.bytes.take infoLen.toNat := by
        rw [Report.bytes, ← hdone, List.append_assoc, List.append_assoc]
      refine ⟨⟨header, rs, infoLen, info.bytes.take infoLen.toNat⟩, hranges, hcount, hinfo, hheader,
        hrs, hlen.symm, rfl, ?_, ?_, ?_⟩
      · rw [hbytes, List.length_append, List.length_append, hdoneLen, hu32, htake]
        omega
      · rw [hbytes, hzero]
      · rw [hbytes, List.length_append, List.length_append, hdoneLen, hu32, htake, hheaderLen]

/-- **A load that succeeds** has found an object with all it needs. -/
theorem loaded_of_true {document : Option JsonValue} {buffer : Mem} {bufferSize : Nat}
    {reportSize : UInt16}
    (hload : (interfaceReportLoadFromJson L document buffer bufferSize reportSize).1 = true) :
    ∃ root ranges info r, document = some (.object root) ∧
      Loaded L buffer bufferSize root ranges info r
        (interfaceReportLoadFromJson L document buffer bufferSize reportSize).2 := by
  revert hload
  fun_cases interfaceReportLoadFromJson L document buffer bufferSize reportSize with
  | case2 root ranges hranges hcount info hinfo =>
      intro hload
      obtain ⟨r, hloaded⟩ := storeReport_spec hranges (Nat.le_of_not_gt hcount) hinfo hload
      exact ⟨root, ranges, info, r, rfl, hloaded⟩
  -- every other way through the loader ends with `false`
  | case1 | case3 | case4 | case5 => exact fun hload => absurd hload Bool.false_ne_true

end Loaded

/-! ## What a document says

The meaning of a document, apart from how the loader reads it. -/

/-- The value is a non-negative integer: a number, or a numeral without a sign. -/
inductive Denotes : JsonValue → Nat → Prop
  | integer {n : Int64} (h : 0 ≤ n.toInt) : Denotes (.integer n) n.toInt.toNat
  | string {text : JsonText} {n : Nat} (h : UnsignedNumeral text.bytes n) : Denotes (.string text) n

theorem Denotes.nonneg {n : Int64} {m : Nat} (h : Denotes (.integer n) m) : 0 ≤ n.toInt := by
  cases h with
  | integer h => exact h

/-- A value denotes one number at most. -/
theorem Denotes.unique {node : JsonValue} {m n : Nat} (hn : Denotes node n) (hm : Denotes node m) :
    m = n := by
  cases hn with
  | integer _ =>
      cases hm
      rfl
  | string hnumeral =>
      cases hm with
      | string hnumeral' => exact hnumeral'.unique hnumeral

/-- The member is the number. -/
def FieldIs (object : JsonMembers) (field : String) (n : Nat) : Prop :=
  ∃ node, object.lookup field = some node ∧ Denotes node n

/-- The element of `mmio_ranges` is the range. -/
structure RangeIs (object : JsonMembers) (range : MmioRange) : Prop where
  firstPage : FieldIs object "first_page" range.firstPage.toNat
  numberOfPages : FieldIs object "number_of_pages" range.numberOfPages.toNat
  rangeAttributes : FieldIs object "range_attributes" range.rangeAttributes.toNat
  rangeId : FieldIs object "range_id" range.rangeId.toNat

/-- The document has the values of the report, each of them in the width of its field. -/
structure Describes (root : JsonMembers) (r : Report) : Prop where
  interfaceInfo : FieldIs root "interface_info" r.header.interfaceInfo.toNat
  msiXMessageControl : FieldIs root "msi_x_message_control" r.header.msiXMessageControl.toNat
  lnrControl : FieldIs root "lnr_control" r.header.lnrControl.toNat
  tphControl : FieldIs root "tph_control" r.header.tphControl.toNat
  ranges : ∃ elements, root.lookup "mmio_ranges" = some (.array elements) ∧
    List.Forall₂ (fun element range => ∃ object, element = .object object ∧ RangeIs object range)
      elements r.ranges
  info : ∃ text, root.lookup "device_specific_info" = some (.string text) ∧ text.bytes = r.info

/-- The result of the loader is the document: its bytes take apart into the document's values, with
the size that follows from them and nothing but zeros behind. -/
def Faithful (L : ReportLayout) (document : Option JsonValue) (bufferSize : Nat)
    (result : Mem × UInt16) : Prop :=
  ∃ root r, document = some (.object root) ∧
    parseReport L (result.1.load 0 result.2.toNat) = some r ∧ Describes root r ∧
    result.2.toNat = 16 + 16 * r.ranges.length + 4 + r.info.length ∧
    result.2.toNat ≤ bufferSize ∧
    ∀ i, result.2.toNat ≤ i → i < bufferSize → result.1 i = 0

/-! ## Documents that are read as they are -/

/-- The nodes that do not arrive in a field of the given width as they are. -/
inductive Breaks (width : Nat) : JsonValue → Prop
  | negative {n : Int64} (h : n.toInt < 0) : Breaks width (.integer n)
  | wide {n : Int64} (h : 2 ^ width ≤ n.toInt.toNat) : Breaks width (.integer n)
  | signed {text : JsonText} (h : IsSigned text.bytes) : Breaks width (.string text)
  | wideNumeral {text : JsonText} {n : Nat} (h : UnsignedNumeral text.bytes n)
      (hwide : 2 ^ width ≤ n) : Breaks width (.string text)

/-- The member, if there is one, is not of these nodes. -/
def FieldFits (object : JsonMembers) (field : String) (width : Nat) : Prop :=
  ∀ node, object.lookup field = some node → ¬ Breaks width node

/-- The members of an element of `mmio_ranges` fit. -/
structure RangeFits (object : JsonMembers) : Prop where
  firstPage : FieldFits object "first_page" 64
  numberOfPages : FieldFits object "number_of_pages" 32
  rangeAttributes : FieldFits object "range_attributes" 16
  rangeId : FieldFits object "range_id" 16

/-- All numbers of the document fit, and the length of its information. -/
structure DocumentFits (root : JsonMembers) : Prop where
  interfaceInfo : FieldFits root "interface_info" 16
  msiXMessageControl : FieldFits root "msi_x_message_control" 16
  lnrControl : FieldFits root "lnr_control" 16
  tphControl : FieldFits root "tph_control" 32
  ranges : ∀ elements, root.lookup "mmio_ranges" = some (.array elements) →
    ∀ object, .object object ∈ elements → RangeFits object
  info : ∀ text, root.lookup "device_specific_info" = some (.string text) →
    text.bytes.length < 2 ^ 32

/-! ## Fields -/

theorem toNat_toUInt64_of_nonneg {n : Int64} (h : 0 ≤ n.toInt) :
    n.toUInt64.toNat = n.toInt.toNat := by
  have hint : n.toInt = n.toBitVec.toInt := rfl
  have hnat : n.toUInt64.toNat = n.toBitVec.toNat := rfl
  rw [hint, BitVec.toInt_eq_toNat_cond] at h ⊢
  rw [hnat]
  split_ifs at h ⊢ with hsmall
  · rfl
  · have := n.toBitVec.isLt
    omega

/-- What the loader reads for a string is what `strtoull` converts it to. -/
theorem converts_of_jsonGetUint {object : JsonMembers} {field : String} {text : JsonText}
    {value : UInt64} (hnode : object.lookup field = some (.string text))
    (hread : jsonGetUint object field = some value) : Converts text.bytes value := by
  rw [jsonGetUint, hnode] at hread
  dsimp only at hread
  split_ifs at hread with hsign hbad
  rw [not_or, not_or, not_ne_iff] at hbad
  exact ⟨hbad.1, hbad.2.1, Bool.eq_false_of_not_eq_true hbad.2.2, Option.some.inj hread⟩

/-- A node from which a value was read denotes what is left of the value in a field exactly if it
does not break the field. -/
theorem denotes_mod_iff {object : JsonMembers} {field : String} {node : JsonValue} {value : UInt64}
    (hnode : object.lookup field = some node) (hread : jsonGetUint object field = some value)
    (width : Nat) : Denotes node (value.toNat % 2 ^ width) ↔ ¬ Breaks width node := by
  have hpos : 0 < 2 ^ width := Nat.two_pow_pos width
  cases node with
  | integer m =>
      have hvalue : m.toUInt64 = value := by
        rw [jsonGetUint, hnode] at hread
        exact Option.some.inj hread
      constructor
      · intro hdenotes hbreaks
        have hnonneg := hdenotes.nonneg
        have hlt : m.toInt.toNat < 2 ^ width := by
          rw [hdenotes.unique (.integer hnonneg)]
          exact Nat.mod_lt _ hpos
        cases hbreaks with
        | negative h => omega
        | wide h => omega
      · intro hnot
        have hnonneg : 0 ≤ m.toInt := by
          by_contra hneg
          exact hnot (.negative (by omega))
        have hlt : m.toInt.toNat < 2 ^ width := by
          by_contra hwide
          exact hnot (.wide (by omega))
        rw [← hvalue, toNat_toUInt64_of_nonneg hnonneg, Nat.mod_eq_of_lt hlt]
        exact .integer hnonneg
  | string text =>
      have hconverts := converts_of_jsonGetUint hnode hread
      constructor
      · rintro (_ | hnumeral) (_ | _ | hsigned | @⟨_, n, hn, hwide⟩)
        · exact hnumeral.not_isSigned hsigned
        · rw [hn.unique hnumeral] at hwide
          exact absurd (Nat.mod_lt _ hpos) (Nat.not_lt.2 hwide)
      · intro hnot
        have hnumeral := (converts_iff (fun h => hnot (.signed h)) value).1 hconverts
        have hlt : value.toNat < 2 ^ width := by
          by_contra hwide
          exact hnot (.wideNumeral hnumeral (Nat.le_of_not_lt hwide))
        rw [Nat.mod_eq_of_lt hlt]
        exact .string hnumeral
  | _ => simp [jsonGetUint, hnode] at hread

/-- **A field** is the number that is stored for it exactly if it fits. -/
theorem fieldIs_iff {object : JsonMembers} {field : String} {value : UInt64}
    (hread : jsonGetUint object field = some value) (width : Nat) :
    FieldIs object field (value.toNat % 2 ^ width) ↔ FieldFits object field width := by
  constructor
  · rintro ⟨node, hnode, hdenotes⟩ node' hnode'
    obtain rfl : node = node' := Option.some.inj (hnode.symm.trans hnode')
    exact (denotes_mod_iff hnode hread width).1 hdenotes
  · intro hfits
    obtain ⟨node, hnode⟩ : ∃ node, object.lookup field = some node := by
      cases hnode : object.lookup field with
      | none => simp [jsonGetUint, hnode] at hread
      | some node => exact ⟨node, rfl⟩
    exact ⟨node, hnode, (denotes_mod_iff hnode hread width).2 (hfits node hnode)⟩

/-- A header that was filled in, from what was read for its fields. -/
theorem readHeader_eq_some {root : JsonMembers} {count : Nat} {header : ReportHeader}
    (h : readHeader root count = some header) :
    ∃ interfaceInfo msiX lnr tph, jsonGetUint root "interface_info" = some interfaceInfo ∧
      jsonGetUint root "msi_x_message_control" = some msiX ∧
      jsonGetUint root "lnr_control" = some lnr ∧ jsonGetUint root "tph_control" = some tph ∧
      header = ⟨interfaceInfo.toUInt16, msiX.toUInt16, lnr.toUInt16, tph.toUInt32,
        UInt32.ofNat count⟩ := by
  simp only [readHeader, Option.bind_eq_bind, Option.bind_eq_some_iff, Option.pure_def,
    Option.some.injEq] at h
  obtain ⟨interfaceInfo, hinterface, msiX, hmsiX, lnr, hlnr, tph, htph, heq⟩ := h
  exact ⟨interfaceInfo, msiX, lnr, tph, hinterface, hmsiX, hlnr, htph, heq.symm⟩

/-- An element of `mmio_ranges` is the range that is stored for it exactly if it fits. -/
theorem rangeIs_iff {object : JsonMembers} {range : MmioRange}
    (hread : readRange (.object object) = some range) :
    RangeIs object range ↔ RangeFits object := by
  simp only [readRange, Option.bind_eq_bind, Option.bind_eq_some_iff, Option.pure_def,
    Option.some.injEq] at hread
  obtain ⟨firstPage, hfirst, numberOfPages, hnumber, attributes, hattributes, id, hid, rfl⟩ := hread
  have hfull : firstPage.toNat = firstPage.toNat % 2 ^ 64 :=
    (Nat.mod_eq_of_lt firstPage.toNat_lt).symm
  constructor
  · rintro ⟨h1, h2, h3, h4⟩
    exact ⟨(fieldIs_iff hfirst 64).1 (hfull ▸ h1), (fieldIs_iff hnumber 32).1 h2,
      (fieldIs_iff hattributes 16).1 h3, (fieldIs_iff hid 16).1 h4⟩
  · rintro ⟨h1, h2, h3, h4⟩
    exact ⟨hfull ▸ (fieldIs_iff hfirst 64).2 h1, (fieldIs_iff hnumber 32).2 h2,
      (fieldIs_iff hattributes 16).2 h3, (fieldIs_iff hid 16).2 h4⟩

/-- The elements of `mmio_ranges` are the ranges exactly if all of them fit. -/
theorem rangesAre_iff {elements : List JsonValue} {ranges : List MmioRange}
    (hread : List.Forall₂ (fun element range => readRange element = some range) elements ranges) :
    List.Forall₂ (fun element range => ∃ object, element = .object object ∧ RangeIs object range)
        elements ranges ↔ ∀ object, .object object ∈ elements → RangeFits object := by
  induction hread with
  | nil => simp
  | @cons element range elements ranges hfirst hrest ih =>
      rw [List.forall₂_cons, ih]
      obtain ⟨object, rfl⟩ : ∃ object, element = .object object := by
        cases element with
        | object object => exact ⟨object, rfl⟩
        | _ => simp [readRange] at hfirst
      constructor
      · rintro ⟨⟨object', heq, hrange⟩, hranges⟩ other hother
        rcases List.mem_cons.1 hother with hsame | hmem
        · obtain rfl : other = object := JsonValue.object.inj hsame
          obtain rfl : other = object' := JsonValue.object.inj heq
          exact (rangeIs_iff hfirst).1 hrange
        · exact hranges other hmem
      · intro hall
        exact ⟨⟨object, rfl, (rangeIs_iff hfirst).2 (hall object List.mem_cons_self)⟩,
          fun other hother => hall other (List.mem_cons_of_mem _ hother)⟩

/-! ## The document and the report -/

section Result

variable {L : ReportLayout} {buffer : Mem} {bufferSize : Nat} {root : JsonMembers}
  {ranges : List JsonValue} {info : JsonText} {r : Report} {result : Mem × UInt16}

/-- The stored information has the stored length. -/
theorem Loaded.info_length (h : Loaded L buffer bufferSize root ranges info r result) :
    r.infoLen.toNat = r.info.length := by
  have hle : r.infoLen.toNat ≤ info.bytes.length := by
    rw [h.infoLen_eq]
    exact Nat.mod_le _ _
  rw [h.stored_info, List.length_take, Nat.min_eq_left hle]

/-- The information is stored as a whole exactly if its length fits. -/
theorem Loaded.info_iff (h : Loaded L buffer bufferSize root ranges info r result) :
    info.bytes = r.info ↔ info.bytes.length < 2 ^ 32 := by
  constructor
  · intro heq
    rw [heq, ← h.info_length]
    exact r.infoLen.toNat_lt
  · intro hlt
    have hlen : r.infoLen.toNat = info.bytes.length := by
      rw [h.infoLen_eq]
      exact UInt32.toNat_ofNat_of_lt' hlt
    rw [h.stored_info, hlen, List.take_length]

/-- The number of ranges in the header is that of the ranges. -/
theorem Loaded.count_eq (h : Loaded L buffer bufferSize root ranges info r result) :
    r.header.mmioRangeCount.toNat = r.ranges.length := by
  obtain ⟨_, _, _, _, -, -, -, -, hheader⟩ := readHeader_eq_some h.header_eq
  have hcount : ranges.length ≤ 4 := h.count_le
  rw [hheader, ← h.range_eq.length_eq]
  exact UInt32.toNat_ofNat_of_lt' (Nat.lt_of_le_of_lt hcount (by decide))

/-- **The report is the document** exactly if all of the document fits. -/
theorem Loaded.describes_iff (h : Loaded L buffer bufferSize root ranges info r result) :
    Describes root r ↔ DocumentFits root := by
  obtain ⟨interfaceInfo, msiX, lnr, tph, hinterface, hmsiX, hlnr, htph, hheader⟩ :=
    readHeader_eq_some h.header_eq
  constructor
  · rintro ⟨h1, h2, h3, h4, ⟨elements, helements, hranges⟩, ⟨text, htext, hinfo⟩⟩
    rw [hheader] at h1 h2 h3 h4
    refine ⟨(fieldIs_iff hinterface 16).1 h1, (fieldIs_iff hmsiX 16).1 h2,
      (fieldIs_iff hlnr 16).1 h3, (fieldIs_iff htph 32).1 h4, fun elements' helements' => ?_,
      fun text' htext' => ?_⟩
    · cases helements.symm.trans h.ranges_eq
      cases helements'.symm.trans h.ranges_eq
      exact (rangesAre_iff h.range_eq).1 hranges
    · cases htext.symm.trans h.info_eq
      cases htext'.symm.trans h.info_eq
      exact h.info_iff.1 hinfo
  · rintro ⟨h1, h2, h3, h4, hranges, hinfo⟩
    refine ⟨?_, ?_, ?_, ?_, ⟨ranges, h.ranges_eq, (rangesAre_iff h.range_eq).2
      (hranges ranges h.ranges_eq)⟩, ⟨info, h.info_eq, h.info_iff.2 (hinfo info h.info_eq)⟩⟩
    · exact hheader.symm ▸ (fieldIs_iff hinterface 16).2 h1
    · exact hheader.symm ▸ (fieldIs_iff hmsiX 16).2 h2
    · exact hheader.symm ▸ (fieldIs_iff hlnr 16).2 h3
    · exact hheader.symm ▸ (fieldIs_iff htph 32).2 h4

/-- What a successful load leaves takes apart into the report, with zeros behind it. -/
theorem Loaded.parses (h : Loaded L buffer bufferSize root ranges info r result)
    (hsize : bufferSize ≤ 0xFFFF) :
    result.2.toNat = (r.bytes L).length ∧
      parseReport L (result.1.load 0 result.2.toNat) = some r ∧
      ∀ i, result.2.toNat ≤ i → i < bufferSize → result.1 i = 0 := by
  have hlength := h.length_le
  have hresult : result.2.toNat = (r.bytes L).length := by
    rw [h.size]
    exact UInt16.toNat_ofNat_of_lt' (Nat.lt_of_le_of_lt (hlength.trans hsize) (by decide))
  refine ⟨hresult, ?_, fun i hge hlt => ?_⟩
  · rw [hresult, h.memory, Mem.load_store]
    exact parseReport_bytes h.count_eq h.info_length
  · -- behind the report the buffer is as it was zeroed
    have hzero : i < (List.replicate bufferSize (0 : UInt8)).length := by
      rwa [List.length_replicate]
    have hat : buffer.store 0 (List.replicate bufferSize 0) (0 + i) = 0 := by
      rw [Mem.store_at _ _ hzero, List.getElem_replicate]
    rw [Nat.zero_add] at hat
    rw [h.memory, Mem.store_of_ge _ _ (by omega), hat]

/-- **The loader and the document.** When the loader succeeds, its result is the document exactly if
no number of the document is negative, a string with a sign, or a number or numeral of `2 ^ width`
or more for the width of its field, and the information is shorter than `2 ^ 32` bytes. -/
theorem report_file_faithful_iff (L : ReportLayout) (document : Option JsonValue) (buffer : Mem)
    (bufferSize : Nat) (reportSize : UInt16) (hsize : bufferSize ≤ 0xFFFF)
    (hload : (interfaceReportLoadFromJson L document buffer bufferSize reportSize).1 = true) :
    Faithful L document bufferSize
        (interfaceReportLoadFromJson L document buffer bufferSize reportSize).2 ↔
      ∀ root, document = some (.object root) → DocumentFits root := by
  obtain ⟨root, ranges, info, r, rfl, hloaded⟩ := loaded_of_true hload
  obtain ⟨hresult, hparse, hzero⟩ := hloaded.parses hsize
  constructor
  · rintro ⟨root', r', hroot, hparse', hdescribes, -⟩ root'' hroot''
    obtain rfl : root = root' := JsonValue.object.inj (Option.some.inj hroot)
    obtain rfl : root = root'' := JsonValue.object.inj (Option.some.inj hroot'')
    obtain rfl : r = r' := Option.some.inj (hparse.symm.trans hparse')
    exact hloaded.describes_iff.1 hdescribes
  · intro hfits
    refine ⟨root, r, rfl, hparse, hloaded.describes_iff.2 (hfits root rfl), ?_, ?_, hzero⟩
    · rw [hresult, Report.length_bytes]
    · rw [hresult]
      exact hloaded.length_le

end Result

/-! ## A document with a negative number -/

/-- Concrete packed layouts. -/
def sampleReportLayout : ReportLayout where
  header :=
    ((Packed.u16.reserve 2).pair (Packed.u16.pair (Packed.u16.pair (Packed.u32.pair
      Packed.u32)))).view
      (fun x => ⟨x.1, x.2.1, x.2.2.1, x.2.2.2.1, x.2.2.2.2⟩)
      (fun h => (h.interfaceInfo, h.msiXMessageControl, h.lnrControl, h.tphControl,
        h.mmioRangeCount))
      (fun header => by cases header; rfl)
  mmioRange :=
    (Packed.u64.pair (Packed.u32.pair (Packed.u16.pair Packed.u16))).view
      (fun x => ⟨x.1, x.2.1, x.2.2.1, x.2.2.2⟩)
      (fun r => (r.firstPage, r.numberOfPages, r.rangeAttributes, r.rangeId))
      (fun range => by cases range; rfl)
  header_size := rfl
  mmioRange_size := rfl

/-- A file with one range, for a value of `interface_info`. -/
def sampleFile (interfaceInfo : JsonValue) : Option JsonValue :=
  some (.object
    [("interface_info", interfaceInfo),
      ("msi_x_message_control", .string ⟨[0x30, 0x78, 0x31, 0x30], by decide⟩),
      ("lnr_control", .integer 0), ("tph_control", .integer 0),
      ("mmio_ranges", .array [.object [("first_page", .integer 0x8000),
        ("number_of_pages", .integer 4), ("range_attributes", .integer 2),
        ("range_id", .integer 1)]]),
      ("device_specific_info", .string ⟨[0x65, 0x6d, 0x75], by decide⟩)])

/-- The loader accepts it with a number, so its result is the document exactly if that fits. -/
theorem report_file_faithful_iff_sample :
    (interfaceReportLoadFromJson sampleReportLayout (sampleFile (.integer 3)) (fun _ => 0xAA) 0x1000
        0).1 = true ∧
      (Faithful sampleReportLayout (sampleFile (.integer 3)) 0x1000
          (interfaceReportLoadFromJson sampleReportLayout (sampleFile (.integer 3)) (fun _ => 0xAA)
            0x1000 0).2 ↔
        ∀ root, sampleFile (.integer 3) = some (.object root) → DocumentFits root) :=
  ⟨by decide +kernel, report_file_faithful_iff sampleReportLayout (sampleFile (.integer 3))
    (fun _ => 0xAA) 0x1000 0 (by decide) (by decide +kernel)⟩

/-- **The loader accepts a negative number**, which no report can describe. -/
theorem negative_number_loaded :
    (interfaceReportLoadFromJson sampleReportLayout (sampleFile (.integer (-1))) (fun _ => 0xAA)
        0x1000 0).1 = true ∧
      ¬ Faithful sampleReportLayout (sampleFile (.integer (-1))) 0x1000
        (interfaceReportLoadFromJson sampleReportLayout (sampleFile (.integer (-1)))
          (fun _ => 0xAA) 0x1000 0).2 := by
  refine ⟨by decide +kernel, ?_⟩
  rintro ⟨root, r, hroot, -, hdescribes, -⟩
  obtain rfl := JsonValue.object.inj (Option.some.inj hroot)
  obtain ⟨node, hnode, hdenotes⟩ := hdescribes.interfaceInfo
  obtain rfl : .integer (-1) = node := Option.some.inj hnode
  exact absurd hdenotes.nonneg (by decide)

end SpdmEmu.Tdisp
