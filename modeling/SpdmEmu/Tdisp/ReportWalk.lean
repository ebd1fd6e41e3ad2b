import SpdmEmu.Wire.Reading
import SpdmEmu.Tdisp.ReportFile
import SpdmEmu.Tdisp.Requester
import SpdmEmu.Report.Adversary

/-!
# Printing a received report

`pci_tdisp_process_session_message` of the requester emulator gets the interface report into a
buffer of 0x1000 bytes on its stack and prints it. It walks as many MMIO ranges as the header
counts, then reads a length and as many bytes of device-specific information. Neither number is
compared with the size of the report, so the walk stays inside the report exactly if the report is
as long as it says (`reportWalk_inside_iff`).

A structure is read as a whole; its reserved bytes count as read with it.
-/

set_option autoImplicit false

namespace SpdmEmu.Tdisp

open SpdmEmu.Wire SpdmEmu.Libspdm SpdmEmu.Report

variable (L : ReportLayout)

/-- `interface_report->mmio_range_count` -/
def readMmioRangeCount : Reading Nat := do
  let header ← Reading.readAs L.header 0
  return header.mmioRangeCount.toNat

/-- The address of `mmio_range[index]`. -/
def mmioRangeAddress (index : Nat) : Nat := L.header.size + index * L.mmioRange.size

/-- `*device_specific_info_len` -/
def readInfoLen (address : Nat) : Reading Nat := do
  let infoLen ← Reading.readAs Packed.u32 address
  return infoLen.toNat

/-- The report that is printed: the header, its ranges, the length behind them and its bytes. -/
def printReport (fuel : Nat) : Reading Report := do
  let header ← Reading.readAs L.header 0
  let ranges ← Reading.forBelow (readMmioRangeCount L)
    (fun index => Reading.readAs L.mmioRange (mmioRangeAddress L index)) fuel
  -- the index after the loop is the number of ranges
  let address := mmioRangeAddress L ranges.length
  let infoLen ← Reading.readAs Packed.u32 address
  let info ← Reading.forBelow (readInfoLen address)
    (fun index => Reading.read (address + 4 + index)) fuel
  return ⟨header, ranges, infoLen, info⟩

/-- What comes of the request of a report: the transfer, and the walk if there is one. -/
structure ReportStep (σ : Type) where
  transfer : Result σ
  walk : Option (Traced Report)

/-- `sizeof(interface_report_buffer)` -/
def interfaceReportBufferSize : UInt32 := 0x1000

/-- `pci_tdisp_process_session_message`, from the request of the report to the end of its printing.
`stack` is what the buffer holds before. -/
def pciTdispProcessReport {σ : Type} (K : PciTdisp) (sendReceive : SendReceive σ) (fuel : Nat)
    (link : σ) (interfaceId : InterfaceId) (stack : Mem) (walkFuel : Nat) :
    Option (ReportStep σ) := do
  let result ← pciTdispGetInterfaceReport K sendReceive fuel link interfaceId stack
    interfaceReportBufferSize
  if result.status.isError then return ⟨result, none⟩
  else return ⟨result, some (printReport L walkFuel result.buffer)⟩

/-! ## What the walk reads -/

/-- The number of ranges in the header at the start of a buffer. -/
def rangeCountOf (m : Mem) : Nat :=
  (L.header.decode (m.load 0 L.header.size)).mmioRangeCount.toNat

/-- The address of the length behind the ranges. -/
def infoLenAddress (m : Mem) : Nat := mmioRangeAddress L (rangeCountOf L m)

/-- The length that stands there. -/
def infoLenOf (m : Mem) : Nat := (Packed.u32.decode (m.load (infoLenAddress L m) 4)).toNat

/-- The end of the report that a buffer describes. -/
def reportEnd (m : Mem) : Nat := infoLenAddress L m + 4 + infoLenOf L m

variable {L} {m : Mem}

theorem readMmioRangeCount_run :
    readMmioRangeCount L m = ⟨some (rangeCountOf L m), List.range' 0 L.header.size⟩ := by
  rw [readMmioRangeCount, Reading.run_readAs_bind]
  simp [rangeCountOf]

theorem readInfoLen_run :
    readInfoLen (infoLenAddress L m) m =
      ⟨some (infoLenOf L m), List.range' (infoLenAddress L m) 4⟩ := by
  rw [readInfoLen, Reading.run_readAs_bind]
  simp [infoLenOf, Packed.u32]

theorem rangeCountOf_lt : rangeCountOf L m < 2 ^ 32 := UInt32.toNat_lt _

theorem infoLenOf_lt : infoLenOf L m < 2 ^ 32 := UInt32.toNat_lt _

/-- The walk over the ranges. -/
theorem rangeLoop_run {fuel : Nat} (hfuel : 2 ^ 32 ≤ fuel) :
    Reading.forBelow (readMmioRangeCount L)
        (fun index => Reading.readAs L.mmioRange (mmioRangeAddress L index)) fuel m =
      ⟨some ((List.range (rangeCountOf L m)).map fun i =>
          L.mmioRange.decode (m.load (mmioRangeAddress L i) L.mmioRange.size)),
        (List.range (rangeCountOf L m)).flatMap (fun i =>
            List.range' 0 L.header.size ++ List.range' (mmioRangeAddress L i) L.mmioRange.size) ++
          List.range' 0 L.header.size⟩ :=
  Reading.run_forBelow readMmioRangeCount_run (fun _ _ => rfl) (rangeCountOf_lt.trans_le hfuel)

/-- The walk over the device-specific information. -/
theorem infoLoop_run {fuel : Nat} (hfuel : 2 ^ 32 ≤ fuel) :
    Reading.forBelow (readInfoLen (infoLenAddress L m))
        (fun index => Reading.read (infoLenAddress L m + 4 + index)) fuel m =
      ⟨some ((List.range (infoLenOf L m)).map fun i => m (infoLenAddress L m + 4 + i)),
        (List.range (infoLenOf L m)).flatMap (fun i =>
            List.range' (infoLenAddress L m) 4 ++ [infoLenAddress L m + 4 + i]) ++
          List.range' (infoLenAddress L m) 4⟩ :=
  Reading.run_forBelow readInfoLen_run (fun _ _ => rfl) (infoLenOf_lt.trans_le hfuel)

/-- The walk ends, and it has read the header, the ranges, the length and the information. -/
theorem printReport_run {fuel : Nat} (hfuel : 2 ^ 32 ≤ fuel) :
    (∃ report, (printReport L fuel m).value = some report) ∧
      ∀ a, a ∈ (printReport L fuel m).reads ↔
        a < L.header.size ∨
        (∃ i < rangeCountOf L m, mmioRangeAddress L i ≤ a ∧
          a < mmioRangeAddress L i + L.mmioRange.size) ∨
        (infoLenAddress L m ≤ a ∧ a < reportEnd L m) := by
  have haddress : mmioRangeAddress L (rangeCountOf L m) = infoLenAddress L m := rfl
  rw [printReport, Reading.run_readAs_bind, Reading.run_bind (rangeLoop_run hfuel)]
  simp only [List.length_map, List.length_range, haddress]
  rw [Reading.run_readAs_bind, Reading.run_bind (infoLoop_run hfuel)]
  refine ⟨⟨_, rfl⟩, fun a => ?_⟩
  simp only [Reading.run_pure, List.append_nil, List.mem_append, List.mem_flatMap, List.mem_range,
    List.mem_range'_1, List.mem_singleton, Nat.zero_le, true_and, Nat.zero_add]
  have hu32 : Packed.u32.size = 4 := rfl
  rw [hu32, reportEnd]
  constructor
  · rintro (h | (⟨i, hi, h | h⟩ | h) | h | ⟨i, hi, h | h⟩ | h)
    · exact .inl h
    · exact .inl h
    · exact .inr (.inl ⟨i, hi, h⟩)
    · exact .inl h
    all_goals exact .inr (.inr (by omega))
  · rintro (h | ⟨i, hi, h⟩ | ⟨hlow, hhigh⟩)
    · exact .inl h
    · exact .inr (.inl (.inl ⟨i, hi, .inr h⟩))
    · by_cases hlen : a < infoLenAddress L m + 4
      · exact .inr (.inr (.inl ⟨hlow, hlen⟩))
      · exact .inr (.inr (.inr (.inl
          ⟨a - (infoLenAddress L m + 4), by omega, .inr (by omega)⟩)))

/-- **The walk stays below a bound** exactly if the report that it finds ends there. -/
theorem printReport_reads_lt_iff {fuel : Nat} (hfuel : 2 ^ 32 ≤ fuel) (size : Nat) :
    (∀ a ∈ (printReport L fuel m).reads, a < size) ↔ reportEnd L m ≤ size := by
  have hreads := (printReport_run (L := L) (m := m) hfuel).2
  constructor
  · intro h
    -- the last byte that is read, of the information or of its length
    have hlast := h (reportEnd L m - 1) ((hreads _).mpr (.inr (.inr ?_)))
    · omega
    · unfold reportEnd
      omega
  · intro hend a ha
    have hheader : L.header.size ≤ infoLenAddress L m := Nat.le_add_right _ _
    have hlen : infoLenAddress L m ≤ reportEnd L m := by unfold reportEnd; omega
    rcases (hreads a).mp ha with h | ⟨i, hi, -, h⟩ | ⟨-, h⟩
    · omega
    · have hnext : mmioRangeAddress L i + L.mmioRange.size ≤ infoLenAddress L m := by
        have hmul := Nat.mul_le_mul_right L.mmioRange.size (Nat.succ_le_of_lt hi)
        rw [Nat.succ_mul] at hmul
        unfold infoLenAddress mmioRangeAddress
        omega
      omega
    · omega

/-- **The walk over a received report.** For every responder, a report that was received with
success is printed to its end, and the bytes that are read for it are bytes of the report exactly
if the report is as long as its two numbers say. -/
theorem reportWalk_inside_iff {σ : Type} (L : ReportLayout) (K : PciTdisp)
    (sendReceive : SendReceive σ) (fuel : Nat) (link : σ) (interfaceId : InterfaceId) (stack : Mem)
    (walkFuel : Nat) (hfuel : 2 ^ 32 ≤ walkFuel) (result : Result σ)
    (hresult : pciTdispGetInterfaceReport K sendReceive fuel link interfaceId stack
      interfaceReportBufferSize = some result)
    (hstatus : result.status = .success) :
    ∃ walk : Traced Report,
      pciTdispProcessReport L K sendReceive fuel link interfaceId stack walkFuel =
        some ⟨result, some walk⟩ ∧
      (∃ report, walk.value = some report) ∧
      ((∀ a ∈ walk.reads, a < result.reportSize.toNat) ↔
        reportEnd L result.buffer ≤ result.reportSize.toNat) := by
  have hprocess : pciTdispProcessReport L K sendReceive fuel link interfaceId stack walkFuel =
      some ⟨result, some (printReport L walkFuel result.buffer)⟩ := by
    simp [pciTdispProcessReport, hresult, hstatus, LibspdmReturn.isError]
  exact ⟨_, hprocess, (printReport_run hfuel).1, printReport_reads_lt_iff hfuel _⟩

/-- A responder that always sends this report, in one portion, for the function 7. -/
def reportLink (report : Report) : SendReceive Unit :=
  let bytes := report.bytes sampleReportLayout
  constantLink (PciTdisp.sample.header.encode
      ⟨PciTdisp.sample.messageVersion10, PciTdisp.sample.responseType .deviceInterfaceReport,
        ⟨7, 0⟩⟩ ++
    (PciTdisp.sample.deviceInterfaceReportResponse.encode ⟨UInt16.ofNat bytes.length, 0⟩ ++ bytes))

/-- A report of 37 bytes: one range, and one byte of information. -/
def rangeReport : Report := ⟨⟨1, 0, 0, 0, 1⟩, [⟨0x8000, 4, 2, 1⟩], 1, [0x65]⟩

/-- The report ends where it says. -/
theorem reportWalk_inside_iff_sample :
    ∃ result walk,
      pciTdispProcessReport sampleReportLayout .sample (reportLink rangeReport) 2 () ⟨7, 0⟩
        (fun _ => 0xAA) (2 ^ 32) = some ⟨result, some walk⟩ ∧
      result.status = .success ∧ result.reportSize = 37 ∧ ∀ a ∈ walk.reads, a < 37 := by
  obtain ⟨walk, hprocess, -, hiff⟩ := reportWalk_inside_iff sampleReportLayout .sample
    (reportLink rangeReport) 2 () ⟨7, 0⟩ (fun _ => 0xAA) (2 ^ 32) (Nat.le_refl _) _ rfl rfl
  exact ⟨_, walk, hprocess, rfl, by decide +kernel, hiff.mpr (by decide +kernel)⟩

/-- A report of 20 bytes: no ranges, and the length of the information. -/
def shortReport (infoLen : UInt32) : Report := ⟨⟨1, 0, 0, 0, 0⟩, [], infoLen, []⟩

/-- **A byte past the report is read**: the report has 20 bytes and announces one more. -/
theorem reportWalk_past_end :
    ∃ result walk,
      pciTdispProcessReport sampleReportLayout .sample (reportLink (shortReport 1)) 2 () ⟨7, 0⟩
        (fun _ => 0xAA) 2 = some ⟨result, some walk⟩ ∧
      result.status = .success ∧ result.reportSize = 20 ∧ walk.value.isSome ∧ 20 ∈ walk.reads := by
  exact ⟨_, _, rfl, by decide +kernel, by decide +kernel, by decide +kernel, by decide +kernel⟩

end SpdmEmu.Tdisp
