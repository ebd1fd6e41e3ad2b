import SpdmEmu.Tdisp.Device
import SpdmEmu.Tdisp.ReportFile

/-!
# The form of a published report

A lock publishes the report of the JSON file, or the default report when the file cannot be loaded.
The loader works in the report buffer itself and can fail after it has written there, and the buffer
can hold an earlier report. In every case the published bytes take apart completely, and a failed
load leaves no trace in them.
-/

set_option autoImplicit false

namespace SpdmEmu.Tdisp

open SpdmEmu.Wire SpdmEmu.Libspdm

/-! ## The loader in the report buffer -/

/-- The memory at the report buffer. -/
def ReportBuffer.mem (r : ReportBuffer) : Mem := fun i => (r.toList[i]?).getD 0

/-- The report buffer, read back from memory. -/
def ReportBuffer.ofMem (m : Mem) : ReportBuffer := Vector.ofFn fun i => m i.val

/-- The loader as the lock calls it, for what is in the JSON file. -/
def jsonLoader (L : ReportLayout) (document : Option JsonValue) :
    ReportBuffer → UInt16 → Bool × ReportBuffer × UInt16 := fun report size =>
  let result :=
    interfaceReportLoadFromJson L document report.mem interfaceReportMaxSize size
  (result.1, ReportBuffer.ofMem result.2.1, result.2.2)

/-- The published bytes: the first `interface_report_size` of the buffer. -/
def InterfaceContext.published {K : PciTdisp} (ctx : InterfaceContext K) : Bytes :=
  ctx.interfaceReport.toList.take ctx.interfaceReportSize.toNat

theorem ReportBuffer.take_ofMem (m : Mem) {n : Nat} (h : n ≤ interfaceReportMaxSize) :
    (ReportBuffer.ofMem m).toList.take n = m.load 0 n := by
  apply List.ext_getElem
  · rw [List.length_take, Vector.length_toList, Mem.length_load, Nat.min_eq_left h]
  · intro i h1 h2
    simp [ReportBuffer.ofMem, Mem.load]

theorem ReportBuffer.take_overwrite (r : ReportBuffer) {bs : Bytes}
    (h : bs.length ≤ interfaceReportMaxSize) : (r.overwrite bs).toList.take bs.length = bs := by
  apply List.ext_getElem
  · rw [List.length_take, Vector.length_toList, Nat.min_eq_left h]
  · intro i h1 h2
    simp [ReportBuffer.overwrite, List.getElem?_eq_getElem h2]

/-! ## The default report -/

/-- The parts of the structure of the default report. -/
def InterfaceReportStruct.report (s : InterfaceReportStruct) : Report where
  header := ⟨s.interfaceInfo, s.msiXMessageControl, s.lnrControl, s.tphControl, s.mmioRangeCount⟩
  ranges := s.mmioRange.toList
  infoLen := s.deviceSpecificInfoLen
  info := s.deviceSpecificInfo.toList

/-- `pci_tdisp_device_interface_report_struct_mine_t` has no padding: it is the header, the ranges,
the length and the bytes, in the layouts of a report. -/
def MineIsReport (K : PciTdisp) (L : ReportLayout) : Prop :=
  ∀ s, K.interfaceReport.encode s = s.report.bytes L

section Default

variable {K : PciTdisp}

/-- The context has the default report. -/
def InterfaceContext.HasDefaultReport (ctx : InterfaceContext K) : Prop :=
  ctx.interfaceReportSize.toNat = K.interfaceReport.size ∧
    ctx.published = K.interfaceReport.encode (defaultInterfaceReport K)

/-- A lock without a JSON report publishes the default report, whatever is in the buffer. -/
theorem generateReport_of_not_loaded {env : Environment K} {ctx : InterfaceContext K}
    (h : (env.loadFromJson ctx.interfaceReport ctx.interfaceReportSize).1 = false) :
    (generateReport env ctx).HasDefaultReport := by
  have hsize : (UInt16.ofNat K.interfaceReport.size).toNat = K.interfaceReport.size :=
    UInt16.toNat_ofNat_of_lt' (Nat.lt_of_le_of_lt K.interfaceReport_size_le (by decide))
  have hlength : (K.interfaceReport.encode (defaultInterfaceReport K)).length =
      K.interfaceReport.size := Packed.length_encode_eq _ _
  have hneg : ¬ (env.loadFromJson ctx.interfaceReport ctx.interfaceReportSize).1 = true := by
    rw [h]
    exact Bool.false_ne_true
  rw [generateReport, if_neg hneg]
  refine ⟨hsize, ?_⟩
  rw [InterfaceContext.published, hsize, ← hlength]
  exact ReportBuffer.take_overwrite _ (hlength.trans_le K.interfaceReport_size_le)

/-- The default report takes apart completely. -/
theorem InterfaceContext.HasDefaultReport.parses {ctx : InterfaceContext K} {L : ReportLayout}
    (hmine : MineIsReport K L) (h : ctx.HasDefaultReport) :
    parseReport L ctx.published = some (defaultInterfaceReport K).report := by
  rw [h.2, hmine]
  exact parseReport_bytes rfl rfl

end Default

/-! ## The lock -/

section Lock

variable {K : PciTdisp} {L : ReportLayout}

/-- A successful lock generates the report in the buffer as it was before. -/
theorem lock_ok {env : Environment K} {ctx ctx' : InterfaceContext K} {interfaceId : InterfaceId}
    {param : Vector UInt8 K.lockInterfaceParamSize} {nonce : Vector UInt8 K.startInterfaceNonceSize}
    (h : pciTdispDeviceLockInterface env ctx interfaceId param = (.ok nonce, ctx')) :
    ∃ ctx₁ : InterfaceContext K, ctx₁.interfaceReport = ctx.interfaceReport ∧
      ctx₁.interfaceReportSize = ctx.interfaceReportSize ∧ ctx' = generateReport env ctx₁ := by
  rw [pciTdispDeviceLockInterface] at h
  split_ifs at h
  · cases congrArg Prod.fst h
  · cases congrArg Prod.fst h
  · cases hrandom : env.random with
    | none =>
        rw [hrandom] at h
        cases congrArg Prod.fst h
    | some drawn =>
        rw [hrandom] at h
        exact ⟨{ ctx with
          lockInterfaceParam := param
          startInterfaceNonce := drawn
          tdiState := K.tdiState .configLocked }, rfl, rfl, (congrArg Prod.snd h).symm⟩

/-- A lock whose load fails publishes the default report. -/
theorem hasDefaultReport_of_lock {env : Environment K} {ctx ctx' : InterfaceContext K}
    {interfaceId : InterfaceId} {param : Vector UInt8 K.lockInterfaceParamSize}
    {nonce : Vector UInt8 K.startInterfaceNonceSize}
    (h : pciTdispDeviceLockInterface env ctx interfaceId param = (.ok nonce, ctx'))
    (hload : (env.loadFromJson ctx.interfaceReport ctx.interfaceReportSize).1 = false) :
    ctx'.HasDefaultReport := by
  obtain ⟨ctx₁, hreport, hsize, rfl⟩ := lock_ok h
  exact generateReport_of_not_loaded (by rw [hreport, hsize, hload])

/-- A lock whose load succeeds publishes a report that takes apart completely. -/
theorem parses_of_lock_loaded {random : Option (Vector UInt8 K.startInterfaceNonceSize)}
    {document : Option JsonValue} {ctx ctx' : InterfaceContext K} {interfaceId : InterfaceId}
    {param : Vector UInt8 K.lockInterfaceParamSize} {nonce : Vector UInt8 K.startInterfaceNonceSize}
    (h : pciTdispDeviceLockInterface ⟨random, jsonLoader L document⟩ ctx interfaceId param =
      (.ok nonce, ctx'))
    (hload : (jsonLoader L document ctx.interfaceReport ctx.interfaceReportSize).1 = true) :
    ctx'.interfaceReportSize.toNat ≤ interfaceReportMaxSize ∧
      ∃ r, parseReport L ctx'.published = some r := by
  obtain ⟨ctx₁, hreport, hsize, rfl⟩ := lock_ok h
  rw [← hreport, ← hsize] at hload
  obtain ⟨root, ranges, info, r, -, hloaded⟩ := loaded_of_true hload
  obtain ⟨hresult, hparse, -⟩ := hloaded.parses (by decide)
  have hle := hloaded.length_le
  rw [← hresult] at hle
  rw [generateReport, if_pos hload]
  refine ⟨hle, r, ?_⟩
  rw [InterfaceContext.published]
  exact (congrArg (parseReport L) (ReportBuffer.take_ofMem _ hle)).trans hparse

/-- **Every successful lock publishes a well-formed report, all or nothing.** Whatever the JSON file
holds and whatever the interface was before, the published bytes lie in the buffer and take apart
completely; and if the load failed, at any stage, they and their number are those that a successful
lock publishes without JSON support. -/
theorem lock_publishes_report (hmine : MineIsReport K L)
    (random : Option (Vector UInt8 K.startInterfaceNonceSize)) (document : Option JsonValue)
    (ctx ctx' : InterfaceContext K) (interfaceId : InterfaceId)
    (param : Vector UInt8 K.lockInterfaceParamSize) (nonce : Vector UInt8 K.startInterfaceNonceSize)
    (hlock : pciTdispDeviceLockInterface ⟨random, jsonLoader L document⟩ ctx interfaceId param =
      (.ok nonce, ctx')) :
    ctx'.interfaceReportSize.toNat ≤ interfaceReportMaxSize ∧
      (∃ r, parseReport L ctx'.published = some r) ∧
      ((jsonLoader L document ctx.interfaceReport ctx.interfaceReportSize).1 = false →
        ∀ (random₂ : Option (Vector UInt8 K.startInterfaceNonceSize))
          (ctx₂ ctx₂' : InterfaceContext K) (interfaceId₂ : InterfaceId)
          (param₂ : Vector UInt8 K.lockInterfaceParamSize)
          (nonce₂ : Vector UInt8 K.startInterfaceNonceSize),
          pciTdispDeviceLockInterface ⟨random₂, jsonSupportOff⟩ ctx₂ interfaceId₂ param₂ =
            (.ok nonce₂, ctx₂') →
          ctx'.published = ctx₂'.published ∧
            ctx'.interfaceReportSize = ctx₂'.interfaceReportSize) := by
  cases hload : (jsonLoader L document ctx.interfaceReport ctx.interfaceReportSize).1 with
  | true =>
      obtain ⟨hle, hparse⟩ := parses_of_lock_loaded hlock hload
      exact ⟨hle, hparse, fun h => absurd h.symm Bool.false_ne_true⟩
  | false =>
      have hdefault := hasDefaultReport_of_lock hlock hload
      refine ⟨hdefault.1.trans_le K.interfaceReport_size_le, ⟨_, hdefault.parses hmine⟩, ?_⟩
      intro _ random₂ ctx₂ ctx₂' interfaceId₂ param₂ nonce₂ hlock₂
      -- both have the default report
      have hdefault₂ := hasDefaultReport_of_lock hlock₂ rfl
      exact ⟨hdefault.2.trans hdefault₂.2.symm,
        UInt16.toNat_inj.1 (hdefault.1.trans hdefault₂.1.symm)⟩

end Lock

/-- The concrete layouts belong together. -/
theorem mineIsReport_sample : MineIsReport PciTdisp.sample sampleReportLayout := by
  intro s
  have hinfo : Packed.u8.encodeList s.deviceSpecificInfo.toList = s.deviceSpecificInfo.toList :=
    List.flatMap_singleton' _
  have hparts : PciTdisp.sample.interfaceReport.encode s =
      (Packed.u16.reserve 2).encode s.interfaceInfo ++
        (Packed.u16.encode s.msiXMessageControl ++ (Packed.u16.encode s.lnrControl ++
          (Packed.u32.encode s.tphControl ++ (Packed.u32.encode s.mmioRangeCount ++
            (sampleReportLayout.mmioRange.encodeList s.mmioRange.toList ++
              (Packed.u32.encode s.deviceSpecificInfoLen ++
                Packed.u8.encodeList s.deviceSpecificInfo.toList)))))) := rfl
  have hheader : sampleReportLayout.header.encode s.report.header =
      (Packed.u16.reserve 2).encode s.interfaceInfo ++
        (Packed.u16.encode s.msiXMessageControl ++ (Packed.u16.encode s.lnrControl ++
          (Packed.u32.encode s.tphControl ++ Packed.u32.encode s.mmioRangeCount))) := rfl
  rw [hparts, hinfo, Report.bytes, hheader]
  simp only [List.append_assoc]
  rfl

/-- A lock with a file that the loader gives up after it has zeroed the buffer. -/
theorem lock_publishes_report_sample :
    MineIsReport PciTdisp.sample sampleReportLayout ∧
      ∃ ctx', pciTdispDeviceLockInterface
          ⟨some (Vector.replicate 32 5), jsonLoader sampleReportLayout (sampleFile .null)⟩
          (libtdispInitializeInterfaceContext PciTdisp.sample ⟨7, 0⟩) ⟨7, 0⟩
          (Vector.replicate 20 0) = (.ok (Vector.replicate 32 5), ctx') ∧
        ctx'.interfaceReportSize.toNat ≤ interfaceReportMaxSize ∧
        ∃ r, parseReport sampleReportLayout ctx'.published = some r := by
  refine ⟨mineIsReport_sample, _, rfl, ?_⟩
  have hreport := lock_publishes_report mineIsReport_sample (some (Vector.replicate 32 5))
    (sampleFile .null) (libtdispInitializeInterfaceContext PciTdisp.sample ⟨7, 0⟩) _ ⟨7, 0⟩
    (Vector.replicate 20 0) (Vector.replicate 32 5) rfl
  exact ⟨hreport.1, hreport.2.1⟩

end SpdmEmu.Tdisp
