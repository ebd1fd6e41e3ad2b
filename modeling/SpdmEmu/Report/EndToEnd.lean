import SpdmEmu.Tdisp.Requester
import SpdmEmu.Tsp.Requester

/-!
# Report transfer from end to end

The two report requesters against the two responders they were written for: the interface report of
a TDISP interface context in portions of 0x40 bytes, and the configuration report of a TSP device in
portions of 0x200 bytes.
-/

set_option autoImplicit false

namespace SpdmEmu.Report

open SpdmEmu.Wire SpdmEmu.Libspdm

/-- The interface context holds the report `R`. -/
structure HoldsReport {K : Tdisp.PciTdisp} (ctx : Tdisp.InterfaceContext K) (R : Bytes) :
    Prop where
  size : ctx.interfaceReportSize.toNat = R.length
  bytes : ctx.interfaceReport.toList.take R.length = R

theorem HoldsReport.report_eq {K : Tdisp.PciTdisp} {ctx : Tdisp.InterfaceContext K} {R : Bytes}
    (h : HoldsReport ctx R) : ctx.report = R := by
  rw [Tdisp.InterfaceContext.report, h.size, h.bytes]

/-- **Both report transfers are lossless.** For every report of 1 to 0x1000 bytes and every capacity
of the caller's buffer, the requester's loop against the responder ends and delivers the report. -/
theorem report_transfers_deliver :
    (∀ (K : Tdisp.PciTdisp) (env : Tdisp.Environment K) (ctx : Tdisp.InterfaceContext K)
        (functionId : UInt32) (R : Bytes) (m : Mem) (capacity : UInt32),
      ctx.interfaceId = ⟨functionId, 0⟩ → HoldsReport ctx R → 1 ≤ R.length →
      R.length ≤ 0x1000 →
      ∃ rounds, ∀ fuel, rounds ≤ fuel → ∃ result,
        Tdisp.pciTdispGetInterfaceReport K (directLink (Tdisp.pciTdispGetResponse env)) fuel ctx
          ⟨functionId, 0⟩ m capacity = some result ∧ Delivered R m capacity result) ∧
    (∀ (K : Tsp.CxlTsp) (source : Tsp.ReportSource K) (env : Tsp.Environment) (s : Tsp.State K)
        (sessionId : UInt32) (R : Bytes) (m : Mem) (capacity : UInt32),
      Tsp.ReturnsReport source s.context sessionId R → 1 ≤ R.length → R.length ≤ 0x1000 →
      ∃ rounds, ∀ fuel, rounds ≤ fuel → ∃ result,
        Tsp.cxlTspGetConfigurationReport K (Tsp.tspLink source env sessionId) fuel s m capacity =
          some result ∧ Delivered R m capacity result) := by
  constructor
  · intro K env ctx functionId R m capacity hid hholds hpos hmax
    have hsize : ctx.interfaceReportSize.toNat ≤ Tdisp.interfaceReportMaxSize := by
      rw [hholds.size]
      exact hmax
    have hserves := Tdisp.serves_interfaceReport env hid hsize
    rw [hholds.report_eq] at hserves
    have hportion : 0 < (Tdisp.interfaceReportProtocol K functionId).portionLen.toNat := by
      show 0 < Tdisp.interfaceReportPortionLen.toNat
      decide
    -- every round moves at least one byte of the report
    refine ⟨R.length + 1, fun fuel hfuel => ?_⟩
    exact getReport_of_serves hportion hpos (by omega) hserves rfl m capacity hfuel
  · intro K source env s sessionId R m capacity hreturns hpos hmax
    have hserves := Tsp.serves_configurationReport env (by omega) hreturns
    have hportion : 0 < (Tsp.configurationReportProtocol K).portionLen.toNat := by
      show 0 < Tsp.configurationReportPortionLen.toNat
      decide
    refine ⟨R.length + 1, fun fuel hfuel => ?_⟩
    exact getReport_of_serves hportion hpos (by omega) hserves ⟨0, rfl⟩ m capacity hfuel

/-- An interface context with a report of one full and one partial portion. -/
private def contextWithReport : Tdisp.InterfaceContext Tdisp.PciTdisp.sample :=
  { Tdisp.InterfaceContext.zeroed Tdisp.PciTdisp.sample with
    interfaceId := ⟨7, 0⟩
    interfaceReportSize := 100 }

/-- A device whose primary session is session 1. -/
private def stateWithPrimary : Tsp.State Tsp.CxlTsp.sample where
  context :=
    { Tsp.DeviceContext.zeroed Tsp.CxlTsp.sample with
      sessionIdPrimaryValid := true
      sessionIdPrimary := 1 }
  secondSessionPsk := Vector.replicate _ (Vector.replicate _ 0)

private theorem contextWithReport_holds :
    HoldsReport contextWithReport (List.replicate 100 0) where
  size := rfl
  bytes := by
    show (Vector.replicate Tdisp.interfaceReportMaxSize 0).toList.take _ = _
    have hmin : min 100 Tdisp.interfaceReportMaxSize = 100 := by decide
    rw [Vector.toList_replicate, List.take_replicate, List.length_replicate, hmin]

private theorem stateWithPrimary_returns :
    Tsp.ReturnsReport Tsp.cxlTspDeviceGetConfigurationReport stateWithPrimary.context 1
      ((Tsp.validReport stateWithPrimary.context.configurationReport).toList.take
        Tsp.configurationReportStructSize.toNat) :=
  Tsp.returnsReport_sample (by decide) (.inl rfl)

private theorem length_sampleReport :
    ((Tsp.validReport stateWithPrimary.context.configurationReport).toList.take
      Tsp.configurationReportStructSize.toNat).length = 220 := by
  rw [List.length_take, Vector.length_toList]
  rfl

/-- The transfers of a TDISP report of 100 bytes into 64 bytes and of the sample TSP device's report
into 0x1000 bytes. -/
theorem report_transfers_deliver_samples :
    (∃ rounds, ∀ fuel, rounds ≤ fuel → ∃ result,
      Tdisp.pciTdispGetInterfaceReport Tdisp.PciTdisp.sample
        (directLink (Tdisp.pciTdispGetResponse ⟨none, Tdisp.jsonSupportOff⟩)) fuel
        contextWithReport ⟨7, 0⟩ (fun _ => 0) 64 = some result ∧
      Delivered (List.replicate 100 0) (fun _ => 0) 64 result) ∧
    (∃ rounds, ∀ fuel, rounds ≤ fuel → ∃ result,
      Tsp.cxlTspGetConfigurationReport Tsp.CxlTsp.sample
        (Tsp.tspLink Tsp.cxlTspDeviceGetConfigurationReport ⟨false, 0⟩ 1) fuel
        stateWithPrimary (fun _ => 0) 0x1000 = some result ∧
      Delivered ((Tsp.validReport stateWithPrimary.context.configurationReport).toList.take
        Tsp.configurationReportStructSize.toNat) (fun _ => 0) 0x1000 result) := by
  refine ⟨report_transfers_deliver.1 _ _ _ 7 _ _ 64 rfl contextWithReport_holds ?_ ?_,
    report_transfers_deliver.2 _ _ _ _ 1 _ _ 0x1000 stateWithPrimary_returns ?_ ?_⟩
  · simp
  · simp
  · rw [length_sampleReport]; decide
  · rw [length_sampleReport]; decide

end SpdmEmu.Report
