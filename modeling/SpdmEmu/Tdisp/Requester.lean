import SpdmEmu.Tdisp.Responder

/-!
# The TDISP report requester

`library/pci_tdisp_requester_lib/pci_tdisp_req_get_interface_report.c`: the report loop with the
TDISP message formats, and the responder of `SpdmEmu.Tdisp.Responder` as a link that serves the
report of its interface context.
-/

set_option autoImplicit false

namespace SpdmEmu.Tdisp

open SpdmEmu.Wire SpdmEmu.Libspdm SpdmEmu.Report

/-- The messages of `pci_tdisp_get_interface_report`. The request has a zero reserved part in its
interface id, and of the response's interface id the function id is compared. -/
def interfaceReportProtocol (K : PciTdisp) (functionId : UInt32) : ReportProtocol where
  portionLen := interfaceReportPortionLen
  request offset length :=
    K.header.encode
      { version := K.messageVersion10
        messageType := K.requestType .getDeviceInterfaceReport
        interfaceId := { functionId := functionId, reserved := 0 } } ++
      K.getDeviceInterfaceReportRequest.encode ⟨offset, length⟩
  responseSize :=
    K.header.size + K.deviceInterfaceReportResponse.size + interfaceReportPortionLen.toNat
  fixedSize := K.header.size + K.deviceInterfaceReportResponse.size
  lengths response :=
    let body := K.deviceInterfaceReportResponse.decode (response.drop K.header.size)
    (body.portionLength, body.remainderLength)
  accepted response :=
    let header := K.header.decode response
    header.version == K.messageVersion10 &&
      header.messageType == K.responseType .deviceInterfaceReport &&
      header.interfaceId.functionId == functionId

/-- `pci_tdisp_get_interface_report` -/
def pciTdispGetInterfaceReport {σ : Type} (K : PciTdisp) (sendReceive : SendReceive σ) (fuel : Nat)
    (link : σ) (interfaceId : InterfaceId) (interfaceReport : Mem)
    (interfaceReportSize : UInt32) : Option (Result σ) :=
  getReport (interfaceReportProtocol K interfaceId.functionId) sendReceive fuel link
    interfaceReport interfaceReportSize

variable {K : PciTdisp}

/-- The report an interface context holds. -/
def InterfaceContext.report (ctx : InterfaceContext K) : Bytes :=
  ctx.interfaceReport.toList.take ctx.interfaceReportSize.toNat

theorem length_report {ctx : InterfaceContext K}
    (hsize : ctx.interfaceReportSize.toNat ≤ interfaceReportMaxSize) :
    ctx.report.length = ctx.interfaceReportSize.toNat := by
  rw [InterfaceContext.report, List.length_take, Vector.length_toList]
  omega

/-- The answer to a report request for the bound interface. -/
theorem pciTdispGetResponse_report {env : Environment K} {ctx : InterfaceContext K}
    {functionId : UInt32} (hid : ctx.interfaceId = ⟨functionId, 0⟩)
    {offset length portion remainder : UInt16} {bytes : Bytes}
    (hserve : servePortion interfaceReportPortionLen ctx.interfaceReport.toList
      ctx.interfaceReportSize offset length = some (portion, remainder, bytes)) :
    pciTdispGetResponse env ctx
        ((interfaceReportProtocol K functionId).request offset length) =
      (⟨.success, some (message K
          ⟨K.messageVersion10, K.requestType .getDeviceInterfaceReport, ⟨functionId, 0⟩⟩
          .deviceInterfaceReport
          (K.deviceInterfaceReportResponse.encode ⟨portion, remainder⟩ ++ bytes))⟩, ctx) := by
  have hbound : ctx.isBound ⟨functionId, 0⟩ = true := by simp [InterfaceContext.isBound, hid]
  simp [pciTdispGetResponse, interfaceReportProtocol, find_mPciTdispDispatch, handler,
    pciTdispGetResponseInterfaceReport, pciTdispGetResponseInterfaceReportIn,
    pciTdispDeviceGetInterfaceReport, hbound, hserve]

/-- The responder serves the report of its context, which stays as it is. -/
theorem serves_interfaceReport (env : Environment K) {ctx : InterfaceContext K}
    {functionId : UInt32} (hid : ctx.interfaceId = ⟨functionId, 0⟩)
    (hsize : ctx.interfaceReportSize.toNat ≤ interfaceReportMaxSize) :
    Serves (interfaceReportProtocol K functionId) (directLink (pciTdispGetResponse env))
      ctx.report (· = ctx) where
  answer := by
    intro s hs offset length portion remainder bytes hserve
    rw [hs]
    -- serving from the report alone is serving from the whole buffer with the report size
    have hofNat : UInt16.ofNat ctx.report.length = ctx.interfaceReportSize := by
      rw [length_report hsize, UInt16.ofNat_toNat]
    rw [hofNat, InterfaceContext.report, servePortion_take] at hserve
    have hsize' : ctx.interfaceReportSize.toNat ≤ ctx.interfaceReport.toList.length := by
      rw [Vector.length_toList]
      exact hsize
    obtain ⟨hportion, hlength⟩ : portion.toNat ≤ interfaceReportPortionLen.toNat ∧ _ :=
      length_of_servePortion hsize' hserve
    refine ⟨_, ctx, directLink_of_written (pciTdispGetResponse_report hid hserve) ?_, rfl, ?_⟩
    · simp only [message, interfaceReportProtocol, List.length_append, Packed.length_encode_eq]
      omega
    · simp only [message, interfaceReportProtocol, List.length_append, Packed.length_encode_eq,
        Packed.decode_encode_append, Packed.drop_encode_append]
      refine ⟨trivial, by simp, by omega, ?_⟩
      rw [← List.drop_drop, Packed.drop_encode_append, Packed.drop_encode_append]

end SpdmEmu.Tdisp
