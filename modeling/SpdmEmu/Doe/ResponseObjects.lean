import SpdmEmu.Doe.Requester
import SpdmEmu.IdeKm.Requester
import SpdmEmu.Tdisp.Requester
import SpdmEmu.Tsp.Requester

/-!
# The buffers of a vendor exchange

A caller of `pci_doe_spdm_vendor_send_receive_data_ex` passes the size of its response object in
`*response_size`. The function overwrites that size with the size of what the peer sent and copies
all of it, and it copies the request into a local buffer without a look at its size.
`RespectsBuffers` says that no byte outside the two buffers changes, whatever the memory held;
`FitsBuffers` is the condition on the request and on the peer's answer under which that holds, and
`respectsBuffers_iff` says that the condition is exact.

The requesters `pci_ide_km_query`, `pci_tdisp_get_interface_report` and `cxl_tsp_get_version` make
their exchanges over `vendorLink`.
-/

set_option autoImplicit false

namespace SpdmEmu.Doe

open SpdmEmu.Wire SpdmEmu.Libspdm

variable {σ : Type}

/-- A vendor and protocol id, and the session of the exchanges. -/
structure Endpoint where
  session : SessionId
  vendorId : UInt16
  protocolId : UInt8

/-- `pci_doe_spdm_vendor_send_receive_data_ex` as the link of a requester whose response object
holds `object` before an exchange. -/
def vendorLink (V : VendorDefined) (exchange : VendorSendReceive σ) (e : Endpoint) (frame : Frame)
    (object : Mem) : SendReceive σ := fun s request capacity =>
  let (o, _) := pciDoeSpdmVendorSendReceiveDataEx V exchange s e.session e.vendorId e.protocolId
    request frame object capacity
  (⟨o.status, if o.status.isError then [] else o.message⟩, o.state)

/-- The exchange of a call writes nothing past the local request buffer and nothing past the
response object, and reports no more bytes than the object has. -/
def RespectsBuffers (V : VendorDefined) (exchange : VendorSendReceive σ) (e : Endpoint)
    (c : Call σ) : Prop :=
  ∀ (frame : Frame) (object : Mem) (o : Outcome σ) (frame' : Frame),
    pciDoeSpdmVendorSendReceiveDataEx V exchange c.state e.session e.vendorId e.protocolId c.request
        frame object c.capacity = (o, frame') →
      (∀ i, localBufferSize V ≤ i → frame'.requestBuffer i = frame.requestBuffer i) ∧
        (∀ i, c.capacity ≤ i → o.response i = object i) ∧
          (o.status = .success → o.responseSize ≤ c.capacity)

/-- What libspdm returns for a call. -/
def answerTo (V : VendorDefined) (exchange : VendorSendReceive σ) (e : Endpoint) (c : Call σ) :
    VendorAnswer × σ :=
  exchange c.state e.session (V.requestIds e.vendorId)
    (requestPayload V e.protocolId c.request fun _ => 0) (localBufferSize V)

/-- The request has at most `LIBPCIDOE_SPDM_VENDOR_MAX_MESSAGE_SIZE` bytes, and an answer that
passes the checks has at most as many bytes after its protocol header as the response object. -/
def FitsBuffers (V : VendorDefined) (exchange : VendorSendReceive σ) (e : Endpoint) (c : Call σ) :
    Prop :=
  c.request.length ≤ vendorMaxMessageSize ∧
    (Accepted V e.vendorId e.protocolId (answerTo V exchange e c).1 →
      receivedSize V (answerTo V exchange e c).1 ≤ c.capacity)

section Exact

variable (V : VendorDefined) (exchange : VendorSendReceive σ) (e : Endpoint) (c : Call σ)

/-- What the caller sees is what `takeAnswer` makes of the answer, and the request buffer is that of
the request. -/
theorem sendReceive_eq (frame : Frame) (object : Mem) :
    pciDoeSpdmVendorSendReceiveDataEx V exchange c.state e.session e.vendorId e.protocolId c.request
        frame object c.capacity =
      let taken := takeAnswer V e.vendorId e.protocolId (answerTo V exchange e c).1
        frame.responseBuffer object c.capacity (answerTo V exchange e c).2
      (taken.1,
        ⟨(frame.requestBuffer.store 0 (V.protocolHeader.encode e.protocolId ++ c.request)).store 0
          (List.replicate (localBufferSize V) 0), taken.2⟩) := by
  have hpayload : requestPayload V e.protocolId c.request frame.requestBuffer =
      requestPayload V e.protocolId c.request fun _ => 0 := by
    rw [requestPayload_eq, requestPayload_eq]
  simp only [pciDoeSpdmVendorSendReceiveDataEx, hpayload, fillRequest_eq]
  rfl

/-- The request buffer keeps the memory after it exactly when the request fits. -/
theorem requestBuffer_respected_iff (protocolId : UInt8) (request : Bytes) :
    (∀ (m : Mem) (i : Nat), localBufferSize V ≤ i →
        (m.store 0 (V.protocolHeader.encode protocolId ++ request)).store 0
          (List.replicate (localBufferSize V) 0) i = m i) ↔
      request.length ≤ vendorMaxMessageSize := by
  have hcleared : ∀ (m : Mem) (i : Nat), localBufferSize V ≤ i →
      m.store 0 (List.replicate (localBufferSize V) 0) i = m i := fun m i hi =>
    m.store_of_ge _ (by simpa using hi)
  have hlength : (V.protocolHeader.encode protocolId ++ request).length =
      V.protocolHeader.size + request.length := by simp
  constructor
  · intro h
    by_contra hlong
    -- the first byte after the buffer is written by the request and not cleared again
    have hinside : localBufferSize V <
        0 + (V.protocolHeader.encode protocolId ++ request).length := by
      rw [hlength, localBufferSize]
      omega
    obtain ⟨m, hm⟩ := Mem.exists_store_ne _ (Nat.zero_le _) hinside
    exact hm ((hcleared _ _ (le_refl _)).symm.trans (h m _ (le_refl _)))
  · intro h m i hi
    rw [hcleared _ _ hi]
    apply Mem.store_of_ge
    rw [hlength]
    rw [localBufferSize] at hi
    omega

/-- **An exchange respects its buffers exactly when request and answer fit them.** -/
theorem respectsBuffers_iff : RespectsBuffers V exchange e c ↔ FitsBuffers V exchange e c := by
  constructor
  · intro h
    constructor
    · rw [← requestBuffer_respected_iff V e.protocolId c.request]
      -- the buffers are respected whatever the stack held, so `m` may be any memory
      intro m
      exact (h _ _ _ _ (sendReceive_eq V exchange e c ⟨m, fun _ => 0⟩ (fun _ => 0))).1
    · intro haccepted
      have hrun := sendReceive_eq V exchange e c ⟨fun _ => 0, fun _ => 0⟩ (fun _ => 0)
      rw [takeAnswer_of_accepted haccepted] at hrun
      exact (h _ _ _ _ hrun).2.2 rfl
  · rintro ⟨hrequest, hanswer⟩ frame object o frame' hrun
    rw [sendReceive_eq, Prod.mk.injEq] at hrun
    obtain ⟨rfl, rfl⟩ := hrun
    refine ⟨(requestBuffer_respected_iff V e.protocolId c.request).2 hrequest _, ?_⟩
    by_cases haccepted : Accepted V e.vendorId e.protocolId (answerTo V exchange e c).1
    · have hfits := hanswer haccepted
      rw [takeAnswer_of_accepted haccepted]
      refine ⟨?_, fun _ => hfits⟩
      intro i hi
      show object.store 0 _ i = object i
      apply Mem.store_of_ge
      rw [receivedSize] at hfits
      rw [List.length_drop]
      omega
    · obtain ⟨status, -, htake⟩ := takeAnswer_of_not_accepted haccepted frame.responseBuffer
        object c.capacity (answerTo V exchange e c).2
      rw [htake]
      exact ⟨fun _ _ => rfl, fun _ => le_refl _⟩

end Exact

/-! ## The requesters -/

section Requesters

open SpdmEmu.Report SpdmEmu.IdeKm SpdmEmu.Tdisp SpdmEmu.Tsp

/-- Every round of a report requester receives into the same response object. -/
theorem capacity_of_mem_transferCalls {P : ReportProtocol} {sendReceive : SendReceive σ}
    {reportSize : UInt32} {fuel : Nat} {t : Transfer σ} {c : Call σ}
    (h : c ∈ transferCalls P sendReceive reportSize fuel t) : c.capacity = P.responseSize := by
  -- along the rounds: each call is made by `P.call`
  induction fuel generalizing t with
  | zero => cases h
  | succ fuel ih =>
      rw [transferCalls, List.mem_cons] at h
      rcases h with rfl | h
      · rfl
      · cases hstep : transferStep P sendReceive reportSize t with
        | inl result =>
            rw [hstep] at h
            cases h
        | inr t' =>
            simp only [hstep] at h
            split at h
            · exact ih h
            · cases h

/-- The exchanges of the first `fuel` rounds of `pci_tdisp_get_interface_report`. -/
def interfaceReportCalls (K : PciTdisp) (sendReceive : SendReceive σ) (fuel : Nat) (link : σ)
    (interfaceId : InterfaceId) (interfaceReport : Mem) (interfaceReportSize : UInt32) :
    List (Call σ) :=
  transferCalls (interfaceReportProtocol K interfaceId.functionId) sendReceive interfaceReportSize
    fuel ⟨link, interfaceReport, 0, 0, 0⟩

/-- A finished run of the requester has made exactly these exchanges. -/
theorem calls_pciTdispGetInterfaceReport {K : PciTdisp} {sendReceive : SendReceive σ} {fuel : Nat}
    {link : σ} {interfaceId : InterfaceId} {interfaceReport : Mem} {interfaceReportSize : UInt32}
    {r : Result (σ × List (Call σ))}
    (h : pciTdispGetInterfaceReport K sendReceive.recorded fuel (link, []) interfaceId
      interfaceReport interfaceReportSize = some r) :
    r.link.2 = interfaceReportCalls K sendReceive fuel link interfaceId interfaceReport
      interfaceReportSize :=
  calls_transferLoop (t := ⟨link, interfaceReport, 0, 0, 0⟩) h

/-- Exchanges with one response object of `size` bytes. -/
theorem respectsBuffers_all_iff (V : VendorDefined) (exchange : VendorSendReceive σ) (e : Endpoint)
    {calls : List (Call σ)} {size : Nat} (hsize : ∀ c ∈ calls, c.capacity = size) :
    (∀ c ∈ calls, RespectsBuffers V exchange e c) ↔
      ∀ c ∈ calls, c.request.length ≤ vendorMaxMessageSize ∧
        (Accepted V e.vendorId e.protocolId (answerTo V exchange e c).1 →
          receivedSize V (answerTo V exchange e c).1 ≤ size) := by
  apply forall₂_congr
  intro c hc
  rw [respectsBuffers_iff, FitsBuffers, hsize c hc]

/-- **A vendor exchange stays inside its buffers exactly when the request and the accepted answer
fit them**, and the three requesters stay inside their response objects exactly when in each of
their exchanges the accepted answer fits the object. The report requester may not come to an end:
its exchanges are those of its first rounds, and of all of them if it does. -/
theorem vendor_buffers_respected_iff (V : VendorDefined) (exchange : VendorSendReceive σ)
    (session : SessionId) (frame : Frame) (object : Mem) (s : σ) :
    (∀ e c, RespectsBuffers V exchange e c ↔ FitsBuffers V exchange e c) ∧
    (∀ (K : PciIdeKm) (portIndex : UInt8) (ideRegBuffer : Mem) (ideRegBufferCount : UInt32),
      let e : Endpoint := ⟨session, V.vendorIdPcisig, V.protocolIdIdeKm⟩
      let calls := (pciIdeKmQuery K (vendorLink V exchange e frame object).recorded (s, [])
        portIndex ideRegBuffer ideRegBufferCount).link.2
      (∀ c ∈ calls, RespectsBuffers V exchange e c) ↔
        ∀ c ∈ calls, c.request.length ≤ vendorMaxMessageSize ∧
          (Accepted V e.vendorId e.protocolId (answerTo V exchange e c).1 →
            receivedSize V (answerTo V exchange e c).1 ≤ queryRespMineSize K)) ∧
    (∀ (K : PciTdisp) (fuel : Nat) (interfaceId : InterfaceId) (interfaceReport : Mem)
        (interfaceReportSize : UInt32),
      let e : Endpoint := ⟨session, V.vendorIdPcisig, V.protocolIdTdisp⟩
      let calls := interfaceReportCalls K (vendorLink V exchange e frame object) fuel s interfaceId
        interfaceReport interfaceReportSize
      (∀ r, pciTdispGetInterfaceReport K (vendorLink V exchange e frame object).recorded fuel
          (s, []) interfaceId interfaceReport interfaceReportSize = some r → r.link.2 = calls) ∧
      ((∀ c ∈ calls, RespectsBuffers V exchange e c) ↔
        ∀ c ∈ calls, c.request.length ≤ vendorMaxMessageSize ∧
          (Accepted V e.vendorId e.protocolId (answerTo V exchange e c).1 →
            receivedSize V (answerTo V exchange e c).1 ≤
              (interfaceReportProtocol K interfaceId.functionId).responseSize))) ∧
    (∀ (K : CxlTsp),
      let e : Endpoint := ⟨session, V.vendorIdCxl, V.cxlProtocolIdTsp⟩
      let calls := (cxlTspGetVersion K (vendorLink V exchange e frame object).recorded (s, [])).2.2
      (∀ c ∈ calls, RespectsBuffers V exchange e c) ↔
        ∀ c ∈ calls, c.request.length ≤ vendorMaxMessageSize ∧
          (Accepted V e.vendorId e.protocolId (answerTo V exchange e c).1 →
            receivedSize V (answerTo V exchange e c).1 ≤ errorMessageMaxSize K)) := by
  refine ⟨respectsBuffers_iff V exchange, ?_, ?_, ?_⟩
  · intro K portIndex ideRegBuffer ideRegBufferCount e calls
    apply respectsBuffers_all_iff
    intro c hc
    simp only [calls, pciIdeKmQuery, QueryProtocol.calls_query, List.nil_append,
      List.mem_singleton] at hc
    rw [hc]
    rfl
  · intro K fuel interfaceId interfaceReport interfaceReportSize e calls
    refine ⟨fun r hr => calls_pciTdispGetInterfaceReport hr, ?_⟩
    apply respectsBuffers_all_iff
    intro c hc
    exact capacity_of_mem_transferCalls hc
  · intro K e calls
    apply respectsBuffers_all_iff
    intro c hc
    simp only [calls, calls_cxlTspGetVersion, List.nil_append, List.mem_singleton] at hc
    rw [hc, getVersionCall]

/-- A peer that answers with `n` zero bytes after the protocol header of the request. -/
private def longAnswer (n : Nat) : VendorSendReceive Unit := fun s _ ids payload _ =>
  (⟨.success, ids, payload.take 1 ++ List.replicate n 0⟩, s)

private theorem not_respects_longAnswer (e : Endpoint) {c : Call Unit} {n : Nat}
    (hn : c.capacity < n) : ¬ RespectsBuffers VendorDefined.sample (longAnswer n) e c := by
  intro h
  obtain ⟨hrequest, hanswer⟩ := (respectsBuffers_iff _ _ _ _).1 h
  have hpayload : (answerTo VendorDefined.sample (longAnswer n) e c).1.payload =
      e.protocolId :: List.replicate n 0 := by
    simp only [answerTo, longAnswer, requestPayload_of_le hrequest]
    rfl
  have haccepted : Accepted VendorDefined.sample e.vendorId e.protocolId
      (answerTo VendorDefined.sample (longAnswer n) e c).1 := by
    refine ⟨rfl, rfl, ?_, ?_⟩
    · rw [hpayload]
      exact Nat.succ_le_succ (Nat.zero_le _)
    · rw [hpayload]
      rfl
  have hfits := hanswer haccepted
  rw [receivedSize, hpayload] at hfits
  simp [VendorDefined.sample, Packed.u8] at hfits
  omega

/-- Stack memory of zeros. -/
private def zeroFrame : Frame := ⟨fun _ => 0, fun _ => 0⟩

/-- A request of 0x401 bytes leaves the request buffer, an answer of two bytes leaves a response
object of one byte, and a peer that sends 0x400 bytes leaves the response objects of the three
requesters. -/
theorem vendor_buffers_overflow :
    ¬ RespectsBuffers VendorDefined.sample (longAnswer 0) ⟨none, 1, 0⟩
      ⟨(), List.replicate 0x401 0, 0x400⟩ ∧
    ¬ RespectsBuffers VendorDefined.sample (longAnswer 2) ⟨none, 1, 0⟩ ⟨(), [0], 1⟩ ∧
    ¬ (∀ c ∈ (pciIdeKmQuery PciIdeKm.sample
        (vendorLink VendorDefined.sample (longAnswer 0x400) ⟨none, 1, 0⟩ zeroFrame
          (fun _ => 0)).recorded ((), []) 0 (fun _ => 0) 74).link.2,
      RespectsBuffers VendorDefined.sample (longAnswer 0x400) ⟨none, 1, 0⟩ c) ∧
    ¬ (∀ c ∈ interfaceReportCalls PciTdisp.sample
        (vendorLink VendorDefined.sample (longAnswer 0x400) ⟨none, 1, 1⟩ zeroFrame (fun _ => 0)) 1
        () ⟨7, 0⟩ (fun _ => 0) 0x1000,
      RespectsBuffers VendorDefined.sample (longAnswer 0x400) ⟨none, 1, 1⟩ c) ∧
    ¬ (∀ c ∈ (cxlTspGetVersion CxlTsp.sample
        (vendorLink VendorDefined.sample (longAnswer 0x400) ⟨none, 0x1E98, 1⟩ zeroFrame
          (fun _ => 0)).recorded ((), [])).2.2,
      RespectsBuffers VendorDefined.sample (longAnswer 0x400) ⟨none, 0x1E98, 1⟩ c) := by
  refine ⟨?_, ?_, ?_, ?_, ?_⟩
  · intro h
    have hlength : (List.replicate 0x401 (0 : UInt8)).length ≤ vendorMaxMessageSize :=
      ((respectsBuffers_iff _ _ _ _).1 h).1
    rw [List.length_replicate] at hlength
    exact absurd hlength (by decide)
  · exact not_respects_longAnswer _ (by decide)
  · intro h
    rw [pciIdeKmQuery, QueryProtocol.calls_query] at h
    exact not_respects_longAnswer _ (by decide) (h _ List.mem_cons_self)
  · intro h
    -- the first round is enough
    exact not_respects_longAnswer _ (by decide) (h _ List.mem_cons_self)
  · intro h
    rw [calls_cxlTspGetVersion] at h
    exact not_respects_longAnswer _ (by decide) (h _ List.mem_cons_self)

end Requesters

end SpdmEmu.Doe
