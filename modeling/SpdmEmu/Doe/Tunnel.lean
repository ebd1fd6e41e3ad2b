import SpdmEmu.Doe.Requester
import SpdmEmu.Doe.Responder
import SpdmEmu.Libspdm.Tunnel

/-!
# The vendor tunnel

The requester's `pci_doe_spdm_vendor_send_receive_data_ex` and the responder's
`pci_doe_get_response_spdm_vendor_defined_request` as the two ends of a tunnel. Between them is
libspdm, which adds the SPDM vendor header to a request payload, runs the responder on the message,
and removes the vendor header from the response; `CarriesVendorPayloads` is that contract.
-/

set_option autoImplicit false

namespace SpdmEmu.Doe

open SpdmEmu.Wire SpdmEmu.Libspdm

variable {σ : Type}

/-- A response header that libspdm accepts for a request with the header `h`. -/
structure MatchesRequest (V : VendorDefined) (h response : SpdmHeader) : Prop where
  version : response.spdmVersion = h.spdmVersion
  code : response.requestResponseCode = V.vendorDefinedResponse
  large : response.param1 = match V.formOf h with
    | .normal => 0
    | .large => V.vendorDefinedResponseLargeResp

/-- The contract of libspdm for vendor-defined messages with the SPDM header `h`, to a responder
with a buffer of `bufferSize` bytes whose content is not known: an error status of the responder
becomes an error status of the requester, and a well-formed response that fits is handed over. -/
structure CarriesVendorPayloads (V : VendorDefined) (h : SpdmHeader) (respond : Respond σ)
    (bufferSize : Nat) (exchange : VendorSendReceive σ) : Prop where
  code : h.requestResponseCode = V.vendorDefinedRequest
  carries : ∀ (s : σ) (session : SessionId) (vendorId : UInt16) (payload : Bytes) (capacity : Nat),
    payload.length < 2 ^ 16 → ∃ (buffer : Mem) (o : Outcome σ),
      respond s session (V.vendorHeader (V.formOf h) h (V.requestIds vendorId)
        (UInt16.ofNat payload.length) ++ payload) buffer bufferSize = o ∧
      (exchange s session (V.requestIds vendorId) payload capacity).2 = o.state ∧
      (o.status.isError = true →
        (exchange s session (V.requestIds vendorId) payload capacity).1.status.isError = true) ∧
      (o.status = .success → ∀ (header : SpdmHeader) (ids : VendorIds) (length : UInt16)
        (received : Bytes), MatchesRequest V h header →
          o.message = V.vendorHeader (V.formOf h) header ids length ++ received →
          received.length = length.toNat → received.length ≤ capacity →
          (exchange s session (V.requestIds vendorId) payload capacity).1 =
            ⟨.success, ids, received⟩)

/-! ## The table -/

/-- A table as the responder's start-up builds it: registrations for the PCI-SIG registry, each
vendor and protocol once. -/
structure WellRegistered (V : VendorDefined) (table : DispatchTable σ) : Prop where
  standard : ∀ entry ∈ table, entry.standardId = V.registryIdPcisig
  distinct : table.Pairwise fun a b => ¬ (a.vendorId = b.vendorId ∧ a.protocolId = b.protocolId)

theorem accepts_iff {V : VendorDefined} {entry : DispatchEntry σ}
    (hstd : entry.standardId = V.registryIdPcisig) (vendorId : UInt16) (protocolId : UInt8) :
    entry.accepts (V.requestIds vendorId) protocolId = true ↔
      vendorId = entry.vendorId ∧ protocolId = entry.protocolId := by
  simp [DispatchEntry.accepts, VendorDefined.requestIds, hstd]

/-- The handler of a registration is the one that is found. -/
theorem lookup_of_mem {V : VendorDefined} {table : DispatchTable σ}
    (htable : WellRegistered V table) {entry : DispatchEntry σ} (hmem : entry ∈ table) :
    table.lookup (V.requestIds entry.vendorId) entry.protocolId = some entry := by
  obtain ⟨hstd, hdistinct⟩ := htable
  -- along the table: an entry before the one that is looked up accepts other requests
  induction hdistinct with
  | nil => cases hmem
  | @cons first rest hfirst _ ih =>
      have hself := accepts_iff (hstd entry hmem) entry.vendorId entry.protocolId
      rw [DispatchTable.lookup, List.find?_cons]
      rcases List.mem_cons.1 hmem with rfl | hrest
      · rw [hself.2 ⟨rfl, rfl⟩]
      · have hskip : first.accepts (V.requestIds entry.vendorId) entry.protocolId = false := by
          rw [Bool.eq_false_iff, ne_eq, accepts_iff (hstd first List.mem_cons_self)]
          rintro ⟨hv, hp⟩
          exact hfirst entry hrest ⟨hv.symm, hp.symm⟩
        rw [hskip]
        exact ih hrest fun e he => hstd e (List.mem_cons_of_mem _ he)

theorem lookup_eq_none {V : VendorDefined} {table : DispatchTable σ}
    (htable : WellRegistered V table) {vendorId : UInt16} {protocolId : UInt8}
    (h : ∀ entry ∈ table, ¬ (entry.vendorId = vendorId ∧ entry.protocolId = protocolId)) :
    table.lookup (V.requestIds vendorId) protocolId = none := by
  rw [DispatchTable.lookup, List.find?_eq_none]
  intro entry hmem
  rw [accepts_iff (htable.standard entry hmem)]
  rintro ⟨rfl, rfl⟩
  exact h entry hmem ⟨rfl, rfl⟩

/-! ## A call through the tunnel -/

/-- The requester's end on a session. -/
def vendorTunnel (V : VendorDefined) (exchange : VendorSendReceive σ) (session : SessionId)
    (vendorId : UInt16) (protocolId : UInt8) (frame : Frame) : Receive σ :=
  fun s request response responseSize =>
    (pciDoeSpdmVendorSendReceiveDataEx V exchange s session vendorId protocolId request frame
      response responseSize).1

/-- A response fits the tunnel: the room the responder's buffer leaves after the header, the
caller's size, and the requester's own buffer. -/
def VendorFits (room responseSize size : Nat) : Prop :=
  size ≤ room ∧ size ≤ responseSize ∧ size ≤ vendorMaxMessageSize

section Call

variable {V : VendorDefined} {h : SpdmHeader} {table : DispatchTable σ} {bufferSize : Nat}
  {exchange : VendorSendReceive σ}
  (hcarries : CarriesVendorPayloads V h (pciDoeGetResponseSpdmVendorDefinedRequest V table)
    bufferSize exchange)
  (session : SessionId) (vendorId : UInt16) (protocolId : UInt8) (frame : Frame)

include hcarries

/-- The answer libspdm returns for a request, and what the dispatcher made of it. -/
theorem exchange_of_carries {m : Bytes} (hm : m.length ≤ vendorMaxMessageSize) (s : σ) :
    ∃ (buffer : Mem) (o : Outcome σ) (answer : VendorAnswer),
      pciDoeGetResponseSpdmVendorDefinedRequest V table s session
        (requestMessage V h vendorId protocolId m) buffer bufferSize = o ∧
      (∀ response responseSize, vendorTunnel V exchange session vendorId protocolId frame s m
        response responseSize = (takeAnswer V vendorId protocolId answer frame.responseBuffer
          response responseSize o.state).1) ∧
      (o.status.isError = true → answer.status.isError = true) ∧
      (o.status = .success → ∀ (header : SpdmHeader) (ids : VendorIds) (length : UInt16)
        (received : Bytes), MatchesRequest V h header →
          o.message = V.vendorHeader (V.formOf h) header ids length ++ received →
          received.length = length.toNat → received.length ≤ localBufferSize V →
          answer = ⟨.success, ids, received⟩) := by
  have hsize := V.size_protocolHeader
  have hmax : vendorMaxMessageSize = 1024 := rfl
  obtain ⟨buffer, o, hrespond, hstate, herror, hsuccess⟩ :=
    hcarries.carries s session vendorId (V.protocolHeader.encode protocolId ++ m)
      (localBufferSize V) (by simp only [List.length_append, Packed.length_encode_eq]; omega)
  refine ⟨buffer, o, _, ?_, ?_, herror, hsuccess⟩
  · rw [← hrespond, requestMessage, List.length_append, Packed.length_encode_eq]
  · intro response responseSize
    simp only [vendorTunnel, pciDoeSpdmVendorSendReceiveDataEx, requestPayload_of_le hm, hstate]

/-- A failure of the dispatcher reaches the caller. -/
theorem failed_of_dispatch_error {m : Bytes} (hm : m.length ≤ vendorMaxMessageSize) {s s' : σ}
    (hfails : ∀ buffer, (pciDoeGetResponseSpdmVendorDefinedRequest V table s session
        (requestMessage V h vendorId protocolId m) buffer bufferSize).status.isError = true ∧
      (pciDoeGetResponseSpdmVendorDefinedRequest V table s session
        (requestMessage V h vendorId protocolId m) buffer bufferSize).state = s')
    (response : Mem) (responseSize : Nat) :
    (vendorTunnel V exchange session vendorId protocolId frame s m response
      responseSize).Failed response responseSize s' := by
  obtain ⟨buffer, o, answer, hrespond, htunnel, herror, -⟩ :=
    exchange_of_carries hcarries session vendorId protocolId frame hm s
  obtain ⟨hstatus, hstate⟩ := hfails buffer
  rw [hrespond] at hstatus hstate
  obtain ⟨status, hisError, htake⟩ := takeAnswer_of_not_accepted
    (not_accepted_of_error (herror hstatus)) frame.responseBuffer response
    responseSize o.state
  rw [htunnel, htake]
  exact ⟨hisError, rfl, rfl, hstate⟩

theorem parseRequest_of_carries {m : Bytes} (hm : m.length ≤ vendorMaxMessageSize) :
    parseRequest V (requestMessage V h vendorId protocolId m) =
      .ok ⟨V.formOf h, h.spdmVersion, V.requestIds vendorId, protocolId, m⟩ := by
  have hsize := V.size_protocolHeader
  have hmax : vendorMaxMessageSize = 1024 := rfl
  exact parseRequest_requestMessage hcarries.code vendorId protocolId (by omega)

/-- A response of the handler reaches the caller. -/
theorem delivers_of_dispatch {m r : Bytes} (hm : m.length ≤ vendorMaxMessageSize)
    (hr : r.length ≤ vendorMaxMessageSize) {s s' : σ} {entry : DispatchEntry σ}
    (hfound : table.lookup (V.requestIds vendorId) protocolId = some entry) {status : LibspdmReturn}
    (hrun : entry.func s session m = (⟨status, some r⟩, s')) (hok : status.isError = false)
    (response : Mem) (responseSize : Nat) :
    vendorTunnel V exchange session vendorId protocolId frame s m response responseSize =
      ⟨.success, response.store 0 r, r.length, s'⟩ := by
  have hsize := V.size_protocolHeader
  have hmax : vendorMaxMessageSize = 1024 := rfl
  obtain ⟨buffer, o, answer, hrespond, htunnel, -, hsuccess⟩ :=
    exchange_of_carries hcarries session vendorId protocolId frame hm s
  have hparse := parseRequest_of_carries hcarries vendorId protocolId hm
  have hmessage := message_of_ok hparse hfound hrun hok buffer bufferSize
  rw [respond_of_ok hparse hfound hrun hok buffer bufferSize] at hrespond hmessage
  rw [hrespond] at hmessage
  have hlength : (V.protocolHeader.encode protocolId ++ r).length =
      V.protocolHeader.size + r.length := by simp
  -- the response message has the form the contract asks for, so libspdm hands it over
  have hanswer : answer = ⟨.success, V.requestIds vendorId,
      V.protocolHeader.encode protocolId ++ r⟩ := by
    refine hsuccess (by rw [← hrespond])
      (responseSpdmHeader V ⟨V.formOf h, h.spdmVersion, V.requestIds vendorId, protocolId, m⟩) _
      (UInt16.ofNat (V.protocolHeader.size + r.length)) _ ⟨rfl, rfl, rfl⟩ ?_ ?_ ?_
    · rw [hmessage]
      simp [responseHeader, Reply.size, Reply.buffer, VendorDefined.requestIds]
    · have hlt : V.protocolHeader.size + r.length < 2 ^ 16 := by omega
      rw [hlength, UInt16.toNat_ofNat_of_lt' hlt]
    · rw [hlength, localBufferSize]
      omega
  -- and it passes the checks of the requester
  have haccepted : Accepted V vendorId protocolId answer := by
    rw [hanswer]
    refine ⟨rfl, rfl, by simp, ?_⟩
    rw [List.take_left' (V.protocolHeader.length_encode protocolId), Packed.decode_encode]
  rw [htunnel, takeAnswer_of_accepted haccepted, hanswer, ← hrespond]
  simp [receivedSize]

/-- **The vendor tunnel is transparent for every registered handler.** -/
theorem transparent_vendorTunnel (htable : WellRegistered V table) {entry : DispatchEntry σ}
    (hmem : entry ∈ table) :
    Transparent (vendorTunnel V exchange session entry.vendorId entry.protocolId frame)
      (fun s m => entry.func s session m) vendorMaxMessageSize
      (VendorFits (bufferSize - V.headerSize (V.formOf h))) where
  delivers := by
    intro s s' m r status response responseSize hm hrun hok hfits
    exact delivers_of_dispatch hcarries session _ _ frame hm hfits.2.2 (lookup_of_mem htable hmem)
      hrun hok response responseSize
  fails := by
    intro s s' m reply response responseSize hm hrun herror
    refine failed_of_dispatch_error hcarries session _ _ frame hm (fun buffer => ?_) response
      responseSize
    rw [respond_of_error (parseRequest_of_carries hcarries _ _ hm) (lookup_of_mem htable hmem) hrun
      herror]
    exact ⟨herror, rfl⟩

/-- A call for a vendor and protocol that is not registered fails. -/
theorem refuses_vendorTunnel (htable : WellRegistered V table)
    (hnone : ∀ entry ∈ table, ¬ (entry.vendorId = vendorId ∧ entry.protocolId = protocolId)) :
    Refuses (vendorTunnel V exchange session vendorId protocolId frame) vendorMaxMessageSize := by
  intro s m response responseSize hm
  refine failed_of_dispatch_error hcarries session _ _ frame hm (fun buffer => ?_) response
    responseSize
  rw [respond_of_not_found (parseRequest_of_carries hcarries _ _ hm) (lookup_eq_none htable hnone)]
  exact ⟨rfl, rfl⟩

end Call

end SpdmEmu.Doe
