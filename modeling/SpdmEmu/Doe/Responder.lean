import SpdmEmu.Doe.VendorDefined

/-!
# The vendor-defined request dispatcher

`library/pci_doe_responder_lib/pci_doe_spdm_vendor_dispatch.c`: the table of vendor handlers, and
`pci_doe_get_response_spdm_vendor_defined_request`, which checks the header of a request, runs the
first handler registered for its vendor and protocol, and puts a header before what the handler left
in the response buffer.

`parseRequest` holds the checks in the order of the source; what they accept is a `VendorRequest`.
`dispatchRequest` is the function around its loop, for any model of the table it searches.
`respond_of_not_found`, `respond_of_error` and `respond_of_ok` are then what the dispatcher does
with an accepted request.
-/

set_option autoImplicit false

namespace SpdmEmu.Doe

open SpdmEmu.Wire SpdmEmu.Libspdm

variable {σ : Type}

/-! ## The table -/

/-- `pci_doe_spdm_dispatch_struct_t` -/
structure DispatchEntry (σ : Type) where
  standardId : UInt16
  vendorId : UInt16
  protocolId : UInt8
  func : Handler σ

/-- `LIBSPDM_ARRAY_SIZE(m_pci_doe_spdm_dispatch)` -/
def dispatchArraySize : Nat := 4

/-- The registered entries of `m_pci_doe_spdm_dispatch`, in order. The loop of the source also
visits the entries that are still zero; their standard id is not the one a request has when the loop
is reached. -/
abbrev DispatchTable (σ : Type) := List (DispatchEntry σ)

/-- `pci_doe_register_vendor_response_func` -/
def pciDoeRegisterVendorResponseFunc (V : VendorDefined) (table : DispatchTable σ)
    (entry : DispatchEntry σ) : LibspdmReturn × DispatchTable σ :=
  if entry.standardId ≠ V.registryIdPcisig then (.invalidParameter, table)
  else if dispatchArraySize ≤ table.length then (.bufferFull, table)
  else (.success, table ++ [entry])

/-- The comparison of the loop. -/
def DispatchEntry.accepts (entry : DispatchEntry σ) (ids : VendorIds) (protocolId : UInt8) : Bool :=
  ids.standardId == entry.standardId && ids.vendorId == entry.vendorId &&
    protocolId == entry.protocolId

/-- The loop's search. -/
def DispatchTable.lookup (table : DispatchTable σ) (ids : VendorIds) (protocolId : UInt8) :
    Option (DispatchEntry σ) :=
  table.find? (·.accepts ids protocolId)

/-! ## The request -/

/-- A request that passed the checks before the loop. -/
structure VendorRequest where
  form : Form
  spdmVersion : UInt8
  ids : VendorIds
  protocolId : UInt8
  /-- what the handler is called with -/
  body : Bytes
deriving DecidableEq, Repr

/-- The checks of `pci_doe_get_response_spdm_vendor_defined_request` before the loop. -/
def parseRequest (V : VendorDefined) (request : Bytes) : Except LibspdmReturn VendorRequest :=
  if request.length < V.spdmHeader.size then .error .invalidMsgSize
  else
    let header := V.spdmHeader.decode request
    let form := V.formOf header
    if request.length < V.headerSize form then .error .invalidMsgSize
    else
      -- both forms have the vendor identification in the same place
      let ids := V.vendorIds.decode (request.drop V.spdmHeader.size)
      let reqPayloadLength := V.readLength form (request.drop V.lengthOffset)
      if header.requestResponseCode ≠ V.vendorDefinedRequest then .error .invalidMsgField
      else if ids.standardId ≠ V.registryIdPcisig then .error .invalidMsgField
      else if ids.len ≠ vendorIdLen then .error .invalidMsgField
      else if reqPayloadLength < V.protocolHeader.size then .error .invalidMsgField
      else if reqPayloadLength - V.protocolHeader.size > request.length - V.headerSize form then
        .error .invalidMsgField
      else
        .ok
          { form := form
            spdmVersion := header.spdmVersion
            ids := ids
            protocolId := V.protocolHeader.decode (request.drop (V.payloadOffset form))
            body := (request.drop (V.headerSize form)).take
              (reqPayloadLength - V.protocolHeader.size) }

/-- The request message in which libspdm carries the payload of a protocol message `m`. -/
def requestMessage (V : VendorDefined) (h : SpdmHeader) (vendorId : UInt16) (protocolId : UInt8)
    (m : Bytes) : Bytes :=
  V.vendorHeader (V.formOf h) h (V.requestIds vendorId)
      (UInt16.ofNat (V.protocolHeader.size + m.length)) ++
    (V.protocolHeader.encode protocolId ++ m)

/-- The dispatcher finds in such a message what was put into it, in either form. -/
theorem parseRequest_requestMessage {V : VendorDefined} {h : SpdmHeader}
    (hcode : h.requestResponseCode = V.vendorDefinedRequest) (vendorId : UInt16)
    (protocolId : UInt8) {m : Bytes} (hsize : V.protocolHeader.size + m.length < 2 ^ 16) :
    parseRequest V (requestMessage V h vendorId protocolId m) =
      .ok ⟨V.formOf h, h.spdmVersion, V.requestIds vendorId, protocolId, m⟩ := by
  have hheader : V.spdmHeader.decode (requestMessage V h vendorId protocolId m) = h :=
    V.decode_spdmHeader_vendorHeader _ _ _ _ _
  have hids : V.vendorIds.decode ((requestMessage V h vendorId protocolId m).drop
      V.spdmHeader.size) = V.requestIds vendorId :=
    V.decode_vendorIds_vendorHeader _ _ _ _ _
  have hfield : V.readLength (V.formOf h) ((requestMessage V h vendorId protocolId m).drop
      V.lengthOffset) = V.protocolHeader.size + m.length :=
    (V.readLength_vendorHeader _ _ _ _ _).trans (UInt16.toNat_ofNat_of_lt' hsize)
  have hpayload : (requestMessage V h vendorId protocolId m).drop (V.payloadOffset (V.formOf h)) =
      V.protocolHeader.encode protocolId ++ m :=
    V.drop_vendorHeader _ _ _ _ _
  have hbody : (requestMessage V h vendorId protocolId m).drop (V.headerSize (V.formOf h)) = m := by
    rw [VendorDefined.headerSize, ← List.drop_drop, hpayload, Packed.drop_encode_append]
  have hlength : (requestMessage V h vendorId protocolId m).length =
      V.headerSize (V.formOf h) + m.length := by
    simp [requestMessage, VendorDefined.headerSize, Nat.add_assoc]
  have hroom : ¬ V.headerSize (V.formOf h) + m.length < V.spdmHeader.size := by
    simp only [VendorDefined.headerSize, VendorDefined.payloadOffset, VendorDefined.lengthOffset]
    omega
  simp only [parseRequest, hlength, if_neg hroom, hheader, hids, hfield, hpayload, hbody, hcode]
  simp [VendorDefined.requestIds]

/-- The dispatcher runs a handler only for the PCI-SIG registry and a vendor id of two bytes. -/
theorem ids_of_parseRequest {V : VendorDefined} {request : Bytes} {r : VendorRequest}
    (h : parseRequest V request = .ok r) : r.ids = V.requestIds r.ids.vendorId := by
  simp only [parseRequest, ne_eq, ite_not] at h
  -- one goal for each check; all but the last have an error for `h`
  repeat' split at h
  all_goals cases h
  next hstd hlen _ _ => rw [VendorDefined.requestIds, ← hstd, ← hlen]

/-- The SPDM header of the response to a request. -/
def responseSpdmHeader (V : VendorDefined) (r : VendorRequest) : SpdmHeader where
  spdmVersion := r.spdmVersion
  requestResponseCode := V.vendorDefinedResponse
  param1 := match r.form with
    | .normal => 0
    | .large => V.vendorDefinedResponseLargeResp
  param2 := 0

/-- The header the dispatcher writes before a response of `vendorResponseSize` bytes. -/
def responseHeader (V : VendorDefined) (r : VendorRequest) (vendorResponseSize : Nat) : Bytes :=
  V.vendorHeader r.form (responseSpdmHeader V r) { r.ids with len := vendorIdLen }
      (UInt16.ofNat (V.protocolHeader.size + vendorResponseSize)) ++
    V.protocolHeader.encode r.protocolId

@[simp] theorem length_responseHeader (V : VendorDefined) (r : VendorRequest) (n : Nat) :
    (responseHeader V r n).length = V.headerSize r.form := by
  simp [responseHeader, VendorDefined.headerSize]

/-! ## The dispatcher -/

/-- The dispatcher after the handler returned. -/
def vendorOutcome (V : VendorDefined) (r : VendorRequest) (result : Reply × σ) (response : Mem)
    (responseSize : Nat) : Outcome σ :=
  let (reply, s) := result
  let response := reply.buffer response (V.headerSize r.form)
  -- a handler that wrote nothing leaves the size at the room it was given
  let vendorResponseSize := reply.size (responseSize - V.headerSize r.form)
  if reply.status.isError then ⟨reply.status, response, responseSize, s⟩
  else
    { status := .success
      response := response.store 0 (responseHeader V r vendorResponseSize)
      responseSize := vendorResponseSize + V.headerSize r.form
      state := s }

/-- The dispatcher around its loop, which is the search `find`: `call` goes on with what the loop
found, and `refuse` returns a status. -/
def dispatchRequest {ε α : Type} (V : VendorDefined) (find : VendorIds → UInt8 → Option ε)
    (call : VendorRequest → ε → α) (refuse : LibspdmReturn → α) (request : Bytes) : α :=
  match parseRequest V request with
  | .error status => refuse status
  | .ok r =>
      match find r.ids r.protocolId with
      | none => refuse .unsupportedCap
      | some found => call r found

/-- `pci_doe_get_response_spdm_vendor_defined_request`. The size of the response buffer exceeds the
request header, as the source asserts. -/
def pciDoeGetResponseSpdmVendorDefinedRequest (V : VendorDefined) (table : DispatchTable σ) :
    Respond σ := fun s session request response responseSize =>
  dispatchRequest V table.lookup
    (fun r entry => vendorOutcome V r (entry.func s session r.body) response responseSize)
    (fun status => ⟨status, response, responseSize, s⟩) request

section Dispatch

variable {ε α : Type} {V : VendorDefined} {find : VendorIds → UInt8 → Option ε}
  {call : VendorRequest → ε → α} {refuse : LibspdmReturn → α} {request : Bytes} {r : VendorRequest}

theorem dispatchRequest_of_error {status : LibspdmReturn}
    (hparse : parseRequest V request = .error status) :
    dispatchRequest V find call refuse request = refuse status := by
  rw [dispatchRequest, hparse]

theorem dispatchRequest_of_none (hparse : parseRequest V request = .ok r)
    (hnone : find r.ids r.protocolId = none) :
    dispatchRequest V find call refuse request = refuse .unsupportedCap := by
  rw [dispatchRequest, hparse]
  simp only [hnone]

theorem dispatchRequest_of_some {found : ε} (hparse : parseRequest V request = .ok r)
    (hsome : find r.ids r.protocolId = some found) :
    dispatchRequest V find call refuse request = call r found := by
  rw [dispatchRequest, hparse]
  simp only [hsome]

end Dispatch

/-! ## What a dispatched request does -/

section Dispatched

variable {V : VendorDefined} {table : DispatchTable σ} {s : σ} {session : SessionId}
  {request : Bytes} {r : VendorRequest} {entry : DispatchEntry σ} {reply : Reply} {s' : σ}

theorem respond_of_not_found (hparse : parseRequest V request = .ok r)
    (hnone : table.lookup r.ids r.protocolId = none) (response : Mem) (responseSize : Nat) :
    pciDoeGetResponseSpdmVendorDefinedRequest V table s session request response responseSize =
      ⟨.unsupportedCap, response, responseSize, s⟩ := by
  exact dispatchRequest_of_none hparse hnone

variable (hparse : parseRequest V request = .ok r)
  (hfound : table.lookup r.ids r.protocolId = some entry)
  (hreply : entry.func s session r.body = (reply, s'))

include hparse hfound hreply

theorem respond_of_error (herror : reply.status.isError = true) (response : Mem)
    (responseSize : Nat) :
    pciDoeGetResponseSpdmVendorDefinedRequest V table s session request response responseSize =
      ⟨reply.status, reply.buffer response (V.headerSize r.form), responseSize, s'⟩ := by
  rw [pciDoeGetResponseSpdmVendorDefinedRequest, dispatchRequest_of_some hparse hfound, hreply]
  exact if_pos herror

theorem respond_of_ok (hok : reply.status.isError = false) (response : Mem)
    (responseSize : Nat) :
    pciDoeGetResponseSpdmVendorDefinedRequest V table s session request response responseSize =
      { status := .success
        response := (reply.buffer response (V.headerSize r.form)).store 0
          (responseHeader V r (reply.size (responseSize - V.headerSize r.form)))
        responseSize := reply.size (responseSize - V.headerSize r.form) + V.headerSize r.form
        state := s' } := by
  rw [pciDoeGetResponseSpdmVendorDefinedRequest, dispatchRequest_of_some hparse hfound, hreply]
  exact if_neg (ne_true_of_eq_false hok)

/-- The message the dispatcher produces: the header, and the first `reply.size` bytes of what the
buffer holds after the handler. -/
theorem message_of_ok (hok : reply.status.isError = false) (response : Mem) (responseSize : Nat) :
    (pciDoeGetResponseSpdmVendorDefinedRequest V table s session request response
        responseSize).message =
      responseHeader V r (reply.size (responseSize - V.headerSize r.form)) ++
        (reply.buffer response (V.headerSize r.form)).load (V.headerSize r.form)
          (reply.size (responseSize - V.headerSize r.form)) := by
  rw [respond_of_ok hparse hfound hreply hok, Outcome.message, Nat.add_comm,
    Mem.load_store_append _ (length_responseHeader V r _)]

end Dispatched

end SpdmEmu.Doe
