import SpdmEmu.Tdisp.StartNonce

/-!
# The form of the answers

Every request of at least a header's size is answered, with the response that belongs to its type or
with a TDISP error, in a message that has exactly the size of its kind and names the function of the
request. Only a request of the right size and version gets another answer than an error.

The report handler copies from the report buffer without looking at the buffer's size, so with an
`interface_report_size` above it the portion comes from the memory behind the buffer. The result is
therefore about `pciTdispGetResponseIn`, the dispatcher in a memory with any bytes there; while the
size stays inside the buffer this is `pciTdispGetResponse`.
-/

set_option autoImplicit false

namespace SpdmEmu.Tdisp

open SpdmEmu.Wire SpdmEmu.Libspdm SpdmEmu.Report SpdmEmu.Run

variable {K : PciTdisp}

/-! ## Messages in form -/

/-- The size of a request behind the header. -/
def Request.bodySize (K : PciTdisp) : Request → Nat
  | .getVersion => K.getVersionRequest.size
  | .getCapabilities => K.getCapabilitiesRequest.size
  | .lockInterface => K.lockInterfaceRequest.size
  | .getDeviceInterfaceReport => K.getDeviceInterfaceReportRequest.size
  | .getDeviceInterfaceState => K.getDeviceInterfaceStateRequest.size
  | .startInterface => K.startInterfaceRequest.size
  | .stopInterface => K.stopInterfaceRequest.size

/-- The size of a response behind the header, without the portion of a report. -/
def Response.bodySize (K : PciTdisp) : Response → Nat
  | .version => K.versionResponse.size
  | .capabilities => K.capabilitiesResponse.size
  | .lockInterface => K.lockInterfaceResponse.size
  | .deviceInterfaceReport => K.deviceInterfaceReportResponse.size
  | .deviceInterfaceState => K.deviceInterfaceStateResponse.size
  | .startInterface => K.startInterfaceResponse.size
  | .stopInterface => K.stopInterfaceResponse.size
  | .error => K.errorResponse.size

/-- The size a message of the given kind has: a report response carries its portion. -/
def Response.messageSize (K : PciTdisp) (kind : Response) (m : Bytes) : Nat :=
  K.header.size + kind.bodySize K +
    match kind with
    | .deviceInterfaceReport =>
        (K.deviceInterfaceReportResponse.decode (m.drop K.header.size)).portionLength.toNat
    | _ => 0

/-- The largest size of a message of the given kind. -/
def Response.maxSize (K : PciTdisp) (kind : Response) : Nat :=
  K.header.size + kind.bodySize K +
    match kind with
    | .deviceInterfaceReport => interfaceReportPortionLen.toNat
    | _ => 0

/-- A request that passes the checks at the start of its handler. -/
structure WellFormedRequest (K : PciTdisp) (r : Request) (request : Bytes) : Prop where
  messageType : (K.header.decode request).messageType = K.requestType r
  size : request.length = K.header.size + r.bodySize K
  version : (K.header.decode request).version = K.messageVersion10

/-- A response of the given kind to a request. -/
structure InForm (K : PciTdisp) (request : Bytes) (kind : Response) (m : Bytes) : Prop where
  messageType : (K.header.decode m).messageType = K.responseType kind
  functionId : (K.header.decode m).interfaceId.functionId =
    (K.header.decode request).interfaceId.functionId
  size : m.length = kind.messageSize K m

/-- The reply to a request is an error message, or the response of its type to a well-formed
request. -/
def AnsweredInForm (K : PciTdisp) (request : Bytes) (reply : Reply) : Prop :=
  ∃ m kind, reply = ⟨.success, some m⟩ ∧ InForm K request kind m ∧ m.length ≤ kind.maxSize K ∧
    (kind = .error ∨ ∃ r : Request, kind = r.response ∧ WellFormedRequest K r request)

/-! ## The handlers -/

theorem inForm_message (request : Bytes) (kind : Response) (body : Bytes)
    (hkind : kind ≠ .deviceInterfaceReport) (hbody : body.length = kind.bodySize K) :
    InForm K request kind (message K (K.header.decode request) kind body) ∧
      (message K (K.header.decode request) kind body).length ≤ kind.maxSize K := by
  have hlength : (message K (K.header.decode request) kind body).length =
      K.header.size + kind.bodySize K := by
    rw [message, List.length_append, Packed.length_encode_eq, hbody]
  refine ⟨⟨by simp [message], by simp [message], ?_⟩, ?_⟩
  · cases kind <;> first | exact absurd rfl hkind | exact hlength
  · rw [hlength]
    exact Nat.le_add_right _ _

theorem answeredInForm_error (request : Bytes) (errorCode errorData : UInt32) :
    AnsweredInForm K request
      (pciTdispGetResponseError K (K.header.decode request) errorCode errorData) := by
  obtain ⟨hform, hsize⟩ := inForm_message request .error
    (K.errorResponse.encode ⟨errorCode, errorData⟩) nofun (Packed.length_encode_eq _ _)
  exact ⟨_, .error, rfl, hform, hsize, .inl rfl⟩

/-- The six handlers of one shape answer in form. -/
theorem answeredInForm_handleRequest {β γ : Type} {body : Packed β} {out : Packed γ}
    {device : InterfaceId → β → Except ErrorCode γ × InterfaceContext K}
    (ctx : InterfaceContext K) (request : Bytes) (r : Request)
    (htype : (K.header.decode request).messageType = K.requestType r)
    (hkind : r.response ≠ .deviceInterfaceReport) (hbody : body.size = r.bodySize K)
    (hout : out.size = r.response.bodySize K) :
    AnsweredInForm K request (handleRequest body r.response out device ctx request).1 := by
  refine handleRequest_cases (P := fun reply _ => AnsweredInForm K request reply)
    (fun e => answeredInForm_error request _ _) fun hsize hversion => ?_
  generalize device (K.header.decode request).interfaceId
    (body.decode (request.drop K.header.size)) = result
  rcases result with ⟨e | b, ctx'⟩
  · exact answeredInForm_error request _ _
  · obtain ⟨hform, hmax⟩ := inForm_message request r.response (out.encode b) hkind
      ((Packed.length_encode_eq _ _).trans hout)
    exact ⟨_, r.response, rfl, hform, hmax, .inr ⟨r, rfl, htype, by rw [hsize, hbody], hversion⟩⟩

/-! ## The report handler in a memory -/

/-- `pci_tdisp_get_response` in a memory that has the bytes `behind` behind the report buffer. -/
def pciTdispGetResponseIn (behind : Mem) (env : Environment K) (ctx : InterfaceContext K)
    (request : Bytes) : Reply × InterfaceContext K :=
  if K.header.size ≤ request.length ∧
      (K.header.decode request).messageType = K.requestType .getDeviceInterfaceReport then
    -- a report size has 16 bits, so no portion ends beyond these bytes
    pciTdispGetResponseInterfaceReportIn (behind.load 0 (2 ^ 16)) ctx request
  else pciTdispGetResponse env ctx request

/-- The report handler keeps the context. -/
theorem pciTdispGetResponseInterfaceReportIn_context (behind : Bytes) (ctx : InterfaceContext K)
    (request : Bytes) : (pciTdispGetResponseInterfaceReportIn behind ctx request).2 = ctx := by
  unfold pciTdispGetResponseInterfaceReportIn
  simp only
  split_ifs
  · rfl
  · rfl
  · split
    · rfl
    · split <;> rfl

/-- Bytes behind the report are not served. -/
theorem servePortion_append {limit size offset length : UInt16} {report : Bytes} (behind : Bytes)
    (hsize : size.toNat ≤ report.length) :
    servePortion limit (report ++ behind) size offset length =
      servePortion limit report size offset length := by
  rw [← servePortion_take, List.take_append_of_le_length hsize, servePortion_take]

/-- While the report size stays inside the buffer, the memory behind it does not matter. -/
theorem pciTdispGetResponseIn_eq (behind : Mem) (env : Environment K) {ctx : InterfaceContext K}
    (request : Bytes) (hsize : ctx.interfaceReportSize.toNat ≤ interfaceReportMaxSize) :
    pciTdispGetResponseIn behind env ctx request = pciTdispGetResponse env ctx request := by
  unfold pciTdispGetResponseIn
  split
  · next h =>
      rw [pciTdispGetResponse_of_type env ctx h.2 h.1, handler, pciTdispGetResponseInterfaceReport]
      unfold pciTdispGetResponseInterfaceReportIn pciTdispDeviceGetInterfaceReport
      simp only [List.append_nil]
      -- the two differ in what is served of a bound interface
      by_cases hb : ctx.isBound (K.header.decode request).interfaceId = true
      · simp only [if_pos hb,
          servePortion_append _ (hsize.trans_eq ctx.interfaceReport.length_toList.symm)]
      · simp only [if_neg hb]
  · rfl

theorem answeredInForm_interfaceReport {behind : Bytes} {ctx : InterfaceContext K}
    {request : Bytes}
    (hsize : ctx.interfaceReportSize.toNat ≤ interfaceReportMaxSize + behind.length)
    (htype : (K.header.decode request).messageType = K.requestType .getDeviceInterfaceReport) :
    AnsweredInForm K request (pciTdispGetResponseInterfaceReportIn behind ctx request).1 := by
  unfold pciTdispGetResponseInterfaceReportIn pciTdispDeviceGetInterfaceReport
  simp only
  split
  · exact answeredInForm_error request _ _
  next hlength =>
  split
  · exact answeredInForm_error request _ _
  next hversion =>
  by_cases hb : ctx.isBound (K.header.decode request).interfaceId = true
  swap
  · simp only [if_neg hb]
    exact answeredInForm_error request _ _
  simp only [if_pos hb]
  split
  · exact answeredInForm_error request _ _
  next portion remainder bytes hserve =>
  have hinside : ctx.interfaceReportSize.toNat ≤
      (ctx.interfaceReport.toList ++ behind).length := by
    rw [List.length_append, Vector.length_toList]
    exact hsize
  obtain ⟨hportion, hbytes⟩ := length_of_servePortion hinside hserve
  have hdrop : (message K (K.header.decode request) .deviceInterfaceReport
      (K.deviceInterfaceReportResponse.encode ⟨portion, remainder⟩ ++ bytes)).drop K.header.size =
      K.deviceInterfaceReportResponse.encode ⟨portion, remainder⟩ ++ bytes := by
    simp [message]
  have hm : (message K (K.header.decode request) .deviceInterfaceReport
      (K.deviceInterfaceReportResponse.encode ⟨portion, remainder⟩ ++ bytes)).length =
      K.header.size + K.deviceInterfaceReportResponse.size + portion.toNat := by
    simp only [message, List.length_append, Packed.length_encode_eq, hbytes, Nat.add_assoc]
  refine ⟨_, .deviceInterfaceReport, rfl, ⟨by simp [message], by simp [message], ?_⟩, ?_,
    .inr ⟨.getDeviceInterfaceReport, rfl, htype, not_not.1 hlength, not_not.1 hversion⟩⟩
  · simp only [Response.messageSize, hdrop, Packed.decode_encode_append]
    exact hm
  · rw [hm]
    exact Nat.add_le_add_left hportion _

/-! ## The dispatcher -/

/-- The handlers of the requests other than a report request answer in form. -/
theorem answeredInForm_handler (env : Environment K) (ctx : InterfaceContext K) {request : Bytes}
    {r : Request} (htype : (K.header.decode request).messageType = K.requestType r)
    (hr : r ≠ .getDeviceInterfaceReport) :
    AnsweredInForm K request (handler env r ctx request).1 := by
  cases r with
  | getVersion => exact answeredInForm_handleRequest ctx request _ htype nofun rfl rfl
  | getCapabilities => exact answeredInForm_handleRequest ctx request _ htype nofun rfl rfl
  | lockInterface => exact answeredInForm_handleRequest ctx request _ htype nofun rfl rfl
  | getDeviceInterfaceReport => exact absurd rfl hr
  | getDeviceInterfaceState => exact answeredInForm_handleRequest ctx request _ htype nofun rfl rfl
  | startInterface => exact answeredInForm_handleRequest ctx request _ htype nofun rfl rfl
  | stopInterface => exact answeredInForm_handleRequest ctx request _ htype nofun rfl rfl

theorem answeredInForm_pciTdispGetResponseIn (behind : Mem) (env : Environment K)
    (ctx : InterfaceContext K) {request : Bytes} (hlong : K.header.size ≤ request.length) :
    AnsweredInForm K request (pciTdispGetResponseIn behind env ctx request).1 := by
  unfold pciTdispGetResponseIn
  split
  · next h =>
      refine answeredInForm_interfaceReport ?_ h.2
      have hsize := ctx.interfaceReportSize.toNat_lt
      rw [Mem.length_load]
      omega
  next h =>
  by_cases hknown : ∃ r, (K.header.decode request).messageType = K.requestType r
  · obtain ⟨r, htype⟩ := hknown
    rw [pciTdispGetResponse_of_type env ctx htype hlong]
    apply answeredInForm_handler env ctx htype
    rintro rfl
    exact h ⟨hlong, htype⟩
  · -- an unknown type finds no table entry
    have hnone : mPciTdispDispatch.find?
        (fun r => (K.header.decode request).messageType == K.requestType r) = none := by
      rw [List.find?_eq_none]
      intro r _ heq
      exact hknown ⟨r, beq_iff_eq.1 heq⟩
    rw [pciTdispGetResponse]
    simp only [if_neg (Nat.not_lt.2 hlong), hnone]
    exact answeredInForm_error request _ _

/-- A request that is not well formed does not reach the device. -/
theorem context_of_malformed (env : Environment K) (ctx : InterfaceContext K) {request : Bytes}
    {r : Request} (htype : (K.header.decode request).messageType = K.requestType r)
    (hform : ¬ WellFormedRequest K r request) : (pciTdispGetResponse env ctx request).2 = ctx := by
  by_cases hlen : K.header.size ≤ request.length
  · rw [pciTdispGetResponse_of_type env ctx htype hlen]
    cases r with
    | getDeviceInterfaceReport => exact pciTdispGetResponseInterfaceReportIn_context [] ctx request
    | _ =>
        refine handleRequest_cases (P := fun _ ctx' => ctx' = ctx) (fun _ => rfl) ?_
        intro hsize hversion
        exact absurd ⟨htype, hsize, hversion⟩ hform
  · rw [pciTdispGetResponse]
    simp only [if_pos (Nat.lt_of_not_le hlen)]

/-- **Every request is answered in form**, whatever the context, the environment, the memory behind
the report buffer and the request, if it has at least the size of a header and the response buffer
holds the largest response: the status is success, the message fits the buffer, names the function
of the request and has the size and the type of an error or of the response to the request's type,
the latter only for a request of the fixed size of its type and version 1.0. -/
theorem requests_answered_in_form (behind : Mem) (env : Environment K) (ctx : InterfaceContext K)
    (request : Bytes) (capacity : Nat) (hlong : K.header.size ≤ request.length)
    (hcapacity : ∀ kind : Response, kind.maxSize K ≤ capacity) :
    ∃ m kind, (pciTdispGetResponseIn behind env ctx request).1 = ⟨.success, some m⟩ ∧
      m.length ≤ capacity ∧ InForm K request kind m ∧
      (kind = .error ∨ ∃ r : Request, kind = r.response ∧ WellFormedRequest K r request) := by
  obtain ⟨m, kind, hreply, hform, hmax, hkind⟩ :=
    answeredInForm_pciTdispGetResponseIn behind env ctx hlong
  exact ⟨m, kind, hreply, hmax.trans (hcapacity kind), hform, hkind⟩

/-- A report request to a context whose report size is beyond its buffer. -/
theorem requests_answered_in_form_sample :
    let ctx := { libtdispInitializeInterfaceContext PciTdisp.sample ⟨7, 0⟩ with
      interfaceReportSize := 0xFFFF }
    let request := PciTdisp.sample.header.encode
      ⟨0x10, PciTdisp.sample.requestType .getDeviceInterfaceReport, ⟨7, 0⟩⟩ ++ [0, 0x20, 0x10, 0]
    ∃ m kind, (pciTdispGetResponseIn (fun _ => 0xAA) ⟨none, jsonSupportOff⟩ ctx request).1 =
        ⟨.success, some m⟩ ∧
      m.length ≤ 1024 ∧ InForm PciTdisp.sample request kind m ∧
      (kind = .error ∨ ∃ r : Request, kind = r.response ∧
        WellFormedRequest PciTdisp.sample r request) :=
  requests_answered_in_form _ _ _ _ 1024 (by decide) (by
    intro kind
    cases kind <;> decide)

end SpdmEmu.Tdisp
