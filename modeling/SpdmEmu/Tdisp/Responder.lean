import SpdmEmu.Tdisp.Device
import SpdmEmu.Run.Machine

/-!
# The TDISP responder

`library/pci_tdisp_responder_lib`: the seven request handlers and the dispatcher
`pci_tdisp_get_response`. Six handlers have one shape, `handleRequest`: check the request size and
the version, call the device, and answer with the response body or with a TDISP error message.
`GET_DEVICE_INTERFACE_REPORT` additionally cuts the requested portion out of the report.

`Effect` says once what a step of the responder can do, from which reply to which context;
`effect_pciTdispGetResponse` is the inversion lemma every invariant of the responder is derived
from.
-/

set_option autoImplicit false

namespace SpdmEmu.Tdisp

open SpdmEmu.Wire SpdmEmu.Libspdm SpdmEmu.Report SpdmEmu.Run

/-- A response message: the header fields every handler sets, then the body. -/
def message (K : PciTdisp) (request : Header) (kind : Response) (body : Bytes) : Bytes :=
  K.header.encode
    { version := request.version
      messageType := K.responseType kind
      interfaceId := { functionId := request.interfaceId.functionId, reserved := 0 } } ++ body

/-- `pci_tdisp_get_response_error` -/
def pciTdispGetResponseError (K : PciTdisp) (request : Header) (errorCode errorData : UInt32) :
    Reply :=
  ⟨.success, some (message K request .error (K.errorResponse.encode ⟨errorCode, errorData⟩))⟩

variable {K : PciTdisp}

/-- The common shape of a handler: `body` is the request after the header, `out` the response after
the header. -/
def handleRequest {β γ : Type} (body : Packed β) (kind : Response) (out : Packed γ)
    (device : InterfaceId → β → Except ErrorCode γ × InterfaceContext K)
    (ctx : InterfaceContext K) (request : Bytes) : Reply × InterfaceContext K :=
  let header := K.header.decode request
  if request.length ≠ K.header.size + body.size then
    (pciTdispGetResponseError K header (K.errorCode .invalidRequest) 0, ctx)
  else if header.version ≠ K.messageVersion10 then
    (pciTdispGetResponseError K header (K.errorCode .versionMismatch) 0, ctx)
  else
    match device header.interfaceId (body.decode (request.drop K.header.size)) with
    | (.error errorCode, ctx) =>
        (pciTdispGetResponseError K header (K.errorCode errorCode) 0, ctx)
    | (.ok response, ctx) => (⟨.success, some (message K header kind (out.encode response))⟩, ctx)

/-- `pci_tdisp_get_response_version` -/
def pciTdispGetResponseVersion (ctx : InterfaceContext K) (request : Bytes) :
    Reply × InterfaceContext K :=
  handleRequest K.getVersionRequest .version K.versionResponse
    (fun interfaceId _ => pciTdispDeviceGetVersion ctx interfaceId) ctx request

/-- `pci_tdisp_get_response_capabilities` -/
def pciTdispGetResponseCapabilities (ctx : InterfaceContext K) (request : Bytes) :
    Reply × InterfaceContext K :=
  handleRequest K.getCapabilitiesRequest .capabilities K.capabilitiesResponse
    (fun interfaceId reqCaps => pciTdispDeviceGetCapabilities ctx interfaceId reqCaps) ctx request

/-- `pci_tdisp_get_response_lock_interface` -/
def pciTdispGetResponseLockInterface (env : Environment K) (ctx : InterfaceContext K)
    (request : Bytes) : Reply × InterfaceContext K :=
  handleRequest K.lockInterfaceRequest .lockInterface K.lockInterfaceResponse
    (fun interfaceId param => pciTdispDeviceLockInterface env ctx interfaceId param) ctx request

/-- `pci_tdisp_get_response_interface_state` -/
def pciTdispGetResponseInterfaceState (ctx : InterfaceContext K) (request : Bytes) :
    Reply × InterfaceContext K :=
  handleRequest K.getDeviceInterfaceStateRequest .deviceInterfaceState
    K.deviceInterfaceStateResponse
    (fun interfaceId _ => (pciTdispDeviceGetInterfaceState ctx interfaceId, ctx)) ctx request

/-- `pci_tdisp_get_response_start_interface` -/
def pciTdispGetResponseStartInterface (ctx : InterfaceContext K) (request : Bytes) :
    Reply × InterfaceContext K :=
  handleRequest K.startInterfaceRequest .startInterface K.startInterfaceResponse
    (fun interfaceId nonce => pciTdispDeviceStartInterface ctx interfaceId nonce) ctx request

/-- `pci_tdisp_get_response_stop_interface` -/
def pciTdispGetResponseStopInterface (ctx : InterfaceContext K) (request : Bytes) :
    Reply × InterfaceContext K :=
  handleRequest K.stopInterfaceRequest .stopInterface K.stopInterfaceResponse
    (fun interfaceId _ => pciTdispDeviceStopInterface ctx interfaceId) ctx request

/-- `pci_tdisp_get_response_interface_report` in a memory that has the bytes `behind` behind the
report buffer: a portion is copied without a look at the size of the buffer. -/
def pciTdispGetResponseInterfaceReportIn (behind : Bytes) (ctx : InterfaceContext K)
    (request : Bytes) : Reply × InterfaceContext K :=
  let header := K.header.decode request
  let range := K.getDeviceInterfaceReportRequest.decode (request.drop K.header.size)
  if request.length ≠ K.header.size + K.getDeviceInterfaceReportRequest.size then
    (pciTdispGetResponseError K header (K.errorCode .invalidRequest) 0, ctx)
  else if header.version ≠ K.messageVersion10 then
    (pciTdispGetResponseError K header (K.errorCode .versionMismatch) 0, ctx)
  else
    match pciTdispDeviceGetInterfaceReport ctx header.interfaceId with
    | .error errorCode => (pciTdispGetResponseError K header (K.errorCode errorCode) 0, ctx)
    | .ok (report, size) =>
        match servePortion interfaceReportPortionLen (report.toList ++ behind) size range.offset
          range.length with
        | none => (pciTdispGetResponseError K header (K.errorCode .invalidRequest) 0, ctx)
        | some (portion, remainder, bytes) =>
            (⟨.success, some (message K header .deviceInterfaceReport
              (K.deviceInterfaceReportResponse.encode ⟨portion, remainder⟩ ++ bytes))⟩, ctx)

/-- `pci_tdisp_get_response_interface_report` -/
def pciTdispGetResponseInterfaceReport : InterfaceContext K → Bytes → Reply × InterfaceContext K :=
  pciTdispGetResponseInterfaceReportIn []

/-- The message types of `m_pci_tdisp_dispatch`, in its order. -/
def mPciTdispDispatch : List Request :=
  [.getVersion, .getCapabilities, .lockInterface, .getDeviceInterfaceReport,
    .getDeviceInterfaceState, .startInterface, .stopInterface]

/-- The handler of a table entry. -/
def handler (env : Environment K) : Request → InterfaceContext K → Bytes →
    Reply × InterfaceContext K
  | .getVersion => pciTdispGetResponseVersion
  | .getCapabilities => pciTdispGetResponseCapabilities
  | .lockInterface => pciTdispGetResponseLockInterface env
  | .getDeviceInterfaceReport => pciTdispGetResponseInterfaceReport
  | .getDeviceInterfaceState => pciTdispGetResponseInterfaceState
  | .startInterface => pciTdispGetResponseStartInterface
  | .stopInterface => pciTdispGetResponseStopInterface

/-- `pci_tdisp_get_response` -/
def pciTdispGetResponse (env : Environment K) (ctx : InterfaceContext K) (request : Bytes) :
    Reply × InterfaceContext K :=
  let header := K.header.decode request
  if request.length < K.header.size then (⟨.invalidMsgSize, none⟩, ctx)
  else
    match mPciTdispDispatch.find? fun r => header.messageType == K.requestType r with
    | some r => handler env r ctx request
    | none =>
        -- the unknown type is returned as the error data
        (pciTdispGetResponseError K header (K.errorCode .unsupportedRequest)
          header.messageType.toUInt32, ctx)

/-- Each request type finds its own table entry. -/
theorem find_mPciTdispDispatch (K : PciTdisp) (r : Request) :
    mPciTdispDispatch.find? (fun r' => K.requestType r == K.requestType r') = some r :=
  find_of_injective K.requestType_injective (by cases r <;> decide)

/-- The dispatcher hands a request to the handler of its type. -/
theorem pciTdispGetResponse_of_type (env : Environment K) (ctx : InterfaceContext K)
    {request : Bytes} {r : Request}
    (htype : (K.header.decode request).messageType = K.requestType r)
    (hlen : K.header.size ≤ request.length) :
    pciTdispGetResponse env ctx request = handler env r ctx request := by
  rw [pciTdispGetResponse]
  simp only [if_neg (Nat.not_lt.2 hlen), htype, find_mPciTdispDispatch]

/-! ## What a step can do -/

/-- The reply carries a message of the given kind for the given request header. -/
def Answers (K : PciTdisp) (request : Bytes) (kind : Response) (reply : Reply) : Prop :=
  ∃ body, reply = ⟨.success, some (message K (K.header.decode request) kind body)⟩

/-- The effects of one request: the reply and the context after it. -/
inductive Effect (env : Environment K) (ctx : InterfaceContext K) (request : Bytes) :
    Reply → InterfaceContext K → Prop
  | dropped : request.length < K.header.size →
      Effect env ctx request ⟨.invalidMsgSize, none⟩ ctx
  | rejected {reply : Reply} : Answers K request .error reply → Effect env ctx request reply ctx
  | version :
      (K.header.decode request).messageType = K.requestType .getVersion →
      Effect env ctx request
        ⟨.success, some (message K (K.header.decode request) .version
          (K.versionResponse.encode ⟨1, K.messageVersion10⟩))⟩
        (libtdispInitializeInterfaceContext K (K.header.decode request).interfaceId)
  | capabilities :
      (K.header.decode request).messageType = K.requestType .getCapabilities →
      ctx.interfaceId = (K.header.decode request).interfaceId →
      Effect env ctx request
        ⟨.success, some (message K (K.header.decode request) .capabilities
          (K.capabilitiesResponse.encode ctx.tdispRspCaps))⟩
        { ctx with
          tdispReqCaps := K.getCapabilitiesRequest.decode (request.drop K.header.size) }
  | noEntropy {reply : Reply} :
      (K.header.decode request).messageType = K.requestType .lockInterface →
      ctx.interfaceId = (K.header.decode request).interfaceId →
      ctx.tdiState = K.tdiState .configUnlocked → env.random = none →
      Answers K request .error reply →
      Effect env ctx request reply
        { ctx with
          lockInterfaceParam := K.lockInterfaceRequest.decode (request.drop K.header.size) }
  | lock {nonce : Vector UInt8 K.startInterfaceNonceSize} :
      (K.header.decode request).messageType = K.requestType .lockInterface →
      ctx.interfaceId = (K.header.decode request).interfaceId →
      ctx.tdiState = K.tdiState .configUnlocked → env.random = some nonce →
      Effect env ctx request
        ⟨.success, some (message K (K.header.decode request) .lockInterface
          (K.lockInterfaceResponse.encode nonce))⟩
        (generateReport env
          { ctx with
            lockInterfaceParam := K.lockInterfaceRequest.decode (request.drop K.header.size)
            startInterfaceNonce := nonce
            tdiState := K.tdiState .configLocked })
  | report {portion remainder : UInt16} {bytes : Bytes} :
      (K.header.decode request).messageType = K.requestType .getDeviceInterfaceReport →
      ctx.interfaceId = (K.header.decode request).interfaceId →
      servePortion interfaceReportPortionLen ctx.interfaceReport.toList ctx.interfaceReportSize
        (K.getDeviceInterfaceReportRequest.decode (request.drop K.header.size)).offset
        (K.getDeviceInterfaceReportRequest.decode (request.drop K.header.size)).length =
          some (portion, remainder, bytes) →
      Effect env ctx request
        ⟨.success, some (message K (K.header.decode request) .deviceInterfaceReport
          (K.deviceInterfaceReportResponse.encode ⟨portion, remainder⟩ ++ bytes))⟩ ctx
  | state :
      (K.header.decode request).messageType = K.requestType .getDeviceInterfaceState →
      ctx.interfaceId = (K.header.decode request).interfaceId →
      Effect env ctx request
        ⟨.success, some (message K (K.header.decode request) .deviceInterfaceState
          (K.deviceInterfaceStateResponse.encode ctx.tdiState))⟩ ctx
  | start :
      (K.header.decode request).messageType = K.requestType .startInterface →
      request.length = K.header.size + K.startInterfaceRequest.size →
      ctx.interfaceId = (K.header.decode request).interfaceId →
      ctx.tdiState = K.tdiState .configLocked →
      K.startInterfaceRequest.decode (request.drop K.header.size) = ctx.startInterfaceNonce →
      Effect env ctx request
        ⟨.success, some (message K (K.header.decode request) .startInterface
          (K.startInterfaceResponse.encode ()))⟩
        { ctx with tdiState := K.tdiState .run }
  | stop :
      (K.header.decode request).messageType = K.requestType .stopInterface →
      ctx.interfaceId = (K.header.decode request).interfaceId →
      ctx.tdiState ≠ K.tdiState .configUnlocked →
      Effect env ctx request
        ⟨.success, some (message K (K.header.decode request) .stopInterface
          (K.stopInterfaceResponse.encode ()))⟩
        { ctx with tdiState := K.tdiState .configUnlocked }

theorem answers_error (request : Bytes) (errorCode errorData : UInt32) :
    Answers K request .error
      (pciTdispGetResponseError K (K.header.decode request) errorCode errorData) :=
  ⟨_, rfl⟩

/-- A property of replies and contexts holds of a handler if it holds of every error reply with the
context unchanged and of what the handler makes of the device's result. -/
theorem handleRequest_cases {β γ : Type} {body : Packed β} {kind : Response} {out : Packed γ}
    {device : InterfaceId → β → Except ErrorCode γ × InterfaceContext K}
    {ctx : InterfaceContext K} {request : Bytes} {P : Reply → InterfaceContext K → Prop}
    (hreject : ∀ e, P (pciTdispGetResponseError K (K.header.decode request)
      (K.errorCode e) 0) ctx)
    (hdevice : request.length = K.header.size + body.size →
      (K.header.decode request).version = K.messageVersion10 →
      match device (K.header.decode request).interfaceId
        (body.decode (request.drop K.header.size)) with
      | (.error e, ctx') => P (pciTdispGetResponseError K (K.header.decode request)
          (K.errorCode e) 0) ctx'
      | (.ok b, ctx') => P ⟨.success, some (message K (K.header.decode request) kind
          (out.encode b))⟩ ctx') :
    P (handleRequest body kind out device ctx request).1
      (handleRequest body kind out device ctx request).2 := by
  unfold handleRequest
  by_cases hsize : request.length ≠ K.header.size + body.size
  · simp only [if_pos hsize]
    exact hreject .invalidRequest
  · by_cases hversion : (K.header.decode request).version ≠ K.messageVersion10
    · simp only [if_neg hsize, if_pos hversion]
      exact hreject .versionMismatch
    · simp only [if_neg hsize, if_neg hversion]
      replace hdevice := hdevice (not_not.1 hsize) (not_not.1 hversion)
      -- only the result of the device call matters from here on
      generalize device (K.header.decode request).interfaceId
        (body.decode (request.drop K.header.size)) = r at hdevice ⊢
      rcases r with ⟨result, ctx'⟩
      cases result with
      | error e => exact hdevice
      | ok b => exact hdevice

section Effects

variable (env : Environment K) (ctx : InterfaceContext K) (request : Bytes)

theorem effect_version
    (h : (K.header.decode request).messageType = K.requestType .getVersion) :
    Effect env ctx request (pciTdispGetResponseVersion ctx request).1
      (pciTdispGetResponseVersion ctx request).2 :=
  handleRequest_cases (fun _ => .rejected (answers_error request _ _)) fun _ _ => .version h

theorem effect_capabilities
    (h : (K.header.decode request).messageType = K.requestType .getCapabilities) :
    Effect env ctx request (pciTdispGetResponseCapabilities ctx request).1
      (pciTdispGetResponseCapabilities ctx request).2 := by
  refine handleRequest_cases (fun _ => .rejected (answers_error request _ _)) fun _ _ => ?_
  by_cases hb : ctx.isBound (K.header.decode request).interfaceId = true
  · simp only [pciTdispDeviceGetCapabilities, if_pos hb]
    exact .capabilities h ((isBound_iff ctx _).1 hb)
  · simp only [pciTdispDeviceGetCapabilities, if_neg hb]
    exact .rejected (answers_error request _ _)

theorem effect_lockInterface
    (h : (K.header.decode request).messageType = K.requestType .lockInterface) :
    Effect env ctx request (pciTdispGetResponseLockInterface env ctx request).1
      (pciTdispGetResponseLockInterface env ctx request).2 := by
  refine handleRequest_cases (fun _ => .rejected (answers_error request _ _)) fun _ _ => ?_
  unfold pciTdispDeviceLockInterface
  by_cases hb : ctx.isBound (K.header.decode request).interfaceId = true
  · have hid := (isBound_iff ctx _).1 hb
    have hnb : ¬ (!ctx.isBound (K.header.decode request).interfaceId) = true := by simp [hb]
    by_cases hs : ctx.tdiState = K.tdiState .configUnlocked
    · rw [if_neg hnb, if_neg (not_not_intro hs)]
      -- the parameters are stored either way, the nonce only with random bytes
      cases hr : env.random with
      | none => exact .noEntropy h hid hs hr (answers_error request _ _)
      | some nonce => exact .lock h hid hs hr
    · simp only [hb, Bool.not_true, Bool.false_eq_true, if_false, ne_eq, hs, not_false_eq_true,
        if_true]
      exact .rejected (answers_error request _ _)
  · simp only [hb, Bool.not_false, if_true]
    exact .rejected (answers_error request _ _)

theorem effect_interfaceReport
    (h : (K.header.decode request).messageType = K.requestType .getDeviceInterfaceReport) :
    Effect env ctx request (pciTdispGetResponseInterfaceReport ctx request).1
      (pciTdispGetResponseInterfaceReport ctx request).2 := by
  unfold pciTdispGetResponseInterfaceReport pciTdispGetResponseInterfaceReportIn
  simp only [List.append_nil]
  split
  · exact .rejected (answers_error request _ _)
  split
  · exact .rejected (answers_error request _ _)
  by_cases hb : ctx.isBound (K.header.decode request).interfaceId = true
  · simp only [pciTdispDeviceGetInterfaceReport, if_pos hb]
    split
    · exact .rejected (answers_error request _ _)
    · next hserve => exact .report h ((isBound_iff ctx _).1 hb) hserve
  · simp only [pciTdispDeviceGetInterfaceReport, if_neg hb]
    exact .rejected (answers_error request _ _)

theorem effect_interfaceState
    (h : (K.header.decode request).messageType = K.requestType .getDeviceInterfaceState) :
    Effect env ctx request (pciTdispGetResponseInterfaceState ctx request).1
      (pciTdispGetResponseInterfaceState ctx request).2 := by
  refine handleRequest_cases (fun _ => .rejected (answers_error request _ _)) fun _ _ => ?_
  by_cases hb : ctx.isBound (K.header.decode request).interfaceId = true
  · simp only [pciTdispDeviceGetInterfaceState, if_pos hb]
    exact .state h ((isBound_iff ctx _).1 hb)
  · simp only [pciTdispDeviceGetInterfaceState, if_neg hb]
    exact .rejected (answers_error request _ _)

theorem effect_startInterface
    (h : (K.header.decode request).messageType = K.requestType .startInterface) :
    Effect env ctx request (pciTdispGetResponseStartInterface ctx request).1
      (pciTdispGetResponseStartInterface ctx request).2 := by
  refine handleRequest_cases (fun _ => .rejected (answers_error request _ _)) fun hsize _ => ?_
  unfold pciTdispDeviceStartInterface
  by_cases hb : ctx.isBound (K.header.decode request).interfaceId = true
  · have hid := (isBound_iff ctx _).1 hb
    by_cases hs : ctx.tdiState = K.tdiState .configLocked
    · by_cases hn : K.startInterfaceRequest.decode (request.drop K.header.size)
          = ctx.startInterfaceNonce
      · simp only [hb, hs, hn, Bool.not_true, Bool.false_eq_true, if_false, ne_eq,
          not_true_eq_false]
        exact .start h hsize hid hs hn
      · simp only [hb, hs, hn, Bool.not_true, Bool.false_eq_true, if_false, ne_eq,
          not_true_eq_false, not_false_eq_true, if_true]
        exact .rejected (answers_error request _ _)
    · simp only [hb, hs, Bool.not_true, Bool.false_eq_true, if_false, ne_eq, not_false_eq_true,
        if_true]
      exact .rejected (answers_error request _ _)
  · simp only [hb, Bool.not_false, if_true]
    exact .rejected (answers_error request _ _)

theorem effect_stopInterface
    (h : (K.header.decode request).messageType = K.requestType .stopInterface) :
    Effect env ctx request (pciTdispGetResponseStopInterface ctx request).1
      (pciTdispGetResponseStopInterface ctx request).2 := by
  refine handleRequest_cases (fun _ => .rejected (answers_error request _ _)) fun _ _ => ?_
  unfold pciTdispDeviceStopInterface
  by_cases hb : ctx.isBound (K.header.decode request).interfaceId = true
  · have hid := (isBound_iff ctx _).1 hb
    by_cases hs : ctx.tdiState = K.tdiState .configUnlocked
    · simp only [hb, hs, Bool.not_true, Bool.false_eq_true, if_false, if_true]
      exact .rejected (answers_error request _ _)
    · simp only [hb, hs, Bool.not_true, Bool.false_eq_true, if_false]
      exact .stop h hid hs
  · simp only [hb, Bool.not_false, if_true]
    exact .rejected (answers_error request _ _)

/-- **Every step of the responder is one of the listed effects.** -/
theorem effect_pciTdispGetResponse :
    Effect env ctx request (pciTdispGetResponse env ctx request).1
      (pciTdispGetResponse env ctx request).2 := by
  unfold pciTdispGetResponse
  by_cases hlen : request.length < K.header.size
  · simp only [if_pos hlen]
    exact .dropped hlen
  · simp only [if_neg hlen]
    split
    · next r hfind =>
        have hr : (K.header.decode request).messageType = K.requestType r := by
          simpa using List.find?_some hfind
        -- one effect lemma for each handler of the table
        cases r with
        | getVersion => exact effect_version env ctx request hr
        | getCapabilities => exact effect_capabilities env ctx request hr
        | lockInterface => exact effect_lockInterface env ctx request hr
        | getDeviceInterfaceReport => exact effect_interfaceReport env ctx request hr
        | getDeviceInterfaceState => exact effect_interfaceState env ctx request hr
        | startInterface => exact effect_startInterface env ctx request hr
        | stopInterface => exact effect_stopInterface env ctx request hr
    · exact .rejected (answers_error request _ _)

end Effects

/-! ## The responder as a machine -/

/-- One request, with what the device meets outside the library while it is handled. -/
structure Input (K : PciTdisp) where
  request : Bytes
  env : Environment K

/-- The responder over its interface context. -/
def responder (K : PciTdisp) : Machine (InterfaceContext K) (Input K) Reply where
  step ctx input := pciTdispGetResponse input.env ctx input.request

end SpdmEmu.Tdisp
