import SpdmEmu.Run.Machine
import SpdmEmu.Tsp.Validate

/-!
# The TSP responder

`library/cxl_tsp_responder_lib`: the seven request handlers and the dispatcher
`cxl_tsp_get_response`. Every handler begins with `withPrivilege`, the checks of the session, whose
failure is returned as a TSP error code in place of a libspdm status and leaves the response buffer
alone. Five handlers then have the shape `handleRequest`; the report handler cuts out a portion and
`SET_TARGET_TE_STATE` has a request of variable size.

`Effect` says once what a step can do, and `effect_cxlTspGetResponse` is the inversion lemma from
which every invariant of the responder is derived.
-/

set_option autoImplicit false

namespace SpdmEmu.Tsp

open SpdmEmu.Wire SpdmEmu.Libspdm SpdmEmu.Report SpdmEmu.Run

/-- A response message: the header fields every handler sets, then the body. -/
def message (K : CxlTsp) (request : Header) (kind : Response) (body : Bytes) : Bytes :=
  K.header.encode { tspVersion := request.tspVersion, opCode := K.responseOpCode kind } ++ body

/-- `cxl_tsp_get_response_error` -/
def cxlTspGetResponseError (K : CxlTsp) (request : Header) (errorCode errorData : UInt32) : Reply :=
  ⟨.success, some (message K request .error (K.errorResponse.encode ⟨errorCode, errorData⟩))⟩

/-- `return CXL_TSP_ERROR_CODE_NO_PRIVILEGE;` in a function that returns a libspdm status. -/
def denial (K : CxlTsp) : Reply := ⟨.raw (K.errorCode .noPrivilege), none⟩

variable {K : CxlTsp}

/-- The checks at the start of a handler: there is a session, and its type is allowed. -/
def withPrivilege {σ : Type} (allowed : SessionType → Bool) (context : DeviceContext K) (s : σ)
    (session : SessionId) (handle : UInt32 → Reply × σ) : Reply × σ :=
  match session with
  | none => (denial K, s)
  | some sessionId =>
      if !allowed (libcxltspGetSessionType context sessionId) then (denial K, s)
      else handle sessionId

/-- The common shape of a handler after the session checks: `body` is the request after the header,
`out` the response after the header. -/
def handleRequest {β γ : Type} (body : Packed β) (kind : Response) (out : Packed γ)
    (device : β → Except ErrorCode γ × State K) (s : State K) (request : Bytes) :
    Reply × State K :=
  let header := K.header.decode request
  if request.length ≠ K.header.size + body.size then
    (cxlTspGetResponseError K header (K.errorCode .invalidRequest) 0, s)
  else if header.tspVersion ≠ K.messageVersion10 then
    (cxlTspGetResponseError K header (K.errorCode .versionMismatch) 0, s)
  else
    match device (body.decode (request.drop K.header.size)) with
    | (.error errorCode, s) => (cxlTspGetResponseError K header (K.errorCode errorCode) 0, s)
    | (.ok response, s) => (⟨.success, some (message K header kind (out.encode response))⟩, s)

/-- `cxl_tsp_get_response_get_version` -/
def cxlTspGetResponseGetVersion (env : Environment) (s : State K) (session : SessionId)
    (request : Bytes) : Reply × State K :=
  withPrivilege (fun _ => true) s.context s session fun sessionId =>
    handleRequest K.getVersionRequest .getTargetTspVersion K.getVersionResponse
      (fun _ =>
        let (body, context) := cxlTspDeviceGetVersion env s.context sessionId
        (.ok body, { s with context := context }))
      s request

/-- `cxl_tsp_get_response_get_capabilities` -/
def cxlTspGetResponseGetCapabilities (s : State K) (session : SessionId) (request : Bytes) :
    Reply × State K :=
  withPrivilege (fun _ => true) s.context s session fun _ =>
    handleRequest K.getCapabilitiesRequest .getTargetCapabilities K.getCapabilitiesResponse
      (fun _ => (.ok (cxlTspDeviceGetCapabilities s.context), s)) s request

/-- `cxl_tsp_get_response_set_configuration` -/
def cxlTspGetResponseSetConfiguration (s : State K) (session : SessionId) (request : Bytes) :
    Reply × State K :=
  withPrivilege (· == .primary) s.context s session fun _ =>
    handleRequest K.setConfigurationRequest .setTargetConfiguration K.setConfigurationResponse
      (fun body =>
        -- the two device calls before the checks cannot fail
        let capabilities := cxlTspDeviceGetCapabilities s.context
        let current := cxlTspDeviceGetConfiguration s.context
        if current.currentTspState ≠ K.tspState .configUnlocked then
          (.error .invalidSecurityState, s)
        else
          match Responder.cxlTspValidateConfigruation K body capabilities with
          | .error errorCode => (.error errorCode, s)
          | .ok () =>
              (.ok (), cxlTspDeviceSetConfiguration s body.configuration body.sessionInfo))
      s request

/-- `cxl_tsp_get_response_get_configuration` -/
def cxlTspGetResponseGetConfiguration (s : State K) (session : SessionId) (request : Bytes) :
    Reply × State K :=
  withPrivilege (· != .other) s.context s session fun _ =>
    handleRequest K.getConfigurationRequest .getTargetConfiguration K.getConfigurationResponse
      (fun _ =>
        let current := cxlTspDeviceGetConfiguration s.context
        if current.currentTspState ≠ K.tspState .configUnlocked ∧
            current.currentTspState ≠ K.tspState .configLocked then
          (.error .invalidSecurityState, s)
        else (.ok current, s))
      s request

/-- `cxl_tsp_get_response_get_configuration_report` -/
def cxlTspGetResponseGetConfigurationReport (source : ReportSource K) (s : State K)
    (session : SessionId) (request : Bytes) : Reply × State K :=
  withPrivilege (· != .other) s.context s session fun _ =>
    let header := K.header.decode request
    let range := K.getConfigurationReportRequest.decode (request.drop K.header.size)
    let current := cxlTspDeviceGetConfiguration s.context
    if request.length ≠ K.header.size + K.getConfigurationReportRequest.size then
      (cxlTspGetResponseError K header (K.errorCode .invalidRequest) 0, s)
    else if header.tspVersion ≠ K.messageVersion10 then
      (cxlTspGetResponseError K header (K.errorCode .versionMismatch) 0, s)
    else if current.currentTspState ≠ K.tspState .configUnlocked ∧
        current.currentTspState ≠ K.tspState .configLocked then
      (cxlTspGetResponseError K header (K.errorCode .invalidSecurityState) 0, s)
    else
      -- the report call may change the context even when it fails
      let s' := { s with context := (source s.context).2 }
      match (source s.context).1 with
      | .error errorCode => (cxlTspGetResponseError K header errorCode 0, s')
      | .ok (report, size) =>
          match servePortion configurationReportPortionLen report size range.offset
            range.length with
          | none => (cxlTspGetResponseError K header (K.errorCode .invalidRequest) 0, s')
          | some (portion, remainder, bytes) =>
              (⟨.success, some (message K header .getTargetConfigurationReport
                (K.getConfigurationReportResponse.encode ⟨portion, remainder⟩ ++ bytes))⟩, s')

/-- `cxl_tsp_get_response_lock_configuration` -/
def cxlTspGetResponseLockConfiguration (s : State K) (session : SessionId) (request : Bytes) :
    Reply × State K :=
  withPrivilege (· == .primary) s.context s session fun _ =>
    handleRequest K.lockConfigurationRequest .lockTargetConfiguration K.lockConfigurationResponse
      (fun _ =>
        let current := cxlTspDeviceGetConfiguration s.context
        if current.currentTspState = K.tspState .configLocked then (.error .alreadyLocked, s)
        else if current.currentTspState ≠ K.tspState .configUnlocked then
          (.error .invalidSecurityState, s)
        else (.ok (), { s with context := cxlTspDeviceLockConfiguration s.context }))
      s request

/-- `sizeof(cxl_tsp_set_target_te_state_req_t)` -/
def setTeStateFixedSize (K : CxlTsp) : Nat := K.header.size + K.setTeStateRequest.size

/-- The device call that `SET_TARGET_TE_STATE` makes for a request. -/
def teStateCall (K : CxlTsp) (request : Bytes) : TeStateCall K :=
  let body := K.setTeStateRequest.decode (request.drop K.header.size)
  { teState := body.teState
    numberOfMemoryRanges := body.numberOfMemoryRanges
    memoryRanges := (memoryRange K).decodeList body.numberOfMemoryRanges.toNat
      (request.drop (setTeStateFixedSize K)) }

/-- `cxl_tsp_get_response_set_te_state` over any device library with a state that holds the
context. -/
def setTeStateOver {σ : Type} (context : σ → DeviceContext K)
    (device : σ → TeStateCall K → Except UInt32 Unit × σ) (s : σ) (session : SessionId)
    (request : Bytes) : Reply × σ :=
  withPrivilege (· != .other) (context s) s session fun _ =>
    let header := K.header.decode request
    let call := teStateCall K request
    if request.length < setTeStateFixedSize K then
      (cxlTspGetResponseError K header (K.errorCode .invalidRequest) 0, s)
    else if call.numberOfMemoryRanges = 0 ∨ call.numberOfMemoryRanges > 32 then
      (cxlTspGetResponseError K header (K.errorCode .invalidRequest) 0, s)
    -- the ranges behind the fixed part are counted by the request itself
    else if request.length ≠
        setTeStateFixedSize K + call.numberOfMemoryRanges.toNat * K.memoryRangeSize then
      (cxlTspGetResponseError K header (K.errorCode .invalidRequest) 0, s)
    else if header.tspVersion ≠ K.messageVersion10 then
      (cxlTspGetResponseError K header (K.errorCode .versionMismatch) 0, s)
    else if (cxlTspDeviceGetConfiguration (context s)).currentTspState ≠
        K.tspState .configLocked then
      (cxlTspGetResponseError K header (K.errorCode .invalidSecurityState) 0, s)
    else
      match device s call with
      | (.error errorCode, s) => (cxlTspGetResponseError K header errorCode 0, s)
      | (.ok (), s) =>
          (⟨.success, some (message K header .setTargetTeState
            (K.setTeStateResponse.encode ()))⟩, s)

/-- `cxl_tsp_get_response_set_te_state` -/
def cxlTspGetResponseSetTeState : State K → SessionId → Bytes → Reply × State K :=
  setTeStateOver State.context sampleSetTeState

/-- The op codes of `m_cxl_tsp_dispatch`, in its order. -/
def mCxlTspDispatch : List Request :=
  [.getTargetTspVersion, .getTargetCapabilities, .setTargetConfiguration,
    .getTargetConfiguration, .getTargetConfigurationReport, .lockTargetConfiguration,
    .setTargetTeState]

/-- The handler of a table entry. -/
def handler (source : ReportSource K) (env : Environment) :
    Request → State K → SessionId → Bytes → Reply × State K
  | .getTargetTspVersion => cxlTspGetResponseGetVersion env
  | .getTargetCapabilities => cxlTspGetResponseGetCapabilities
  | .setTargetConfiguration => cxlTspGetResponseSetConfiguration
  | .getTargetConfiguration => cxlTspGetResponseGetConfiguration
  | .getTargetConfigurationReport => cxlTspGetResponseGetConfigurationReport source
  | .lockTargetConfiguration => cxlTspGetResponseLockConfiguration
  | .setTargetTeState => cxlTspGetResponseSetTeState

/-- `cxl_tsp_get_response` -/
def cxlTspGetResponse (source : ReportSource K) (env : Environment) (s : State K)
    (session : SessionId) (request : Bytes) : Reply × State K :=
  let header := K.header.decode request
  if request.length < K.header.size then (⟨.invalidMsgSize, none⟩, s)
  else
    match mCxlTspDispatch.find? fun r => header.opCode == K.requestOpCode r with
    | some r => handler source env r s session request
    -- unlike the TDISP responder, an unknown op code writes no error response
    | none => (⟨.unsupportedCap, none⟩, s)

/-- Each op code finds its own table entry. -/
theorem find_mCxlTspDispatch (K : CxlTsp) (r : Request) :
    mCxlTspDispatch.find? (fun r' => K.requestOpCode r == K.requestOpCode r') = some r :=
  find_of_injective K.requestOpCode_injective (by cases r <;> decide)

/-! ## What a step can do -/

/-- The session types a request is open to. -/
def Request.allowed : Request → SessionType → Bool
  | .getTargetTspVersion => fun _ => true
  | .getTargetCapabilities => fun _ => true
  | .setTargetConfiguration => (· == .primary)
  | .getTargetConfiguration => (· != .other)
  | .getTargetConfigurationReport => (· != .other)
  | .lockTargetConfiguration => (· == .primary)
  | .setTargetTeState => (· != .other)

/-- The session has the privilege for a request. -/
def Privileged (s : State K) (session : SessionId) (r : Request) : Prop :=
  ∃ sessionId, session = some sessionId ∧
    r.allowed (libcxltspGetSessionType s.context sessionId) = true

instance (s : State K) (session : SessionId) (r : Request) : Decidable (Privileged s session r) :=
  match session with
  | none => .isFalse (by rintro ⟨_, h, -⟩; cases h)
  | some sessionId =>
      decidable_of_iff (r.allowed (libcxltspGetSessionType s.context sessionId) = true)
        ⟨fun h => ⟨sessionId, rfl, h⟩, by rintro ⟨_, h, h'⟩; cases h; exact h'⟩

/-- The reply carries a message of the given kind for the given request. -/
def Answers (K : CxlTsp) (request : Bytes) (kind : Response) (reply : Reply) : Prop :=
  ∃ body, reply = ⟨.success, some (message K (K.header.decode request) kind body)⟩

/-- The request's op code is that of `r`. -/
def IsRequest (K : CxlTsp) (request : Bytes) (r : Request) : Prop :=
  (K.header.decode request).opCode = K.requestOpCode r

/-- The success response of a request. -/
def Request.response : Request → Response
  | .getTargetTspVersion => .getTargetTspVersion
  | .getTargetCapabilities => .getTargetCapabilities
  | .setTargetConfiguration => .setTargetConfiguration
  | .getTargetConfiguration => .getTargetConfiguration
  | .getTargetConfigurationReport => .getTargetConfigurationReport
  | .lockTargetConfiguration => .lockTargetConfiguration
  | .setTargetTeState => .setTargetTeState

/-- The bytes of a success response to a request. -/
def success (K : CxlTsp) (request : Bytes) (r : Request) (body : Bytes) : Reply :=
  ⟨.success, some (message K (K.header.decode request) r.response body)⟩

/-- The effects of one request: the reply and the state after it. -/
inductive Effect (source : ReportSource K) (env : Environment) (s : State K) (session : SessionId)
    (request : Bytes) : Reply → State K → Prop
  | dropped : request.length < K.header.size →
      Effect source env s session request ⟨.invalidMsgSize, none⟩ s
  | unsupported : (∀ r, ¬ IsRequest K request r) →
      Effect source env s session request ⟨.unsupportedCap, none⟩ s
  | denied {r : Request} : IsRequest K request r → ¬ Privileged s session r →
      Effect source env s session request (denial K) s
  | rejected {r : Request} {reply : Reply} : IsRequest K request r → Privileged s session r →
      Answers K request .error reply → Effect source env s session request reply s
  | version {sessionId : UInt32} : IsRequest K request .getTargetTspVersion →
      session = some sessionId →
      Effect source env s session request
        (success K request .getTargetTspVersion
          (K.getVersionResponse.encode (cxlTspDeviceGetVersion env s.context sessionId).1))
        { s with context := (cxlTspDeviceGetVersion env s.context sessionId).2 }
  | capabilities : IsRequest K request .getTargetCapabilities →
      Privileged s session .getTargetCapabilities →
      Effect source env s session request
        (success K request .getTargetCapabilities
          (K.getCapabilitiesResponse.encode s.context.deviceCapabilities)) s
  | set {body : SetConfiguration K.secondSessionKeySize} :
      IsRequest K request .setTargetConfiguration → Privileged s session .setTargetConfiguration →
      body = K.setConfigurationRequest.decode (request.drop K.header.size) →
      s.context.currentTspState = K.tspState .configUnlocked →
      Responder.cxlTspValidateConfigruation K body s.context.deviceCapabilities = .ok () →
      Effect source env s session request
        (success K request .setTargetConfiguration (K.setConfigurationResponse.encode ()))
        (cxlTspDeviceSetConfiguration s body.configuration body.sessionInfo)
  | configuration : IsRequest K request .getTargetConfiguration →
      Privileged s session .getTargetConfiguration →
      Effect source env s session request
        (success K request .getTargetConfiguration (K.getConfigurationResponse.encode
          ⟨s.context.deviceConfiguration, s.context.currentTspState⟩)) s
  | reportRejected {reply : Reply} : IsRequest K request .getTargetConfigurationReport →
      Privileged s session .getTargetConfigurationReport → Answers K request .error reply →
      Effect source env s session request reply { s with context := (source s.context).2 }
  | report {report : Bytes} {size portion remainder : UInt16} {bytes : Bytes} :
      IsRequest K request .getTargetConfigurationReport →
      Privileged s session .getTargetConfigurationReport →
      (source s.context).1 = .ok (report, size) →
      servePortion configurationReportPortionLen report size
        (K.getConfigurationReportRequest.decode (request.drop K.header.size)).offset
        (K.getConfigurationReportRequest.decode (request.drop K.header.size)).length =
          some (portion, remainder, bytes) →
      Effect source env s session request
        (success K request .getTargetConfigurationReport
          (K.getConfigurationReportResponse.encode ⟨portion, remainder⟩ ++ bytes))
        { s with context := (source s.context).2 }
  | lock : IsRequest K request .lockTargetConfiguration →
      Privileged s session .lockTargetConfiguration →
      s.context.currentTspState = K.tspState .configUnlocked →
      Effect source env s session request
        (success K request .lockTargetConfiguration (K.lockConfigurationResponse.encode ()))
        { s with context := cxlTspDeviceLockConfiguration s.context }
  | teState : IsRequest K request .setTargetTeState → Privileged s session .setTargetTeState →
      s.context.currentTspState = K.tspState .configLocked →
      Effect source env s session request
        (success K request .setTargetTeState (K.setTeStateResponse.encode ())) s

theorem answers_error (request : Bytes) (errorCode errorData : UInt32) :
    Answers K request .error
      (cxlTspGetResponseError K (K.header.decode request) errorCode errorData) :=
  ⟨_, rfl⟩

theorem answers_success {request : Bytes} {r : Request} {body : Bytes} :
    Answers K request r.response (success K request r body) :=
  ⟨body, rfl⟩

/-- A reply answers with one kind of message. -/
theorem kind_unique {request : Bytes} {a b : Response} {reply : Reply}
    (ha : Answers K request a reply) (hb : Answers K request b reply) : a = b := by
  obtain ⟨body, rfl⟩ := ha
  obtain ⟨body', h⟩ := hb
  simp only [Reply.mk.injEq, true_and, Option.some.injEq] at h
  have hheader := congrArg K.header.decode h
  simpa [message] using hheader

/-- A handler either denies, or runs on a session that has the privilege. -/
theorem withPrivilege_cases {r : Request} {s : State K} {session : SessionId}
    {handle : UInt32 → Reply × State K} {P : Reply → State K → Prop}
    (hdeny : ¬ Privileged s session r → P (denial K) s)
    (hhandle : ∀ sessionId, session = some sessionId → Privileged s session r →
      P (handle sessionId).1 (handle sessionId).2) :
    P (withPrivilege r.allowed s.context s session handle).1
      (withPrivilege r.allowed s.context s session handle).2 := by
  unfold withPrivilege
  cases session with
  | none => exact hdeny (by rintro ⟨_, h, -⟩; cases h)
  | some sessionId =>
      by_cases hallowed : r.allowed (libcxltspGetSessionType s.context sessionId) = true
      · simp only [hallowed, Bool.not_true, Bool.false_eq_true, if_false]
        exact hhandle sessionId rfl ⟨sessionId, rfl, hallowed⟩
      · simp only [hallowed, Bool.not_false, if_true]
        exact hdeny (by rintro ⟨_, h, h'⟩; cases h; exact hallowed h')

/-- A property of replies and states holds of `handleRequest` if it holds of every error reply with
the state unchanged and of what it makes of the device's result. -/
theorem handleRequest_cases {β γ : Type} {body : Packed β} {kind : Response} {out : Packed γ}
    {device : β → Except ErrorCode γ × State K} {s : State K} {request : Bytes}
    {P : Reply → State K → Prop}
    (hreject : ∀ reply, Answers K request .error reply → P reply s)
    (hdevice : match device (body.decode (request.drop K.header.size)) with
      | (.error e, s') => P (cxlTspGetResponseError K (K.header.decode request)
          (K.errorCode e) 0) s'
      | (.ok b, s') => P ⟨.success, some (message K (K.header.decode request) kind
          (out.encode b))⟩ s') :
    P (handleRequest body kind out device s request).1
      (handleRequest body kind out device s request).2 := by
  unfold handleRequest
  by_cases hsize : request.length ≠ K.header.size + body.size
  · simp only [if_pos hsize]
    exact hreject _ (answers_error request _ _)
  · by_cases hversion : (K.header.decode request).tspVersion ≠ K.messageVersion10
    · simp only [if_neg hsize, if_pos hversion]
      exact hreject _ (answers_error request _ _)
    · simp only [if_neg hsize, if_neg hversion]
      -- only the result of the device call matters from here on
      generalize device (body.decode (request.drop K.header.size)) = r at hdevice ⊢
      rcases r with ⟨result, s'⟩
      cases result with
      | error e => exact hdevice
      | ok b => exact hdevice

section Effects

variable {source : ReportSource K} {env : Environment} {s : State K} {session : SessionId}
  {request : Bytes}

theorem effect_getVersion (h : IsRequest K request .getTargetTspVersion) :
    Effect source env s session request (cxlTspGetResponseGetVersion env s session request).1
      (cxlTspGetResponseGetVersion env s session request).2 := by
  refine withPrivilege_cases (r := .getTargetTspVersion) (fun hd => .denied h hd) ?_
  intro sessionId hsession hp
  exact handleRequest_cases (fun _ hr => .rejected h hp hr) (.version h hsession)

theorem effect_getCapabilities (h : IsRequest K request .getTargetCapabilities) :
    Effect source env s session request (cxlTspGetResponseGetCapabilities s session request).1
      (cxlTspGetResponseGetCapabilities s session request).2 := by
  refine withPrivilege_cases (r := .getTargetCapabilities) (fun hd => .denied h hd) ?_
  intro _ _ hp
  exact handleRequest_cases (fun _ hr => .rejected h hp hr) (.capabilities h hp)

theorem effect_setConfiguration (h : IsRequest K request .setTargetConfiguration) :
    Effect source env s session request (cxlTspGetResponseSetConfiguration s session request).1
      (cxlTspGetResponseSetConfiguration s session request).2 := by
  refine withPrivilege_cases (r := .setTargetConfiguration) (fun hd => .denied h hd) ?_
  intro _ _ hp
  refine handleRequest_cases (fun _ hr => .rejected h hp hr) ?_
  by_cases hu : (cxlTspDeviceGetConfiguration s.context).currentTspState ≠
      K.tspState .configUnlocked
  · simp only [if_pos hu]
    exact .rejected h hp (answers_error request _ _)
  · simp only [if_neg hu, cxlTspDeviceGetCapabilities]
    cases hv : Responder.cxlTspValidateConfigruation K
        (K.setConfigurationRequest.decode (request.drop K.header.size))
        s.context.deviceCapabilities with
    | error e => exact .rejected h hp (answers_error request _ _)
    | ok u => exact .set h hp rfl (Classical.not_not.1 hu) hv

theorem effect_getConfiguration (h : IsRequest K request .getTargetConfiguration) :
    Effect source env s session request (cxlTspGetResponseGetConfiguration s session request).1
      (cxlTspGetResponseGetConfiguration s session request).2 := by
  refine withPrivilege_cases (r := .getTargetConfiguration) (fun hd => .denied h hd) ?_
  intro _ _ hp
  refine handleRequest_cases (fun _ hr => .rejected h hp hr) ?_
  by_cases hs : (cxlTspDeviceGetConfiguration s.context).currentTspState ≠
        K.tspState .configUnlocked ∧
      (cxlTspDeviceGetConfiguration s.context).currentTspState ≠ K.tspState .configLocked
  · simp only [if_pos hs]
    exact .rejected h hp (answers_error request _ _)
  · simp only [if_neg hs]
    exact .configuration h hp

theorem effect_getConfigurationReport (h : IsRequest K request .getTargetConfigurationReport) :
    Effect source env s session request
      (cxlTspGetResponseGetConfigurationReport source s session request).1
      (cxlTspGetResponseGetConfigurationReport source s session request).2 := by
  refine withPrivilege_cases (r := .getTargetConfigurationReport) (fun hd => .denied h hd) ?_
  intro _ _ hp
  have herror : ∀ c d, Answers K request .error
      (cxlTspGetResponseError K (K.header.decode request) c d) := answers_error request
  simp only
  split
  · exact .rejected h hp (herror _ _)
  split
  · exact .rejected h hp (herror _ _)
  split
  · exact .rejected h hp (herror _ _)
  split
  · exact .reportRejected h hp (herror _ _)
  -- from here on the context is the one the report call left
  next hsource =>
  split
  · exact .reportRejected h hp (herror _ _)
  · next hserve => exact .report h hp hsource hserve

theorem effect_lockConfiguration (h : IsRequest K request .lockTargetConfiguration) :
    Effect source env s session request (cxlTspGetResponseLockConfiguration s session request).1
      (cxlTspGetResponseLockConfiguration s session request).2 := by
  refine withPrivilege_cases (r := .lockTargetConfiguration) (fun hd => .denied h hd) ?_
  intro _ _ hp
  refine handleRequest_cases (fun _ hr => .rejected h hp hr) ?_
  by_cases hl : (cxlTspDeviceGetConfiguration s.context).currentTspState =
      K.tspState .configLocked
  · simp only [if_pos hl]
    exact .rejected h hp (answers_error request _ _)
  · by_cases hu : (cxlTspDeviceGetConfiguration s.context).currentTspState ≠
        K.tspState .configUnlocked
    · simp only [if_neg hl, if_pos hu]
      exact .rejected h hp (answers_error request _ _)
    · simp only [if_neg hl, if_neg hu]
      exact .lock h hp (Classical.not_not.1 hu)

theorem effect_setTeState (h : IsRequest K request .setTargetTeState) :
    Effect source env s session request (cxlTspGetResponseSetTeState s session request).1
      (cxlTspGetResponseSetTeState s session request).2 := by
  refine withPrivilege_cases (r := .setTargetTeState) (fun hd => .denied h hd) ?_
  intro _ _ hp
  have herror : ∀ c d, Answers K request .error
      (cxlTspGetResponseError K (K.header.decode request) c d) := answers_error request
  simp only
  split
  · exact .rejected h hp (herror _ _)
  split
  · exact .rejected h hp (herror _ _)
  split
  · exact .rejected h hp (herror _ _)
  split
  · exact .rejected h hp (herror _ _)
  split
  · exact .rejected h hp (herror _ _)
  · next hl => exact .teState h hp (Classical.not_not.1 hl)

/-- **Every step of the responder is one of the listed effects.** -/
theorem effect_cxlTspGetResponse (source : ReportSource K) (env : Environment) (s : State K)
    (session : SessionId) (request : Bytes) :
    Effect source env s session request (cxlTspGetResponse source env s session request).1
      (cxlTspGetResponse source env s session request).2 := by
  unfold cxlTspGetResponse
  by_cases hlen : request.length < K.header.size
  · simp only [if_pos hlen]
    exact .dropped hlen
  · simp only [if_neg hlen]
    split
    · next r hfind =>
        have hr : IsRequest K request r := by
          unfold IsRequest
          simpa using List.find?_some hfind
        -- one effect lemma for each handler of the table
        cases r with
        | getTargetTspVersion => exact effect_getVersion hr
        | getTargetCapabilities => exact effect_getCapabilities hr
        | setTargetConfiguration => exact effect_setConfiguration hr
        | getTargetConfiguration => exact effect_getConfiguration hr
        | getTargetConfigurationReport => exact effect_getConfigurationReport hr
        | lockTargetConfiguration => exact effect_lockConfiguration hr
        | setTargetTeState => exact effect_setTeState hr
    · next hfind =>
        refine .unsupported fun r hr => ?_
        rw [hr, find_mCxlTspDispatch] at hfind
        cases hfind

end Effects

/-! ## Denials -/

section Denials

variable {source : ReportSource K} {env : Environment} {s : State K} {session : SessionId}
  {request : Bytes}

/-- The request reaches a handler that denies it. -/
def Denied (s : State K) (session : SessionId) (request : Bytes) : Prop :=
  K.header.size ≤ request.length ∧ ∃ r, IsRequest K request r ∧ ¬ Privileged s session r

theorem withPrivilege_of_not_privileged {r : Request} (h : ¬ Privileged s session r)
    (handle : UInt32 → Reply × State K) :
    withPrivilege r.allowed s.context s session handle = (denial K, s) := by
  cases session with
  | none => rfl
  | some sessionId =>
      have hallowed : r.allowed (libcxltspGetSessionType s.context sessionId) = false := by
        simpa using fun ha => h ⟨sessionId, rfl, ha⟩
      simp [withPrivilege, hallowed]

/-- A denial is the status `CXL_TSP_ERROR_CODE_NO_PRIVILEGE` and nothing else. -/
theorem cxlTspGetResponse_of_denied (h : Denied s session request) :
    cxlTspGetResponse source env s session request = (denial K, s) := by
  obtain ⟨hsize, r, hr, hdenied⟩ := h
  have hlong : ¬ request.length < K.header.size := by omega
  have hop : (K.header.decode request).opCode = K.requestOpCode r := hr
  simp only [cxlTspGetResponse, if_neg hlong, hop, find_mCxlTspDispatch]
  -- every handler of the table starts with the session checks
  cases r <;> exact withPrivilege_of_not_privileged hdenied _

/-- A request that is not denied gets an error status or a message. -/
theorem reply_of_not_denied (source : ReportSource K) (env : Environment)
    (h : ¬ Denied s session request) :
    (cxlTspGetResponse source env s session request).1.status.isError = true ∨
      ∃ bytes, (cxlTspGetResponse source env s session request).1 = ⟨.success, some bytes⟩ := by
  by_cases hsize : request.length < K.header.size
  · left
    simp [cxlTspGetResponse, hsize, LibspdmReturn.isError]
  · have heffect := effect_cxlTspGetResponse source env s session request
    generalize cxlTspGetResponse source env s session request = step at heffect ⊢
    obtain ⟨reply, s'⟩ := step
    simp only at heffect ⊢
    cases heffect with
    | dropped hshort => exact absurd hshort hsize
    | unsupported _ => exact .inl rfl
    | denied hr hdenied => exact absurd ⟨by omega, _, hr, hdenied⟩ h
    | rejected _ _ hanswer =>
        obtain ⟨body, rfl⟩ := hanswer
        exact .inr ⟨_, rfl⟩
    | reportRejected _ _ hanswer =>
        obtain ⟨body, rfl⟩ := hanswer
        exact .inr ⟨_, rfl⟩
    | _ => exact .inr ⟨_, rfl⟩

end Denials

/-! ## The responder as a machine -/

/-- One request on a session, with what libspdm says about that session. -/
structure Input where
  session : SessionId
  request : Bytes
  env : Environment
deriving DecidableEq, Repr

/-- The responder with the sample device library. -/
def responder (K : CxlTsp) : Machine (State K) Input Reply where
  step s input :=
    cxlTspGetResponse cxlTspDeviceGetConfigurationReport input.env s input.session input.request

/-- A request on session 1 in the sample format. -/
def sampleInput (r : Request) (body : Bytes) : Input where
  session := some 1
  request := CxlTsp.sample.header.encode ⟨0x10, CxlTsp.sample.requestOpCode r⟩ ++ body
  env := ⟨false, 0⟩

/-- A table of zero keys. -/
def samplePsk : Vector (Psk CxlTsp.sample) secondSessionCount :=
  Vector.replicate _ (Vector.replicate _ 0)

end SpdmEmu.Tsp
