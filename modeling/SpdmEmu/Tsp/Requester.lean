import SpdmEmu.Tsp.Responder

/-!
# The TSP requester

`library/cxl_tsp_requester_lib`: reading the target configuration and its report. The responder of
`SpdmEmu.Tsp.Responder` answers over a link of its own; with a device library that returns a report
unchanged on each call it serves that report.
-/

set_option autoImplicit false

namespace SpdmEmu.Tsp

open SpdmEmu.Wire SpdmEmu.Libspdm SpdmEmu.Report

/-- The header of a request. -/
def requestHeader (K : CxlTsp) (r : Request) : Header := ⟨K.messageVersion10, K.requestOpCode r⟩

@[simp] theorem requestHeader_tspVersion (K : CxlTsp) (r : Request) :
    (requestHeader K r).tspVersion = K.messageVersion10 := rfl

@[simp] theorem requestHeader_opCode (K : CxlTsp) (r : Request) :
    (requestHeader K r).opCode = K.requestOpCode r := rfl

/-! ## The version -/

/-- The request of `cxl_tsp_get_version`. -/
def getVersionMessage (K : CxlTsp) : Bytes :=
  K.header.encode (requestHeader K .getTargetTspVersion) ++
    K.getVersionRequest.encode ()

/-- `LIBCXLTSP_ERROR_MESSAGE_MAX_SIZE`, the size of `res_buf`. -/
def errorMessageMaxSize (K : CxlTsp) : Nat := K.header.size + K.errorResponse.size

/-- The one exchange of `cxl_tsp_get_version`. -/
def getVersionCall {σ : Type} (K : CxlTsp) (link : σ) : Call σ :=
  ⟨link, getVersionMessage K, errorMessageMaxSize K⟩

/-- `cxl_tsp_get_version` -/
def cxlTspGetVersion {σ : Type} (K : CxlTsp) (sendReceive : SendReceive σ) (link : σ) :
    LibspdmReturn × σ :=
  let (exchange, link) := sendReceive.call (getVersionCall K link)
  let response := exchange.response
  let header := K.header.decode response
  let body := K.getVersionResponse.decode (response.drop K.header.size)
  if exchange.status.isError then (exchange.status, link)
  else if response.length ≠ K.header.size + K.getVersionResponse.size then (.invalidMsgSize, link)
  else if header.tspVersion ≠ K.messageVersion10 then (.invalidMsgField, link)
  else if header.opCode ≠ K.responseOpCode .getTargetTspVersion then (.invalidMsgField, link)
  else if body.versionNumberEntryCount ≠ 1 then (.invalidMsgField, link)
  else if body.versionNumberEntry ≠ K.messageVersion10 then (.invalidMsgField, link)
  else (.success, link)

/-- Whatever it is answered, the requester makes its one exchange. -/
theorem calls_cxlTspGetVersion {σ : Type} (K : CxlTsp) (sendReceive : SendReceive σ) (link : σ)
    (calls : List (Call σ)) :
    (cxlTspGetVersion K sendReceive.recorded (link, calls)).2.2 =
      calls ++ [getVersionCall K link] := by
  simp only [cxlTspGetVersion]
  -- every branch hands the link on
  repeat' split
  all_goals rfl

/-! ## The configuration -/

/-- The request of `cxl_tsp_get_configuration`. -/
def getConfigurationMessage (K : CxlTsp) : Bytes :=
  K.header.encode (requestHeader K .getTargetConfiguration) ++
    K.getConfigurationRequest.encode ()

/-- `cxl_tsp_get_configuration`: the status and, on success, the configuration and the state. -/
def cxlTspGetConfiguration {σ : Type} (K : CxlTsp) (sendReceive : SendReceive σ) (link : σ) :
    Except LibspdmReturn ConfigurationBody × σ :=
  let (exchange, link) := sendReceive link (getConfigurationMessage K)
    (K.header.size + K.getConfigurationResponse.size)
  let response := exchange.response
  let header := K.header.decode response
  let body := K.getConfigurationResponse.decode (response.drop K.header.size)
  if exchange.status.isError then (.error exchange.status, link)
  else if response.length ≠ K.header.size + K.getConfigurationResponse.size then
    (.error .invalidMsgSize, link)
  else if header.tspVersion ≠ K.messageVersion10 then (.error .invalidMsgField, link)
  else if header.opCode ≠ K.responseOpCode .getTargetConfiguration then
    (.error .invalidMsgField, link)
  else if !Requester.cxlTspValidateConfigruation K body.configuration then
    (.error .invalidMsgField, link)
  else if body.currentTspState > K.tspState .error then (.error .invalidMsgField, link)
  else (.ok body, link)

/-! ## The configuration report -/

/-- The messages of `cxl_tsp_get_configuration_report`. -/
def configurationReportProtocol (K : CxlTsp) : ReportProtocol where
  portionLen := configurationReportPortionLen
  request offset length :=
    K.header.encode (requestHeader K .getTargetConfigurationReport) ++
      K.getConfigurationReportRequest.encode ⟨offset, length⟩
  responseSize :=
    K.header.size + K.getConfigurationReportResponse.size + configurationReportPortionLen.toNat
  fixedSize := K.header.size + K.getConfigurationReportResponse.size
  lengths response :=
    let body := K.getConfigurationReportResponse.decode (response.drop K.header.size)
    (body.portionLength, body.remainderLength)
  accepted response :=
    let header := K.header.decode response
    header.tspVersion == K.messageVersion10 &&
      header.opCode == K.responseOpCode .getTargetConfigurationReport

/-- `cxl_tsp_get_configuration_report` -/
def cxlTspGetConfigurationReport {σ : Type} (K : CxlTsp) (sendReceive : SendReceive σ) (fuel : Nat)
    (link : σ) (configurationReport : Mem) (configurationReportSize : UInt32) :
    Option (Result σ) :=
  getReport (configurationReportProtocol K) sendReceive fuel link configurationReport
    configurationReportSize

variable {K : CxlTsp}

/-- The exchange with the responder on one session. -/
def tspLink (source : ReportSource K) (env : Environment) (sessionId : UInt32) :
    SendReceive (State K) :=
  directLink fun s request => cxlTspGetResponse source env s (some sessionId) request

theorem tspLink_of_written {source : ReportSource K} {env : Environment} {sessionId : UInt32}
    {s s' : State K} {request m : Bytes} {capacity : Nat}
    (h : cxlTspGetResponse source env s (some sessionId) request = (⟨.success, some m⟩, s'))
    (hfits : m.length ≤ capacity) :
    tspLink source env sessionId s request capacity = (⟨.success, m⟩, s') :=
  directLink_of_written h hfits

/-- The context after `n` calls of the device's report function. -/
def afterReports (source : ReportSource K) (ctx : DeviceContext K) (n : Nat) : DeviceContext K :=
  (fun c => (source c).2)^[n] ctx

/-- The device library returns `R` unchanged on each call, on a primary or secondary session in the
state `CONFIG_UNLOCKED` or `CONFIG_LOCKED`. -/
structure ReturnsReport (source : ReportSource K) (ctx : DeviceContext K) (sessionId : UInt32)
    (R : Bytes) : Prop where
  report : ∀ n, ∃ buffer : Bytes,
    (source (afterReports source ctx n)).1 = .ok (buffer, UInt16.ofNat R.length) ∧
      buffer.take R.length = R
  session : ∀ n, libcxltspGetSessionType (afterReports source ctx n) sessionId ≠ .other
  state : ∀ n, (afterReports source ctx n).currentTspState = K.tspState .configUnlocked ∨
    (afterReports source ctx n).currentTspState = K.tspState .configLocked

/-- The sample device library returns its report buffer, with the first byte set, on each call. -/
theorem returnsReport_sample {ctx : DeviceContext K} {sessionId : UInt32}
    (hsession : libcxltspGetSessionType ctx sessionId ≠ .other)
    (hstate : ctx.currentTspState = K.tspState .configUnlocked ∨
      ctx.currentTspState = K.tspState .configLocked) :
    ReturnsReport cxlTspDeviceGetConfigurationReport ctx sessionId
      ((validReport ctx.configurationReport).toList.take configurationReportStructSize.toNat) := by
  -- a call changes the report buffer and its size, and a second call changes nothing
  have hafter : ∀ n, ∃ report size,
      afterReports cxlTspDeviceGetConfigurationReport ctx n =
        { ctx with configurationReport := report, configurationReportSize := size } ∧
      validReport report = validReport ctx.configurationReport := by
    intro n
    induction n with
    | zero => exact ⟨_, _, rfl, rfl⟩
    | succ n ih =>
        obtain ⟨report, size, hctx, hset⟩ := ih
        refine ⟨validReport report, configurationReportStructSize, ?_, ?_⟩
        · rw [afterReports, Function.iterate_succ_apply', ← afterReports, hctx]
          rfl
        · rw [validReport_validReport, hset]
  have hlength : ((validReport ctx.configurationReport).toList.take
      configurationReportStructSize.toNat).length = configurationReportStructSize.toNat := by
    rw [List.length_take, Vector.length_toList]
    decide
  constructor
  · intro n
    obtain ⟨report, size, hctx, hset⟩ := hafter n
    refine ⟨(validReport ctx.configurationReport).toList, ?_, ?_⟩
    · rw [hctx, hlength, UInt16.ofNat_toNat, ← hset]
      rfl
    · rw [hlength]
  · intro n
    obtain ⟨report, size, hctx, -⟩ := hafter n
    rw [hctx]
    exact hsession
  · intro n
    obtain ⟨report, size, hctx, -⟩ := hafter n
    rw [hctx]
    exact hstate

/-- The answer to a report request on a session that may read the report. -/
theorem cxlTspGetResponse_report {source : ReportSource K} (env : Environment) {s : State K}
    {sessionId : UInt32} {report : Bytes} {size : UInt16}
    (hsession : libcxltspGetSessionType s.context sessionId ≠ .other)
    (hstate : s.context.currentTspState = K.tspState .configUnlocked ∨
      s.context.currentTspState = K.tspState .configLocked)
    (hsource : (source s.context).1 = .ok (report, size))
    {offset length portion remainder : UInt16} {bytes : Bytes}
    (hserve : servePortion configurationReportPortionLen report size offset length =
      some (portion, remainder, bytes)) :
    cxlTspGetResponse source env s (some sessionId)
        ((configurationReportProtocol K).request offset length) =
      (⟨.success, some (message K
          (requestHeader K .getTargetConfigurationReport)
          .getTargetConfigurationReport
          (K.getConfigurationReportResponse.encode ⟨portion, remainder⟩ ++ bytes))⟩,
        { s with context := (source s.context).2 }) := by
  have hallowed : ¬ (s.context.currentTspState ≠ K.tspState .configUnlocked ∧
      s.context.currentTspState ≠ K.tspState .configLocked) := by
    rintro ⟨h1, h2⟩
    exact hstate.elim h1 h2
  have hrole : (libcxltspGetSessionType s.context sessionId == .other) = false := by
    simp [hsession]
  simp only [cxlTspGetResponse, configurationReportProtocol, Packed.decode_encode_append,
    requestHeader_opCode, find_mCxlTspDispatch, handler, cxlTspGetResponseGetConfigurationReport,
    withPrivilege, bne, hrole, Packed.drop_encode_append, Packed.decode_encode, List.length_append,
    Packed.length_encode_eq, cxlTspDeviceGetConfiguration, hsource, hserve]
  simp [hallowed]

/-- With a device library that returns the report `R` the responder serves `R`. -/
theorem serves_configurationReport {source : ReportSource K} (env : Environment) {s : State K}
    {sessionId : UInt32} {R : Bytes} (hR : R.length < 2 ^ 16)
    (hreturns : ReturnsReport source s.context sessionId R) :
    Serves (configurationReportProtocol K) (tspLink source env sessionId) R
      (fun t => ∃ n, t.context = afterReports source s.context n) where
  answer := by
    rintro t ⟨n, hn⟩ offset length portion remainder bytes hserve
    obtain ⟨buffer, hsource, htake⟩ := hreturns.report n
    have hsize : (UInt16.ofNat R.length).toNat = R.length := UInt16.toNat_ofNat_of_lt' hR
    obtain ⟨hportion, hlength⟩ : portion.toNat ≤ configurationReportPortionLen.toNat ∧ _ :=
      length_of_servePortion (by omega) hserve
    -- serving from `R` is serving from the buffer whose first bytes `R` is
    have hbuffer : servePortion configurationReportPortionLen buffer (UInt16.ofNat R.length)
        offset length = some (portion, remainder, bytes) := by
      rw [← servePortion_take, hsize, htake]
      exact hserve
    rw [← hn] at hsource
    have hanswer := cxlTspGetResponse_report env (hn ▸ hreturns.session n)
      (hn ▸ hreturns.state n) hsource hbuffer
    refine ⟨_, _, tspLink_of_written hanswer ?_, ⟨n + 1, ?_⟩, ?_⟩
    · simp only [message, configurationReportProtocol, List.length_append,
        Packed.length_encode_eq]
      omega
    -- each exchange is one more call of the report function
    · rw [afterReports, Function.iterate_succ_apply', ← afterReports, hn]
    · simp only [message, configurationReportProtocol, List.length_append,
        Packed.length_encode_eq, Packed.decode_encode_append, Packed.drop_encode_append]
      refine ⟨trivial, by simp, by omega, ?_⟩
      rw [← List.drop_drop, Packed.drop_encode_append, Packed.drop_encode_append]

end SpdmEmu.Tsp
