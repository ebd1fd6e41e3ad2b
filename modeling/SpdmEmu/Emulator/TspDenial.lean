import SpdmEmu.Emulator.Session
import SpdmEmu.Tsp.Responder

/-!
# What the peer sees of a TSP denial

A TSP handler that denies a request returns `CXL_TSP_ERROR_CODE_NO_PRIVILEGE` in place of a libspdm
status and writes nothing. The code has no error severity, so the vendor dispatcher takes it for
success: it puts a response header before whatever the buffer held, with the size of the buffer as
the size of the response, and the emulator sends that.
-/

set_option autoImplicit false

namespace SpdmEmu.Emulator

open SpdmEmu.Wire SpdmEmu.Libspdm SpdmEmu.Doe SpdmEmu.Mctp SpdmEmu.Tsp

variable {K : CxlTsp} {ρ : Type}

/-- The TSP handler in a responder with further state `ρ`. -/
def tspHandler (source : ReportSource K) (env : Environment) : Handler (State K × ρ) :=
  fun s session request =>
    let (reply, tsp) := cxlTspGetResponse source env s.1 session request
    (reply, (tsp, s.2))

/-- The message is an SPDM error response. -/
def IsSpdmError (V : VendorDefined) (m : Bytes) : Prop :=
  (V.spdmHeader.decode m).requestResponseCode = V.error

/-- The vendor-defined response to `r` that carries exactly `m`. -/
def vendorResponse (V : VendorDefined) (r : VendorRequest) (m : Bytes) : Bytes :=
  responseHeader V r m.length ++ m

/-- The peer can tell what became of its TSP request `r`: `reply` is what the handler left behind,
`dispatched` the result of the dispatcher and `sent` that of the callback. -/
structure DenialVisible {σ : Type} (V : VendorDefined) (K : CxlTsp) (denied : Prop)
    (r : VendorRequest) (reply : Reply) (dispatched sent : Outcome σ) : Prop where
  /-- a denial is an SPDM error or a TSP error message -/
  denial : denied → IsSpdmError V sent.message ∨ ∃ errorCode errorData,
    sent.message = vendorResponse V r (Tsp.message K (K.header.decode r.body) .error
      (K.errorResponse.encode ⟨errorCode, errorData⟩))
  /-- a response of the dispatcher is the message the handler wrote -/
  dispatched : dispatched.status = .success →
    ∃ m, reply.written = some m ∧ dispatched.message = vendorResponse V r m
  /-- what is sent is an SPDM error or the message the handler wrote -/
  sent : IsSpdmError V sent.message ∨
    ∃ m, reply.written = some m ∧ sent.message = vendorResponse V r m

theorem isError_denial (K : CxlTsp) : (denial K).status.isError = false := by
  have hlt := K.errorCode_lt .noPrivilege
  -- a code below 2^28 has no severity bits
  have hshift : K.errorCode .noPrivilege >>> 28 = 0 := by
    apply UInt32.toNat_inj.1
    rw [UInt32.toNat_shiftRight, Nat.shiftRight_eq_div_pow]
    exact Nat.div_eq_of_lt hlt
  simp [denial, LibspdmReturn.isError, hshift]

/-! ## The callback on a TSP request -/

section Callback

variable (V : VendorDefined) (M : MctpStandard) (handlers : VendorHandlers (State K × ρ))
  (source : ReportSource K) (env : Environment) (apps : List (Mctp.DispatchEntry (State K × ρ)))
  (errorResponse : Bytes) (s : State K × ρ) (session : SessionId)

/-- The emulator over PCI DOE, with the handlers it registers. -/
def doeContext : SessionContext (State K × ρ) where
  mUseTransportLayer := .pciDoe
  mPciDoeSpdmDispatch :=
    (pciDoeInitResponder V { handlers with cxlTspGetResponse := tspHandler source env }).2
  mMctpSecuredAppDispatch := apps
  errorResponse := errorResponse

/-- The dispatcher of the emulator. -/
def dispatch : Respond (State K × ρ) :=
  pciDoeGetResponseSpdmVendorDefinedRequest V
    (doeContext V handlers source env apps errorResponse).mPciDoeSpdmDispatch

/-- The callback of the emulator. -/
def callback : Respond (State K × ρ) :=
  spdmGetResponseVendorDefinedRequest V M (doeContext V handlers source env apps errorResponse)

theorem callback_eq (request : Bytes) (response : Mem) (responseSize : Nat) :
    callback V M handlers source env apps errorResponse s session request response responseSize =
      generateErrorResponse errorResponse (dispatch V handlers source env apps errorResponse s
        session request response responseSize) :=
  rfl

variable {V} {request : Bytes} {r : VendorRequest}
  (hparse : parseRequest V request = .ok r) (hvendor : r.ids.vendorId = V.vendorIdCxl)
  (hprotocol : r.protocolId = V.cxlProtocolIdTsp)

include hparse hvendor hprotocol

theorem lookup_doeContext :
    (doeContext V handlers source env apps errorResponse).mPciDoeSpdmDispatch.lookup r.ids
        r.protocolId =
      some ⟨V.registryIdPcisig, V.vendorIdCxl, V.cxlProtocolIdTsp, tspHandler source env⟩ := by
  rw [ids_of_parseRequest hparse, hvendor, hprotocol]
  exact lookup_tsp V _

/-- The dispatcher's message when the handler's status is no error. -/
theorem message_dispatch_of_ok {reply : Reply} {tsp : State K}
    (hreply : cxlTspGetResponse source env s.1 session r.body = (reply, tsp))
    (hok : reply.status.isError = false) (response : Mem) (responseSize : Nat) :
    (dispatch V handlers source env apps errorResponse s session request response
          responseSize).status = .success ∧
      (dispatch V handlers source env apps errorResponse s session request response
          responseSize).message =
        responseHeader V r (reply.size (responseSize - V.headerSize r.form)) ++
          (reply.buffer response (V.headerSize r.form)).load (V.headerSize r.form)
            (reply.size (responseSize - V.headerSize r.form)) := by
  have hfound := lookup_doeContext handlers source env apps errorResponse hparse hvendor hprotocol
  have hfunc : tspHandler source env s session r.body = (reply, (tsp, s.2)) := by
    simp [tspHandler, hreply]
  constructor
  · rw [dispatch, respond_of_ok hparse hfound hfunc hok]
  · exact message_of_ok hparse hfound hfunc hok response responseSize

theorem status_dispatch_of_error
    (herror : (cxlTspGetResponse source env s.1 session r.body).1.status.isError = true)
    (response : Mem) (responseSize : Nat) :
    (dispatch V handlers source env apps errorResponse s session request response
      responseSize).status.isError = true := by
  have hfound := lookup_doeContext handlers source env apps errorResponse hparse hvendor hprotocol
  have hfunc : tspHandler source env s session r.body =
      ((cxlTspGetResponse source env s.1 session r.body).1,
        ((cxlTspGetResponse source env s.1 session r.body).2, s.2)) := rfl
  rw [dispatch, respond_of_error hparse hfound hfunc herror]
  exact herror

/-- A denial goes out as a response that carries what the buffer held. -/
theorem message_dispatch_of_denied (hdenied : Denied s.1 session r.body) (response : Mem)
    (responseSize : Nat) :
    (dispatch V handlers source env apps errorResponse s session request response
          responseSize).status = .success ∧
      (dispatch V handlers source env apps errorResponse s session request response
          responseSize).message =
        responseHeader V r (responseSize - V.headerSize r.form) ++
          response.load (V.headerSize r.form) (responseSize - V.headerSize r.form) :=
  message_dispatch_of_ok handlers source env apps errorResponse s session hparse hvendor hprotocol
    (cxlTspGetResponse_of_denied hdenied) (isError_denial K) response responseSize

/-- A message of the handler goes out as it is. -/
theorem message_dispatch_of_written {m : Bytes} {tsp : State K}
    (hreply : cxlTspGetResponse source env s.1 session r.body = (⟨.success, some m⟩, tsp))
    (response : Mem) (responseSize : Nat) :
    (dispatch V handlers source env apps errorResponse s session request response
          responseSize).status = .success ∧
      (dispatch V handlers source env apps errorResponse s session request response
          responseSize).message = vendorResponse V r m := by
  obtain ⟨hstatus, hmessage⟩ := message_dispatch_of_ok handlers source env apps errorResponse s
    session hparse hvendor hprotocol hreply rfl response responseSize
  refine ⟨hstatus, hmessage.trans ?_⟩
  simp [vendorResponse, Reply.size, Reply.buffer]

/-- A denial is never visible: the dispatcher reports success and the handler wrote nothing. -/
theorem not_denialVisible_of_denied (hdenied : Denied s.1 session r.body) (response : Mem)
    (responseSize : Nat) (sent : Outcome (State K × ρ)) :
    ¬ DenialVisible V K (Denied s.1 session r.body) r
        (cxlTspGetResponse source env s.1 session r.body).1
        (dispatch V handlers source env apps errorResponse s session request response responseSize)
        sent := by
  intro hvisible
  obtain ⟨hstatus, -⟩ := message_dispatch_of_denied handlers source env apps errorResponse s
    session hparse hvendor hprotocol hdenied response responseSize
  obtain ⟨m, hwritten, -⟩ := hvisible.dispatched hstatus
  rw [cxlTspGetResponse_of_denied hdenied] at hwritten
  cases hwritten

/-- **A TSP request is answered visibly exactly when it is not denied.** -/
theorem denial_visible_iff (herror : IsSpdmError V errorResponse) (response : Mem)
    (responseSize : Nat) :
    DenialVisible V K (Denied s.1 session r.body) r
        (cxlTspGetResponse source env s.1 session r.body).1
        (dispatch V handlers source env apps errorResponse s session request response responseSize)
        (callback V M handlers source env apps errorResponse s session request response
          responseSize) ↔
      ¬ Denied s.1 session r.body := by
  constructor
  · intro hvisible hdenied
    exact not_denialVisible_of_denied handlers source env apps errorResponse s session hparse
      hvendor hprotocol hdenied response responseSize _ hvisible
  · intro hdenied
    rw [callback_eq]
    -- an error status becomes an SPDM error, a message goes out as it is
    rcases reply_of_not_denied source env hdenied with hfails | ⟨m, hm⟩
    · have hstatus := status_dispatch_of_error handlers source env apps errorResponse s session
        hparse hvendor hprotocol hfails response responseSize
      refine ⟨fun hd => absurd hd hdenied, ?_, .inl ?_⟩
      · intro hsuccess
        rw [hsuccess] at hstatus
        cases hstatus
      · rw [message_generateErrorResponse_of_error hstatus]
        exact herror
    · obtain ⟨hstatus, hmessage⟩ := message_dispatch_of_written handlers source env apps
        errorResponse s session hparse hvendor hprotocol (Prod.ext hm rfl) response responseSize
      refine ⟨fun hd => absurd hd hdenied, fun _ => ⟨m, by rw [hm], hmessage⟩,
        .inr ⟨m, by rw [hm], ?_⟩⟩
      rw [message_generateErrorResponse_of_ok (by rw [hstatus]; rfl), hmessage]

end Callback

/-! ## Concrete runs -/

/-- The other handlers of a responder that only speaks TSP. -/
private def tspOnly : VendorHandlers (State CxlTsp.sample × Unit) where
  pciIdeKmGetResponse s _ _ := (⟨.unsupportedCap, none⟩, s)
  pciTdispGetResponse s _ _ := (⟨.unsupportedCap, none⟩, s)
  cxlIdeKmGetResponse s _ _ := (⟨.unsupportedCap, none⟩, s)
  cxlTspGetResponse s _ _ := (⟨.unsupportedCap, none⟩, s)

private def versionRequest : VendorRequest where
  form := .normal
  spdmVersion := 0x12
  ids := VendorDefined.sample.requestIds VendorDefined.sample.vendorIdCxl
  protocolId := VendorDefined.sample.cxlProtocolIdTsp
  body := (sampleInput .getTargetTspVersion [0, 0]).request

/-- `GET_TARGET_TSP_VERSION` in a vendor-defined request of SPDM 1.2. -/
private def versionMessage : Bytes :=
  requestMessage VendorDefined.sample ⟨0x12, VendorDefined.sample.vendorDefinedRequest, 0, 0⟩
    versionRequest.ids.vendorId versionRequest.protocolId versionRequest.body

private def spdmErrorMessage : Bytes := [0x12, 0x7F, 0x01, 0x00]

private def freshState : State CxlTsp.sample × Unit := (⟨DeviceContext.zeroed _, samplePsk⟩, ())

private theorem parseRequest_versionMessage :
    parseRequest VendorDefined.sample versionMessage = .ok versionRequest :=
  parseRequest_requestMessage rfl _ _ (by decide)

private theorem denied_versionRequest : Denied freshState.1 none versionRequest.body :=
  ⟨by decide, .getTargetTspVersion, rfl, by decide⟩

/-- Without a session, the version request is denied, and in a buffer of 32 bytes the peer is sent
20 bytes of old buffer content as a TSP message. -/
theorem denial_hidden_without_session :
    (dispatch VendorDefined.sample tspOnly cxlTspDeviceGetConfigurationReport ⟨false, 0⟩ []
        spdmErrorMessage freshState none versionMessage (fun _ => 0xAA) 32).message =
      responseHeader VendorDefined.sample versionRequest 20 ++ List.replicate 20 0xAA ∧
    ¬ DenialVisible VendorDefined.sample CxlTsp.sample
        (Denied freshState.1 none versionRequest.body) versionRequest
        (cxlTspGetResponse cxlTspDeviceGetConfigurationReport ⟨false, 0⟩ freshState.1 none
          versionRequest.body).1
        (dispatch VendorDefined.sample tspOnly cxlTspDeviceGetConfigurationReport ⟨false, 0⟩ []
          spdmErrorMessage freshState none versionMessage (fun _ => 0xAA) 32)
        (callback VendorDefined.sample MctpStandard.sample tspOnly
          cxlTspDeviceGetConfigurationReport ⟨false, 0⟩ [] spdmErrorMessage freshState none
          versionMessage (fun _ => 0xAA) 32) := by
  constructor
  · rw [(message_dispatch_of_denied tspOnly _ _ [] _ freshState none parseRequest_versionMessage rfl
      rfl denied_versionRequest _ _).2]
    decide
  · exact not_denialVisible_of_denied tspOnly _ _ [] _ freshState none parseRequest_versionMessage
      rfl rfl denied_versionRequest _ _ _

/-- On a session the same request is answered with the version. -/
theorem denial_visible_iff_sample :
    DenialVisible VendorDefined.sample CxlTsp.sample
        (Denied freshState.1 (some 1) versionRequest.body) versionRequest
        (cxlTspGetResponse cxlTspDeviceGetConfigurationReport ⟨false, 0⟩ freshState.1 (some 1)
          versionRequest.body).1
        (dispatch VendorDefined.sample tspOnly cxlTspDeviceGetConfigurationReport ⟨false, 0⟩ []
          spdmErrorMessage freshState (some 1) versionMessage (fun _ => 0xAA) 32)
        (callback VendorDefined.sample MctpStandard.sample tspOnly
          cxlTspDeviceGetConfigurationReport ⟨false, 0⟩ [] spdmErrorMessage freshState (some 1)
          versionMessage (fun _ => 0xAA) 32) := by
  apply (denial_visible_iff MctpStandard.sample tspOnly _ _ [] spdmErrorMessage freshState (some 1)
    parseRequest_versionMessage rfl rfl rfl _ 32).2
  rintro ⟨-, r, hr, hdenied⟩
  have hcode : CxlTsp.sample.requestOpCode .getTargetTspVersion =
      CxlTsp.sample.requestOpCode r := hr
  have hversion : r = .getTargetTspVersion := (CxlTsp.sample.requestOpCode_inj.1 hcode).symm
  subst hversion
  exact hdenied (by decide)

end SpdmEmu.Emulator
