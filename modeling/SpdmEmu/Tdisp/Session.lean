import SpdmEmu.Run.Flow
import SpdmEmu.Report.Truthful
import SpdmEmu.Tdisp.ReportWalk
import SpdmEmu.Tdisp.StartNonce

/-!
# A TDISP session

`library/pci_tdisp_requester_lib` has one function for each request. Six of them have one shape,
`exchangeMessage`: send the request, check the size and the header of the response, and hand its
body on. `pci_tdisp_process_session_message` of the requester emulator calls them in turn: it binds
the interface, locks it with the flags that the responder supports, gets and prints the report,
starts the interface with the nonce of the lock, and stops it again, asking for the state in
between.

`LIBSPDM_ASSERT` stops the program in a build with assertions and is nothing in one without; the
model has both builds.
-/

set_option autoImplicit false

namespace SpdmEmu.Tdisp

open SpdmEmu.Wire SpdmEmu.Libspdm SpdmEmu.Report SpdmEmu.Run

variable {σ γ : Type}

/-! ## The requesters -/

/-- The header of a request: of the interface id only the function id is copied. -/
def requestHeader (K : PciTdisp) (r : Request) (interfaceId : InterfaceId) : Header where
  version := K.messageVersion10
  messageType := K.requestType r
  interfaceId := { functionId := interfaceId.functionId, reserved := 0 }

/-- A request message. -/
def requestMessage (K : PciTdisp) (r : Request) (interfaceId : InterfaceId) (body : Bytes) :
    Bytes :=
  K.header.encode (requestHeader K r interfaceId) ++ body

/-- `LIBTDISP_ERROR_MESSAGE_MAX_SIZE` -/
def errorMessageMaxSize (K : PciTdisp) : Nat := K.header.size + K.errorResponse.size

/-- The common shape of a requester with a response object of `capacity` bytes: the response has the
size of its structure, and its header the version of the request, the type of the response and the
function id of the request. -/
def exchangeMessage (K : PciTdisp) (sendReceive : SendReceive σ) (r : Request)
    (interfaceId : InterfaceId) (body : Bytes) (capacity : Nat) (out : Packed γ) :
    Flow σ LibspdmReturn γ := fun link =>
  let (exchange, link) := sendReceive link (requestMessage K r interfaceId body) capacity
  let response := exchange.response
  let header := K.header.decode response
  if exchange.status.isError then (.error exchange.status, link)
  else if response.length ≠ K.header.size + out.size then (.error .invalidMsgSize, link)
  else if header.version ≠ K.messageVersion10 then (.error .invalidMsgField, link)
  else if header.messageType ≠ K.responseType r.response then (.error .invalidMsgField, link)
  else if header.interfaceId.functionId ≠ interfaceId.functionId then
    (.error .invalidMsgField, link)
  else (.ok (out.decode (response.drop K.header.size)), link)

section Requesters

variable (K : PciTdisp) (sendReceive : SendReceive σ) (interfaceId : InterfaceId)

/-- `pci_tdisp_get_version` -/
def pciTdispGetVersion : Flow σ LibspdmReturn Unit := do
  let body ← exchangeMessage K sendReceive .getVersion interfaceId (K.getVersionRequest.encode ())
    (errorMessageMaxSize K) K.versionResponse
  Flow.check (body.versionNumCount == 1) .invalidMsgField
  Flow.check (body.versionNumEntry == K.messageVersion10) .invalidMsgField

/-- `pci_tdisp_get_capabilities` -/
def pciTdispGetCapabilities (reqCaps : Vector UInt8 K.requesterCapabilitiesSize) :
    Flow σ LibspdmReturn ResponderCapabilities :=
  exchangeMessage K sendReceive .getCapabilities interfaceId
    (K.getCapabilitiesRequest.encode reqCaps) (K.header.size + K.capabilitiesResponse.size)
    K.capabilitiesResponse

/-- `pci_tdisp_lock_interface` -/
def pciTdispLockInterface (lockInterfaceParam : Vector UInt8 K.lockInterfaceParamSize) :
    Flow σ LibspdmReturn (Vector UInt8 K.startInterfaceNonceSize) :=
  exchangeMessage K sendReceive .lockInterface interfaceId
    (K.lockInterfaceRequest.encode lockInterfaceParam)
    (K.header.size + K.lockInterfaceResponse.size) K.lockInterfaceResponse

/-- `pci_tdisp_get_interface_state` -/
def pciTdispGetInterfaceState : Flow σ LibspdmReturn UInt8 :=
  exchangeMessage K sendReceive .getDeviceInterfaceState interfaceId
    (K.getDeviceInterfaceStateRequest.encode ()) (errorMessageMaxSize K)
    K.deviceInterfaceStateResponse

/-- `pci_tdisp_start_interface` -/
def pciTdispStartInterface (startInterfaceNonce : Vector UInt8 K.startInterfaceNonceSize) :
    Flow σ LibspdmReturn Unit :=
  exchangeMessage K sendReceive .startInterface interfaceId
    (K.startInterfaceRequest.encode startInterfaceNonce) (errorMessageMaxSize K)
    K.startInterfaceResponse

/-- `pci_tdisp_stop_interface` -/
def pciTdispStopInterface : Flow σ LibspdmReturn Unit :=
  exchangeMessage K sendReceive .stopInterface interfaceId (K.stopInterfaceRequest.encode ())
    (errorMessageMaxSize K) K.stopInterfaceResponse

end Requesters

/-! ## The session -/

/-- `pci_tdisp_lock_interface_param_t` -/
structure LockInterfaceParam where
  flags : UInt16
  defaultStreamId : UInt8
  mmioReportingOffset : UInt64
  bindP2pAddressMask : UInt64
deriving DecidableEq, Repr

/-- The bytes of the two structures that the session fills in: `pci_tdisp_requester_capabilities_t`
with its `tsm_caps`, and `pci_tdisp_lock_interface_param_t`. -/
structure SessionLayout (K : PciTdisp) where
  requesterCapabilities : UInt32 → Vector UInt8 K.requesterCapabilitiesSize
  lockInterfaceParam : LockInterfaceParam → Vector UInt8 K.lockInterfaceParamSize

/-- How the session ends before its last line: it returns a status, an assertion stops the program,
or it is still in a loop when the fuel is spent. -/
inductive SessionEnd where
  | returned (status : LibspdmReturn)
  | asserted
  | running
deriving DecidableEq, Repr

/-- The local variables of the session that outlive the call that sets them. -/
structure SessionLocals (K : PciTdisp) where
  rspCaps : ResponderCapabilities
  startInterfaceNonce : Vector UInt8 K.startInterfaceNonceSize
  interfaceReportBuffer : Mem
  interfaceReportSize : UInt32
  walk : Traced Report

/-- The interface of the session. -/
def sessionInterfaceId : InterfaceId := { functionId := 0xbeef, reserved := 0 }

/-- What the session asks the interface to be locked with. -/
def sessionLockParam (rspCaps : ResponderCapabilities) : LockInterfaceParam where
  flags := rspCaps.lockInterfaceFlagsSupported
  defaultStreamId := 0
  mmioReportingOffset := 0xD0000000
  bindP2pAddressMask := 0

/-- What the parts of the session outside its messages depend on: the layouts, the build, what the
report buffer holds before, and the fuel of the report loop and of its printing. -/
structure SessionSetup (K : PciTdisp) where
  report : ReportLayout
  layout : SessionLayout K
  asserts : Bool
  stack : Mem
  fuel : Nat
  walkFuel : Nat

section Session

variable {K : PciTdisp} (setup : SessionSetup K) (sendReceive : SendReceive σ)

/-- `LIBSPDM_ASSERT (tdi_state == ...)` -/
def assertState (tdiState : UInt8) (expected : TdiState) : Flow σ SessionEnd Unit :=
  Flow.check (!setup.asserts || tdiState == K.tdiState expected) .asserted

/-- The state of the interface, asked for and asserted. -/
def expectState (expected : TdiState) : Flow σ SessionEnd Unit := do
  let tdiState ← (pciTdispGetInterfaceState K sendReceive sessionInterfaceId).mapError .returned
  assertState setup tdiState expected

/-- The report, got and printed. -/
def receiveReport : Flow σ SessionEnd (Mem × UInt32 × Traced Report) := fun link =>
  match pciTdispProcessReport setup.report K sendReceive setup.fuel link sessionInterfaceId
    setup.stack setup.walkFuel with
  | none => (.error .running, link)
  | some ⟨result, none⟩ => (.error (.returned result.status), result.link)
  | some ⟨result, some walk⟩ =>
      if walk.value.isNone then (.error .running, result.link)
      else (.ok (result.buffer, result.reportSize, walk), result.link)

/-- `pci_tdisp_process_session_message` -/
def pciTdispProcessSessionMessage : Flow σ SessionEnd (SessionLocals K) := do
  (pciTdispGetVersion K sendReceive sessionInterfaceId).mapError .returned
  let rspCaps ← (pciTdispGetCapabilities K sendReceive sessionInterfaceId
    (setup.layout.requesterCapabilities 0)).mapError .returned
  expectState setup sendReceive .configUnlocked
  let startInterfaceNonce ← (pciTdispLockInterface K sendReceive sessionInterfaceId
    (setup.layout.lockInterfaceParam (sessionLockParam rspCaps))).mapError .returned
  expectState setup sendReceive .configLocked
  let (buffer, size, walk) ← receiveReport setup sendReceive
  (pciTdispStartInterface K sendReceive sessionInterfaceId startInterfaceNonce).mapError .returned
  expectState setup sendReceive .run
  (pciTdispStopInterface K sendReceive sessionInterfaceId).mapError .returned
  expectState setup sendReceive .configUnlocked
  return ⟨rspCaps, startInterfaceNonce, buffer, size, walk⟩

end Session

/-! ## What an exchange does -/

section Exchange

variable {K : PciTdisp} {sendReceive : SendReceive σ} {r : Request} {interfaceId : InterfaceId}
  {body : Bytes} {capacity : Nat} {out : Packed γ} {link link' : σ}

/-- The link is handed on whatever the response is. -/
theorem exchangeMessage_snd :
    (exchangeMessage K sendReceive r interfaceId body capacity out link).2 =
      (sendReceive link (requestMessage K r interfaceId body) capacity).2 := by
  simp only [exchangeMessage]
  repeat' split
  all_goals rfl

/-- The checks that a response has to pass. -/
structure AcceptedResponse (K : PciTdisp) (r : Request) (interfaceId : InterfaceId) (size : Nat)
    (exchange : Exchange) : Prop where
  status : exchange.status.isError = false
  length : exchange.response.length = K.header.size + size
  version : (K.header.decode exchange.response).version = K.messageVersion10
  messageType : (K.header.decode exchange.response).messageType = K.responseType r.response
  functionId : (K.header.decode exchange.response).interfaceId.functionId =
    interfaceId.functionId

/-- An exchange succeeds exactly with a response that passes the checks, and hands its body on. -/
theorem exchangeMessage_ok_iff {a : γ} :
    exchangeMessage K sendReceive r interfaceId body capacity out link = (.ok a, link') ↔
      ∃ exchange, sendReceive link (requestMessage K r interfaceId body) capacity =
          (exchange, link') ∧
        AcceptedResponse K r interfaceId out.size exchange ∧
        a = out.decode (exchange.response.drop K.header.size) := by
  rcases hsend : sendReceive link (requestMessage K r interfaceId body) capacity with
    ⟨exchange, after⟩
  simp only [exchangeMessage, hsend]
  constructor
  · intro h
    split_ifs at h with hstatus hlength hversion htype hfunction
    -- only the last branch hands a body on
    all_goals simp only [Prod.mk.injEq, reduceCtorEq, false_and, Except.ok.injEq] at h
    obtain ⟨rfl, rfl⟩ := h
    exact ⟨exchange, rfl, ⟨by simpa using hstatus, not_not.1 hlength, not_not.1 hversion,
      not_not.1 htype, not_not.1 hfunction⟩, rfl⟩
  · rintro ⟨exchange', heq, hacc, rfl⟩
    cases heq
    simp [hacc.status, hacc.length, hacc.version, hacc.messageType, hacc.functionId]

/-- A report that was received is the result of a successful transfer. -/
theorem receiveReport_ok {setup : SessionSetup K} {buffer : Mem} {size : UInt32}
    {walk : Traced Report} (h : receiveReport setup sendReceive link =
      (.ok (buffer, size, walk), link')) :
    pciTdispGetInterfaceReport K sendReceive setup.fuel link sessionInterfaceId setup.stack
      interfaceReportBufferSize = some ⟨.success, size, buffer, link'⟩ := by
  cases hrun : pciTdispGetInterfaceReport K sendReceive setup.fuel link sessionInterfaceId
    setup.stack interfaceReportBufferSize with
  | none => simp [receiveReport, pciTdispProcessReport, hrun] at h
  | some result =>
      cases hstatus : result.status.isError with
      | true => simp [receiveReport, pciTdispProcessReport, hrun, hstatus] at h
      | false =>
          have hsuccess := success_of_transferLoop setup.fuel hrun hstatus
          simp only [receiveReport, pciTdispProcessReport, hrun, hstatus, Option.bind_eq_bind,
            Option.bind_some, Bool.false_eq_true, if_false, Option.pure_def] at h
          split at h
          · cases h
          · cases h
            rw [← hsuccess]

end Exchange

/-! ## What holds of the link -/

section Keeps

variable {K : PciTdisp} {setup : SessionSetup K} {sendReceive : SendReceive σ}
  {Inv : σ → Prop} (hkeeps : ∀ s request capacity, Inv s → Inv (sendReceive s request capacity).2)

include hkeeps

theorem keeps_exchangeMessage (r : Request) (interfaceId : InterfaceId) (body : Bytes)
    (capacity : Nat) (out : Packed γ) :
    (exchangeMessage K sendReceive r interfaceId body capacity out).Keeps Inv := by
  apply Flow.Keeps.of_run
  intro s hs
  rw [exchangeMessage_snd]
  exact hkeeps s _ _ hs

theorem keeps_pciTdispGetVersion (interfaceId : InterfaceId) :
    (pciTdispGetVersion K sendReceive interfaceId).Keeps Inv :=
  (keeps_exchangeMessage hkeeps _ _ _ _ _).bind fun _ =>
    (Flow.Keeps.check _ _).bind fun _ => Flow.Keeps.check _ _

theorem keeps_expectState (expected : TdiState) :
    (expectState setup sendReceive expected).Keeps Inv :=
  ((keeps_exchangeMessage hkeeps _ _ _ _ _).mapError _).bind fun _ => Flow.Keeps.check _ _

theorem keeps_receiveReport : (receiveReport setup sendReceive).Keeps Inv := by
  apply Flow.Keeps.of_run
  intro s hs
  cases hrun : pciTdispGetInterfaceReport K sendReceive setup.fuel s sessionInterfaceId setup.stack
    interfaceReportBufferSize with
  | none => simpa [receiveReport, pciTdispProcessReport, hrun] using hs
  | some result =>
      have hlink : Inv result.link := 
        keeps_transferLoop (fun s _ _ => hkeeps s _ _) setup.fuel hs hrun
      cases hstatus : result.status.isError with
      | true => simpa [receiveReport, pciTdispProcessReport, hrun, hstatus] using hlink
      | false =>
          simp only [receiveReport, pciTdispProcessReport, hrun, hstatus, Option.bind_eq_bind,
            Option.bind_some, Bool.false_eq_true, if_false, Option.pure_def]
          split <;> exact hlink

/-- The session keeps what every exchange keeps. -/
theorem keeps_pciTdispProcessSessionMessage :
    (pciTdispProcessSessionMessage setup sendReceive).Keeps Inv := by
  refine ((keeps_pciTdispGetVersion hkeeps _).mapError _).bind fun _ => ?_
  refine ((keeps_exchangeMessage hkeeps _ _ _ _ _).mapError _).bind fun _ => ?_
  refine (keeps_expectState hkeeps _).bind fun _ => ?_
  refine ((keeps_exchangeMessage hkeeps _ _ _ _ _).mapError _).bind fun _ => ?_
  refine (keeps_expectState hkeeps _).bind fun _ => ?_
  refine (keeps_receiveReport hkeeps).bind fun _ => ?_
  refine ((keeps_exchangeMessage hkeeps _ _ _ _ _).mapError _).bind fun _ => ?_
  refine (keeps_expectState hkeeps _).bind fun _ => ?_
  refine ((keeps_exchangeMessage hkeeps _ _ _ _ _).mapError _).bind fun _ => ?_
  refine (keeps_expectState hkeeps _).bind fun _ => ?_
  exact Flow.Keeps.pure _

end Keeps

end SpdmEmu.Tdisp
