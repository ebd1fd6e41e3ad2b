import SpdmEmu.Tsp.SampleChecks
import SpdmEmu.Tsp.SessionAgreement

/-!
# A device that is ready for a session

What the first `GET_VERSION` makes of a device stays so, whoever asks for what, and a session that
the device knows can read it from then on. `Ready` is such a device. The rest of the module is the
two ends of an exchange with it: what the device answers to each request of a session, and what the
requester makes of that answer.
-/

set_option autoImplicit false

namespace SpdmEmu.Tsp

open SpdmEmu.Wire SpdmEmu.Libspdm SpdmEmu.Report SpdmEmu.Run

variable {K : CxlTsp}

/-! ## A device that has a primary session -/

/-- The device with what the first `GET_VERSION` makes of it, and a report that was read any number
of times. -/
structure Initialized (d : State K) : Prop where
  bound : d.context.sessionIdPrimaryValid = true
  version : d.context.supportedTspVersions = K.messageVersion10
  count : d.context.supportedTspVersionsCount = 1
  capabilities : d.context.deviceCapabilities = sampleCapabilities K
  report : validReport d.context.configurationReport = validReport (Vector.replicate _ 0)

/-- With a primary session `GET_VERSION` binds a slot or does nothing. -/
theorem getVersion_of_bound {ctx : DeviceContext K} (hbound : ctx.sessionIdPrimaryValid = true)
    (env : Environment) (sessionId : UInt32) :
    (cxlTspDeviceGetVersion env ctx sessionId).2 = ctx ∨
      env.isPsk = true ∧ ∃ slot, (cxlTspDeviceGetVersion env ctx sessionId).2 =
        libcxltspSetSecondarySessionId ctx sessionId slot := by
  simp only [cxlTspDeviceGetVersion, initializeDeviceContext_of_bound hbound,
    libcxltspInitializeSessionId, hbound, Bool.not_true, Bool.false_eq_true, if_false]
  cases hpsk : env.isPsk with
  | false => exact .inl rfl
  | true =>
      by_cases hindex : env.currentPskSessionIndex.toNat < secondSessionCount
      · exact .inr ⟨rfl, ⟨_, hindex⟩, by simp [hindex]⟩
      · exact .inl (by simp [hindex])

/-- What is initialized stays so, whoever asks for what. -/
theorem Initialized.step {d : State K} (h : Initialized d) (i : Input) :
    Initialized ((responder K).step d i).2 := by
  have heffect := effect_responder d i
  generalize ((responder K).step d i).1 = reply at heffect
  generalize ((responder K).step d i).2 = d' at heffect ⊢
  have hreport : Initialized
      { d with context := (cxlTspDeviceGetConfigurationReport d.context).2 } :=
    ⟨h.bound, h.version, h.count, h.capabilities,
      (validReport_validReport d.context.configurationReport).trans h.report⟩
  cases heffect with
  | @version sessionId _ _ =>
      rcases getVersion_of_bound h.bound i.env sessionId with hsame | ⟨-, slot, hslot⟩
      · rw [hsame]
        exact h
      · rw [hslot]
        exact ⟨h.bound, h.version, h.count, h.capabilities, h.report⟩
  | set _ _ _ _ _ => exact ⟨h.bound, h.version, h.count, h.capabilities, h.report⟩
  | reportRejected _ _ _ => exact hreport
  | report _ _ _ _ => exact hreport
  | lock _ _ _ => exact ⟨h.bound, h.version, h.count, h.capabilities, h.report⟩
  | _ => exact h

/-- The types of the sessions change only by a version request of a session with a pre-shared
key. -/
theorem getSessionType_step {d : State K} (h : Initialized d) {i : Input}
    (hi : ¬ (IsRequest K i.request .getTargetTspVersion ∧ i.env.isPsk = true)) :
    libcxltspGetSessionType ((responder K).step d i).2.context =
      libcxltspGetSessionType d.context := by
  have heffect := effect_responder d i
  generalize ((responder K).step d i).1 = reply at heffect
  generalize ((responder K).step d i).2 = d' at heffect ⊢
  cases heffect with
  | @version sessionId hr _ =>
      rcases getVersion_of_bound h.bound i.env sessionId with hsame | ⟨hpsk, -⟩
      · rw [hsame]
      · exact absurd ⟨hr, hpsk⟩ hi
  | _ => rfl

/-- The device for a session `sessionId` that may read it, while `owner` is the primary one. -/
structure Ready (owner : UInt32) (Φ : Settings K → Prop) (sessionId : UInt32) (d : State K) :
    Prop where
  holds : Holds owner Φ d
  initialized : Initialized d
  privileged : libcxltspGetSessionType d.context sessionId ≠ .other

/-- The other sessions do not get in the way of `owner`, nor into the slot of a secondary
session. -/
def QuietSessions (w : Surroundings K) (owner : UInt32) : Prop :=
  ∀ n, ∀ i ∈ (w.schedule n).others, i.session ≠ some owner ∧
    ¬ (IsRequest K i.request .getTargetTspVersion ∧ i.env.isPsk = true)

section Ready

variable {owner sessionId : UInt32} {Φ : Settings K → Prop} {d : State K}

theorem Ready.step (h : Ready owner Φ sessionId d) {i : Input}
    (hi : i.session = some owner → Unchanging K i.request)
    (hversion : ¬ (IsRequest K i.request .getTargetTspVersion ∧ i.env.isPsk = true)) :
    Ready owner Φ sessionId ((responder K).step d i).2 where
  holds := h.holds.step hi
  initialized := h.initialized.step i
  privileged := by
    rw [getSessionType_step h.initialized hversion]
    exact h.privileged

theorem undisturbed_ready {w : Surroundings K} (hquiet : QuietSessions w owner) :
    Shared.Undisturbed (responder K) w.schedule (Ready owner Φ sessionId) :=
  fun n i hi _ h => h.step (fun heq => absurd heq (hquiet n i hi).1) (hquiet n i hi).2

/-- The primary session may read its device. -/
theorem getSessionType_of_primary (h : d.primarySession = some sessionId) :
    libcxltspGetSessionType d.context sessionId = .primary := by
  have hvalid : d.context.sessionIdPrimaryValid = true :=
    primaryValid_of_bound (by rw [h]; exact Option.some_ne_none _)
  have hid : d.context.sessionIdPrimary = sessionId := by
    simpa [State.primarySession, hvalid] using h
  simp [libcxltspGetSessionType, libcxltspIsSessionPrimary, hvalid, hid]

end Ready

/-! ## The answers of the device -/

section Answers

variable {sessionId : UInt32} {d : State K} (env : Environment)

theorem step_request (r : Request) (body : Bytes) :
    (responder K).step d ⟨some sessionId, K.header.encode (requestHeader K r) ++ body, env⟩ =
      handler cxlTspDeviceGetConfigurationReport env r d (some sessionId)
        (K.header.encode (requestHeader K r) ++ body) := by
  simp [responder, cxlTspGetResponse, requestHeader, find_mCxlTspDispatch]

/-- A request with the size and the version of its structure reaches the device. -/
theorem handleRequest_request {β γ : Type} {body : Packed β} {kind : Response} {out : Packed γ}
    {device : β → Except ErrorCode γ × State K} {r : Request} {b : β} {response : γ} {d' : State K}
    (h : device b = (.ok response, d')) :
    handleRequest body kind out device d (K.header.encode (requestHeader K r) ++ body.encode b) =
      (⟨.success, some (message K (requestHeader K r) kind (out.encode response))⟩, d') := by
  simp [handleRequest, requestHeader, h]

theorem withPrivilege_of_allowed {allowed : SessionType → Bool}
    (h : allowed (libcxltspGetSessionType d.context sessionId) = true)
    (handle : UInt32 → Reply × State K) :
    withPrivilege allowed d.context d (some sessionId) handle = handle sessionId := by
  simp [withPrivilege, h]

theorem step_getVersion :
    (responder K).step d ⟨some sessionId, getVersionMessage K, env⟩ =
      (⟨.success, some (message K (requestHeader K .getTargetTspVersion) .getTargetTspVersion
          (K.getVersionResponse.encode (cxlTspDeviceGetVersion env d.context sessionId).1))⟩,
        { d with context := (cxlTspDeviceGetVersion env d.context sessionId).2 }) := by
  refine (step_request env .getTargetTspVersion _).trans ?_
  rw [handler, cxlTspGetResponseGetVersion, withPrivilege_of_allowed rfl]
  exact handleRequest_request rfl

theorem step_getCapabilities :
    (responder K).step d ⟨some sessionId, getCapabilitiesMessage K, env⟩ =
      (⟨.success, some (message K (requestHeader K .getTargetCapabilities) .getTargetCapabilities
          (K.getCapabilitiesResponse.encode d.context.deviceCapabilities))⟩, d) := by
  refine (step_request env .getTargetCapabilities _).trans ?_
  rw [handler, cxlTspGetResponseGetCapabilities, withPrivilege_of_allowed rfl]
  exact handleRequest_request rfl

theorem step_setConfiguration (hprimary : d.primarySession = some sessionId)
    (hunlocked : d.context.currentTspState = K.tspState .configUnlocked)
    {body : SetConfiguration K.secondSessionKeySize}
    (hvalid : Responder.cxlTspValidateConfigruation K body d.context.deviceCapabilities =
      .ok ()) :
    ∃ d', (responder K).step d ⟨some sessionId, setConfigurationMessage K body, env⟩ =
      (⟨.success, some (message K (requestHeader K .setTargetConfiguration) .setTargetConfiguration
        (K.setConfigurationResponse.encode ()))⟩, d') := by
  have hallowed : (· == SessionType.primary) (libcxltspGetSessionType d.context sessionId) =
      true := by
    rw [getSessionType_of_primary hprimary]
    rfl
  refine ⟨cxlTspDeviceSetConfiguration d body.configuration body.sessionInfo,
    (step_request env .setTargetConfiguration _).trans ?_⟩
  rw [handler, cxlTspGetResponseSetConfiguration, withPrivilege_of_allowed hallowed]
  refine handleRequest_request ?_
  simp only [cxlTspDeviceGetConfiguration, hunlocked, ne_eq, not_true_eq_false, if_false,
    cxlTspDeviceGetCapabilities, hvalid]

theorem step_lockConfiguration (hprimary : d.primarySession = some sessionId)
    (hunlocked : d.context.currentTspState = K.tspState .configUnlocked) :
    (responder K).step d ⟨some sessionId, lockConfigurationMessage K, env⟩ =
      (⟨.success, some (message K (requestHeader K .lockTargetConfiguration)
          .lockTargetConfiguration (K.lockConfigurationResponse.encode ()))⟩,
        { d with context := cxlTspDeviceLockConfiguration d.context }) := by
  have hallowed : (· == SessionType.primary) (libcxltspGetSessionType d.context sessionId) =
      true := by
    rw [getSessionType_of_primary hprimary]
    rfl
  have hne : ¬ K.tspState .configUnlocked = K.tspState .configLocked :=
    fun h => K.tspState_locked_ne_unlocked h.symm
  refine (step_request env .lockTargetConfiguration _).trans ?_
  rw [handler, cxlTspGetResponseLockConfiguration, withPrivilege_of_allowed hallowed]
  refine handleRequest_request ?_
  simp only [cxlTspDeviceGetConfiguration, hunlocked, if_neg hne, ne_eq, not_true_eq_false,
    if_false]

theorem step_setTeState (hlayout : MineLayout K)
    (hprivileged : libcxltspGetSessionType d.context sessionId ≠ .other)
    (hlocked : d.context.currentTspState = K.tspState .configLocked) (teState : UInt8)
    (memory : Mem) :
    (responder K).step d ⟨some sessionId, setTeStateMessage K teState 1 memory, env⟩ =
      (⟨.success, some (message K (requestHeader K .setTargetTeState) .setTargetTeState
        (K.setTeStateResponse.encode ()))⟩, d) := by
  have haccepted : TeStateAccepted d (some sessionId) (setTeStateMessage K teState 1 memory) :=
    teStateAccepted_setTeStateMessage hlayout ⟨sessionId, rfl, hprivileged⟩ hlocked (by decide)
      (by decide)
  have hdispatch : (responder K).step d
      ⟨some sessionId, setTeStateMessage K teState 1 memory, env⟩ =
      cxlTspGetResponseSetTeState d (some sessionId) (setTeStateMessage K teState 1 memory) := by
    rw [setTeStateMessage_eq hlayout]
    exact step_request env .setTargetTeState _
  rw [hdispatch, cxlTspGetResponseSetTeState, setTeStateOver_of_accepted rfl haccepted,
    header_setTeStateMessage hlayout]
  rfl

end Answers

/-! ## What the requesters make of the answers -/

section Accepted

variable {σ : Type} {sendReceive : SendReceive σ} {s s' : σ}

theorem getVersion_of_response
    (h : sendReceive s (getVersionMessage K) (errorMessageMaxSize K) =
      (⟨.success, message K (requestHeader K .getTargetTspVersion) .getTargetTspVersion
        (K.getVersionResponse.encode ⟨1, K.messageVersion10⟩)⟩, s')) :
    callStatus (cxlTspGetVersion K sendReceive) s = (.ok (), s') := by
  apply callStatus_of_success
  simp [cxlTspGetVersion, SendReceive.call, getVersionCall, h, message, requestHeader,
    LibspdmReturn.isError]

theorem getCapabilities_of_response {initiatorSuppliedEntropy : UInt16}
    {capabilities : DeviceCapabilities}
    (hvalid : Capability.cxlTspValidateCapability K initiatorSuppliedEntropy capabilities = true)
    (h : sendReceive s (getCapabilitiesMessage K)
        (K.header.size + K.getCapabilitiesResponse.size) =
      (⟨.success, message K (requestHeader K .getTargetCapabilities) .getTargetCapabilities
        (K.getCapabilitiesResponse.encode capabilities)⟩, s')) :
    cxlTspGetCapabilities K initiatorSuppliedEntropy sendReceive s = (.ok capabilities, s') := by
  simp [cxlTspGetCapabilities, h, message, requestHeader, LibspdmReturn.isError, hvalid]

theorem exchangeHeader_of_response {request : Bytes} {r : Request} {kind : Response}
    {out : Packed Unit}
    (h : sendReceive s request (errorMessageMaxSize K) =
      (⟨.success, message K (requestHeader K r) kind (out.encode ())⟩, s')) :
    exchangeHeader K sendReceive request kind out s = (.ok (), s') := by
  simp [exchangeHeader, h, message, requestHeader, LibspdmReturn.isError]

theorem getConfiguration_of_response {body : ConfigurationBody}
    (hvalid : Requester.cxlTspValidateConfigruation K body.configuration = true)
    (hstate : body.currentTspState ≤ K.tspState .error)
    (h : sendReceive s (getConfigurationMessage K)
        (K.header.size + K.getConfigurationResponse.size) =
      (⟨.success, message K (requestHeader K .getTargetConfiguration) .getTargetConfiguration
        (K.getConfigurationResponse.encode body)⟩, s')) :
    cxlTspGetConfiguration K sendReceive s = (.ok body, s') := by
  have hle : ¬ body.currentTspState > K.tspState .error := UInt8.not_lt.2 hstate
  simp [cxlTspGetConfiguration, h, message, requestHeader, LibspdmReturn.isError, hvalid, hle]

theorem getTspState_of_response {body : ConfigurationBody}
    (hstate : body.currentTspState ≤ K.tspState .error)
    (h : sendReceive s (getConfigurationMessage K)
        (K.header.size + K.getConfigurationResponse.size) =
      (⟨.success, message K (requestHeader K .getTargetConfiguration) .getTargetConfiguration
        (K.getConfigurationResponse.encode body)⟩, s')) :
    cxlTspGetTspState K sendReceive s = (.ok body.currentTspState, s') := by
  have hle : ¬ body.currentTspState > K.tspState .error := UInt8.not_lt.2 hstate
  simp [cxlTspGetTspState, h, message, requestHeader, LibspdmReturn.isError, hle]

theorem setSessionTeState_of_response {setup : SessionSetup K} {host : SessionHost K σ}
    {sessionId : UInt32} {teState : UInt8}
    (h : host.sendReceive sessionId s (setTeStateMessage K teState 1
        (Mem.store (fun _ => 0) 0 (setup.memoryRange 0x100000 0x10000).toList))
        (errorMessageMaxSize K) =
      (⟨.success, message K (requestHeader K .setTargetTeState) .setTargetTeState
        (K.setTeStateResponse.encode ())⟩, s')) :
    setSessionTeState setup host sessionId teState s = (.ok (), s') := by
  apply callStatus_of_success
  refine Prod.ext (cxlTspSetTeState_of_response (by decide) rfl h) ?_
  rw [cxlTspSetTeState_snd, h]
  rfl

end Accepted

end SpdmEmu.Tsp
