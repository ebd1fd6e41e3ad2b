import SpdmEmu.Tsp.Authority
import SpdmEmu.Tsp.Requester

/-!
# The configuration a requester reads back

After an accepted `SET_TARGET_CONFIGURATION`, and until another one is accepted, the requester's
`cxl_tsp_get_configuration` on a primary or secondary session succeeds and returns the configuration
of that request; before the first one it returns the zeroed configuration. `Configured c` is the
invariant: the device has the configuration `c`, a state the reader accepts, and, unless `c` is the
zeroed configuration, a primary session, so that `GET_VERSION` cannot reset it.
-/

set_option autoImplicit false

namespace SpdmEmu.Tsp

open SpdmEmu.Wire SpdmEmu.Libspdm SpdmEmu.Run

variable {K : CxlTsp}

/-- The event is an accepted `SET_TARGET_CONFIGURATION`. -/
def AcceptedSet (e : Event (State K) Input Reply) : Prop :=
  IsRequest K e.input.request .setTargetConfiguration ∧
    Answers K e.input.request .setTargetConfiguration e.output

/-- The body of a `SET_TARGET_CONFIGURATION` request. -/
def setBody (K : CxlTsp) (request : Bytes) : SetConfiguration K.secondSessionKeySize :=
  K.setConfigurationRequest.decode (request.drop K.header.size)

/-- The device has the configuration `c`, in a state in which it can be read. -/
structure Configured (c : DeviceConfiguration) (s : State K) : Prop where
  configuration : s.context.deviceConfiguration = c
  accepted : Requester.cxlTspValidateConfigruation K c = true
  state : s.context.currentTspState = K.tspState .configUnlocked ∨
    s.context.currentTspState = K.tspState .configLocked
  -- a reset by `GET_VERSION` is only possible without a primary session
  bound : s.context.sessionIdPrimaryValid = true ∨ c = DeviceConfiguration.zeroed

theorem configured_zeroed (psk : Vector (Psk K) secondSessionCount) :
    Configured DeviceConfiguration.zeroed (⟨DeviceContext.zeroed K, psk⟩ : State K) where
  configuration := rfl
  accepted := requester_accepts_zeroed
  state := .inl K.tspState_configUnlocked.symm
  bound := .inr rfl

/-! ## One step -/

/-- An accepted `SET` comes from the primary session of an unlocked device, with a valid
configuration, and stores it. -/
theorem step_of_acceptedSet {s : State K} {i : Input}
    (h : AcceptedSet ((responder K).event s i)) :
    Privileged s i.session .setTargetConfiguration ∧
      s.context.currentTspState = K.tspState .configUnlocked ∧
      Responder.cxlTspValidateConfigruation K (setBody K i.request)
        s.context.deviceCapabilities = .ok () ∧
      ((responder K).step s i).2 = cxlTspDeviceSetConfiguration s
        (setBody K i.request).configuration (setBody K i.request).sessionInfo := by
  obtain ⟨hr, hanswer⟩ := h
  have heff := effect_responder s i
  simp only [Machine.event] at hr hanswer
  generalize ((responder K).step s i).1 = reply at heff hanswer
  generalize ((responder K).step s i).2 = s' at heff ⊢
  -- of the other effects none answers with the success response of `SET`
  cases heff with
  | dropped _ => obtain ⟨_, h⟩ := hanswer; cases h
  | unsupported _ => obtain ⟨_, h⟩ := hanswer; cases h
  | denied _ _ => obtain ⟨_, h⟩ := hanswer; cases h
  | rejected _ _ ha => cases kind_unique hanswer ha
  | version _ _ => cases kind_unique hanswer answers_success
  | capabilities _ _ => cases kind_unique hanswer answers_success
  | set _ hp hbody hu hvalid =>
      subst hbody
      exact ⟨hp, hu, hvalid, rfl⟩
  | configuration _ _ => cases kind_unique hanswer answers_success
  | reportRejected _ _ ha => cases kind_unique hanswer ha
  | report _ _ _ _ => cases kind_unique hanswer answers_success
  | lock _ _ _ => cases kind_unique hanswer answers_success
  | teState _ _ _ => cases kind_unique hanswer answers_success

/-- What an accepted `SET` leaves. -/
theorem configured_of_acceptedSet {s : State K} {i : Input}
    (h : AcceptedSet ((responder K).event s i)) :
    Configured (setBody K i.request).configuration ((responder K).step s i).2 := by
  obtain ⟨hp, hu, hvalid, hstep⟩ := step_of_acceptedSet h
  rw [hstep]
  exact
    { configuration := rfl
      accepted := requester_accepts_of_responder_accepts hvalid
      state := .inl hu
      bound := .inl (primaryValid_of_privileged rfl hp) }

/-- `GET_VERSION` keeps the configuration: without a primary session it is the zeroed one, which a
reset restores. -/
theorem configured_getVersion {c : DeviceConfiguration} {s : State K} (h : Configured c s)
    (env : Environment) (sessionId : UInt32) :
    Configured c
      { s with context := (cxlTspDeviceGetVersion env s.context sessionId).2 } := by
  have heq := settings_getVersion_eq env s sessionId
  have hc := congrArg Settings.deviceConfiguration heq
  have hs := congrArg Settings.currentTspState heq
  simp only [State.settings] at hc hs
  -- with a primary session the context is kept, without one it is reset
  cases hvalid : s.context.sessionIdPrimaryValid with
  | true =>
      rw [initializeDeviceContext_of_bound hvalid] at hc hs
      exact
        { configuration := hc.trans h.configuration
          accepted := h.accepted
          state := by simpa only [hs] using h.state
          bound := .inl (bound_getVersion env s.context sessionId) }
  | false =>
      obtain ⟨hc', -, hs'⟩ := initializeDeviceContext_of_unbound hvalid
      have hzero : c = DeviceConfiguration.zeroed :=
        h.bound.resolve_left (by rw [hvalid]; decide)
      exact
        { configuration := by rw [hc, hc', hzero]
          accepted := h.accepted
          state := .inl (by rw [hs, hs', K.tspState_configUnlocked])
          bound := .inl (bound_getVersion env s.context sessionId) }

/-- A step that is no accepted `SET` keeps the configuration. -/
theorem configured_step {c : DeviceConfiguration} {s : State K} {i : Input}
    (h : Configured c s) (hset : ¬ AcceptedSet ((responder K).event s i)) :
    Configured c ((responder K).step s i).2 := by
  have heff := effect_responder s i
  simp only [AcceptedSet, Machine.event] at hset
  generalize ((responder K).step s i).1 = reply at heff hset
  generalize ((responder K).step s i).2 = s' at heff ⊢
  cases heff with
  | dropped _ => exact h
  | unsupported _ => exact h
  | denied _ _ => exact h
  | rejected _ _ _ => exact h
  | version _ _ => exact configured_getVersion h _ _
  | capabilities _ _ => exact h
  | set hr _ _ _ _ => exact absurd ⟨hr, _, rfl⟩ hset
  | configuration _ _ => exact h
  | reportRejected _ _ _ => exact ⟨h.configuration, h.accepted, h.state, h.bound⟩
  | report _ _ _ _ => exact ⟨h.configuration, h.accepted, h.state, h.bound⟩
  | lock _ _ _ => exact ⟨h.configuration, h.accepted, .inr rfl, h.bound⟩
  | teState _ _ _ => exact h

theorem configured_after {c : DeviceConfiguration} {s : State K} (h : Configured c s)
    {is : List Input} (hset : ∀ e ∈ (responder K).history s is, ¬ AcceptedSet e) :
    Configured c ((responder K).after s is) :=
  (responder K).invariant_after_of_events (Configured c)
    (fun _ _ hs hne => configured_step hs hne) h hset

/-! ## Reading it back -/

/-- The answer to a configuration request on a session that may read the configuration. -/
theorem cxlTspGetResponse_configuration (source : ReportSource K) (env : Environment) {s : State K}
    {sessionId : UInt32} (hsession : libcxltspGetSessionType s.context sessionId ≠ .other)
    (hstate : s.context.currentTspState = K.tspState .configUnlocked ∨
      s.context.currentTspState = K.tspState .configLocked) :
    cxlTspGetResponse source env s (some sessionId) (getConfigurationMessage K) =
      (⟨.success, some (message K
          (requestHeader K .getTargetConfiguration) .getTargetConfiguration
          (K.getConfigurationResponse.encode
            ⟨s.context.deviceConfiguration, s.context.currentTspState⟩))⟩, s) := by
  have hallowed : ¬ (s.context.currentTspState ≠ K.tspState .configUnlocked ∧
      s.context.currentTspState ≠ K.tspState .configLocked) := by
    rintro ⟨h1, h2⟩
    exact hstate.elim h1 h2
  have hrole : (libcxltspGetSessionType s.context sessionId == .other) = false := by
    simp [hsession]
  simp only [cxlTspGetResponse, getConfigurationMessage, Packed.decode_encode_append,
    requestHeader_opCode, find_mCxlTspDispatch, handler, cxlTspGetResponseGetConfiguration,
    withPrivilege, bne, hrole, handleRequest, List.length_append, Packed.length_encode_eq,
    cxlTspDeviceGetConfiguration]
  simp [hallowed]

/-- A requester reads the configuration the device has. -/
theorem cxlTspGetConfiguration_of_configured {c : DeviceConfiguration} {s : State K}
    (h : Configured c s) (source : ReportSource K) (env : Environment) {sessionId : UInt32}
    (hsession : libcxltspGetSessionType s.context sessionId ≠ .other) :
    cxlTspGetConfiguration K (tspLink source env sessionId) s =
      (.ok ⟨c, s.context.currentTspState⟩, s) := by
  have hanswer := cxlTspGetResponse_configuration source env hsession h.state
  rw [h.configuration] at hanswer
  have hfits : (message K (requestHeader K .getTargetConfiguration)
      .getTargetConfiguration (K.getConfigurationResponse.encode
        ⟨c, s.context.currentTspState⟩)).length ≤
      K.header.size + K.getConfigurationResponse.size := by
    simp [message]
  -- the requester checks the state against the last one it knows
  have hle : ¬ s.context.currentTspState > K.tspState .error := by
    rcases h.state with hs | hs <;>
      · rw [hs]
        exact UInt8.not_lt.2 (K.tspState_le_error _)
  rw [cxlTspGetConfiguration, tspLink_of_written hanswer hfits]
  simp [message, LibspdmReturn.isError, h.accepted, hle]

/-- **SET and GET agree.** After an accepted `SET_TARGET_CONFIGURATION`, and any further requests
among which no other `SET` is accepted, a requester on a primary or secondary session reads the
configuration of that request. The requester's validator accepts whatever the responder's accepts,
and before any `SET` the requester reads the zeroed configuration, which its validator accepts. -/
theorem get_configuration_returns_last_set :
    (∀ (s : State K) (i : Input) (js : List Input) (env : Environment) (sessionId : UInt32),
      AcceptedSet ((responder K).event s i) →
      (∀ e ∈ (responder K).history ((responder K).step s i).2 js, ¬ AcceptedSet e) →
      libcxltspGetSessionType ((responder K).after s (i :: js)).context sessionId ≠ .other →
      cxlTspGetConfiguration K (tspLink cxlTspDeviceGetConfigurationReport env sessionId)
          ((responder K).after s (i :: js)) =
        (.ok ⟨(setBody K i.request).configuration,
          ((responder K).after s (i :: js)).context.currentTspState⟩,
          (responder K).after s (i :: js))) ∧
    (∀ (request : SetConfiguration K.secondSessionKeySize) (capabilities : DeviceCapabilities),
      Responder.cxlTspValidateConfigruation K request capabilities = .ok () →
      Requester.cxlTspValidateConfigruation K request.configuration = true) ∧
    (∀ (psk : Vector (Psk K) secondSessionCount) (is : List Input) (env : Environment)
        (sessionId : UInt32),
      (∀ e ∈ (responder K).history ⟨DeviceContext.zeroed K, psk⟩ is, ¬ AcceptedSet e) →
      libcxltspGetSessionType
        ((responder K).after ⟨DeviceContext.zeroed K, psk⟩ is).context sessionId ≠ .other →
      cxlTspGetConfiguration K (tspLink cxlTspDeviceGetConfigurationReport env sessionId)
          ((responder K).after ⟨DeviceContext.zeroed K, psk⟩ is) =
        (.ok ⟨DeviceConfiguration.zeroed,
          ((responder K).after ⟨DeviceContext.zeroed K, psk⟩ is).context.currentTspState⟩,
          (responder K).after ⟨DeviceContext.zeroed K, psk⟩ is)) ∧
    Requester.cxlTspValidateConfigruation K DeviceConfiguration.zeroed = true := by
  refine ⟨?_, fun _ _ => requester_accepts_of_responder_accepts, ?_, requester_accepts_zeroed⟩
  · intro s i js env sessionId hset hnone hsession
    rw [Machine.after_cons] at hsession ⊢
    have hconf := configured_after (configured_of_acceptedSet hset) hnone
    exact cxlTspGetConfiguration_of_configured hconf _ env hsession
  · intro psk is env sessionId hnone hsession
    have hconf := configured_after (configured_zeroed psk) hnone
    exact cxlTspGetConfiguration_of_configured hconf _ env hsession

/-- Encryption with AES-XTS-256 and nothing else. -/
private def sampleConfiguration : DeviceConfiguration :=
  { DeviceConfiguration.zeroed with
    memoryEncryptionFeaturesEnable := 1
    memoryEncryptionAlgorithmSelect := 2 }

/-- A sample device with a primary session. -/
private def boundState : State CxlTsp.sample :=
  (responder CxlTsp.sample).after ⟨DeviceContext.zeroed _, samplePsk⟩
    [sampleInput .getTargetTspVersion [0, 0]]

/-- The request that sets the sample configuration. -/
private def setInput : Input :=
  sampleInput .setTargetConfiguration
    (CxlTsp.sample.setConfigurationRequest.encode
      ⟨sampleConfiguration, Device2ndSessionInfo.zeroed _⟩)

/-- The sample configuration is read back after it was set and the device locked. -/
theorem get_configuration_returns_last_set_sample :
    cxlTspGetConfiguration CxlTsp.sample
        (tspLink cxlTspDeviceGetConfigurationReport ⟨false, 0⟩ 1)
        ((responder CxlTsp.sample).after boundState
          [setInput, sampleInput .lockTargetConfiguration [0, 0]]) =
      (.ok ⟨(setBody CxlTsp.sample setInput.request).configuration,
        ((responder CxlTsp.sample).after boundState
          [setInput, sampleInput .lockTargetConfiguration [0, 0]]).context.currentTspState⟩,
        (responder CxlTsp.sample).after boundState
          [setInput, sampleInput .lockTargetConfiguration [0, 0]]) := by
  refine get_configuration_returns_last_set.1 boundState setInput
    [sampleInput .lockTargetConfiguration [0, 0]] ⟨false, 0⟩ 1
    ⟨rfl, [0, 0], by decide +kernel⟩ ?_ (by decide +kernel)
  intro e he
  rw [Machine.history_cons, Machine.history_nil, List.mem_singleton] at he
  rw [he]
  rintro ⟨hrequest, -⟩
  exact absurd hrequest (by unfold IsRequest; decide)

end SpdmEmu.Tsp
