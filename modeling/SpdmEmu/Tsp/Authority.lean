import SpdmEmu.Tsp.Responder

/-!
# Who may change a TSP device, and until when

The settings of a device are its configuration, its secondary session information, the table of
secondary session keys and its state. In every run of the responder from the zeroed context the
settings change only by an accepted `SET_TARGET_CONFIGURATION` or `LOCK_TARGET_CONFIGURATION` of the
primary session while the device is unlocked, and a locked device keeps them for ever.

`GET_VERSION` resets a context without a primary session. That this changes no setting is the
invariant `FreshUnlessBound`: a device that has no primary session has never been configured.
-/

set_option autoImplicit false

namespace SpdmEmu.Tsp

open SpdmEmu.Wire SpdmEmu.Libspdm SpdmEmu.Run

variable {K : CxlTsp}

/-- The settings of a device. -/
structure Settings (K : CxlTsp) where
  deviceConfiguration : DeviceConfiguration
  device2ndSessionInfo : Device2ndSessionInfo K.secondSessionKeySize
  secondSessionPsk : Vector (Psk K) secondSessionCount
  currentTspState : UInt8

/-- The settings of a state. -/
def State.settings (s : State K) : Settings K where
  deviceConfiguration := s.context.deviceConfiguration
  device2ndSessionInfo := s.context.device2ndSessionInfo
  secondSessionPsk := s.secondSessionPsk
  currentTspState := s.context.currentTspState

/-- The session bound as primary, if there is one. -/
def State.primarySession (s : State K) : SessionId :=
  if s.context.sessionIdPrimaryValid then some s.context.sessionIdPrimary else none

/-- A device without a primary session has the settings of the zeroed context. -/
def FreshUnlessBound (s : State K) : Prop :=
  s.context.sessionIdPrimaryValid = false →
    s.context.deviceConfiguration = DeviceConfiguration.zeroed ∧
      s.context.device2ndSessionInfo = Device2ndSessionInfo.zeroed _ ∧
        s.context.currentTspState = 0

/-- The reply is a TSP error, or nothing was written, as in a denial. -/
def Refused (K : CxlTsp) (request : Bytes) (reply : Reply) : Prop :=
  Answers K request .error reply ∨ reply.written = none

/-! ## One step -/

theorem fresh_zeroed (psk : Vector (Psk K) secondSessionCount) :
    FreshUnlessBound (⟨DeviceContext.zeroed K, psk⟩ : State K) :=
  fun _ => ⟨rfl, rfl, rfl⟩

/-- Only the primary session has the privilege of a request that is open to primary sessions. -/
theorem primarySession_of_privileged {s : State K} {session : SessionId} {r : Request}
    (hr : r.allowed = (· == .primary)) (h : Privileged s session r) :
    session = s.primarySession ∧ s.primarySession ≠ none := by
  obtain ⟨sessionId, rfl, hallowed⟩ := h
  rw [hr] at hallowed
  simp only [libcxltspGetSessionType, beq_iff_eq] at hallowed
  -- the session type is primary only for the bound id
  split at hallowed
  · next hprimary =>
      simp only [libcxltspIsSessionPrimary, Bool.and_eq_true, beq_iff_eq] at hprimary
      obtain ⟨hvalid, hid⟩ := hprimary
      simp [State.primarySession, hvalid, hid]
  · split at hallowed <;> cases hallowed

theorem primaryValid_of_bound {s : State K} (h : s.primarySession ≠ none) :
    s.context.sessionIdPrimaryValid = true := by
  by_contra hv
  exact h (by simp [State.primarySession, hv])

theorem primaryValid_of_privileged {s : State K} {session : SessionId} {r : Request}
    (hr : r.allowed = (· == .primary)) (h : Privileged s session r) :
    s.context.sessionIdPrimaryValid = true :=
  primaryValid_of_bound (primarySession_of_privileged hr h).2

/-- A success response is not a refusal. -/
theorem not_refused_success {request : Bytes} {r : Request} {body : Bytes} :
    ¬ Refused K request (success K request r body) := by
  rintro (herror | h)
  · have hkind := kind_unique answers_success herror
    cases r <;> cases hkind
  · cases h

theorem initializeDeviceContext_of_bound {ctx : DeviceContext K}
    (h : ctx.sessionIdPrimaryValid = true) : libcxltspInitializeDeviceContext ctx = ctx :=
  if_pos h

theorem initializeDeviceContext_of_unbound {ctx : DeviceContext K}
    (h : ctx.sessionIdPrimaryValid = false) :
    (libcxltspInitializeDeviceContext ctx).deviceConfiguration = DeviceConfiguration.zeroed ∧
      (libcxltspInitializeDeviceContext ctx).device2ndSessionInfo =
        Device2ndSessionInfo.zeroed _ ∧
      (libcxltspInitializeDeviceContext ctx).currentTspState = 0 := by
  simp [libcxltspInitializeDeviceContext, h, DeviceContext.zeroed]

/-- Of `GET_VERSION` only the initialization of the context can change a setting. -/
theorem settings_getVersion_eq (env : Environment) (s : State K) (sessionId : UInt32) :
    ({ s with context := (cxlTspDeviceGetVersion env s.context sessionId).2 } : State K).settings =
      ({ s with context := libcxltspInitializeDeviceContext s.context } : State K).settings := by
  simp only [cxlTspDeviceGetVersion]
  -- binding a primary or a secondary session touches only the session ids
  unfold libcxltspInitializeSessionId
  split
  · rfl
  split
  · rfl
  split
  · rfl
  · rfl

/-- `GET_VERSION` binds sessions and changes no setting. -/
theorem settings_getVersion {s : State K} (hfresh : FreshUnlessBound s) (env : Environment)
    (sessionId : UInt32) :
    ({ s with context := (cxlTspDeviceGetVersion env s.context sessionId).2 } : State K).settings =
      s.settings := by
  rw [settings_getVersion_eq]
  -- without a primary session the context is reset, to what `FreshUnlessBound` says it was
  cases hvalid : s.context.sessionIdPrimaryValid with
  | true => rw [initializeDeviceContext_of_bound hvalid]
  | false =>
      obtain ⟨h1, h2, h3⟩ := hfresh hvalid
      obtain ⟨h1', h2', h3'⟩ := initializeDeviceContext_of_unbound hvalid
      simp only [State.settings, h1, h2, h3, h1', h2', h3']

/-- `GET_VERSION` keeps a bound primary session. -/
theorem primarySession_getVersion {s : State K} (h : s.primarySession ≠ none) (env : Environment)
    (sessionId : UInt32) :
    ({ s with context := (cxlTspDeviceGetVersion env s.context sessionId).2 } :
      State K).primarySession = s.primarySession := by
  have hvalid := primaryValid_of_bound h
  simp only [State.primarySession, cxlTspDeviceGetVersion,
    initializeDeviceContext_of_bound hvalid, libcxltspInitializeSessionId, hvalid, Bool.not_true,
    Bool.false_eq_true, if_false]
  split
  · simp
  split
  · simp [libcxltspSetSecondarySessionId, hvalid]
  · simp

/-- After `GET_VERSION` there is a primary session. -/
theorem bound_getVersion (env : Environment) (ctx : DeviceContext K) (sessionId : UInt32) :
    (cxlTspDeviceGetVersion env ctx sessionId).2.sessionIdPrimaryValid = true := by
  simp only [cxlTspDeviceGetVersion, libcxltspInitializeSessionId]
  by_cases hvalid : (libcxltspInitializeDeviceContext ctx).sessionIdPrimaryValid = true
  · simp only [hvalid, Bool.not_true, Bool.false_eq_true, if_false]
    split
    · exact hvalid
    split
    · exact hvalid
    · exact hvalid
  · simp [hvalid, libcxltspSetPrimarySessionId]

section Step

variable {env : Environment} {s s' : State K} {session : SessionId} {request : Bytes}
  {reply : Reply}

/-- A step keeps the settings, or it is an accepted `SET` or `LOCK` of the primary session in the
unlocked state. -/
theorem settings_step (hfresh : FreshUnlessBound s)
    (h : Effect cxlTspDeviceGetConfigurationReport env s session request reply s') :
    s'.settings = s.settings ∨
      ∃ r, (r = .setTargetConfiguration ∨ r = .lockTargetConfiguration) ∧
        IsRequest K request r ∧ (session = s.primarySession ∧ s.primarySession ≠ none) ∧
        s.context.currentTspState = K.tspState .configUnlocked ∧
        Answers K request r.response reply := by
  cases h with
  | dropped _ => exact .inl rfl
  | unsupported _ => exact .inl rfl
  | denied _ _ => exact .inl rfl
  | rejected _ _ _ => exact .inl rfl
  | version _ _ => exact .inl (settings_getVersion hfresh env _)
  | capabilities _ _ => exact .inl rfl
  | set hr hp _ hu _ =>
      exact .inr ⟨_, .inl rfl, hr, primarySession_of_privileged rfl hp, hu, answers_success⟩
  | configuration _ _ => exact .inl rfl
  | reportRejected _ _ _ => exact .inl rfl
  | report _ _ _ _ => exact .inl rfl
  | lock hr hp hu =>
      exact .inr ⟨_, .inr rfl, hr, primarySession_of_privileged rfl hp, hu, answers_success⟩
  | teState _ _ _ => exact .inl rfl

/-- A step keeps a bound primary session. -/
theorem primarySession_step (hbound : s.primarySession ≠ none)
    (h : Effect cxlTspDeviceGetConfigurationReport env s session request reply s') :
    s'.primarySession = s.primarySession := by
  cases h with
  | dropped _ => rfl
  | unsupported _ => rfl
  | denied _ _ => rfl
  | rejected _ _ _ => rfl
  | version _ _ => exact primarySession_getVersion hbound env _
  | capabilities _ _ => rfl
  | set _ _ _ _ _ => rfl
  | configuration _ _ => rfl
  | reportRejected _ _ _ => rfl
  | report _ _ _ _ => rfl
  | lock _ _ _ => rfl
  | teState _ _ _ => rfl

/-- A refused step keeps the settings and the primary session, whatever the state. -/
theorem refused_step (hrefused : Refused K request reply)
    (h : Effect cxlTspDeviceGetConfigurationReport env s session request reply s') :
    s'.settings = s.settings ∧ s'.primarySession = s.primarySession := by
  cases h with
  | dropped _ => exact ⟨rfl, rfl⟩
  | unsupported _ => exact ⟨rfl, rfl⟩
  | denied _ _ => exact ⟨rfl, rfl⟩
  | rejected _ _ _ => exact ⟨rfl, rfl⟩
  | version _ _ => exact absurd hrefused not_refused_success
  | capabilities _ _ => exact ⟨rfl, rfl⟩
  | set _ _ _ _ _ => exact absurd hrefused not_refused_success
  | configuration _ _ => exact ⟨rfl, rfl⟩
  | reportRejected _ _ _ => exact ⟨rfl, rfl⟩
  | report _ _ _ _ => exact ⟨rfl, rfl⟩
  | lock _ _ _ => exact absurd hrefused not_refused_success
  | teState _ _ _ => exact ⟨rfl, rfl⟩

theorem fresh_step (hfresh : FreshUnlessBound s)
    (h : Effect cxlTspDeviceGetConfigurationReport env s session request reply s') :
    FreshUnlessBound s' := by
  -- an accepted `SET` or `LOCK` has a primary session, before and after
  cases h with
  | dropped _ => exact hfresh
  | unsupported _ => exact hfresh
  | denied _ _ => exact hfresh
  | rejected _ _ _ => exact hfresh
  | version _ _ =>
      intro hv
      simp only [bound_getVersion] at hv
      cases hv
  | capabilities _ _ => exact hfresh
  | set _ hp _ _ _ =>
      intro hv
      simp only [cxlTspDeviceSetConfiguration, primaryValid_of_privileged rfl hp] at hv
      cases hv
  | configuration _ _ => exact hfresh
  | reportRejected _ _ _ => exact hfresh
  | report _ _ _ _ => exact hfresh
  | lock _ hp _ =>
      intro hv
      simp only [cxlTspDeviceLockConfiguration, primaryValid_of_privileged rfl hp] at hv
      cases hv
  | teState _ _ _ => exact hfresh

end Step

/-! ## Whole runs -/

/-- The effect of a step of the machine. -/
theorem effect_responder (s : State K) (i : Input) :
    Effect cxlTspDeviceGetConfigurationReport i.env s i.session i.request
      ((responder K).step s i).1 ((responder K).step s i).2 :=
  effect_cxlTspGetResponse _ _ _ _ _

theorem fresh_after {s : State K} (hfresh : FreshUnlessBound s) (is : List Input) :
    FreshUnlessBound ((responder K).after s is) :=
  (responder K).invariant_after FreshUnlessBound
    (fun s i h => fresh_step h (effect_responder s i)) hfresh is

/-- A locked device keeps its settings. -/
theorem settings_of_locked {s : State K} (hfresh : FreshUnlessBound s)
    (hlocked : s.context.currentTspState = K.tspState .configLocked) (is : List Input) :
    ((responder K).after s is).settings = s.settings := by
  refine ((responder K).invariant_after
    (fun t => FreshUnlessBound t ∧ t.settings = s.settings) ?_ ⟨hfresh, rfl⟩ is).2
  -- the invariant needs freshness as well: it is what makes `GET_VERSION` harmless
  rintro t i ⟨ht, hsettings⟩
  refine ⟨fresh_step ht (effect_responder t i), ?_⟩
  rcases settings_step ht (effect_responder t i) with hkeep | ⟨_, _, _, _, hunlocked, _⟩
  · rw [hkeep, hsettings]
  · have hstate : t.context.currentTspState = s.context.currentTspState :=
      congrArg Settings.currentTspState hsettings
    rw [hstate, hlocked] at hunlocked
    exact absurd hunlocked K.tspState_locked_ne_unlocked

/-- A bound primary session stays bound. -/
theorem primarySession_of_bound {s : State K} (hbound : s.primarySession ≠ none)
    (is : List Input) : ((responder K).after s is).primarySession = s.primarySession := by
  refine (responder K).invariant_after (fun t => t.primarySession = s.primarySession) ?_ rfl is
  intro t i ht
  rw [primarySession_step (by rw [ht]; exact hbound) (effect_responder t i), ht]

/-- **TSP lock and authority.** In every run from the zeroed context: a step that changes a setting
is a `SET` or `LOCK` of the primary session in the unlocked state, answered with its success
response; a refused request changes neither the settings nor the primary session; once locked, the
settings never change again; and once set, the primary session never changes. -/
theorem settings_change_only_by_primary (psk : Vector (Psk K) secondSessionCount)
    (is : List Input) :
    (∀ e ∈ (responder K).history ⟨DeviceContext.zeroed K, psk⟩ is,
      (e.after.settings ≠ e.before.settings →
        ∃ r, (r = .setTargetConfiguration ∨ r = .lockTargetConfiguration) ∧
          IsRequest K e.input.request r ∧
          (e.input.session = e.before.primarySession ∧ e.before.primarySession ≠ none) ∧
          e.before.context.currentTspState = K.tspState .configUnlocked ∧
          Answers K e.input.request r.response e.output) ∧
      (Refused K e.input.request e.output →
        e.after.settings = e.before.settings ∧
          e.after.primarySession = e.before.primarySession)) ∧
    (∀ js, ((responder K).after ⟨DeviceContext.zeroed K, psk⟩ is).context.currentTspState =
        K.tspState .configLocked →
      ((responder K).after ⟨DeviceContext.zeroed K, psk⟩ (is ++ js)).settings =
        ((responder K).after ⟨DeviceContext.zeroed K, psk⟩ is).settings) ∧
    (∀ js, ((responder K).after ⟨DeviceContext.zeroed K, psk⟩ is).primarySession ≠ none →
      ((responder K).after ⟨DeviceContext.zeroed K, psk⟩ (is ++ js)).primarySession =
        ((responder K).after ⟨DeviceContext.zeroed K, psk⟩ is).primarySession) := by
  refine ⟨?_, ?_, ?_⟩
  · refine (responder K).forall_history FreshUnlessBound
      (fun s i h => fresh_step h (effect_responder s i)) ?_ (fresh_zeroed psk) is
    intro s i hfresh
    constructor
    · intro hchange
      exact (settings_step hfresh (effect_responder s i)).resolve_left hchange
    · intro hrefused
      exact refused_step hrefused (effect_responder s i)
  · intro js hlocked
    rw [Machine.after_append]
    exact settings_of_locked (fresh_after (fresh_zeroed psk) is) hlocked js
  · intro js hbound
    rw [Machine.after_append]
    exact primarySession_of_bound hbound js

/-- A device that was locked by its primary session keeps its settings. -/
theorem settings_change_only_by_primary_sample :
    ((responder CxlTsp.sample).after
        ⟨DeviceContext.zeroed _, samplePsk⟩
        [sampleInput .getTargetTspVersion [0, 0], sampleInput .lockTargetConfiguration [0, 0]]
      ).context.currentTspState = CxlTsp.sample.tspState .configLocked ∧
    ∀ js, ((responder CxlTsp.sample).after
        ⟨DeviceContext.zeroed _, samplePsk⟩
        ([sampleInput .getTargetTspVersion [0, 0],
          sampleInput .lockTargetConfiguration [0, 0]] ++ js)).settings =
      ((responder CxlTsp.sample).after
        ⟨DeviceContext.zeroed _, samplePsk⟩
        [sampleInput .getTargetTspVersion [0, 0],
          sampleInput .lockTargetConfiguration [0, 0]]).settings :=
  ⟨by decide, fun js => (settings_change_only_by_primary _ _).2.1 js (by decide)⟩

end SpdmEmu.Tsp
