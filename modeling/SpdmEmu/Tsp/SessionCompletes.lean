import SpdmEmu.Tsp.Ready

/-!
# A TSP session that nobody disturbs

On a device without a primary session, the primary session runs to its end if there is a random
number for its key, and with it the secondary session that it opens: the two sides hold the same key
then, which is all that libspdm needs to open it. Other sessions may ask for whatever they like in
between, as long as none asks for the version before the session does, and none that has a
pre-shared key does so at all, which could take the slot of the secondary session.
-/

set_option autoImplicit false

namespace SpdmEmu.Tsp

open SpdmEmu.Wire SpdmEmu.Libspdm SpdmEmu.Report SpdmEmu.Run

variable {K : CxlTsp}

/-! ## The calls -/

/-- The responses that arrive in a buffer for an error message have room in it. -/
def SmallResponses (K : CxlTsp) : Prop :=
  RoomFor K.errorResponse.size [K.getVersionResponse.size, K.setConfigurationResponse.size,
    K.lockConfigurationResponse.size, K.setTeStateResponse.size]

/-- The device has `P`, after `k` random numbers and with what libspdm knows of the sessions. -/
structure Standing (P : State K → Prop) (k : Nat) (sessions : UInt32 → Environment) (s : Peer K) :
    Prop where
  shared : s.shared.Standing (fun _ => True) P
  draws : s.draws = k
  sessions : s.sessions = sessions

section Calls

variable {w : Surroundings K} {owner sessionId : UInt32} {Φ : Settings K → Prop} {k : Nat}
  {sessions : UInt32 → Environment}

/-- What the device writes at the session's turn arrives if it fits. -/
theorem sendReceive_of_step {s : Peer K} {request m : Bytes} {capacity : Nat} {d' : State K}
    (hstep : (responder K).step (s.atTurn w) (s.input sessionId request) =
      (⟨.success, some m⟩, d')) (hfits : m.length ≤ capacity) :
    ∃ s', (peerHost w).sendReceive sessionId s request capacity = (⟨.success, m⟩, s') ∧
      s'.shared.state = d' ∧ s'.draws = s.draws ∧ s'.sessions = s.sessions := by
  have hask : s.shared.ask (responder K) w.schedule (fun _ => s.input sessionId request) =
      (⟨.success, some m⟩, _) := Shared.ask_of_step hstep
  have hroom : ¬ capacity < m.length := Nat.not_lt.2 hfits
  refine ⟨{ s with
    shared := (s.shared.ask (responder K) w.schedule fun _ => s.input sessionId request).2 },
    ?_, ?_, rfl, rfl⟩
  · simp [peerHost, hask, arrives, LibspdmReturn.isError, hroom]
  · rw [hask]

/-- The rule for a call with one exchange: from what the device answers at the session's turn, and
what the requester makes of it. -/
theorem triple_call {α : Type} {x : Flow (Peer K) LibspdmReturn α} {P : Peer K → Prop}
    {Q : State K → Prop} {a : α} (w : Surroundings K) (sessionId : UInt32) (request : Bytes)
    (capacity : Nat)
    (hP : ∀ s, P s → s.draws = k ∧ s.sessions = sessions)
    (h : ∀ s, P s → ∃ m d',
      (responder K).step (s.atTurn w) ⟨some sessionId, request, sessions sessionId⟩ =
        (⟨.success, some m⟩, d') ∧ m.length ≤ capacity ∧ Q d' ∧
      ∀ s', (peerHost w).sendReceive sessionId s request capacity = (⟨.success, m⟩, s') →
        x s = (.ok a, s')) :
    Flow.Triple P x (fun b s => b = a ∧ Standing Q k sessions s) (fun _ _ => False) := by
  apply Flow.Triple.of_total
  intro s hs
  obtain ⟨hdraws, hsessions⟩ := hP s hs
  obtain ⟨m, d', hstep, hfits, hafter, hrun⟩ := h s hs
  rw [← hsessions] at hstep
  obtain ⟨s', hsend, rfl, hdraws', hsessions'⟩ := sendReceive_of_step hstep hfits
  exact ⟨a, s', hrun s' hsend, rfl, ⟨trivial, hafter⟩, hdraws'.trans hdraws,
    hsessions'.trans hsessions⟩

theorem Standing.kept {P : State K → Prop} {s : Peer K} (h : Standing P k sessions s) :
    s.draws = k ∧ s.sessions = sessions :=
  ⟨h.draws, h.sessions⟩

theorem Standing.atTurn {s : Peer K} (h : Standing (Ready owner Φ sessionId) k sessions s)
    (hquiet : QuietSessions w owner) : Ready owner Φ sessionId (s.atTurn w) :=
  h.shared.wait (undisturbed_ready hquiet)

/-- A response with a header and a fixed body has their size. -/
theorem length_message {γ : Type} (r : Request) (kind : Response) (out : Packed γ) (b : γ) :
    (message K (requestHeader K r) kind (out.encode b)).length = K.header.size + out.size := by
  simp [message]

/-- A request of the session that changes nothing leaves the device ready. -/
theorem Ready.own {d d' : State K} (h : Ready owner Φ sessionId d) {request : Bytes}
    {env : Environment} {reply : Reply}
    (hstep : (responder K).step d ⟨some sessionId, request, env⟩ = (reply, d'))
    (hrequest : Unchanging K request) (hversion : ¬ IsRequest K request .getTargetTspVersion) :
    Ready owner Φ sessionId d' := by
  have hafter := h.step (i := ⟨some sessionId, request, env⟩) (fun _ => hrequest)
    fun hboth => hversion hboth.1
  rw [hstep] at hafter
  exact hafter

theorem triple_capabilities (hquiet : QuietSessions w owner) (hflags : K.FlagsApart)
    (initiatorSuppliedEntropy : UInt16) :
    Flow.Triple (Standing (Ready owner Φ sessionId) k sessions)
      (cxlTspGetCapabilities K initiatorSuppliedEntropy ((peerHost w).sendReceive sessionId))
      (fun capabilities s => capabilities = sampleCapabilities K ∧
        Standing (Ready owner Φ sessionId) k sessions s) (fun _ _ => False) := by
  refine triple_call w sessionId (getCapabilitiesMessage K)
    (K.header.size + K.getCapabilitiesResponse.size) (fun _ h => h.kept) fun s hs => ?_
  have hturn := hs.atTurn hquiet
  refine ⟨_, _, step_getCapabilities _, Nat.le_of_eq (length_message _ _ _ _), hturn,
    fun s' hsend => ?_⟩
  rw [hturn.initialized.capabilities] at hsend
  exact getCapabilities_of_response (validateCapability_sample hflags _) hsend

/-- The configuration is set. -/
theorem triple_set (hquiet : QuietSessions w owner) (hsmall : SmallResponses K)
    {body : SetConfiguration K.secondSessionKeySize}
    (hvalid : Responder.cxlTspValidateConfigruation K body (sampleCapabilities K) = .ok ())
    (hunlocked : ∀ settings, Φ settings → settings.currentTspState = K.tspState .configUnlocked) :
    Flow.Triple (Standing (Ready owner Φ owner) k sessions)
      (cxlTspSetConfiguration K ((peerHost w).sendReceive owner) body.configuration
        body.sessionInfo)
      (fun u s => u = () ∧ Standing (Ready owner (SetUnlocked body) owner) k sessions s)
      (fun _ _ => False) := by
  refine triple_call w owner (setConfigurationMessage K body) (errorMessageMaxSize K)
    (fun _ h => h.kept) fun s hs => ?_
  have hturn := hs.atTurn hquiet
  obtain ⟨d', hstep⟩ := step_setConfiguration (sessions owner) hturn.holds.primary
    (hunlocked _ hturn.holds.settings) (by rw [hturn.initialized.capabilities]; exact hvalid)
  have hheader : K.header.decode (setConfigurationMessage K body) =
      requestHeader K .setTargetConfiguration := by
    rw [setConfigurationMessage, Packed.decode_encode_append]
  have hset : Holds owner (SetUnlocked body) ((responder K).step (s.atTurn w)
      ⟨some owner, setConfigurationMessage K body, sessions owner⟩).2 :=
    holds_of_set hturn.holds.fresh
      ⟨K.setConfigurationResponse.encode (), by rw [hstep, hheader]⟩
  have hinit := hturn.initialized.step ⟨some owner, setConfigurationMessage K body, sessions owner⟩
  rw [hstep] at hset hinit
  refine ⟨_, _, hstep, ?_, ⟨hset, hinit, ?_⟩, fun s' hsend => exchangeHeader_of_response hsend⟩
  · rw [length_message]
    exact hsmall.add_le (by simp) _
  · rw [getSessionType_of_primary hset.primary]
    decide

theorem triple_lock (hquiet : QuietSessions w owner) (hsmall : SmallResponses K)
    {body : SetConfiguration K.secondSessionKeySize} :
    Flow.Triple (Standing (Ready owner (SetUnlocked body) owner) k sessions)
      (cxlTspLockConfiguration K ((peerHost w).sendReceive owner))
      (fun u s => u = () ∧ Standing (Ready owner (SetLocked body) owner) k sessions s)
      (fun _ _ => False) := by
  refine triple_call w owner (lockConfigurationMessage K) (errorMessageMaxSize K)
    (fun _ h => h.kept) fun s hs => ?_
  have hturn := hs.atTurn hquiet
  have hstep := step_lockConfiguration (sessions owner) hturn.holds.primary
    hturn.holds.settings.2
  have hinit := hturn.initialized.step ⟨some owner, lockConfigurationMessage K, sessions owner⟩
  have hfresh := fresh_step hturn.holds.fresh
    (effect_responder _ ⟨some owner, lockConfigurationMessage K, sessions owner⟩)
  rw [hstep] at hinit hfresh
  refine ⟨_, _, hstep, ?_,
    ⟨⟨hfresh, hturn.holds.primary, hturn.holds.settings.1, rfl⟩, hinit, hturn.privileged⟩,
    fun s' hsend => exchangeHeader_of_response hsend⟩
  rw [length_message]
  exact hsmall.add_le (by simp) _

/-- The settings have a configuration that the requester accepts, in a state it may be read in. -/
structure Readable (c : DeviceConfiguration) (state : UInt8) (settings : Settings K) : Prop where
  configuration : settings.deviceConfiguration = c
  currentTspState : settings.currentTspState = state

/-- A state in which the device can be read. -/
def IsOpen (K : CxlTsp) (state : UInt8) : Prop :=
  state = K.tspState .configUnlocked ∨ state = K.tspState .configLocked

theorem IsOpen.le_error {state : UInt8} (h : IsOpen K state) : state ≤ K.tspState .error := by
  rcases h with rfl | rfl <;> exact K.tspState_le_error _

/-- The answer to a request for the configuration. -/
theorem step_getConfiguration {d : State K} (h : Ready owner Φ sessionId d)
    {c : DeviceConfiguration} {state : UInt8} (hopen : IsOpen K state)
    (hreadable : ∀ settings, Φ settings → Readable c state settings) (env : Environment) :
    (responder K).step d ⟨some sessionId, getConfigurationMessage K, env⟩ =
      (⟨.success, some (message K (requestHeader K .getTargetConfiguration)
        .getTargetConfiguration (K.getConfigurationResponse.encode ⟨c, state⟩))⟩, d) := by
  obtain ⟨hc, hstate⟩ := hreadable _ h.holds.settings
  have hstate' : d.context.currentTspState = state := hstate
  have hanswer := cxlTspGetResponse_configuration cxlTspDeviceGetConfigurationReport env
    h.privileged (by rw [hstate']; exact hopen)
  rw [hstate', show d.context.deviceConfiguration = c from hc] at hanswer
  exact hanswer

theorem triple_readConfiguration (hquiet : QuietSessions w owner) {c : DeviceConfiguration}
    {state : UInt8} (hopen : IsOpen K state)
    (hvalid : Requester.cxlTspValidateConfigruation K c = true)
    (hreadable : ∀ settings, Φ settings → Readable c state settings) :
    Flow.Triple (Standing (Ready owner Φ sessionId) k sessions)
      (cxlTspGetConfiguration K ((peerHost w).sendReceive sessionId))
      (fun current s => current = ⟨c, state⟩ ∧
        Standing (Ready owner Φ sessionId) k sessions s) (fun _ _ => False) := by
  refine triple_call w sessionId (getConfigurationMessage K)
    (K.header.size + K.getConfigurationResponse.size) (fun _ h => h.kept) fun s hs => ?_
  have hturn := hs.atTurn hquiet
  refine ⟨_, _, step_getConfiguration hturn hopen hreadable _,
    Nat.le_of_eq (length_message _ _ _ _), hturn, fun s' hsend => ?_⟩
  exact getConfiguration_of_response hvalid hopen.le_error hsend

theorem triple_readState (hquiet : QuietSessions w owner) {c : DeviceConfiguration}
    {state : UInt8} (hopen : IsOpen K state)
    (hreadable : ∀ settings, Φ settings → Readable c state settings) :
    Flow.Triple (Standing (Ready owner Φ sessionId) k sessions)
      (cxlTspGetTspState K ((peerHost w).sendReceive sessionId))
      (fun current s => current = state ∧
        Standing (Ready owner Φ sessionId) k sessions s) (fun _ _ => False) := by
  refine triple_call w sessionId (getConfigurationMessage K)
    (K.header.size + K.getConfigurationResponse.size) (fun _ h => h.kept) fun s hs => ?_
  have hturn := hs.atTurn hquiet
  refine ⟨_, _, step_getConfiguration hturn hopen hreadable _,
    Nat.le_of_eq (length_message _ _ _ _), hturn, fun s' hsend => ?_⟩
  exact getTspState_of_response hopen.le_error hsend

theorem triple_teState {setup : SessionSetup K} (hquiet : QuietSessions w owner)
    (hsmall : SmallResponses K) (hlayout : MineLayout K)
    (hlocked : ∀ settings, Φ settings → settings.currentTspState = K.tspState .configLocked)
    (teState : UInt8) :
    Flow.Triple (Standing (Ready owner Φ sessionId) k sessions)
      (setSessionTeState setup (peerHost w) sessionId teState)
      (fun u s => u = () ∧ Standing (Ready owner Φ sessionId) k sessions s)
      (fun _ _ => False) := by
  refine triple_call w sessionId (setTeStateMessage K teState 1
    (Mem.store (fun _ => 0) 0 (setup.memoryRange 0x100000 0x10000).toList))
    (errorMessageMaxSize K) (fun _ h => h.kept) fun s hs => ?_
  have hturn := hs.atTurn hquiet
  refine ⟨_, _, step_setTeState _ hlayout hturn.privileged (hlocked _ hturn.holds.settings) _ _,
    ?_, hturn, fun s' hsend => setSessionTeState_of_response hsend⟩
  rw [length_message]
  exact hsmall.add_le (by simp) _

/-! ## The report -/

/-- The report of the sample device: one byte is set. -/
def sampleReport : Bytes :=
  (validReport (Vector.replicate _ 0)).toList.take configurationReportStructSize.toNat

theorem length_sampleReport : sampleReport.length = configurationReportStructSize.toNat := by
  rw [sampleReport, List.length_take, Vector.length_toList]
  decide

/-- A device that is ready serves its report, whoever else reads it in between. -/
theorem serves_peer (hquiet : QuietSessions w owner)
    (hopen : ∀ settings, Φ settings → IsOpen K settings.currentTspState) :
    Serves (configurationReportProtocol K) ((peerHost w).sendReceive sessionId) sampleReport
      (Standing (Ready owner Φ sessionId) k sessions) where
  answer := by
    intro s hs offset length portion remainder bytes hserve
    have hturn := hs.atTurn hquiet
    rw [length_sampleReport, UInt16.ofNat_toNat] at hserve
    obtain ⟨hportion, hlength⟩ : portion.toNat ≤ configurationReportPortionLen.toNat ∧ _ :=
      length_of_servePortion (Nat.le_of_eq length_sampleReport.symm) hserve
    -- serving from the report is serving from the buffer that it is the first part of
    have hbuffer : servePortion configurationReportPortionLen
        (validReport (s.atTurn w).context.configurationReport).toList
        configurationReportStructSize offset length = some (portion, remainder, bytes) := by
      rw [← servePortion_take, hturn.initialized.report]
      exact hserve
    have hsource : (cxlTspDeviceGetConfigurationReport (s.atTurn w).context).1 =
        .ok ((validReport (s.atTurn w).context.configurationReport).toList,
          configurationReportStructSize) := rfl
    have hanswer := cxlTspGetResponse_report (s.sessions sessionId) hturn.privileged
      (hopen _ hturn.holds.settings) hsource hbuffer
    have hfits : (message K (requestHeader K .getTargetConfigurationReport)
        .getTargetConfigurationReport
        (K.getConfigurationReportResponse.encode ⟨portion, remainder⟩ ++ bytes)).length ≤
        (configurationReportProtocol K).responseSize := by
      simp only [message, configurationReportProtocol, List.length_append,
        Packed.length_encode_eq]
      omega
    obtain ⟨s', hsend, hstate, hdraws, hsessions⟩ := sendReceive_of_step hanswer hfits
    refine ⟨_, s', hsend, ⟨⟨trivial, ?_⟩, hdraws.trans hs.draws, hsessions.trans hs.sessions⟩, ?_⟩
    · rw [hstate]
      exact hturn.own hanswer (unchanging_of_opCode (by decide) (by decide) _)
        (by simp [IsRequest, configurationReportProtocol])
    · simp only [message, configurationReportProtocol, List.length_append,
        Packed.length_encode_eq, Packed.decode_encode_append, Packed.drop_encode_append]
      refine ⟨trivial, by simp, by omega, ?_⟩
      rw [← List.drop_drop, Packed.drop_encode_append, Packed.drop_encode_append]

/-- The report is received. -/
theorem triple_readReport {setup : SessionSetup K} (hquiet : QuietSessions w owner)
    (hopen : ∀ settings, Φ settings → IsOpen K settings.currentTspState)
    (hfuel : configurationReportStructSize.toNat < setup.fuel) :
    Flow.Triple (Standing (Ready owner Φ sessionId) k sessions)
      (readReport setup (peerHost w) sessionId)
      (fun report s => report = (setup.stack.store 0 sampleReport,
          configurationReportStructSize.toUInt32) ∧
        Standing (Ready owner Φ sessionId) k sessions s) (fun _ _ => False) := by
  apply Flow.Triple.of_total
  intro s hs
  have hportion : 0 < (configurationReportProtocol K).portionLen.toNat :=
    show 0 < configurationReportPortionLen.toNat by decide
  have hpos : 0 < sampleReport.length := by
    rw [length_sampleReport]
    decide
  have hshort : sampleReport.length < 2 ^ 16 := by
    rw [length_sampleReport]
    decide
  have hroom : sampleReport.length ≤ (UInt32.ofNat configurationReportMaxSize).toNat := by
    rw [length_sampleReport]
    decide
  have hfuel' : sampleReport.length < setup.fuel := by
    rw [length_sampleReport]
    exact hfuel
  obtain ⟨link, hlive, hrun⟩ := getReport_of_serves_live hportion hpos hshort
    (serves_peer hquiet hopen) hs setup.stack hroom hfuel'
  have hsize : UInt32.ofNat sampleReport.length = configurationReportStructSize.toUInt32 := by
    rw [length_sampleReport]
    rfl
  have hget : cxlTspGetConfigurationReport K ((peerHost w).sendReceive sessionId) setup.fuel s
      setup.stack (UInt32.ofNat configurationReportMaxSize) = some ⟨.success, _, _, link⟩ := hrun
  refine ⟨_, link, ?_, rfl, hlive⟩
  rw [readReport, hget, hsize]
  rfl

end Calls

/-! ## The sessions are bound -/

section Binding

variable {w : Surroundings K} {owner sessionId : UInt32} {Φ : Settings K → Prop} {k : Nat}
  {sessions : UInt32 → Environment}

/-- Only a version request binds a primary session. -/
theorem primarySession_of_unbound {d : State K} (h : d.primarySession = none) {i : Input}
    (hi : ¬ IsRequest K i.request .getTargetTspVersion) :
    ((responder K).step d i).2.primarySession = none := by
  have heffect := effect_responder d i
  generalize ((responder K).step d i).1 = reply at heffect
  generalize ((responder K).step d i).2 = d' at heffect ⊢
  cases heffect with
  | version hr _ => exact absurd hr hi
  | _ => exact h

/-- The device has no primary session, and nobody is about to become it before the session asks. -/
structure FirstTurn (w : Surroundings K) (s : Peer K) : Prop where
  fresh : FreshUnlessBound s.shared.state
  unbound : s.shared.state.primarySession = none
  first : ∀ i ∈ (w.schedule s.shared.own.length).others,
    ¬ IsRequest K i.request .getTargetTspVersion

theorem FirstTurn.atTurn {s : Peer K} (h : FirstTurn w s) :
    FreshUnlessBound (s.atTurn w) ∧ (s.atTurn w).primarySession = none :=
  ⟨fresh_atTurn w h.fresh, (responder K).invariant_history_of_inputs
    (fun _ d => d.primarySession = none) (fun _ _ _ hi hd => primarySession_of_unbound hd hi)
    h.unbound h.first⟩

/-- The device is not locked. -/
def Unlocked (settings : Settings K) : Prop :=
  settings.currentTspState = K.tspState .configUnlocked

/-- The context after the first version request. -/
theorem getVersion_of_unbound {ctx : DeviceContext K} (h : ctx.sessionIdPrimaryValid = false)
    (env : Environment) :
    cxlTspDeviceGetVersion env ctx owner =
      (⟨1, K.messageVersion10⟩, libcxltspSetPrimarySessionId
        (libcxltspInitializeDeviceContext (DeviceContext.zeroed K)) owner) := by
  simp [cxlTspDeviceGetVersion, libcxltspInitializeDeviceContext, libcxltspInitializeSessionId,
    libcxltspSetPrimarySessionId, h, DeviceContext.zeroed]

theorem ready_of_first (owner : UInt32) (keys : PskTable K) :
    Ready owner Unlocked owner (⟨libcxltspSetPrimarySessionId
      (libcxltspInitializeDeviceContext (DeviceContext.zeroed K)) owner, keys⟩ : State K) := by
  have hprimary : (⟨libcxltspSetPrimarySessionId (libcxltspInitializeDeviceContext
      (DeviceContext.zeroed K)) owner, keys⟩ : State K).primarySession = some owner := rfl
  refine ⟨⟨fun h => ?_, hprimary, K.tspState_configUnlocked.symm⟩, ⟨rfl, rfl, rfl, rfl, rfl⟩, ?_⟩
  · cases h
  · rw [getSessionType_of_primary hprimary]
    decide

/-- The first session to ask for the version is the primary one. -/
theorem triple_firstVersion (hsmall : SmallResponses K) :
    Flow.Triple (fun s => FirstTurn w s ∧ s.draws = k ∧ s.sessions = sessions)
      (callStatus (cxlTspGetVersion K ((peerHost w).sendReceive owner)))
      (fun u s => u = () ∧ Standing (Ready owner Unlocked owner) k sessions s)
      (fun _ _ => False) := by
  refine triple_call w owner (getVersionMessage K) (errorMessageMaxSize K) (fun _ h => h.2)
    fun s hs => ?_
  obtain ⟨-, hunbound⟩ := hs.1.atTurn
  have hvalid : (s.atTurn w).context.sessionIdPrimaryValid = false := by
    simpa [State.primarySession] using hunbound
  refine ⟨_, _, step_getVersion _, ?_, ?_, fun s' hsend => ?_⟩
  · rw [length_message]
    exact hsmall.add_le (by simp) _
  · rw [getVersion_of_unbound hvalid]
    exact ready_of_first owner _
  · rw [getVersion_of_unbound hvalid] at hsend
    exact getVersion_of_response hsend

/-- A session that was opened with a pre-shared key becomes a secondary one. -/
theorem triple_secondaryVersion (hquiet : QuietSessions w owner) (hsmall : SmallResponses K)
    {index : Fin secondSessionCount} (hpsk : sessions sessionId = ⟨true, UInt8.ofNat index⟩) :
    Flow.Triple (Standing (Ready owner Φ owner) k sessions)
      (callStatus (cxlTspGetVersion K ((peerHost w).sendReceive sessionId)))
      (fun u s => u = () ∧ Standing (Ready owner Φ sessionId) k sessions s)
      (fun _ _ => False) := by
  refine triple_call w sessionId (getVersionMessage K) (errorMessageMaxSize K) (fun _ h => h.kept)
    fun s hs => ?_
  have hturn := hs.atTurn hquiet
  have hslot : (UInt8.ofNat index).toNat = index :=
    UInt8.toNat_ofNat_of_lt' (index.isLt.trans (by decide))
  have hversion : cxlTspDeviceGetVersion (sessions sessionId) (s.atTurn w).context sessionId =
      (⟨1, K.messageVersion10⟩,
        libcxltspSetSecondarySessionId (s.atTurn w).context sessionId index) := by
    have hinit := hturn.initialized
    simp [cxlTspDeviceGetVersion, initializeDeviceContext_of_bound hinit.bound,
      libcxltspInitializeSessionId, hinit.bound, hpsk, hslot, libcxltspSetSecondarySessionId,
      hinit.version, hinit.count]
  -- the request neither sets nor locks, and it binds its session to the slot of the key
  have hholds : Holds owner Φ ((responder K).step (s.atTurn w)
      ⟨some sessionId, getVersionMessage K, sessions sessionId⟩).2 :=
    hturn.holds.step fun _ => unchanging_of_opCode (by decide) (by decide) _
  have hinit := hturn.initialized.step
    ⟨some sessionId, getVersionMessage K, sessions sessionId⟩
  rw [step_getVersion, hversion] at hholds hinit
  refine ⟨_, _, step_getVersion _, ?_, ?_, fun s' hsend => ?_⟩
  · rw [length_message]
    exact hsmall.add_le (by simp) _
  · rw [hversion]
    refine ⟨hholds, hinit, ?_⟩
    have hsecondary := (isSessionSecondary_iff _ sessionId).2
      ⟨index, (boundTo_set_iff (s.atTurn w).context sessionId sessionId index index).2
        (.inl ⟨rfl, rfl⟩)⟩
    simp only [libcxltspGetSessionType, hsecondary, if_true]
    split <;> decide
  · rw [hversion] at hsend
    exact getVersion_of_response hsend

end Binding

/-! ## A secondary session -/

/-- libspdm opens a session when both sides have the same key for its hint, and closes it. -/
structure OpensSessions (setup : SessionSetup K) (w : Surroundings K) : Prop where
  start : ∀ (index : Fin secondSessionCount) (requester responder : PskTable K),
    requester.get index = responder.get index →
      ∃ sessionId, w.start requester responder (setup.pskHint index) =
        .ok (sessionId, ⟨true, UInt8.ofNat index⟩)
  stop : ∀ sessionId, w.stop sessionId = .ok ()

section Secondary

variable {setup : SessionSetup K} {w : Surroundings K} {owner sessionId : UInt32}
  {Φ : Settings K → Prop} {k : Nat} {sessions : UInt32 → Environment} {table : PskTable K}
  {c : DeviceConfiguration}

/-- A primary or secondary session may read the device as long as it is there. -/
theorem Ready.toOwner {d : State K} (h : Ready owner Φ sessionId d) : Ready owner Φ owner d where
  holds := h.holds
  initialized := h.initialized
  privileged := by
    rw [getSessionType_of_primary h.holds.primary]
    decide

theorem triple_processSecondary (hquiet : QuietSessions w owner) (hsmall : SmallResponses K)
    (hflags : K.FlagsApart) (hlayout : MineLayout K)
    (hfuel : configurationReportStructSize.toNat < setup.fuel)
    (hvalid : Requester.cxlTspValidateConfigruation K c = true)
    (hreadable : ∀ settings, Φ settings → Readable c (K.tspState .configLocked) settings)
    {index : Fin secondSessionCount} (hpsk : sessions sessionId = ⟨true, UInt8.ofNat index⟩)
    (R : PskTable K → Prop) :
    Flow.Triple (fun s => Standing (Ready owner Φ owner) k sessions s.1 ∧ R s.2)
      (processSessionMessageWith setup (peerHost w) (fun _ => pure ()) sessionId .secondary)
      (fun _ s => Standing (Ready owner Φ sessionId) k sessions s.1 ∧ R s.2)
      (fun _ _ => False) := by
  have hopen : IsOpen K (K.tspState .configLocked) := .inr rfl
  have hopen' : ∀ settings, Φ settings → IsOpen K settings.currentTspState := fun settings h =>
    .inr (hreadable settings h).currentTspState
  have hlocked : ∀ settings, Φ settings → settings.currentTspState = K.tspState .configLocked :=
    fun settings h => (hreadable settings h).currentTspState
  refine ((triple_secondaryVersion hquiet hsmall hpsk).framed R).mapError.bind_fact
    fun _ _ => ?_
  refine ((triple_capabilities hquiet hflags _).framed R).mapError.bind_fact fun _ _ => ?_
  refine ((triple_readConfiguration hquiet hopen hvalid hreadable).framed R).mapError.bind_fact
    fun _ _ => ?_
  refine ((triple_readReport hquiet hopen' hfuel).framed R).bind_fact fun _ _ => ?_
  refine (Flow.Triple.skip rfl).bind fun _ => ?_
  refine ((triple_readState hquiet hopen hreadable).framed R).mapError.bind_fact fun _ _ => ?_
  refine ((triple_teState hquiet hsmall hlayout hlocked 0x1).framed R).mapError.bind_fact
    fun _ _ => ?_
  refine ((triple_teState hquiet hsmall hlayout hlocked 0x0).framed R).mapError.bind_fact
    fun _ _ => ?_
  refine (Flow.Triple.skip rfl).bind fun _ => ?_
  exact Flow.Triple.pure fun _ h => h

/-- The sessions that libspdm has may have changed. -/
def StandingAny (P : State K → Prop) (k : Nat) (s : Peer K) : Prop :=
  ∃ sessions, Standing P k sessions s

/-- A secondary session for whose slot both sides have the same key runs to its end. -/
theorem triple_second (hquiet : QuietSessions w owner) (hsmall : SmallResponses K)
    (hflags : K.FlagsApart) (hlayout : MineLayout K)
    (hfuel : configurationReportStructSize.toNat < setup.fuel) (hlibspdm : OpensSessions setup w)
    (hvalid : Requester.cxlTspValidateConfigruation K c = true)
    (hreadable : ∀ settings, Φ settings → Readable c (K.tspState .configLocked) settings)
    {index : Fin secondSessionCount}
    (hkey : ∀ settings, Φ settings → table.get index = settings.secondSessionPsk.get index) :
    Flow.Triple (fun s => StandingAny (Ready owner Φ owner) k s.1 ∧ s.2 = table)
      (doCxlTsp2ndSessionViaSpdm setup (peerHost w) index)
      (fun _ s => StandingAny (Ready owner Φ owner) k s.1 ∧ s.2 = table) (fun _ _ => False) := by
  have hstart : Flow.Triple (fun s => StandingAny (Ready owner Φ owner) k s.1 ∧ s.2 = table)
      (startSession (peerHost w) (setup.pskHint index))
      (fun sessionId s => ∃ sessions : UInt32 → Environment,
        sessions sessionId = ⟨true, UInt8.ofNat index⟩ ∧
        Standing (Ready owner Φ owner) k sessions s.1 ∧ s.2 = table) (fun _ _ => False) := by
    apply Flow.Triple.of_total
    rintro ⟨s, table'⟩ ⟨⟨sessions, hs⟩, rfl⟩
    obtain ⟨sessionId, hopened⟩ := hlibspdm.start index table' s.shared.state.secondSessionPsk
      (hkey _ hs.shared.state.holds.settings)
    have hsessions : (if sessionId = sessionId then
        (⟨true, UInt8.ofNat index⟩ : Environment) else s.sessions sessionId) =
        ⟨true, UInt8.ofNat index⟩ := if_pos rfl
    refine ⟨sessionId, ({ s with sessions := fun id =>
      if id = sessionId then ⟨true, UInt8.ofNat index⟩ else s.sessions id }, table'), ?_, _,
      hsessions, ⟨hs.shared, hs.draws, rfl⟩, rfl⟩
    simp only [startSession, peerHost, hopened]
  refine hstart.bind fun sessionId => Flow.Triple.exists_pre fun sessions =>
    Flow.Triple.pull fun hpsk => ?_
  refine (triple_processSecondary hquiet hsmall hflags hlayout hfuel hvalid hreadable hpsk
    (· = table)).bind fun _ => ?_
  rintro ⟨s, table'⟩ ⟨hs, rfl⟩
  have hstopped : (stopSession (peerHost w) sessionId).beside (s, table') =
      (.ok (), (s, table')) := by
    simp only [Flow.beside, stopSession, peerHost, hlibspdm.stop]
  rw [hstopped]
  exact ⟨⟨sessions, ⟨trivial, hs.shared.state.toOwner⟩, hs.draws, hs.sessions⟩, rfl⟩

end Secondary

/-! ## The one key -/

/-- The sample device supports one secondary session. -/
def firstSlot : Fin secondSessionCount := ⟨0, by decide⟩

/-- The session information with one key. -/
def oneKeyInfo (key : Psk K) : Device2ndSessionInfo K.secondSessionKeySize :=
  { Device2ndSessionInfo.zeroed K.secondSessionKeySize with
    configurationValidityFlags := 0x1
    secondarySessionPskKeyMaterial := Slots.setAt
      (Device2ndSessionInfo.zeroed K.secondSessionKeySize).secondarySessionPskKeyMaterial firstSlot
      key }

theorem get_oneKeyInfo (key : Psk K) :
    (oneKeyInfo key).secondarySessionPskKeyMaterial.get firstSlot = key := by
  rw [oneKeyInfo, Slots.get_setAt, if_pos rfl]

theorem flagged_iff_first {info : Device2ndSessionInfo K.secondSessionKeySize}
    (h : info.configurationValidityFlags = 0x1) (slot : Fin secondSessionCount) :
    Flagged info slot ↔ slot = firstSlot := by
  rw [Flagged, h]
  revert slot
  decide

/-- Slots that are not flagged get no key. -/
theorem drawKeys_of_not {σ : Type} {host : SessionHost K σ} {sessionId : UInt32}
    {info : Device2ndSessionInfo K.secondSessionKeySize} {slots : List (Fin secondSessionCount)}
    (h : ∀ slot ∈ slots, ¬ Flagged info slot) : drawKeys host sessionId info slots = pure info := by
  induction slots with
  | nil => rfl
  | cons slot rest ih =>
      rw [List.forall_mem_cons] at h
      rw [drawKeys, if_neg h.1, ih h.2]

section Primary

variable {setup : SessionSetup K} {w : Surroundings K} {owner : UInt32} {k : Nat}
  {sessions : UInt32 → Environment} {table : PskTable K} {key : Psk K}

/-- One random number is drawn, and it is the key of the first slot. -/
theorem sessionInfo_sample (hflags : K.FlagsApart) (w : Surroundings K) (owner : UInt32)
    (s : Peer K) (table : PskTable K) :
    sessionInfo (peerHost w) owner (sampleCapabilities K) (s, table) =
      match w.random s.draws K.secondSessionKeySize with
      | some key =>
          (.ok (oneKeyInfo key), ({ s with draws := s.draws + 1 }, Slots.setAt table firstSlot key))
      | none => (.error w.statusLowEntropy.val, ({ s with draws := s.draws + 1 }, table)) := by
  have hnumber : validityFlags (sampleCapabilities K).numberOfSecondarySessions = some 0x1 := rfl
  have hslots : List.finRange secondSessionCount =
      firstSlot :: (List.finRange secondSessionCount).tail := by decide
  have htail : ∀ slot ∈ (List.finRange secondSessionCount).tail, slot ≠ firstSlot := by decide
  have hfirst : Flagged { Device2ndSessionInfo.zeroed K.secondSessionKeySize with
      configurationValidityFlags := 0x1 } firstSlot := (flagged_iff_first rfl _).2 rfl
  have hrest : ∀ key : Psk K, drawKeys (peerHost w) owner (oneKeyInfo key)
      (List.finRange secondSessionCount).tail = pure (oneKeyInfo key) := fun key =>
    drawKeys_of_not fun slot hslot h => htail slot hslot ((flagged_iff_first rfl slot).1 h)
  rw [sessionInfo, if_pos (supportsSecondarySessions_sample hflags), hnumber]
  simp only
  rw [hslots, drawKeys, if_pos hfirst]
  cases hdraw : w.random s.draws K.secondSessionKeySize with
  | none =>
      have hcall : ((peerHost w).session owner).randomNumber K.secondSessionKeySize s =
          (.error w.statusLowEntropy.val, { s with draws := s.draws + 1 }) := by
        simp [Host.randomNumber, SessionHost.session, peerHost, hdraw]
      exact Flow.bind_of_error (Flow.beside_of_error hcall table) _
  | some key =>
      have hcall : ((peerHost w).session owner).randomNumber K.secondSessionKeySize s =
          (.ok key, { s with draws := s.draws + 1 }) := by
        simp [Host.randomNumber, SessionHost.session, peerHost, hdraw]
      refine (Flow.bind_of_ok (Flow.beside_of_ok hcall table) _).trans ?_
      refine (Flow.bind_of_ok rfl _).trans ?_
      exact congrFun (hrest key) _

/-- The first block of the session. -/
theorem triple_configure_sample (hquiet : QuietSessions w owner) (hsmall : SmallResponses K)
    (hflags : K.FlagsApart) (hrandom : w.random k K.secondSessionKeySize = some key) :
    Flow.Triple (fun s => Standing (Ready owner Unlocked owner) k sessions s.1 ∧ s.2 = table)
      (configure (peerHost w) owner (sampleCapabilities K))
      (fun info s => info = oneKeyInfo key ∧
        Standing (Ready owner (SetUnlocked ⟨sessionConfiguration K, oneKeyInfo key⟩) owner) (k + 1)
          sessions s.1 ∧ s.2 = Slots.setAt table firstSlot key) (fun _ _ => False) := by
  have hinfo : Flow.Triple
      (fun s => Standing (Ready owner Unlocked owner) k sessions s.1 ∧ s.2 = table)
      (sessionInfo (peerHost w) owner (sampleCapabilities K))
      (fun info s => info = oneKeyInfo key ∧
        Standing (Ready owner Unlocked owner) (k + 1) sessions s.1 ∧
          s.2 = Slots.setAt table firstSlot key) (fun _ _ => False) := by
    rintro ⟨s, table'⟩ ⟨hs, rfl⟩
    rw [sessionInfo_sample hflags, hs.draws, hrandom]
    exact ⟨rfl, ⟨hs.shared, rfl, hs.sessions⟩, rfl⟩
  refine hinfo.bind_fact fun info hi => ?_
  subst hi
  have hvalid := validateConfiguration_session hflags
    (show (oneKeyInfo key).configurationValidityFlags = 0x1 from rfl)
  refine ((triple_set hquiet hsmall hvalid fun _ h => h).framed
    (· = Slots.setAt table firstSlot key)).bind_fact fun _ _ => ?_
  exact Flow.Triple.pure fun _ h => ⟨rfl, h⟩

/-- The rest of the session. -/
theorem triple_processConfigured_sample (hquiet : QuietSessions w owner)
    (hsmall : SmallResponses K) (hflags : K.FlagsApart) (hlayout : MineLayout K)
    (hfuel : configurationReportStructSize.toNat < setup.fuel) (hlibspdm : OpensSessions setup w)
    (hkey : table.get firstSlot = key) :
    Flow.Triple
      (fun s => Standing (Ready owner (SetUnlocked ⟨sessionConfiguration K, oneKeyInfo key⟩) owner)
        k sessions s.1 ∧ s.2 = table)
      (processConfigured setup (peerHost w) (doCxlTsp2ndSessionViaSpdm setup (peerHost w)) owner
        true (sampleCapabilities K) (oneKeyInfo key))
      (fun locals s => locals = ⟨sampleCapabilities K,
          some ⟨sessionConfiguration K, K.tspState .configUnlocked⟩,
          some (setup.stack.store 0 sampleReport, configurationReportStructSize.toUInt32),
          some (K.tspState .configLocked)⟩ ∧
        StandingAny (Ready owner (SetLocked ⟨sessionConfiguration K, oneKeyInfo key⟩) owner) k s.1 ∧
        s.2 = table) (fun _ _ => False) := by
  have hflag : (oneKeyInfo key).configurationValidityFlags = 0x1 := rfl
  have hvalid := requester_accepts_of_responder_accepts (validateConfiguration_session hflags hflag)
  -- what the settings are before and after the lock
  have hset : ∀ settings, SetUnlocked ⟨sessionConfiguration K, oneKeyInfo key⟩ settings →
      Readable (sessionConfiguration K) (K.tspState .configUnlocked) settings :=
    fun settings h => ⟨h.1.1, h.2⟩
  have hlocked : ∀ settings, SetLocked ⟨sessionConfiguration K, oneKeyInfo key⟩ settings →
      Readable (sessionConfiguration K) (K.tspState .configLocked) settings :=
    fun settings h => ⟨h.1.1, h.2⟩
  have hsame : ∀ settings, SetLocked ⟨sessionConfiguration K, oneKeyInfo key⟩ settings →
      table.get firstSlot = settings.secondSessionPsk.get firstSlot := by
    intro settings h
    have hdevice := h.1.2 firstSlot ((flagged_iff_first hflag _).2 rfl)
    rw [hkey, hdevice, get_oneKeyInfo]
  refine ((triple_readConfiguration hquiet (.inl rfl) hvalid hset).framed
    (· = table)).mapError.bind_fact fun current hcurrent => ?_
  refine ((triple_readReport hquiet (fun _ h => .inl h.2) hfuel).framed (· = table)).bind_fact
    fun report hreport => ?_
  refine ((triple_lock hquiet hsmall).framed (· = table)).mapError.bind_fact fun _ _ => ?_
  refine ((triple_readState hquiet (.inr rfl) hlocked).framed (· = table)).mapError.bind_fact
    fun state hstate => ?_
  refine ((triple_teState hquiet hsmall hlayout (fun _ h => h.2) 0x1).framed
    (· = table)).mapError.bind_fact fun _ _ => ?_
  refine ((triple_teState hquiet hsmall hlayout (fun _ h => h.2) 0x0).framed
    (· = table)).mapError.bind_fact fun _ _ => ?_
  have hloop : Flow.Triple
      (fun s => StandingAny (Ready owner (SetLocked ⟨sessionConfiguration K, oneKeyInfo key⟩) owner)
        k s.1 ∧ s.2 = table)
      (forEachSecondary (doCxlTsp2ndSessionViaSpdm setup (peerHost w)) (oneKeyInfo key))
      (fun _ s => StandingAny
        (Ready owner (SetLocked ⟨sessionConfiguration K, oneKeyInfo key⟩) owner) k s.1 ∧
          s.2 = table) (fun _ _ => False) := by
    refine Flow.Triple.forEach
      (P := fun _ (s : Peer K × PskTable K) => StandingAny
        (Ready owner (SetLocked ⟨sessionConfiguration K, oneKeyInfo key⟩) owner) k s.1 ∧
          s.2 = table) fun _ index _ _ => ?_
    split
    · next hindex =>
        obtain rfl := (flagged_iff_first hflag index).1 hindex
        exact triple_second hquiet hsmall hflags hlayout hfuel hlibspdm hvalid hlocked hsame
    · exact Flow.Triple.pure fun _ h => h
  refine (hloop.when.imp (fun _ h => ⟨⟨sessions, h.1⟩, h.2⟩) (fun _ _ h => h)
    fun _ _ h => h).bind fun _ => ?_
  exact Flow.Triple.pure fun s hs => ⟨by rw [hcurrent, hreport, hstate], hs⟩

/-- The primary session runs to its end. -/
theorem triple_primary (table : PskTable K) (hquiet : QuietSessions w owner)
    (hsmall : SmallResponses K) (hflags : K.FlagsApart) (hlayout : MineLayout K)
    (hfuel : configurationReportStructSize.toNat < setup.fuel) (hlibspdm : OpensSessions setup w)
    (hrandom : w.random k K.secondSessionKeySize = some key) :
    Flow.Triple (fun s => (FirstTurn w s.1 ∧ s.1.draws = k ∧ s.1.sessions = sessions) ∧ s.2 = table)
      (cxlTspProcessSessionMessage setup (peerHost w) owner .primary)
      (fun locals s => locals = ⟨sampleCapabilities K,
          some ⟨sessionConfiguration K, K.tspState .configUnlocked⟩,
          some (setup.stack.store 0 sampleReport, configurationReportStructSize.toUInt32),
          some (K.tspState .configLocked)⟩ ∧
        StandingAny (Ready owner (SetLocked ⟨sessionConfiguration K, oneKeyInfo key⟩) owner) (k + 1)
          s.1 ∧ s.2 = Slots.setAt table firstSlot key) (fun _ _ => False) := by
  refine ((triple_firstVersion hsmall).framed (· = table)).mapError.bind_fact fun _ _ => ?_
  refine ((triple_capabilities hquiet hflags _).framed (· = table)).mapError.bind_fact
    fun capabilities hcapabilities => ?_
  subst hcapabilities
  refine (triple_configure_sample hquiet hsmall hflags hrandom).mapError.bind_fact
    fun info hinfo => ?_
  subst hinfo
  exact triple_processConfigured_sample hquiet hsmall hflags hlayout hfuel hlibspdm
    (by rw [Slots.get_setAt, if_pos rfl])

/-- Without a random number the session gives up before it has set anything. -/
theorem triple_lowEntropy (setup : SessionSetup K) (table : PskTable K)
    (hquiet : QuietSessions w owner) (hsmall : SmallResponses K) (hflags : K.FlagsApart)
    (hrandom : w.random k K.secondSessionKeySize = none) :
    Flow.Triple (fun s => (FirstTurn w s.1 ∧ s.1.draws = k ∧ s.1.sessions = sessions) ∧ s.2 = table)
      (cxlTspProcessSessionMessage setup (peerHost w) owner .primary) (fun _ _ => False)
      (fun e s => e = .returned w.statusLowEntropy.val ∧
        Ready owner Unlocked owner s.1.shared.state ∧ s.2 = table) := by
  refine ((triple_firstVersion hsmall).framed (· = table)).certain.mapError.bind_fact fun _ _ => ?_
  refine ((triple_capabilities hquiet hflags _).framed (· = table)).certain.mapError.bind_fact
    fun capabilities hcapabilities => ?_
  subst hcapabilities
  have hconfigure : Flow.Triple
      (fun s => Standing (Ready owner Unlocked owner) k sessions s.1 ∧ s.2 = table)
      (configure (peerHost w) owner (sampleCapabilities K)) (fun _ _ => False)
      (fun e s => e = w.statusLowEntropy.val ∧ Ready owner Unlocked owner s.1.shared.state ∧
        s.2 = table) := by
    rintro ⟨s, table'⟩ ⟨hs, rfl⟩
    have hinfo := sessionInfo_sample hflags w owner s table'
    rw [hs.draws, hrandom] at hinfo
    rw [configure, Flow.bind_of_error hinfo]
    exact ⟨rfl, hs.shared.state, rfl⟩
  refine (Flow.Triple.mapError (hconfigure.imp (fun _ h => h) (fun _ _ h => h) ?_)).bind
    fun _ _ h => h.elim
  rintro e s ⟨rfl, hs⟩
  exact ⟨rfl, hs⟩

/-- **A primary session that nobody gets in the way of succeeds if there is a key for it to hand
out.** On a device without a primary session, whatever other sessions ask for besides: with a random
number the session and the secondary session that it opens run to their ends, the device is locked
with the session's configuration, the two sides have the number as the key of the secondary session,
and the report of the device has arrived. Without one it returns `LIBSPDM_STATUS_LOW_ENTROPY` and
the device stays its own: it is not locked, no session becomes the primary one in its place, and
none can change a setting. -/
theorem tspSession_completes (setup : SessionSetup K) (w : Surroundings K) (sessionId : UInt32)
    (hquiet : QuietSessions w sessionId) (hsmall : SmallResponses K) (hflags : K.FlagsApart)
    (hlayout : MineLayout K) (hfuel : configurationReportStructSize.toNat < setup.fuel)
    (hlibspdm : OpensSessions setup w) (s : Peer K) (hfirst : FirstTurn w s) (table : PskTable K) :
    (∀ key, w.random s.draws K.secondSessionKeySize = some key →
      ∃ locals s', cxlTspProcessSessionMessage setup (peerHost w) sessionId .primary (s, table) =
          (.ok locals, (s', Slots.setAt table firstSlot key)) ∧
        LockedAsAgreed sessionId locals (Slots.setAt table firstSlot key) s'.shared.state ∧
        s'.shared.state.secondSessionPsk.get firstSlot = key ∧
        locals.configurationReport =
          some (setup.stack.store 0 sampleReport, configurationReportStructSize.toUInt32)) ∧
    (w.random s.draws K.secondSessionKeySize = none →
      ∃ s', cxlTspProcessSessionMessage setup (peerHost w) sessionId .primary (s, table) =
          (.error (.returned w.statusLowEntropy.val), (s', table)) ∧
        s'.shared.state.context.currentTspState = K.tspState .configUnlocked ∧
        ∀ is, (∀ i ∈ is, i.session ≠ some sessionId) →
          ((responder K).after s'.shared.state is).primarySession = some sessionId ∧
          ((responder K).after s'.shared.state is).settings = s'.shared.state.settings) := by
  constructor
  · intro key hrandom
    obtain ⟨locals, ⟨s', table'⟩, hrun, rfl, ⟨sessions, hstanding⟩, rfl⟩ :=
      (triple_primary table hquiet hsmall hflags hlayout hfuel hlibspdm hrandom).total
        (s := (s, table)) ⟨⟨hfirst, rfl, rfl⟩, rfl⟩
    obtain ⟨⟨hconfiguration, hkeys⟩, hlocked⟩ := hstanding.shared.state.holds.settings
    have hfirstKey : s'.shared.state.secondSessionPsk.get firstSlot = key :=
      (hkeys firstSlot ((flagged_iff_first rfl _).2 rfl)).trans (get_oneKeyInfo key)
    refine ⟨_, s', hrun, ?_, hfirstKey, rfl⟩
    exact
      { primary := hstanding.shared.state.holds.primary
        locked := hlocked
        configuration := hconfiguration
        shown := rfl
        shownLocked := rfl
        keys := fun slot huse => by
          obtain rfl : slot = firstSlot := Fin.ext (Nat.lt_one_iff.1 huse.2)
          rw [hfirstKey, Slots.get_setAt, if_pos rfl] }
  · intro hrandom
    have hpost := triple_lowEntropy setup table hquiet hsmall hflags hrandom
      (s, table) ⟨⟨hfirst, rfl, rfl⟩, rfl⟩
    rcases hrun : cxlTspProcessSessionMessage setup (peerHost w) sessionId .primary (s, table) with
      ⟨_ | locals, s', table'⟩
    · rw [hrun] at hpost
      obtain ⟨rfl, hready, rfl⟩ := hpost
      refine ⟨s', rfl, hready.holds.settings, fun is his => ?_⟩
      have hafter : Holds sessionId (· = s'.shared.state.settings)
          ((responder K).after s'.shared.state is) := by
        refine (responder K).invariant_history_of_inputs
          (fun _ d => Holds sessionId (· = s'.shared.state.settings) d)
          (fun _ _ _ hi hd => hd.step fun heq => absurd heq hi) ?_ his
        exact ⟨hready.holds.fresh, hready.holds.primary, rfl⟩
      exact ⟨hafter.primary, hafter.settings⟩
    · rw [hrun] at hpost
      exact hpost.elim

end Primary

/-! ## A session with an observer -/

/-- A hint for each slot. -/
def samplePskHint (index : Fin secondSessionCount) : Bytes := [UInt8.ofNat index]

/-- libspdm opens the session of a hint when the two keys of its slot are equal. -/
def sampleStart : PskStart .teStateSample := fun requester responder pskHint =>
  match (List.finRange secondSessionCount).find? fun index => samplePskHint index = pskHint with
  | none => .error ⟨.errorPeer, rfl⟩
  | some index =>
      if requester.get index = responder.get index then
        .ok (0x100, ⟨true, UInt8.ofNat index⟩)
      else .error ⟨.errorPeer, rfl⟩

/-- Before each request somebody else asks for the capabilities. There is one random number. -/
def sampleSurroundings : Surroundings .teStateSample where
  schedule _ :=
    { others := [⟨some 9, getCapabilitiesMessage .teStateSample, ⟨false, 0⟩⟩]
      env := List.replicate 0x1200 0xAA }
  random k n := if k = 0 then some (Vector.replicate n 7) else none
  statusLowEntropy := ⟨.errorPeer, rfl⟩
  start := sampleStart
  stop _ := .ok ()

def sampleSetup : SessionSetup .teStateSample where
  initiatorSuppliedEntropy := 0x10
  invalidStateLocal := .errorPeer
  memoryRange startingAddress length :=
    ⟨(Packed.u64.encode startingAddress ++ Packed.u64.encode length).toArray, rfl⟩
  pskHint := samplePskHint
  stack := fun _ => 0xAA
  fuel := 0x1001

/-- The device before any request, after `k` random numbers. -/
def samplePeer (k : Nat) : Peer .teStateSample where
  shared := Shared.start (State.zeroed _)
  draws := k
  sessions _ := ⟨false, 0⟩

theorem quietSessions_sample : QuietSessions sampleSurroundings 1 := by
  intro n i hi
  rw [List.mem_singleton.1 hi]
  refine ⟨by decide, fun h => ?_⟩
  cases h.2

theorem smallResponses_sample : SmallResponses CxlTsp.teStateSample := by
  unfold SmallResponses RoomFor
  decide

theorem flagsApart_sample : CxlTsp.teStateSample.FlagsApart where
  enable := ⟨by decide, by decide, by decide, by decide⟩
  support := ⟨by decide, by decide, by decide, by decide⟩
  algorithm := ⟨by decide, by decide⟩
  explicitIb := by decide
  explicitOob := by decide
  granularity := ⟨by decide, by decide⟩
  secondarySessions := by decide

theorem find_samplePskHint (index : Fin secondSessionCount) :
    (List.finRange secondSessionCount).find?
      (fun slot => samplePskHint slot = samplePskHint index) = some index := by
  revert index
  decide

theorem opensSessions_sample : OpensSessions sampleSetup sampleSurroundings where
  start index requester responder hkey := by
    refine ⟨0x100, ?_⟩
    show sampleStart requester responder (samplePskHint index) = _
    rw [sampleStart, find_samplePskHint]
    exact if_pos hkey
  stop _ := rfl

theorem firstTurn_sample (k : Nat) : FirstTurn sampleSurroundings (samplePeer k) where
  fresh := fresh_zeroed _
  unbound := rfl
  first i hi := by
    rw [List.mem_singleton.1 hi]
    simp [IsRequest, getCapabilitiesMessage]

theorem tspSession_completes_sample :
    (∃ locals s' table', cxlTspProcessSessionMessage sampleSetup (peerHost sampleSurroundings) 1
        .primary (samplePeer 0, Vector.replicate _ (zeroKey _)) = (.ok locals, (s', table')) ∧
      s'.shared.state.secondSessionPsk.get firstSlot = Vector.replicate _ 7) ∧
    ∃ s', cxlTspProcessSessionMessage sampleSetup (peerHost sampleSurroundings) 1
        .primary (samplePeer 1, Vector.replicate _ (zeroKey _)) =
      (.error (.returned .errorPeer), (s', Vector.replicate _ (zeroKey _))) := by
  have hcompletes := fun k => tspSession_completes sampleSetup sampleSurroundings 1
    quietSessions_sample smallResponses_sample flagsApart_sample (fun _ => rfl) (by decide)
    opensSessions_sample (samplePeer k) (firstTurn_sample k) (Vector.replicate _ (zeroKey _))
  obtain ⟨locals, s', hrun, -, hkey, -⟩ := (hcompletes 0).1 (Vector.replicate _ 7) rfl
  obtain ⟨s'', hlow, -⟩ := (hcompletes 1).2 rfl
  exact ⟨⟨locals, s', _, hrun, hkey⟩, s'', hlow⟩

/-- The session of the sample has locked its device, also for the session that it has opened. -/
theorem tspSession_agreement_sample :
    OtherSessions sampleSurroundings 1 ∧
    (∀ n, Oversized .teStateSample (sampleSurroundings.schedule n).env) ∧
    ∃ locals s' table', cxlTspProcessSessionMessage sampleSetup (peerHost sampleSurroundings) 1
        .primary (samplePeer 0, Vector.replicate _ (zeroKey _)) = (.ok locals, (s', table')) ∧
      LockedAsAgreed 1 locals table' s'.shared.state ∧
      ((responder _).after s'.shared.state
        [⟨some 0x100, lockConfigurationMessage .teStateSample, ⟨true, 0⟩⟩]).settings =
          s'.shared.state.settings := by
  have hothers : OtherSessions sampleSurroundings 1 := fun n i hi => (quietSessions_sample n i hi).1
  have hbuffer : ∀ n, Oversized .teStateSample (sampleSurroundings.schedule n).env := by
    intro n
    constructor
    · rw [sampleSurroundings, List.length_replicate]
      decide
    · rw [sampleSurroundings, List.length_replicate]
      decide
  have hrandom : sampleSurroundings.random 0 CxlTsp.teStateSample.secondSessionKeySize =
      some (Vector.replicate _ 7) := rfl
  obtain ⟨locals, ⟨s', table'⟩, hrun, -⟩ :=
    (triple_primary (Vector.replicate _ (zeroKey _)) quietSessions_sample smallResponses_sample
      flagsApart_sample (fun _ => rfl)
      (show configurationReportStructSize.toNat < sampleSetup.fuel by decide) opensSessions_sample
      hrandom).total (s := (samplePeer 0, Vector.replicate _ (zeroKey _)))
      ⟨⟨firstTurn_sample 0, rfl, rfl⟩, rfl⟩
  obtain ⟨hagreed, -, hfixed⟩ := tspSession_agreement sampleSetup sampleSurroundings 1 hothers
    hbuffer (samplePeer 0) s' (fresh_zeroed _) _ table' locals hrun
  exact ⟨hothers, hbuffer, locals, s', table', hrun, hagreed, (hfixed _).1⟩

end SpdmEmu.Tsp
