import SpdmEmu.Libspdm.Host
import SpdmEmu.Report.Truthful
import SpdmEmu.Run.Slots
import SpdmEmu.Tsp.Capability
import SpdmEmu.Tsp.SecondarySessions
import SpdmEmu.Tsp.TeState

/-!
# A TSP session

`cxl_tsp_process_session_message` of the requester emulator on a session of one of three types. The
primary session draws a key for each secondary session that the device supports, sets the
configuration and locks it, and then opens the secondary sessions one after the other, each with the
key it has just handed out. Primary and secondary sessions read the configuration and its report and
change the state of a memory range; a session of the third type only asks for the version and the
capabilities.

The keys are kept in `m_cxl_tsp_2nd_session_psk`, which libspdm reads when it opens a session with a
pre-shared key. It is the second component of the state here; the first is what libspdm, the
transport and the peer are in.
-/

set_option autoImplicit false

namespace SpdmEmu.Tsp

open SpdmEmu.Wire SpdmEmu.Libspdm SpdmEmu.Report SpdmEmu.Run

variable {σ : Type}

/-! ## The remaining requesters -/

/-- The request of `cxl_tsp_set_configuration`. -/
def setConfigurationMessage (K : CxlTsp) (body : SetConfiguration K.secondSessionKeySize) : Bytes :=
  K.header.encode (requestHeader K .setTargetConfiguration) ++
    K.setConfigurationRequest.encode body

/-- The request of `cxl_tsp_lock_configuration`. -/
def lockConfigurationMessage (K : CxlTsp) : Bytes :=
  K.header.encode (requestHeader K .lockTargetConfiguration) ++
    K.lockConfigurationRequest.encode ()

/-- The common shape of the two requesters whose response is a header: it arrives in a buffer for an
error message and has the size, the version and the op code of its structure. -/
def exchangeHeader (K : CxlTsp) (sendReceive : SendReceive σ) (request : Bytes) (kind : Response)
    (out : Packed Unit) : Flow σ LibspdmReturn Unit := fun link =>
  let (exchange, link) := sendReceive link request (errorMessageMaxSize K)
  let response := exchange.response
  let header := K.header.decode response
  if exchange.status.isError then (.error exchange.status, link)
  else if response.length ≠ K.header.size + out.size then (.error .invalidMsgSize, link)
  else if header.tspVersion ≠ K.messageVersion10 then (.error .invalidMsgField, link)
  else if header.opCode ≠ K.responseOpCode kind then (.error .invalidMsgField, link)
  else (.ok (), link)

/-- `cxl_tsp_set_configuration` -/
def cxlTspSetConfiguration (K : CxlTsp) (sendReceive : SendReceive σ)
    (configuration : DeviceConfiguration)
    (sessionInfo : Device2ndSessionInfo K.secondSessionKeySize) : Flow σ LibspdmReturn Unit :=
  exchangeHeader K sendReceive (setConfigurationMessage K ⟨configuration, sessionInfo⟩)
    .setTargetConfiguration K.setConfigurationResponse

/-- `cxl_tsp_lock_configuration` -/
def cxlTspLockConfiguration (K : CxlTsp) (sendReceive : SendReceive σ) :
    Flow σ LibspdmReturn Unit :=
  exchangeHeader K sendReceive (lockConfigurationMessage K) .lockTargetConfiguration
    K.lockConfigurationResponse

/-- `cxl_tsp_get_configuration` without a configuration to fill in: only the state is checked. -/
def cxlTspGetTspState (K : CxlTsp) (sendReceive : SendReceive σ) : Flow σ LibspdmReturn UInt8 :=
  fun link =>
  let (exchange, link) := sendReceive link (getConfigurationMessage K)
    (K.header.size + K.getConfigurationResponse.size)
  let response := exchange.response
  let header := K.header.decode response
  let body := K.getConfigurationResponse.decode (response.drop K.header.size)
  if exchange.status.isError then (.error exchange.status, link)
  else if response.length ≠ K.header.size + K.getConfigurationResponse.size then
    (.error .invalidMsgSize, link)
  else if header.tspVersion ≠ K.messageVersion10 then (.error .invalidMsgField, link)
  else if header.opCode ≠ K.responseOpCode .getTargetConfiguration then
    (.error .invalidMsgField, link)
  else if body.currentTspState > K.tspState .error then (.error .invalidMsgField, link)
  else (.ok body.currentTspState, link)

/-! ## What the session asks for -/

/-- The configuration of the primary session. -/
def sessionConfiguration (K : CxlTsp) : DeviceConfiguration where
  memoryEncryptionFeaturesEnable := K.featuresEnable.encryption
  memoryEncryptionAlgorithmSelect := K.algorithms.aesXts256
  teStateChangeAndAccessControlFeaturesEnable :=
    K.teFeatures.readAccessControl ||| K.teFeatures.implicitTeStateChange |||
      K.teFeatures.explicitIbTeStateChange
  explicitOobTeStateGranularity := 0
  configurationFeaturesEnable := K.configurationFeaturesLockedTargetFwUpdate
  ckidBase := 0
  numberOfCkids := 0
  explicitIbTeStateGranularityEntry :=
    #v[⟨0, 0⟩, ⟨0, 0xFF⟩, ⟨0, 0xFF⟩, ⟨0, 0xFF⟩, ⟨0, 0xFF⟩, ⟨0, 0xFF⟩, ⟨0, 0xFF⟩, ⟨0, 0xFF⟩]

/-- The device supports secondary sessions. -/
def supportsSecondarySessions (K : CxlTsp) (capabilities : DeviceCapabilities) : Bool :=
  capabilities.configurationFeaturesSupported &&& K.configurationFeaturesAdditionalSpdmSessions != 0

/-- The `switch` on `number_of_secondary_sessions`. -/
def validityFlags (numberOfSecondarySessions : UInt8) : Option UInt16 :=
  if numberOfSecondarySessions = 1 then some 0x1
  else if numberOfSecondarySessions = 2 then some 0x3
  else if numberOfSecondarySessions = 3 then some 0x7
  else if numberOfSecondarySessions = 4 then some 0xf
  else none

/-- What a session depends on besides its messages: constants of libspdm and of the standard, the
layout of a memory range, what the report buffer holds before, and the fuel of the report loop. -/
structure SessionSetup (K : CxlTsp) where
  /-- `CXL_TSP_MEMORY_ENCRYPTION_FEATURES_SUPPORT_INITIATOR_SUPPLIED_ENTROPY` -/
  initiatorSuppliedEntropy : UInt16
  /-- `LIBSPDM_STATUS_INVALID_STATE_LOCAL` -/
  invalidStateLocal : LibspdmReturn
  /-- the bytes of a `cxl_tsp_memory_range_t` -/
  memoryRange : (startingAddress length : UInt64) → MemoryRange K
  /-- `CXL_TSP_2ND_SESSION_0_PSK_HINT_STRING` and the three others -/
  pskHint : Fin secondSessionCount → Bytes
  stack : Mem
  fuel : Nat

/-- What a session runs on: a link for each session, a random number generator, and the two calls of
libspdm that open and close a session with a pre-shared key. -/
structure SessionHost (K : CxlTsp) (σ : Type) where
  sendReceive : UInt32 → SendReceive σ
  getRandomNumber : (n : Nat) → σ → Option (Vector UInt8 n) × σ
  /-- `LIBSPDM_STATUS_LOW_ENTROPY` -/
  statusLowEntropy : ErrorStatus
  /-- `libspdm_start_session`, with the key table and the hint; the session id on success -/
  startSession : Vector (Psk K) secondSessionCount → Bytes → σ → Except ErrorStatus UInt32 × σ
  /-- `libspdm_stop_session` -/
  stopSession : UInt32 → σ → Except ErrorStatus Unit × σ

/-- The host of one session. -/
def SessionHost.session {K : CxlTsp} (host : SessionHost K σ) (sessionId : UInt32) : Host σ where
  sendReceive := host.sendReceive sessionId
  getRandomNumber := host.getRandomNumber
  statusLowEntropy := host.statusLowEntropy

/-- How a session ends before its last line: it returns a status, or it is still in the loop of the
report when the fuel is spent. -/
inductive SessionEnd where
  | returned (status : LibspdmReturn)
  | running
deriving DecidableEq, Repr

/-- The local variables of a session that are printed. A session of the third type sets only the
first. -/
structure SessionLocals where
  deviceCapabilities : DeviceCapabilities
  /-- `current_device_configuration`, and `current_tsp_state` as it was read with it -/
  currentConfiguration : Option ConfigurationBody
  /-- `configuration_report_buffer` and `configuration_report_size` -/
  configurationReport : Option (Mem × UInt32)
  /-- `current_tsp_state` as it was read last -/
  currentTspState : Option UInt8

/-! ## The session -/

section Session

variable {K : CxlTsp} (setup : SessionSetup K) (host : SessionHost K σ)

/-- `m_cxl_tsp_2nd_session_psk` -/
abbrev PskTable (K : CxlTsp) := Vector (Psk K) secondSessionCount

/-- The loop that draws a key for each flagged slot, into the session information and into the key
table. -/
def drawKeys (sessionId : UInt32) (info : Device2ndSessionInfo K.secondSessionKeySize) :
    List (Fin secondSessionCount) →
      Flow (σ × PskTable K) LibspdmReturn (Device2ndSessionInfo K.secondSessionKeySize)
  | [] => pure info
  | index :: rest =>
      if Flagged info index then do
        let key ← ((host.session sessionId).randomNumber K.secondSessionKeySize).beside
        Flow.modify fun s => (s.1, Slots.setAt s.2 index key)
        drawKeys sessionId
          { info with
            secondarySessionPskKeyMaterial :=
              Slots.setAt info.secondarySessionPskKeyMaterial index key } rest
      else drawKeys sessionId info rest

/-- The secondary session information of the primary session: without support all zero. -/
def sessionInfo (sessionId : UInt32) (capabilities : DeviceCapabilities) :
    Flow (σ × PskTable K) LibspdmReturn (Device2ndSessionInfo K.secondSessionKeySize) :=
  if supportsSecondarySessions K capabilities then
    match validityFlags capabilities.numberOfSecondarySessions with
    | none => Flow.fail .invalidMsgField
    | some flags =>
        drawKeys host sessionId
          { Device2ndSessionInfo.zeroed _ with configurationValidityFlags := flags }
          (List.finRange secondSessionCount)
  else pure (Device2ndSessionInfo.zeroed _)

/-- The first block of the primary session: the keys are drawn and the configuration is set. -/
def configure (sessionId : UInt32) (capabilities : DeviceCapabilities) :
    Flow (σ × PskTable K) LibspdmReturn (Device2ndSessionInfo K.secondSessionKeySize) := do
  let info ← sessionInfo host sessionId capabilities
  (cxlTspSetConfiguration K (host.sendReceive sessionId) (sessionConfiguration K) info).beside
  return info

/-- The report of the configuration. -/
def readReport (sessionId : UInt32) : Flow σ SessionEnd (Mem × UInt32) := fun link =>
  match cxlTspGetConfigurationReport K (host.sendReceive sessionId) setup.fuel link setup.stack
    (UInt32.ofNat configurationReportMaxSize) with
  | none => (.error .running, link)
  | some result =>
      if result.status.isError then (.error (.returned result.status), result.link)
      else (.ok (result.buffer, result.reportSize), result.link)

/-- The one memory range of the session, with a state of it. -/
def setSessionTeState (sessionId : UInt32) (teState : UInt8) : Flow σ LibspdmReturn Unit :=
  callStatus fun link =>
    cxlTspSetTeState K setup.invalidStateLocal (host.sendReceive sessionId) link teState 1
      (Mem.store (fun _ => 0) 0 (setup.memoryRange 0x100000 0x10000).toList)

/-- The secondary sessions, one for each flagged slot. -/
def forEachSecondary (second : Fin secondSessionCount → Flow (σ × PskTable K) SessionEnd Unit)
    (info : Device2ndSessionInfo K.secondSessionKeySize) : Flow (σ × PskTable K) SessionEnd Unit :=
  Flow.forEach (fun index => if Flagged info index then second index else pure ())
    (List.finRange secondSessionCount)

/-- The rest of a primary or secondary session once the configuration is set. -/
def processConfigured (second : Fin secondSessionCount → Flow (σ × PskTable K) SessionEnd Unit)
    (sessionId : UInt32) (isPrimary : Bool) (capabilities : DeviceCapabilities)
    (info : Device2ndSessionInfo K.secondSessionKeySize) :
    Flow (σ × PskTable K) SessionEnd SessionLocals := do
  let link := host.sendReceive sessionId
  let current ← Flow.mapError .returned (Flow.beside (cxlTspGetConfiguration K link))
  let report ← (readReport setup host sessionId).beside
  Flow.when isPrimary ((cxlTspLockConfiguration K link).beside.mapError .returned)
  let currentTspState ← (cxlTspGetTspState K link).beside.mapError .returned
  (setSessionTeState setup host sessionId 0x1).beside.mapError .returned
  (setSessionTeState setup host sessionId 0x0).beside.mapError .returned
  Flow.when (isPrimary && supportsSecondarySessions K capabilities) (forEachSecondary second info)
  return ⟨capabilities, some current, some report, some currentTspState⟩

/-- `cxl_tsp_process_session_message`, with the call `second` for a secondary session. -/
def processSessionMessageWith
    (second : Fin secondSessionCount → Flow (σ × PskTable K) SessionEnd Unit) (sessionId : UInt32)
    (sessionType : SessionType) : Flow (σ × PskTable K) SessionEnd SessionLocals := do
  let link := host.sendReceive sessionId
  (callStatus (cxlTspGetVersion K link)).beside.mapError .returned
  let capabilities ← Flow.mapError .returned
    (Flow.beside (cxlTspGetCapabilities K setup.initiatorSuppliedEntropy link))
  match sessionType with
  | .primary => do
      let info ← (configure host sessionId capabilities).mapError .returned
      processConfigured setup host second sessionId true capabilities info
  -- only the primary session uses the secondary session information
  | .secondary =>
      processConfigured setup host second sessionId false capabilities
        (Device2ndSessionInfo.zeroed _)
  | .other => pure ⟨capabilities, none, none, none⟩

/-- `libspdm_start_session` in the 2nd session: it reads the key table. -/
def startSession (pskHint : Bytes) : Flow (σ × PskTable K) SessionEnd UInt32 := fun s =>
  match host.startSession s.2 pskHint s.1 with
  | (.ok sessionId, link) => (.ok sessionId, (link, s.2))
  | (.error status, link) => (.error (.returned status.val), (link, s.2))

/-- `libspdm_stop_session` in the 2nd session. -/
def stopSession (sessionId : UInt32) : Flow σ SessionEnd Unit := fun link =>
  match host.stopSession sessionId link with
  | (.ok (), link) => (.ok (), link)
  | (.error status, link) => (.error (.returned status.val), link)

/-- `do_cxl_tsp_2nd_session_via_spdm`. The session type of the call it makes is not the primary one,
so that call makes none back. -/
def doCxlTsp2ndSessionViaSpdm (index : Fin secondSessionCount) :
    Flow (σ × PskTable K) SessionEnd Unit := do
  let sessionId ← startSession host (setup.pskHint index)
  let _ ← processSessionMessageWith setup host (fun _ => pure ()) sessionId .secondary
  (stopSession host sessionId).beside

/-- `cxl_tsp_process_session_message` -/
def cxlTspProcessSessionMessage (sessionId : UInt32) (sessionType : SessionType) :
    Flow (σ × PskTable K) SessionEnd SessionLocals :=
  processSessionMessageWith setup host (doCxlTsp2ndSessionViaSpdm setup host) sessionId sessionType

end Session

/-! ## What an accepted response is -/

section Accepted

variable {K : CxlTsp} {sendReceive : SendReceive σ} {s s' : σ}

/-- A response that is accepted came without an error and has the op code it should have. -/
structure AcceptedResponse (K : CxlTsp) (kind : Response) (x : Exchange) : Prop where
  status : x.status.isError = false
  opCode : (K.header.decode x.response).opCode = K.responseOpCode kind

theorem of_exchangeHeader_ok {request : Bytes} {kind : Response} {out : Packed Unit}
    (h : exchangeHeader K sendReceive request kind out s = (.ok (), s')) :
    ∃ x, sendReceive s request (errorMessageMaxSize K) = (x, s') ∧ AcceptedResponse K kind x := by
  rcases hsend : sendReceive s request (errorMessageMaxSize K) with ⟨x, s₁⟩
  simp only [exchangeHeader, hsend] at h
  split_ifs at h with hstatus hlength hversion hcode
  -- of the five branches one returns success
  all_goals cases h
  exact ⟨x, rfl, by simpa using hstatus, not_not.1 hcode⟩

theorem of_cxlTspGetConfiguration_ok {current : ConfigurationBody}
    (h : cxlTspGetConfiguration K sendReceive s = (.ok current, s')) :
    ∃ x, sendReceive s (getConfigurationMessage K)
        (K.header.size + K.getConfigurationResponse.size) = (x, s') ∧
      AcceptedResponse K .getTargetConfiguration x ∧
      current = K.getConfigurationResponse.decode (x.response.drop K.header.size) := by
  rcases hsend : sendReceive s (getConfigurationMessage K)
    (K.header.size + K.getConfigurationResponse.size) with ⟨x, s₁⟩
  simp only [cxlTspGetConfiguration, hsend] at h
  split_ifs at h with hstatus hlength hversion hcode hvalid hstate
  all_goals cases h
  exact ⟨x, rfl, ⟨by simpa using hstatus, not_not.1 hcode⟩, rfl⟩

theorem of_cxlTspGetTspState_ok {current : UInt8}
    (h : cxlTspGetTspState K sendReceive s = (.ok current, s')) :
    ∃ x, sendReceive s (getConfigurationMessage K)
        (K.header.size + K.getConfigurationResponse.size) = (x, s') ∧
      AcceptedResponse K .getTargetConfiguration x ∧
      current =
        (K.getConfigurationResponse.decode (x.response.drop K.header.size)).currentTspState := by
  rcases hsend : sendReceive s (getConfigurationMessage K)
    (K.header.size + K.getConfigurationResponse.size) with ⟨x, s₁⟩
  simp only [cxlTspGetTspState, hsend] at h
  split_ifs at h with hstatus hlength hversion hcode hstate
  all_goals cases h
  exact ⟨x, rfl, ⟨by simpa using hstatus, not_not.1 hcode⟩, rfl⟩

end Accepted

/-! ## What the calls of a session keep -/

theorem cxlTspGetVersion_snd (K : CxlTsp) (sendReceive : SendReceive σ) (link : σ) :
    (cxlTspGetVersion K sendReceive link).2 =
      (sendReceive link (getVersionMessage K) (errorMessageMaxSize K)).2 := by
  simp only [cxlTspGetVersion]
  repeat' split
  all_goals rfl

section Keeps

variable {K : CxlTsp} {setup : SessionSetup K} {host : SessionHost K σ} {sessionId : UInt32}
  {A : Bytes → Prop} {Inv : σ → Prop}
  (hkeeps : ∀ s request capacity, A request → Inv s →
    Inv (host.sendReceive sessionId s request capacity).2)

include hkeeps

theorem keeps_getVersion (hok : A (getVersionMessage K)) :
    (callStatus (cxlTspGetVersion K (host.sendReceive sessionId))).Keeps Inv := by
  apply Flow.Keeps.of_run
  intro s hs
  have hnext := hkeeps s (getVersionMessage K) (errorMessageMaxSize K) hok hs
  rw [callStatus_snd, cxlTspGetVersion_snd]
  exact hnext

theorem keeps_getCapabilities (hok : A (getCapabilitiesMessage K)) :
    Flow.Keeps Inv (cxlTspGetCapabilities K setup.initiatorSuppliedEntropy
      (host.sendReceive sessionId)) := by
  apply Flow.Keeps.of_run
  intro s hs
  have hnext := hkeeps s (getCapabilitiesMessage K)
    (K.header.size + K.getCapabilitiesResponse.size) hok hs
  simp only [cxlTspGetCapabilities]
  repeat' split
  all_goals exact hnext

theorem keeps_getConfiguration (hok : A (getConfigurationMessage K)) :
    Flow.Keeps Inv (cxlTspGetConfiguration K (host.sendReceive sessionId)) := by
  apply Flow.Keeps.of_run
  intro s hs
  have hnext := hkeeps s (getConfigurationMessage K)
    (K.header.size + K.getConfigurationResponse.size) hok hs
  simp only [cxlTspGetConfiguration]
  repeat' split
  all_goals exact hnext

theorem keeps_getTspState (hok : A (getConfigurationMessage K)) :
    (cxlTspGetTspState K (host.sendReceive sessionId)).Keeps Inv := by
  apply Flow.Keeps.of_run
  intro s hs
  have hnext := hkeeps s (getConfigurationMessage K)
    (K.header.size + K.getConfigurationResponse.size) hok hs
  simp only [cxlTspGetTspState]
  repeat' split
  all_goals exact hnext

theorem keeps_setSessionTeState (hok : ∀ teState count memory,
      A (setTeStateMessage K teState count memory)) (teState : UInt8) :
    (setSessionTeState setup host sessionId teState).Keeps Inv := by
  apply Flow.Keeps.of_run
  intro s hs
  have hnext := hkeeps s (setTeStateMessage K teState 1
    (Mem.store (fun _ => 0) 0 (setup.memoryRange 0x100000 0x10000).toList))
    (errorMessageMaxSize K) (hok _ _ _) hs
  rw [setSessionTeState, callStatus_snd, cxlTspSetTeState_snd]
  exact hnext

theorem keeps_readReport (hok : ∀ offset length,
      A ((configurationReportProtocol K).request offset length)) :
    (readReport setup host sessionId).Keeps Inv := by
  apply Flow.Keeps.of_run
  intro s hs
  simp only [readReport]
  cases hrun : cxlTspGetConfigurationReport K (host.sendReceive sessionId) setup.fuel s setup.stack
    (UInt32.ofNat configurationReportMaxSize) with
  | none => exact hs
  | some result =>
      have hlink : Inv result.link :=
        keeps_transferLoop (fun s _ _ => hkeeps s _ _ (hok _ _)) setup.fuel hs hrun
      dsimp only
      split <;> exact hlink

end Keeps

section Secondary

variable {K : CxlTsp} {setup : SessionSetup K} {host : SessionHost K σ} {Inv : σ → Prop}
  (hkeeps : ∀ sessionId s request capacity, Inv s →
    Inv (host.sendReceive sessionId s request capacity).2)

include hkeeps

/-- A secondary session keeps what every exchange keeps, and the key table. -/
theorem keeps_processSecondary
    (second : Fin secondSessionCount → Flow (σ × PskTable K) SessionEnd Unit) (sessionId : UInt32)
    (R : PskTable K → Prop) :
    Flow.Triple (fun s => Inv s.1 ∧ R s.2)
      (processSessionMessageWith setup host second sessionId .secondary)
      (fun _ s => Inv s.1 ∧ R s.2) (fun _ _ => True) := by
  have hany : ∀ s request capacity, (fun _ : Bytes => True) request → Inv s →
      Inv (host.sendReceive sessionId s request capacity).2 :=
    fun s request capacity _ => hkeeps sessionId s request capacity
  refine (((keeps_getVersion hany trivial).framed R).returned _).bind fun _ => ?_
  refine (((keeps_getCapabilities hany trivial).framed R).returned _).bind fun capabilities => ?_
  refine (((keeps_getConfiguration hany trivial).framed R).returned _).bind fun current => ?_
  refine ((keeps_readReport hany fun _ _ => trivial).framed R).bind fun report => ?_
  -- a secondary session does not lock
  refine (Flow.Triple.skip rfl).bind fun _ => ?_
  refine (((keeps_getTspState hany trivial).framed R).returned _).bind fun state => ?_
  refine (((keeps_setSessionTeState hany (fun _ _ _ => trivial) 0x1).framed R).returned _).bind
    fun _ => ?_
  refine (((keeps_setSessionTeState hany (fun _ _ _ => trivial) 0x0).framed R).returned _).bind
    fun _ => ?_
  refine (Flow.Triple.skip rfl).bind fun _ => ?_
  exact Flow.Triple.pure fun _ h => h

theorem keeps_doCxlTsp2ndSessionViaSpdm
    (hstart : ∀ table pskHint s, Inv s → Inv (host.startSession table pskHint s).2)
    (hstop : ∀ sessionId s, Inv s → Inv (host.stopSession sessionId s).2)
    (index : Fin secondSessionCount) (R : PskTable K → Prop) :
    Flow.Triple (fun s => Inv s.1 ∧ R s.2) (doCxlTsp2ndSessionViaSpdm setup host index)
      (fun _ s => Inv s.1 ∧ R s.2) (fun _ _ => True) := by
  have hopen : Flow.Triple (fun s => Inv s.1 ∧ R s.2) (startSession host (setup.pskHint index))
      (fun _ s => Inv s.1 ∧ R s.2) (fun _ _ => True) := by
    rintro ⟨s, table⟩ hs
    have hnext := hstart table (setup.pskHint index) s hs.1
    rcases hrun : host.startSession table (setup.pskHint index) s with ⟨result, s'⟩
    rw [hrun] at hnext
    cases result with
    | ok sessionId =>
        simp only [startSession, hrun]
        exact ⟨hnext, hs.2⟩
    | error status =>
        simp only [startSession, hrun]
  have hclose : ∀ sessionId, (stopSession host sessionId).Keeps Inv := by
    intro sessionId
    apply Flow.Keeps.of_run
    intro s hs
    have hnext := hstop sessionId s hs
    rcases hrun : host.stopSession sessionId s with ⟨result, s'⟩
    rw [hrun] at hnext
    cases result <;> simpa only [stopSession, hrun] using hnext
  refine hopen.bind fun sessionId => ?_
  refine (keeps_processSecondary hkeeps _ sessionId R).bind fun _ => ?_
  exact (hclose sessionId).framed R

end Secondary

/-! ## The keys that are drawn -/

section Keys

variable {K : CxlTsp} {host : SessionHost K σ} {Inv : σ → Prop}

/-- What the loop over `slots` has done: the two sides agree on every flagged slot, and the other
slots are as they were. -/
structure Drawn (slots : List (Fin secondSessionCount))
    (info info' : Device2ndSessionInfo K.secondSessionKeySize) (table table' : PskTable K) :
    Prop where
  flags : info'.configurationValidityFlags = info.configurationValidityFlags
  agree : ∀ slot ∈ slots, Flagged info slot →
    info'.secondarySessionPskKeyMaterial.get slot = table'.get slot
  kept : ∀ slot, slot ∉ slots ∨ ¬ Flagged info slot →
    info'.secondarySessionPskKeyMaterial.get slot = info.secondarySessionPskKeyMaterial.get slot ∧
      table'.get slot = table.get slot

/-- One more slot in front. -/
theorem Drawn.cons {index : Fin secondSessionCount} {rest : List (Fin secondSessionCount)}
    {info info' : Device2ndSessionInfo K.secondSessionKeySize} {table table' : PskTable K}
    {key : Psk K}
    (h : Drawn rest
      { info with
        secondarySessionPskKeyMaterial :=
          Slots.setAt info.secondarySessionPskKeyMaterial index key } info'
      (Slots.setAt table index key) table') (hflag : Flagged info index) :
    Drawn (index :: rest) info info' table table' where
  flags := h.flags
  agree slot hslot hflagged := by
    by_cases hrest : slot ∈ rest
    · exact h.agree slot hrest hflagged
    · -- the slot of this round was not written again
      have hindex : slot = index := (List.mem_cons.1 hslot).resolve_right hrest
      obtain ⟨hinfo, htable⟩ := h.kept slot (.inl hrest)
      rw [hinfo, htable, Slots.get_setAt, Slots.get_setAt, if_pos hindex, if_pos hindex]
  kept slot hslot := by
    have hne : slot ≠ index := by
      rintro rfl
      exact hslot.elim (fun h => h List.mem_cons_self) fun h => h hflag
    have hrest : slot ∉ rest ∨ ¬ Flagged info slot :=
      hslot.imp (fun h hmem => h (List.mem_cons_of_mem _ hmem)) id
    obtain ⟨hinfo, htable⟩ := h.kept slot hrest
    rw [hinfo, htable, Slots.get_setAt, Slots.get_setAt, if_neg hne, if_neg hne]
    exact ⟨rfl, rfl⟩

/-- One more slot in front that is not flagged. -/
theorem Drawn.cons_of_not {index : Fin secondSessionCount} {rest : List (Fin secondSessionCount)}
    {info info' : Device2ndSessionInfo K.secondSessionKeySize} {table table' : PskTable K}
    (h : Drawn rest info info' table table') (hflag : ¬ Flagged info index) :
    Drawn (index :: rest) info info' table table' where
  flags := h.flags
  agree slot hslot hflagged := by
    rcases List.mem_cons.1 hslot with rfl | hrest
    · exact absurd hflagged hflag
    · exact h.agree slot hrest hflagged
  kept slot hslot :=
    h.kept slot (hslot.imp (fun h hmem => h (List.mem_cons_of_mem _ hmem)) id)

variable (hrandom : ∀ n s, Inv s → Inv (host.getRandomNumber n s).2)

include hrandom

theorem keeps_randomNumber (sessionId : UInt32) (n : Nat) :
    ((host.session sessionId).randomNumber n).Keeps Inv := by
  apply Flow.Keeps.of_run
  intro s hs
  have hnext := hrandom n s hs
  simp only [Host.randomNumber, SessionHost.session]
  rcases hdraw : host.getRandomNumber n s with ⟨_ | number, s'⟩ <;> rw [hdraw] at hnext <;>
    exact hnext

/-- The loop draws a key for each flagged slot, for both sides. -/
theorem triple_drawKeys (sessionId : UInt32) (slots : List (Fin secondSessionCount))
    (info : Device2ndSessionInfo K.secondSessionKeySize) (table : PskTable K) :
    Flow.Triple (fun s => Inv s.1 ∧ s.2 = table) (drawKeys host sessionId info slots)
      (fun info' s => Inv s.1 ∧ Drawn slots info info' table s.2) (fun _ _ => True) := by
  induction slots generalizing info table with
  | nil =>
      refine Flow.Triple.pure fun s hs => ⟨hs.1, ?_⟩
      rw [hs.2]
      exact ⟨rfl, fun _ h => absurd h List.not_mem_nil, fun _ _ => ⟨rfl, rfl⟩⟩
  | cons index rest ih =>
      rw [drawKeys]
      by_cases hflag : Flagged info index
      · rw [if_pos hflag]
        refine ((keeps_randomNumber hrandom sessionId _).framed (· = table)).bind fun key => ?_
        have hwrite : Flow.Triple (fun s : σ × PskTable K => Inv s.1 ∧ s.2 = table)
            (Flow.modify fun s => (s.1, Slots.setAt s.2 index key) : Flow _ LibspdmReturn Unit)
            (fun _ s => Inv s.1 ∧ s.2 = Slots.setAt table index key) (fun _ _ => True) :=
          Flow.Triple.modify fun s hs => ⟨hs.1, by rw [hs.2]⟩
        refine hwrite.bind fun _ => (ih _ _).imp (fun _ h => h) ?_ fun _ _ h => h
        exact fun info' s hs => ⟨hs.1, hs.2.cons hflag⟩
      · rw [if_neg hflag]
        exact (ih info table).imp (fun _ h => h) (fun _ s hs => ⟨hs.1, hs.2.cons_of_not hflag⟩)
          fun _ _ h => h

end Keys

end SpdmEmu.Tsp
