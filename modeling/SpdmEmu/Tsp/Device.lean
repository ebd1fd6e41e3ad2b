import SpdmEmu.Tsp.Standard

/-!
# The TSP device library

`library/cxl_tsp_device_lib_sample`: the device context with its primary session and its table of
secondary sessions, the configuration calls, and the table of secondary session keys, a global of
its own that outlives a reset of the context. The first `GET_VERSION` on a session makes that
session the primary one; as long as there is none, `GET_VERSION` resets the context.

The device's report call is the one device function that other builds replace. It is a value of
`ReportSource`, with the sample's own as an instance.
-/

set_option autoImplicit false

namespace SpdmEmu.Tsp

open SpdmEmu.Wire

/-- A secondary session's key. -/
abbrev Psk (K : CxlTsp) := Vector UInt8 K.secondSessionKeySize

/-- `libcxltsp_device_context` -/
structure DeviceContext (K : CxlTsp) where
  sessionIdPrimaryValid : Bool
  sessionIdPrimary : UInt32
  sessionIdSecondaryValid : Vector Bool secondSessionCount
  sessionIdSecondary : Vector UInt32 secondSessionCount
  supportedTspVersions : UInt8
  supportedTspVersionsCount : UInt8
  deviceCapabilities : DeviceCapabilities
  deviceConfiguration : DeviceConfiguration
  device2ndSessionInfo : Device2ndSessionInfo K.secondSessionKeySize
  currentTspState : UInt8
  configurationReport : Vector UInt8 configurationReportMaxSize
  configurationReportSize : UInt16

/-- `g_cxltsp_device_context` and `m_cxl_tsp_2nd_session_psk`. -/
structure State (K : CxlTsp) where
  context : DeviceContext K
  secondSessionPsk : Vector (Psk K) secondSessionCount

/-- What `GET_VERSION` learns about the session from libspdm: `LIBSPDM_DATA_SESSION_USE_PSK` and
`m_cxl_tsp_current_psk_session_index`. -/
structure Environment where
  isPsk : Bool
  currentPskSessionIndex : UInt8
deriving DecidableEq, Repr

/-- The all-zero configuration. -/
def DeviceConfiguration.zeroed : DeviceConfiguration where
  memoryEncryptionFeaturesEnable := 0
  memoryEncryptionAlgorithmSelect := 0
  teStateChangeAndAccessControlFeaturesEnable := 0
  explicitOobTeStateGranularity := 0
  configurationFeaturesEnable := 0
  ckidBase := 0
  numberOfCkids := 0
  explicitIbTeStateGranularityEntry := Vector.replicate 8 ⟨0, 0⟩

/-- The all-zero secondary session information. -/
def Device2ndSessionInfo.zeroed (n : Nat) : Device2ndSessionInfo n where
  configurationValidityFlags := 0
  secondarySessionCkidType := 0
  secondarySessionPskKeyMaterial := Vector.replicate _ (Vector.replicate n 0)

/-- The zeroed `g_cxltsp_device_context`. -/
def DeviceContext.zeroed (K : CxlTsp) : DeviceContext K where
  sessionIdPrimaryValid := false
  sessionIdPrimary := 0
  sessionIdSecondaryValid := Vector.replicate _ false
  sessionIdSecondary := Vector.replicate _ 0
  supportedTspVersions := 0
  supportedTspVersionsCount := 0
  deviceCapabilities := ⟨0, 0, 0, 0, 0, 0, 0, 0, 0⟩
  deviceConfiguration := DeviceConfiguration.zeroed
  device2ndSessionInfo := Device2ndSessionInfo.zeroed _
  currentTspState := 0
  configurationReport := Vector.replicate _ 0
  configurationReportSize := 0

variable {K : CxlTsp}

/-! ## Sessions -/

/-- `libcxltsp_session_type` -/
inductive SessionType where
  | primary
  | secondary
  | other
deriving DecidableEq, Repr

/-- `libcxltsp_is_session_primary` -/
def libcxltspIsSessionPrimary (ctx : DeviceContext K) (sessionId : UInt32) : Bool :=
  ctx.sessionIdPrimaryValid && ctx.sessionIdPrimary == sessionId

/-- `libcxltsp_is_session_secondary` -/
def libcxltspIsSessionSecondary (ctx : DeviceContext K) (sessionId : UInt32) : Bool :=
  (List.finRange secondSessionCount).any fun index =>
    ctx.sessionIdSecondaryValid[index] && ctx.sessionIdSecondary[index] == sessionId

/-- `libcxltsp_get_session_type` -/
def libcxltspGetSessionType (ctx : DeviceContext K) (sessionId : UInt32) : SessionType :=
  if libcxltspIsSessionPrimary ctx sessionId then .primary
  else if libcxltspIsSessionSecondary ctx sessionId then .secondary
  else .other

/-- `libcxltsp_set_session_id` for the primary session. -/
def libcxltspSetPrimarySessionId (ctx : DeviceContext K) (sessionId : UInt32) : DeviceContext K :=
  { ctx with sessionIdPrimaryValid := true, sessionIdPrimary := sessionId }

/-- `libcxltsp_set_session_id` for a secondary session. -/
def libcxltspSetSecondarySessionId (ctx : DeviceContext K) (sessionId : UInt32)
    (index : Fin secondSessionCount) : DeviceContext K :=
  { ctx with
    sessionIdSecondaryValid := ctx.sessionIdSecondaryValid.set index true
    sessionIdSecondary := ctx.sessionIdSecondary.set index sessionId }

/-- `libcxltsp_initialize_session_id` -/
def libcxltspInitializeSessionId (env : Environment) (ctx : DeviceContext K) (sessionId : UInt32) :
    DeviceContext K :=
  if !ctx.sessionIdPrimaryValid then libcxltspSetPrimarySessionId ctx sessionId
  -- a further session is secondary if it was set up with a pre-shared key, and else ignored
  else if !env.isPsk then ctx
  else if h : env.currentPskSessionIndex.toNat < secondSessionCount then
    libcxltspSetSecondarySessionId ctx sessionId ⟨env.currentPskSessionIndex.toNat, h⟩
  else ctx

/-- `libcxltsp_initialize_device_context` -/
def libcxltspInitializeDeviceContext (ctx : DeviceContext K) : DeviceContext K :=
  -- a later `GET_VERSION` finds the context in use
  if ctx.sessionIdPrimaryValid then ctx
  else
    { DeviceContext.zeroed K with
      supportedTspVersions := K.messageVersion10
      supportedTspVersionsCount := 1
      deviceCapabilities :=
        { memoryEncryptionFeaturesSupported := K.featuresSupport.encryption
          memoryEncryptionAlgorithmsSupported := K.algorithms.aesXts256
          memoryEncryptionNumberOfRangeBasedKeys := 0
          teStateChangeAndAccessControlFeaturesSupported :=
            K.teFeatures.readAccessControl ||| K.teFeatures.implicitTeStateChange |||
              K.teFeatures.explicitIbTeStateChange
          supportedExplicitOobTeStateGranularity := 0
          supportedExplicitIbTeStateGranularity := K.ibGranularity64B
          configurationFeaturesSupported :=
            K.configurationFeaturesLockedTargetFwUpdate |||
              K.configurationFeaturesAdditionalSpdmSessions
          numberOfCkids := 0
          numberOfSecondarySessions := 1 } }

/-! ## The device calls -/

/-- `cxl_tsp_device_get_version`. The response has room for one version; a copy of any other number
of versions leaves it zero. -/
def cxlTspDeviceGetVersion (env : Environment) (ctx : DeviceContext K) (sessionId : UInt32) :
    VersionBody × DeviceContext K :=
  let ctx := libcxltspInitializeDeviceContext ctx
  let ctx := libcxltspInitializeSessionId env ctx sessionId
  let entry := if ctx.supportedTspVersionsCount = 1 then ctx.supportedTspVersions else 0
  (⟨ctx.supportedTspVersionsCount, entry⟩, ctx)

/-- `cxl_tsp_device_get_capabilities` -/
def cxlTspDeviceGetCapabilities (ctx : DeviceContext K) : DeviceCapabilities :=
  ctx.deviceCapabilities

/-- `cxl_tsp_device_get_configuration` -/
def cxlTspDeviceGetConfiguration (ctx : DeviceContext K) : ConfigurationBody :=
  ⟨ctx.deviceConfiguration, ctx.currentTspState⟩

/-- `cxl_tsp_device_set_configuration` -/
def cxlTspDeviceSetConfiguration (s : State K) (configuration : DeviceConfiguration)
    (sessionInfo : Device2ndSessionInfo K.secondSessionKeySize) : State K where
  context :=
    { s.context with
      deviceConfiguration := configuration
      device2ndSessionInfo := sessionInfo }
  secondSessionPsk := Vector.ofFn fun index =>
    -- a key is stored for each set flag, the others keep their old key
    if sessionInfo.configurationValidityFlags &&& (1 <<< UInt16.ofNat index) ≠ 0 then
      sessionInfo.secondarySessionPskKeyMaterial[index]
    else s.secondSessionPsk[index]

/-- `cxl_tsp_device_lock_configuration` -/
def cxlTspDeviceLockConfiguration (ctx : DeviceContext K) : DeviceContext K :=
  { ctx with currentTspState := K.tspState .configLocked }

/-- `cxl_tsp_device_set_te_state` changes nothing. -/
def cxlTspDeviceSetTeState (ctx : DeviceContext K) (_teState _numberOfMemoryRanges : UInt8)
    (_memoryRanges : Bytes) : DeviceContext K := ctx

/-- `cxl_tsp_memory_range_t` -/
abbrev MemoryRange (K : CxlTsp) := Vector UInt8 K.memoryRangeSize

/-- The layout of one memory range. -/
def memoryRange (K : CxlTsp) : Packed (MemoryRange K) := Packed.u8.array K.memoryRangeSize

/-- The arguments of one call of `cxl_tsp_device_set_te_state`. -/
structure TeStateCall (K : CxlTsp) where
  teState : UInt8
  numberOfMemoryRanges : UInt8
  memoryRanges : List (MemoryRange K)

/-- `cxl_tsp_device_set_te_state` of a device library. -/
abbrev SetTeState (K : CxlTsp) := State K → TeStateCall K → Except UInt32 Unit × State K

/-- The device library sample, which does nothing with the ranges. -/
def sampleSetTeState : SetTeState K := fun s call =>
  (.ok (), { s with
    context := cxlTspDeviceSetTeState s.context call.teState call.numberOfMemoryRanges
      ((memoryRange K).encodeList call.memoryRanges) })

/-- What a build's `cxl_tsp_device_get_configuration_report` does: an error code, or the report and
its size, and the context it leaves. -/
abbrev ReportSource (K : CxlTsp) :=
  DeviceContext K → Except UInt32 (Bytes × UInt16) × DeviceContext K

/-- `sizeof(cxl_tsp_target_configuration_report_mine_t)` -/
def configurationReportStructSize : UInt16 := 1 + 3 + 0x3c + 0x20 + 0x38 + 0x10 + 0x10 + 0x24

/-- `report->valid_tsp_report_fields = 1;` -/
def validReport (report : Vector UInt8 configurationReportMaxSize) :
    Vector UInt8 configurationReportMaxSize :=
  report.set 0 1 (by decide)

@[simp] theorem validReport_validReport (report : Vector UInt8 configurationReportMaxSize) :
    validReport (validReport report) = validReport report := by
  simp [validReport]

/-- `cxl_tsp_device_get_configuration_report` -/
def cxlTspDeviceGetConfigurationReport : ReportSource K := fun ctx =>
  let ctx :=
    { ctx with
      configurationReport := validReport ctx.configurationReport
      configurationReportSize := configurationReportStructSize }
  (.ok (ctx.configurationReport.toList, ctx.configurationReportSize), ctx)

end SpdmEmu.Tsp
