import SpdmEmu.Report.Transfer

/-!
# The TSP message formats

What the TSP libraries take from the industry standard header `cxl_tsp.h`, which the repository does
not contain: `CxlTsp` has the op codes, states, error codes, feature masks and message layouts as
parameters. The op codes are distinct, `CONFIG_UNLOCKED` is zero and differs from `CONFIG_LOCKED`,
neither is above `CXL_TSP_STATE_ERROR`, and error codes are small and not zero. Nothing is assumed
about the feature masks. `CxlTsp.sample` is an instance.
-/

set_option autoImplicit false

namespace SpdmEmu.Tsp

open SpdmEmu.Wire SpdmEmu.Report

/-- `cxl_tsp_header_t` -/
structure Header where
  tspVersion : UInt8
  opCode : UInt8
deriving DecidableEq, Repr

/-- The requests of `m_cxl_tsp_dispatch`. -/
inductive Request where
  | getTargetTspVersion
  | getTargetCapabilities
  | setTargetConfiguration
  | getTargetConfiguration
  | getTargetConfigurationReport
  | lockTargetConfiguration
  | setTargetTeState
deriving DecidableEq, Repr

/-- The response messages. -/
inductive Response where
  | getTargetTspVersion
  | getTargetCapabilities
  | setTargetConfiguration
  | getTargetConfiguration
  | getTargetConfigurationReport
  | lockTargetConfiguration
  | setTargetTeState
  | error
deriving DecidableEq, Repr

/-- The states the source names. -/
inductive TspState where
  | configUnlocked
  | configLocked
  | error
deriving DecidableEq, Repr

/-- The error codes the source returns; `CXL_TSP_ERROR_CODE_SUCCESS` is zero, and
`CXL_TSP_ERROR_CODE_UNSPECIFIED` belongs to a missing device context, which the sample never has. -/
inductive ErrorCode where
  | invalidRequest
  | versionMismatch
  | invalidSecurityState
  | alreadyLocked
  | noPrivilege
deriving DecidableEq, Repr

/-- `libcxltsp_device_capabilities_t` -/
structure DeviceCapabilities where
  memoryEncryptionFeaturesSupported : UInt16
  memoryEncryptionAlgorithmsSupported : UInt32
  memoryEncryptionNumberOfRangeBasedKeys : UInt16
  teStateChangeAndAccessControlFeaturesSupported : UInt16
  supportedExplicitOobTeStateGranularity : UInt32
  supportedExplicitIbTeStateGranularity : UInt32
  configurationFeaturesSupported : UInt16
  numberOfCkids : UInt32
  numberOfSecondarySessions : UInt8
deriving DecidableEq, Repr

/-- `cxl_tsp_explicit_ib_te_state_granularity_entry_t` -/
structure IbEntry where
  teStateGranularity : UInt64
  lengthIndex : UInt8
deriving DecidableEq, Repr

/-- `libcxltsp_device_configuration_t` -/
structure DeviceConfiguration where
  memoryEncryptionFeaturesEnable : UInt16
  memoryEncryptionAlgorithmSelect : UInt32
  teStateChangeAndAccessControlFeaturesEnable : UInt16
  explicitOobTeStateGranularity : UInt32
  configurationFeaturesEnable : UInt16
  ckidBase : UInt32
  numberOfCkids : UInt32
  explicitIbTeStateGranularityEntry : Vector IbEntry 8
deriving DecidableEq, Repr

/-- `CXL_TSP_2ND_SESSION_COUNT`, the size of the session tables, over which the source loops with
the bound 4. -/
def secondSessionCount : Nat := 4

/-- `libcxltsp_device_2nd_session_info_t`, with key materials of `n` bytes. -/
structure Device2ndSessionInfo (n : Nat) where
  configurationValidityFlags : UInt16
  secondarySessionCkidType : UInt8
  secondarySessionPskKeyMaterial : Vector (Vector UInt8 n) secondSessionCount
deriving DecidableEq

/-- The body of `cxl_tsp_set_target_configuration_req_t`: its fields are those of the configuration
and those of the secondary session information. -/
structure SetConfiguration (n : Nat) where
  configuration : DeviceConfiguration
  sessionInfo : Device2ndSessionInfo n
deriving DecidableEq

/-- The body of `cxl_tsp_get_target_tsp_version_rsp_mine_t`. -/
structure VersionBody where
  versionNumberEntryCount : UInt8
  versionNumberEntry : UInt8
deriving DecidableEq, Repr

/-- The body of `cxl_tsp_get_target_configuration_rsp_t`. -/
structure ConfigurationBody where
  configuration : DeviceConfiguration
  currentTspState : UInt8
deriving DecidableEq, Repr

/-- The fixed body of `cxl_tsp_set_target_te_state_req_t`; the memory ranges follow. -/
structure TeStateBody where
  teState : UInt8
  numberOfMemoryRanges : UInt8
deriving DecidableEq, Repr

/-- The body of `cxl_tsp_error_rsp_t`. -/
structure ErrorBody where
  errorCode : UInt32
  errorData : UInt32
deriving DecidableEq, Repr

/-- `LIBCXLTSP_CONFIGURATION_REPORT_MAX_SIZE` -/
def configurationReportMaxSize : Nat := 0x1000

/-- `LIBCXLTSP_CONFIGURATION_REPORT_PORTION_LEN` -/
def configurationReportPortionLen : UInt16 := 0x200

/-- The flags of `CXL_TSP_MEMORY_ENCRYPTION_FEATURES_ENABLE_*` and, as another value of this type,
of `CXL_TSP_MEMORY_ENCRYPTION_FEATURES_SUPPORT_*`. -/
structure EncryptionFlags where
  encryption : UInt16
  ckidBasedEncryption : UInt16
  rangeBasedEncryption : UInt16
  ckidBasedRequired : UInt16

/-- `CXL_TSP_MEMORY_ENCRYPTION_ALGORITHMS_*` -/
structure AlgorithmFlags where
  aesXts128 : UInt32
  aesXts256 : UInt32
  vendorSpecific : UInt32

/-- `CXL_TSP_TE_STATE_CHANGE_AND_ACCESS_CONTROL_FEATURES_*` -/
structure TeStateFlags where
  writeAccessControl : UInt16
  readAccessControl : UInt16
  implicitTeStateChange : UInt16
  explicitOobTeStateChange : UInt16
  explicitIbTeStateChange : UInt16
  explicitTeStateChangeSanitize : UInt16

/-- `industry_standard/cxl_tsp.h` -/
structure CxlTsp where
  messageVersion10 : UInt8
  requestOpCode : Request → UInt8
  responseOpCode : Response → UInt8
  tspState : TspState → UInt8
  errorCode : ErrorCode → UInt32
  featuresEnable : EncryptionFlags
  featuresSupport : EncryptionFlags
  algorithms : AlgorithmFlags
  teFeatures : TeStateFlags
  ibGranularity64B : UInt32
  ibGranularityEntireMemory : UInt32
  configurationFeaturesLockedTargetFwUpdate : UInt16
  configurationFeaturesAdditionalSpdmSessions : UInt16
  /-- `CXL_TSP_2ND_SESSION_KEY_SIZE`, also the size of a key material -/
  secondSessionKeySize : Nat
  memoryRangeSize : Nat
  header : Packed Header
  getVersionRequest : Packed Unit
  getCapabilitiesRequest : Packed Unit
  setConfigurationRequest : Packed (SetConfiguration secondSessionKeySize)
  getConfigurationRequest : Packed Unit
  getConfigurationReportRequest : Packed ReportRange
  lockConfigurationRequest : Packed Unit
  setTeStateRequest : Packed TeStateBody
  getVersionResponse : Packed VersionBody
  getCapabilitiesResponse : Packed DeviceCapabilities
  setConfigurationResponse : Packed Unit
  getConfigurationResponse : Packed ConfigurationBody
  getConfigurationReportResponse : Packed ReportLengths
  lockConfigurationResponse : Packed Unit
  setTeStateResponse : Packed Unit
  errorResponse : Packed ErrorBody
  requestOpCode_injective : Function.Injective requestOpCode
  responseOpCode_injective : Function.Injective responseOpCode
  tspState_configUnlocked : tspState .configUnlocked = 0
  tspState_locked_ne_unlocked : tspState .configLocked ≠ tspState .configUnlocked
  tspState_le_error : ∀ s, tspState s ≤ tspState .error
  errorCode_lt : ∀ e, (errorCode e).toNat < 2 ^ 28
  errorCode_ne_zero : ∀ e, errorCode e ≠ 0

namespace CxlTsp

variable (K : CxlTsp)

@[simp] theorem requestOpCode_inj {a b : Request} :
    K.requestOpCode a = K.requestOpCode b ↔ a = b :=
  K.requestOpCode_injective.eq_iff

@[simp] theorem responseOpCode_inj {a b : Response} :
    K.responseOpCode a = K.responseOpCode b ↔ a = b :=
  K.responseOpCode_injective.eq_iff

end CxlTsp

/-! ## Concrete values -/

namespace CxlTsp

private def tspHeaderLayout : Packed Header :=
  (Packed.u8.pair Packed.u8).view (fun x => ⟨x.1, x.2⟩) (fun h => (h.tspVersion, h.opCode))
    (fun _ => rfl)

private def ibEntryLayout : Packed IbEntry :=
  (Packed.u64.pair (Packed.u8.reserve 7)).view (fun x => ⟨x.1, x.2⟩)
    (fun e => (e.teStateGranularity, e.lengthIndex)) (fun _ => rfl)

private def configurationLayout : Packed DeviceConfiguration :=
  (Packed.u16.pair (Packed.u32.pair (Packed.u16.pair (Packed.u32.pair (Packed.u16.pair
    (Packed.u32.pair (Packed.u32.pair (ibEntryLayout.array 8)))))))).view
    (fun x => ⟨x.1, x.2.1, x.2.2.1, x.2.2.2.1, x.2.2.2.2.1, x.2.2.2.2.2.1, x.2.2.2.2.2.2.1,
      x.2.2.2.2.2.2.2⟩)
    (fun c => (c.memoryEncryptionFeaturesEnable, c.memoryEncryptionAlgorithmSelect,
      c.teStateChangeAndAccessControlFeaturesEnable, c.explicitOobTeStateGranularity,
      c.configurationFeaturesEnable, c.ckidBase, c.numberOfCkids,
      c.explicitIbTeStateGranularityEntry))
    (fun _ => rfl)

private def sessionInfoLayout : Packed (Device2ndSessionInfo 32) :=
  (Packed.u16.pair ((Packed.u8.reserve 1).pair ((Packed.u8.array 32).array 4))).view
    (fun x => ⟨x.1, x.2.1, x.2.2⟩)
    (fun i => (i.configurationValidityFlags, i.secondarySessionCkidType,
      i.secondarySessionPskKeyMaterial))
    (fun _ => rfl)

/-- Concrete codes and layouts, on which statements can be evaluated. -/
def sample : CxlTsp where
  messageVersion10 := 0x10
  requestOpCode
    | .getTargetTspVersion => 0x81
    | .getTargetCapabilities => 0x82
    | .setTargetConfiguration => 0x83
    | .getTargetConfiguration => 0x84
    | .getTargetConfigurationReport => 0x85
    | .lockTargetConfiguration => 0x86
    | .setTargetTeState => 0x87
  responseOpCode
    | .getTargetTspVersion => 0x01
    | .getTargetCapabilities => 0x02
    | .setTargetConfiguration => 0x03
    | .getTargetConfiguration => 0x04
    | .getTargetConfigurationReport => 0x05
    | .lockTargetConfiguration => 0x06
    | .setTargetTeState => 0x07
    | .error => 0x7f
  tspState
    | .configUnlocked => 0
    | .configLocked => 1
    | .error => 2
  errorCode
    | .invalidRequest => 0x0001
    | .versionMismatch => 0x0004
    | .invalidSecurityState => 0x0006
    | .alreadyLocked => 0x0005
    | .noPrivilege => 0x0002
  featuresEnable := ⟨0x1, 0x2, 0x4, 0x8⟩
  featuresSupport := ⟨0x1, 0x2, 0x4, 0x8⟩
  algorithms := ⟨0x1, 0x2, 0x80000000⟩
  teFeatures := ⟨0x1, 0x2, 0x4, 0x8, 0x10, 0x20⟩
  ibGranularity64B := 0x1
  ibGranularityEntireMemory := 0x80
  configurationFeaturesLockedTargetFwUpdate := 0x1
  configurationFeaturesAdditionalSpdmSessions := 0x2
  secondSessionKeySize := 32
  memoryRangeSize := 16
  header := tspHeaderLayout
  getVersionRequest := Packed.reserved 2
  getCapabilitiesRequest := Packed.reserved 2
  setConfigurationRequest :=
    ((Packed.reserved 2).pair (configurationLayout.pair sessionInfoLayout)).view
      (fun x => ⟨x.2.1, x.2.2⟩) (fun b => ((), b.configuration, b.sessionInfo)) (fun _ => rfl)
  getConfigurationRequest := Packed.reserved 2
  getConfigurationReportRequest := ((Packed.reserved 2).pair (Packed.u16.pair Packed.u16)).view
    (fun x => ⟨x.2.1, x.2.2⟩) (fun r => ((), r.offset, r.length)) (fun _ => rfl)
  lockConfigurationRequest := Packed.reserved 2
  setTeStateRequest := ((Packed.reserved 2).pair (Packed.u8.pair Packed.u8)).view
    (fun x => ⟨x.2.1, x.2.2⟩) (fun b => ((), b.teState, b.numberOfMemoryRanges)) (fun _ => rfl)
  getVersionResponse := ((Packed.reserved 2).pair (Packed.u8.pair Packed.u8)).view
    (fun x => ⟨x.2.1, x.2.2⟩) (fun b => ((), b.versionNumberEntryCount, b.versionNumberEntry))
    (fun _ => rfl)
  getCapabilitiesResponse :=
    (Packed.u16.pair (Packed.u32.pair (Packed.u16.pair (Packed.u16.pair (Packed.u32.pair
      (Packed.u32.pair (Packed.u16.pair (Packed.u32.pair Packed.u8)))))))).view
      (fun x => ⟨x.1, x.2.1, x.2.2.1, x.2.2.2.1, x.2.2.2.2.1, x.2.2.2.2.2.1, x.2.2.2.2.2.2.1,
        x.2.2.2.2.2.2.2.1, x.2.2.2.2.2.2.2.2⟩)
      (fun c => (c.memoryEncryptionFeaturesSupported, c.memoryEncryptionAlgorithmsSupported,
        c.memoryEncryptionNumberOfRangeBasedKeys,
        c.teStateChangeAndAccessControlFeaturesSupported,
        c.supportedExplicitOobTeStateGranularity, c.supportedExplicitIbTeStateGranularity,
        c.configurationFeaturesSupported, c.numberOfCkids, c.numberOfSecondarySessions))
      (fun _ => rfl)
  setConfigurationResponse := Packed.reserved 2
  getConfigurationResponse := ((Packed.reserved 2).pair (configurationLayout.pair Packed.u8)).view
    (fun x => ⟨x.2.1, x.2.2⟩) (fun b => ((), b.configuration, b.currentTspState)) (fun _ => rfl)
  getConfigurationReportResponse := ((Packed.reserved 2).pair (Packed.u16.pair Packed.u16)).view
    (fun x => ⟨x.2.1, x.2.2⟩) (fun l => ((), l.portionLength, l.remainderLength)) (fun _ => rfl)
  lockConfigurationResponse := Packed.reserved 2
  setTeStateResponse := Packed.reserved 2
  errorResponse := ((Packed.reserved 2).pair (Packed.u32.pair Packed.u32)).view
    (fun x => ⟨x.2.1, x.2.2⟩) (fun b => ((), b.errorCode, b.errorData)) (fun _ => rfl)
  requestOpCode_injective := by
    intro a b h
    cases a <;> cases b <;> first | rfl | exact absurd h (by decide)
  responseOpCode_injective := by
    intro a b h
    cases a <;> cases b <;> first | rfl | exact absurd h (by decide)
  tspState_configUnlocked := rfl
  tspState_locked_ne_unlocked := by decide
  tspState_le_error := by
    intro s
    cases s <;> decide
  errorCode_lt := by
    intro e
    cases e <;> decide
  errorCode_ne_zero := by
    intro e
    cases e <;> decide

end CxlTsp

end SpdmEmu.Tsp
