import SpdmEmu.Tdisp.Standard

/-!
# The TDISP device library

`library/pci_tdisp_device_lib_sample`: one interface context, bound to an interface id by
`GET_VERSION` and moved between `CONFIG_UNLOCKED`, `CONFIG_LOCKED` and `RUN` by the lock, start and
stop calls. A call returns its error code or its output, and the context as it leaves it; a failed
call can leave a changed context (`pciTdispDeviceLockInterface` stores the lock parameters before it
asks for random bytes).

What the device takes from outside is `Environment`: the outcome of `libspdm_random_bytes` and of
`pci_tdisp_device_interface_report_load_from_json`.
-/

set_option autoImplicit false

namespace SpdmEmu.Tdisp

open SpdmEmu.Wire

/-- The buffer `interface_report[LIBTDISP_INTERFACE_REPORT_MAX_SIZE]`. -/
abbrev ReportBuffer := Vector UInt8 interfaceReportMaxSize

/-- Write `bs` at the start of the buffer. -/
def ReportBuffer.overwrite (r : ReportBuffer) (bs : Bytes) : ReportBuffer :=
  Vector.ofFn fun i => (bs[i.val]?).getD r[i]

/-- `libtdisp_interface_context`, less `tdisp_version`, which no function uses. -/
structure InterfaceContext (K : PciTdisp) where
  interfaceId : InterfaceId
  supportedTdispVersions : UInt8
  supportedTdispVersionsCount : UInt8
  tdispRspCaps : ResponderCapabilities
  tdispReqCaps : Vector UInt8 K.requesterCapabilitiesSize
  lockInterfaceParam : Vector UInt8 K.lockInterfaceParamSize
  tdiState : UInt8
  startInterfaceNonce : Vector UInt8 K.startInterfaceNonceSize
  interfaceReport : ReportBuffer
  interfaceReportSize : UInt16
deriving DecidableEq

/-- The outcomes a call takes from outside the library. `random` is what `libspdm_random_bytes`
delivers, `none` when it fails. `loadFromJson` is the JSON report loader as a function of the report
buffer and size it is given: whether it succeeded, and the buffer and size it leaves. -/
structure Environment (K : PciTdisp) where
  random : Option (Vector UInt8 K.startInterfaceNonceSize)
  loadFromJson : ReportBuffer → UInt16 → Bool × ReportBuffer × UInt16

/-- The loader of a build without `TDISP_DEVICE_INTERFACE_REPORT_JSON_SUPPORT`. -/
def jsonSupportOff : ReportBuffer → UInt16 → Bool × ReportBuffer × UInt16 :=
  fun report size => (false, report, size)

variable {K : PciTdisp}

/-- The zeroed `g_tdisp_interface_context`. -/
def InterfaceContext.zeroed (K : PciTdisp) : InterfaceContext K where
  interfaceId := ⟨0, 0⟩
  supportedTdispVersions := 0
  supportedTdispVersionsCount := 0
  tdispRspCaps := ⟨0, 0, 0, 0, 0, 0⟩
  tdispReqCaps := Vector.replicate _ 0
  lockInterfaceParam := Vector.replicate _ 0
  tdiState := 0
  startInterfaceNonce := Vector.replicate _ 0
  interfaceReport := Vector.replicate _ 0
  interfaceReportSize := 0

/-- `libtdisp_initialize_interface_context` -/
def libtdispInitializeInterfaceContext (K : PciTdisp) (interfaceId : InterfaceId) :
    InterfaceContext K :=
  { InterfaceContext.zeroed K with
    interfaceId := interfaceId
    supportedTdispVersionsCount := 1
    supportedTdispVersions := K.messageVersion10
    tdispRspCaps :=
      { dsmCaps := 0
        reqMsgSupported := 0xFE
        lockInterfaceFlagsSupported :=
          K.lockInterfaceFlagsNoFwUpdate ||| K.lockInterfaceFlagsSystemCacheLineSize |||
            K.lockInterfaceFlagsLockMsix
        devAddrWidth := 48
        numReqThis := 0
        numReqAll := 0 }
    tdiState := K.tdiState .configUnlocked }

/-- `libtdisp_get_interface_context` returns the context, and not `NULL`, for the bound id. -/
def InterfaceContext.isBound (ctx : InterfaceContext K) (interfaceId : InterfaceId) : Bool :=
  ctx.interfaceId == interfaceId

theorem isBound_iff (ctx : InterfaceContext K) (interfaceId : InterfaceId) :
    ctx.isBound interfaceId = true ↔ ctx.interfaceId = interfaceId := by
  simp [InterfaceContext.isBound]

/-- `pci_tdisp_device_get_version` -/
def pciTdispDeviceGetVersion (_ctx : InterfaceContext K) (interfaceId : InterfaceId) :
    Except ErrorCode VersionBody × InterfaceContext K :=
  -- whatever state the interface was in, the context starts again
  let ctx := libtdispInitializeInterfaceContext K interfaceId
  (.ok ⟨ctx.supportedTdispVersionsCount, ctx.supportedTdispVersions⟩, ctx)

/-- `pci_tdisp_device_get_capabilities` -/
def pciTdispDeviceGetCapabilities (ctx : InterfaceContext K) (interfaceId : InterfaceId)
    (reqCaps : Vector UInt8 K.requesterCapabilitiesSize) :
    Except ErrorCode ResponderCapabilities × InterfaceContext K :=
  if ctx.isBound interfaceId then
    (.ok ctx.tdispRspCaps, { ctx with tdispReqCaps := reqCaps })
  else (.error .invalidInterface, ctx)

/-- The report `pci_tdisp_device_lock_interface` fills in when no JSON report was loaded. -/
def defaultInterfaceReport (K : PciTdisp) : InterfaceReportStruct where
  interfaceInfo := K.interfaceInfoNoUpdateAfterLock ||| K.interfaceInfoDmaWithoutPasid
  msiXMessageControl := 0
  lnrControl := 0
  tphControl := 0
  mmioRangeCount := 4
  mmioRange := #v[
    ⟨0x0000, 1, K.mmioRangeAttributesIsNonTeeMem, 1⟩,
    ⟨0x8000, 4, K.mmioRangeAttributesIsMemAttrUpdatable, 2⟩,
    ⟨0x10000, 8, K.mmioRangeAttributesIsMemAttrUpdatable, 3⟩,
    ⟨0x20000, 8, K.mmioRangeAttributesIsMemAttrUpdatable, 4⟩]
  deviceSpecificInfoLen := 16
  -- "tdisp_dev_emu" with its terminator, the rest stays zero
  deviceSpecificInfo := #v[0x74, 0x64, 0x69, 0x73, 0x70, 0x5f, 0x64, 0x65, 0x76, 0x5f, 0x65, 0x6d,
    0x75, 0, 0, 0]

/-- The report part of `pci_tdisp_device_lock_interface`: the JSON report if it loads, else the
default one over whatever the loader left in the buffer. -/
def generateReport (env : Environment K) (ctx : InterfaceContext K) : InterfaceContext K :=
  let load := env.loadFromJson ctx.interfaceReport ctx.interfaceReportSize
  if load.1 then { ctx with interfaceReport := load.2.1, interfaceReportSize := load.2.2 }
  else
    -- a failed load may have written to the buffer before it failed
    { ctx with
      interfaceReport := load.2.1.overwrite (K.interfaceReport.encode (defaultInterfaceReport K))
      interfaceReportSize := UInt16.ofNat K.interfaceReport.size }

/-- `pci_tdisp_device_lock_interface` -/
def pciTdispDeviceLockInterface (env : Environment K) (ctx : InterfaceContext K)
    (interfaceId : InterfaceId) (lockInterfaceParam : Vector UInt8 K.lockInterfaceParamSize) :
    Except ErrorCode (Vector UInt8 K.startInterfaceNonceSize) × InterfaceContext K :=
  if !ctx.isBound interfaceId then (.error .invalidInterface, ctx)
  else if ctx.tdiState ≠ K.tdiState .configUnlocked then (.error .invalidInterfaceState, ctx)
  else
    -- the parameters are stored before the random bytes are drawn, and stay stored without them
    let ctx := { ctx with lockInterfaceParam := lockInterfaceParam }
    match env.random with
    | none => (.error .insufficientEntropy, ctx)
    | some nonce =>
        let ctx := { ctx with startInterfaceNonce := nonce, tdiState := K.tdiState .configLocked }
        (.ok nonce, generateReport env ctx)

/-- `pci_tdisp_device_get_interface_report`: the report buffer and the report size. -/
def pciTdispDeviceGetInterfaceReport (ctx : InterfaceContext K) (interfaceId : InterfaceId) :
    Except ErrorCode (ReportBuffer × UInt16) :=
  if ctx.isBound interfaceId then .ok (ctx.interfaceReport, ctx.interfaceReportSize)
  else .error .invalidInterface

/-- `pci_tdisp_device_get_interface_state` -/
def pciTdispDeviceGetInterfaceState (ctx : InterfaceContext K) (interfaceId : InterfaceId) :
    Except ErrorCode UInt8 :=
  if ctx.isBound interfaceId then .ok ctx.tdiState else .error .invalidInterface

/-- `pci_tdisp_device_start_interface` -/
def pciTdispDeviceStartInterface (ctx : InterfaceContext K) (interfaceId : InterfaceId)
    (startInterfaceNonce : Vector UInt8 K.startInterfaceNonceSize) :
    Except ErrorCode Unit × InterfaceContext K :=
  if !ctx.isBound interfaceId then (.error .invalidInterface, ctx)
  else if ctx.tdiState ≠ K.tdiState .configLocked then (.error .invalidInterfaceState, ctx)
  else if startInterfaceNonce ≠ ctx.startInterfaceNonce then (.error .invalidNonce, ctx)
  else (.ok (), { ctx with tdiState := K.tdiState .run })

/-- `pci_tdisp_device_stop_interface` -/
def pciTdispDeviceStopInterface (ctx : InterfaceContext K) (interfaceId : InterfaceId) :
    Except ErrorCode Unit × InterfaceContext K :=
  if !ctx.isBound interfaceId then (.error .invalidInterface, ctx)
  else if ctx.tdiState = K.tdiState .configUnlocked then (.error .invalidInterfaceState, ctx)
  else (.ok (), { ctx with tdiState := K.tdiState .configUnlocked })

end SpdmEmu.Tdisp
