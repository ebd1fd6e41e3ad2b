import SpdmEmu.Report.Transfer

/-!
# The TDISP message formats

The TDISP libraries take message codes, structure layouts and flag values from the industry standard
header `pci_tdisp.h`, which the repository does not contain. `PciTdisp` is that header as a
parameter: the codes of each enumeration are distinct, the state `CONFIG_UNLOCKED` is zero, every
message is the common header followed by a packed body, and the device's report structure fits its
buffer. `PciTdisp.sample` is an instance.
-/

set_option autoImplicit false

namespace SpdmEmu.Tdisp

open SpdmEmu.Wire SpdmEmu.Report

/-- `pci_tdisp_interface_id_t` -/
structure InterfaceId where
  functionId : UInt32
  reserved : UInt64
deriving DecidableEq, Repr

/-- `pci_tdisp_header_t` -/
structure Header where
  version : UInt8
  messageType : UInt8
  interfaceId : InterfaceId
deriving DecidableEq, Repr

/-- The requests of `m_pci_tdisp_dispatch`. -/
inductive Request where
  | getVersion
  | getCapabilities
  | lockInterface
  | getDeviceInterfaceReport
  | getDeviceInterfaceState
  | startInterface
  | stopInterface
deriving DecidableEq, Repr

/-- The response messages. -/
inductive Response where
  | version
  | capabilities
  | lockInterface
  | deviceInterfaceReport
  | deviceInterfaceState
  | startInterface
  | stopInterface
  | error
deriving DecidableEq, Repr

/-- The interface states the device library assigns. -/
inductive TdiState where
  | configUnlocked
  | configLocked
  | run
deriving DecidableEq, Repr

/-- The error codes, `PCI_TDISP_ERROR_CODE_SUCCESS` aside. -/
inductive ErrorCode where
  | invalidRequest
  | versionMismatch
  | unsupportedRequest
  | invalidInterface
  | invalidInterfaceState
  | invalidNonce
  | insufficientEntropy
deriving DecidableEq, Repr

/-- `pci_tdisp_responder_capabilities_t`; of `req_msg_supported` the first byte, the others are
zero. -/
structure ResponderCapabilities where
  dsmCaps : UInt32
  reqMsgSupported : UInt8
  lockInterfaceFlagsSupported : UInt16
  devAddrWidth : UInt8
  numReqThis : UInt8
  numReqAll : UInt8
deriving DecidableEq, Repr

/-- `version_num_count` and the one `version_num_entry`. -/
structure VersionBody where
  versionNumCount : UInt8
  versionNumEntry : UInt8
deriving DecidableEq, Repr

/-- The body of `pci_tdisp_error_response_t`. -/
structure ErrorBody where
  errorCode : UInt32
  errorData : UInt32
deriving DecidableEq, Repr

/-- `pci_tdisp_mmio_range_t` -/
structure MmioRange where
  firstPage : UInt64
  numberOfPages : UInt32
  rangeAttributes : UInt16
  rangeId : UInt16
deriving DecidableEq, Repr

/-- `pci_tdisp_device_interface_report_struct_mine_t`, with `MMIO_RANGE_COUNT` ranges and
`DEVICE_INFO_LEN` bytes of device information. -/
structure InterfaceReportStruct where
  interfaceInfo : UInt16
  msiXMessageControl : UInt16
  lnrControl : UInt16
  tphControl : UInt32
  mmioRangeCount : UInt32
  mmioRange : Vector MmioRange 4
  deviceSpecificInfoLen : UInt32
  deviceSpecificInfo : Vector UInt8 16
deriving DecidableEq, Repr

/-- `LIBTDISP_INTERFACE_REPORT_MAX_SIZE` -/
def interfaceReportMaxSize : Nat := 0x1000

/-- `LIBTDISP_INTERFACE_REPORT_PORTION_LEN` -/
def interfaceReportPortionLen : UInt16 := 0x40

/-- `industry_standard/pci_tdisp.h` -/
structure PciTdisp where
  messageVersion10 : UInt8
  requestType : Request → UInt8
  responseType : Response → UInt8
  tdiState : TdiState → UInt8
  errorCode : ErrorCode → UInt32
  lockInterfaceFlagsNoFwUpdate : UInt16
  lockInterfaceFlagsSystemCacheLineSize : UInt16
  lockInterfaceFlagsLockMsix : UInt16
  interfaceInfoNoUpdateAfterLock : UInt16
  interfaceInfoDmaWithoutPasid : UInt16
  mmioRangeAttributesIsNonTeeMem : UInt16
  mmioRangeAttributesIsMemAttrUpdatable : UInt16
  startInterfaceNonceSize : Nat
  requesterCapabilitiesSize : Nat
  lockInterfaceParamSize : Nat
  header : Packed Header
  getVersionRequest : Packed Unit
  getCapabilitiesRequest : Packed (Vector UInt8 requesterCapabilitiesSize)
  lockInterfaceRequest : Packed (Vector UInt8 lockInterfaceParamSize)
  getDeviceInterfaceReportRequest : Packed ReportRange
  getDeviceInterfaceStateRequest : Packed Unit
  startInterfaceRequest : Packed (Vector UInt8 startInterfaceNonceSize)
  stopInterfaceRequest : Packed Unit
  versionResponse : Packed VersionBody
  capabilitiesResponse : Packed ResponderCapabilities
  lockInterfaceResponse : Packed (Vector UInt8 startInterfaceNonceSize)
  deviceInterfaceReportResponse : Packed ReportLengths
  deviceInterfaceStateResponse : Packed UInt8
  startInterfaceResponse : Packed Unit
  stopInterfaceResponse : Packed Unit
  errorResponse : Packed ErrorBody
  interfaceReport : Packed InterfaceReportStruct
  requestType_injective : Function.Injective requestType
  responseType_injective : Function.Injective responseType
  tdiState_injective : Function.Injective tdiState
  tdiState_configUnlocked : tdiState .configUnlocked = 0
  interfaceReport_size_le : interfaceReport.size ≤ interfaceReportMaxSize

namespace PciTdisp

variable (K : PciTdisp)

@[simp] theorem responseType_inj {a b : Response} : K.responseType a = K.responseType b ↔ a = b :=
  K.responseType_injective.eq_iff

@[simp] theorem tdiState_inj {a b : TdiState} : K.tdiState a = K.tdiState b ↔ a = b :=
  K.tdiState_injective.eq_iff

end PciTdisp

/-! ## Concrete values -/

namespace PciTdisp

private def headerLayout : Packed Header :=
  (Packed.u8.pair ((Packed.u8.reserve 2).pair (Packed.u32.pair Packed.u64))).view
    (fun x => ⟨x.1, x.2.1, ⟨x.2.2.1, x.2.2.2⟩⟩)
    (fun h => (h.version, h.messageType, h.interfaceId.functionId, h.interfaceId.reserved))
    (fun _ => rfl)

private def mmioRangeLayout : Packed MmioRange :=
  (Packed.u64.pair (Packed.u32.pair (Packed.u16.pair Packed.u16))).view
    (fun x => ⟨x.1, x.2.1, x.2.2.1, x.2.2.2⟩)
    (fun r => (r.firstPage, r.numberOfPages, r.rangeAttributes, r.rangeId))
    (fun _ => rfl)

/-- Concrete codes and layouts, on which statements can be evaluated. -/
def sample : PciTdisp where
  messageVersion10 := 0x10
  requestType
    | .getVersion => 0x81
    | .getCapabilities => 0x82
    | .lockInterface => 0x83
    | .getDeviceInterfaceReport => 0x84
    | .getDeviceInterfaceState => 0x85
    | .startInterface => 0x86
    | .stopInterface => 0x87
  responseType
    | .version => 0x01
    | .capabilities => 0x02
    | .lockInterface => 0x03
    | .deviceInterfaceReport => 0x04
    | .deviceInterfaceState => 0x05
    | .startInterface => 0x06
    | .stopInterface => 0x07
    | .error => 0x7f
  tdiState
    | .configUnlocked => 0
    | .configLocked => 1
    | .run => 2
  errorCode
    | .invalidRequest => 0x0001
    | .versionMismatch => 0x0041
    | .unsupportedRequest => 0x0007
    | .invalidInterface => 0x0101
    | .invalidInterfaceState => 0x0004
    | .invalidNonce => 0x0102
    | .insufficientEntropy => 0x0103
  lockInterfaceFlagsNoFwUpdate := 0x1
  lockInterfaceFlagsSystemCacheLineSize := 0x2
  lockInterfaceFlagsLockMsix := 0x4
  interfaceInfoNoUpdateAfterLock := 0x1
  interfaceInfoDmaWithoutPasid := 0x2
  mmioRangeAttributesIsNonTeeMem := 0x4
  mmioRangeAttributesIsMemAttrUpdatable := 0x8
  startInterfaceNonceSize := 32
  requesterCapabilitiesSize := 4
  lockInterfaceParamSize := 20
  header := headerLayout
  getVersionRequest := Packed.reserved 0
  getCapabilitiesRequest := Packed.u8.array 4
  lockInterfaceRequest := Packed.u8.array 20
  getDeviceInterfaceReportRequest := (Packed.u16.pair Packed.u16).view
    (fun x => ⟨x.1, x.2⟩) (fun r => (r.offset, r.length)) (fun _ => rfl)
  getDeviceInterfaceStateRequest := Packed.reserved 0
  startInterfaceRequest := Packed.u8.array 32
  stopInterfaceRequest := Packed.reserved 0
  versionResponse := (Packed.u8.pair Packed.u8).view
    (fun x => ⟨x.1, x.2⟩) (fun b => (b.versionNumCount, b.versionNumEntry)) (fun _ => rfl)
  capabilitiesResponse :=
    (Packed.u32.pair ((Packed.u8.reserve 15).pair ((Packed.u16.reserve 3).pair
      (Packed.u8.pair (Packed.u8.pair Packed.u8))))).view
      (fun x => ⟨x.1, x.2.1, x.2.2.1, x.2.2.2.1, x.2.2.2.2.1, x.2.2.2.2.2⟩)
      (fun c => (c.dsmCaps, c.reqMsgSupported, c.lockInterfaceFlagsSupported, c.devAddrWidth,
        c.numReqThis, c.numReqAll))
      (fun _ => rfl)
  lockInterfaceResponse := Packed.u8.array 32
  deviceInterfaceReportResponse := (Packed.u16.pair Packed.u16).view
    (fun x => ⟨x.1, x.2⟩) (fun l => (l.portionLength, l.remainderLength)) (fun _ => rfl)
  deviceInterfaceStateResponse := Packed.u8
  startInterfaceResponse := Packed.reserved 0
  stopInterfaceResponse := Packed.reserved 0
  errorResponse := (Packed.u32.pair Packed.u32).view
    (fun x => ⟨x.1, x.2⟩) (fun b => (b.errorCode, b.errorData)) (fun _ => rfl)
  interfaceReport :=
    ((Packed.u16.reserve 2).pair (Packed.u16.pair (Packed.u16.pair (Packed.u32.pair
      (Packed.u32.pair ((mmioRangeLayout.array 4).pair (Packed.u32.pair
        (Packed.u8.array 16)))))))).view
      (fun x => ⟨x.1, x.2.1, x.2.2.1, x.2.2.2.1, x.2.2.2.2.1, x.2.2.2.2.2.1, x.2.2.2.2.2.2.1,
        x.2.2.2.2.2.2.2⟩)
      (fun r => (r.interfaceInfo, r.msiXMessageControl, r.lnrControl, r.tphControl,
        r.mmioRangeCount, r.mmioRange, r.deviceSpecificInfoLen, r.deviceSpecificInfo))
      (fun _ => rfl)
  requestType_injective := by
    intro a b h
    cases a <;> cases b <;> first | rfl | exact absurd h (by decide)
  responseType_injective := by
    intro a b h
    cases a <;> cases b <;> first | rfl | exact absurd h (by decide)
  tdiState_injective := by
    intro a b h
    cases a <;> cases b <;> first | rfl | exact absurd h (by decide)
  tdiState_configUnlocked := rfl
  interfaceReport_size_le := by decide

end PciTdisp

end SpdmEmu.Tdisp
