import SpdmEmu.IdeKm.KeyProtocol
import SpdmEmu.Run.Machine

/-!
# PCI IDE key management

`library/pci_ide_km_device_lib_sample` and `library/pci_ide_km_responder_lib`: one port context with
four key slots, bound to a port by `QUERY`, and the four handlers. `PciIdeKm` is what they take from
the industry standard header `pci_idekm.h`, which the repository does not contain; its key set and
key direction masks select a slot, so together they are below 4.
-/

set_option autoImplicit false

namespace SpdmEmu.IdeKm

open SpdmEmu.Wire SpdmEmu.Libspdm SpdmEmu.Run

/-! ## Message formats -/

/-- The requests of `m_pci_ide_km_dispatch`. -/
inductive Request where
  | query
  | keyProg
  | kSetGo
  | kSetStop
deriving DecidableEq, Repr

/-- The response messages. -/
inductive Response where
  | queryResp
  | kpAck
  | kSetGostopAck
deriving DecidableEq, Repr

/-- The fixed body of `pci_ide_km_query_resp_mine_t`; the register block follows. -/
structure QueryRespBody where
  portIndex : UInt8
  devFuncNum : UInt8
  busNum : UInt8
  segment : UInt8
  maxPortIndex : UInt8
deriving DecidableEq, Repr

/-- `pci_ide_km_aes_256_gcm_key_buffer_t`: eight key words and two words of initialization vector,
copied as bytes. -/
abbrev KeyBuffer := Vector UInt8 40

/-- `PCI_IDE_KM_IDE_REG_BLOCK_SUPPORTED_COUNT` -/
def ideRegBlockSupportedCount : Nat := 2 + 2 * 4 + (3 + 2 + 3 * 1) * 8

/-- `industry_standard/pci_idekm.h` -/
structure PciIdeKm where
  requestObjectId : Request → UInt8
  responseObjectId : Response → UInt8
  kpAckStatusSuccess : UInt8
  keySetMask : UInt8
  keyDirectionMask : UInt8
  /-- `pci_ide_km_header_t`, the object id -/
  header : Packed UInt8
  queryRequest : Packed UInt8
  keyProgRequest : Packed KeyBody
  kSetGoRequest : Packed KeyBody
  kSetStopRequest : Packed KeyBody
  keyBuffer : Packed KeyBuffer
  queryResp : Packed QueryRespBody
  ideReg : Packed UInt32
  kpAck : Packed KpAckBody
  kSetGostopAck : Packed KeyBody
  requestObjectId_injective : Function.Injective requestObjectId
  keyMask_lt : (keySetMask ||| keyDirectionMask).toNat < 4

/-! ## The device library -/

/-- `libidekm_device_port_context`, less `stream_id`, which no function uses. -/
structure PortContext where
  portIndex : UInt8
  devFuncNum : UInt8
  busNum : UInt8
  segment : UInt8
  maxPortIndex : UInt8
  ideRegBuffer : Vector UInt32 ideRegBlockSupportedCount
  ideRegBufferCount : UInt32
  keyBuffer : Vector KeyBuffer 4
  isKeyProg : Vector Bool 4
  isKeySetGo : Vector Bool 4
deriving DecidableEq

/-- `libidekm_initialize_device_port_context` -/
def libidekmInitializeDevicePortContext (portIndex : UInt8) : PortContext where
  portIndex := portIndex
  devFuncNum := 0
  busNum := 0
  segment := 0
  maxPortIndex := 7
  ideRegBuffer := Vector.replicate _ 0
  ideRegBufferCount := UInt32.ofNat ideRegBlockSupportedCount
  keyBuffer := Vector.replicate _ (Vector.replicate _ 0)
  isKeyProg := Vector.replicate _ false
  isKeySetGo := Vector.replicate _ false

/-- `libidekm_get_device_port_context` returns the context, and not `NULL`, for the bound port. -/
def PortContext.isBound (ctx : PortContext) (portIndex : UInt8) : Bool :=
  ctx.portIndex == portIndex

variable {K : PciIdeKm}

/-- The slot of a key sub-stream. -/
def keyIndex (K : PciIdeKm) (keySubStream : UInt8) : Fin 4 :=
  ⟨(keySubStream &&& (K.keySetMask ||| K.keyDirectionMask)).toNat, by
    have hle := Nat.and_le_right (n := keySubStream.toNat)
      (m := (K.keySetMask ||| K.keyDirectionMask).toNat)
    rw [UInt8.toNat_and]
    exact Nat.lt_of_le_of_lt hle K.keyMask_lt⟩

/-- `pci_ide_km_device_key_prog` -/
def pciIdeKmDeviceKeyProg (K : PciIdeKm) (ctx : PortContext) (key : KeyBody)
    (keyBuffer : KeyBuffer) : Except LibspdmReturn UInt8 × PortContext :=
  let index := keyIndex K key.keySubStream
  forBoundPort (ctx.isBound key.portIndex) ctx K.kpAckStatusSuccess
    { ctx with
      keyBuffer := ctx.keyBuffer.set index keyBuffer
      isKeyProg := ctx.isKeyProg.set index true }

/-- `pci_ide_km_device_key_set_go` and `pci_ide_km_device_key_set_stop`, which set and clear the
same flag. -/
def setKeySetGo (K : PciIdeKm) (go : Bool) (ctx : PortContext) (key : KeyBody) :
    Except LibspdmReturn Unit × PortContext :=
  forBoundPort (ctx.isBound key.portIndex) ctx ()
    { ctx with isKeySetGo := ctx.isKeySetGo.set (keyIndex K key.keySubStream) go }

/-- `pci_ide_km_device_key_set_go` -/
def pciIdeKmDeviceKeySetGo (K : PciIdeKm) : PortContext → KeyBody →
    Except LibspdmReturn Unit × PortContext :=
  setKeySetGo K true

/-- `pci_ide_km_device_key_set_stop` -/
def pciIdeKmDeviceKeySetStop (K : PciIdeKm) : PortContext → KeyBody →
    Except LibspdmReturn Unit × PortContext :=
  setKeySetGo K false

/-- `pci_ide_km_device_query`: the port context is initialized anew. -/
def pciIdeKmDeviceQuery (portIndex : UInt8) : PortContext :=
  libidekmInitializeDevicePortContext portIndex

/-- What `pci_ide_km_device_query` of a device library answers. The responder asserts the bound on
the number of registers. -/
structure QueryAnswer where
  status : LibspdmReturn
  devFuncNum : UInt8
  busNum : UInt8
  segment : UInt8
  maxPortIndex : UInt8
  ideRegs : List UInt32
  count_le : ideRegs.length ≤ ideRegBlockSupportedCount

/-- The fixed part of the response. -/
def QueryAnswer.body (answer : QueryAnswer) (portIndex : UInt8) : QueryRespBody :=
  ⟨portIndex, answer.devFuncNum, answer.busNum, answer.segment, answer.maxPortIndex⟩

/-- The answer of the device library sample: the fields and registers of the port context. -/
def sampleDeviceQuery (_ctx : PortContext) (portIndex : UInt8) : QueryAnswer × PortContext :=
  let ctx := pciIdeKmDeviceQuery portIndex
  ({ status := .success
     devFuncNum := ctx.devFuncNum
     busNum := ctx.busNum
     segment := ctx.segment
     maxPortIndex := ctx.maxPortIndex
     ideRegs := ctx.ideRegBuffer.toList.take ctx.ideRegBufferCount.toNat
     count_le := by
       have hlen : ctx.ideRegBuffer.toList.length = ideRegBlockSupportedCount :=
         Vector.length_toList
       exact Nat.le_trans (List.length_take_le' _ _) (Nat.le_of_eq hlen) }, ctx)

/-! ## The handlers -/

/-- A response message. -/
def message (K : PciIdeKm) (kind : Response) (body : Bytes) : Bytes :=
  K.header.encode (K.responseObjectId kind) ++ body

/-- `pci_ide_km_get_response_query` over any device library. -/
def getResponseQueryOf {σ : Type} (K : PciIdeKm) (device : σ → UInt8 → QueryAnswer × σ) (s : σ)
    (request : Bytes) : Reply × σ :=
  let portIndex := K.queryRequest.decode (request.drop K.header.size)
  if request.length ≠ K.header.size + K.queryRequest.size then (⟨.invalidMsgSize, none⟩, s)
  else
    let (answer, s) := device s portIndex
    let body := K.queryResp.encode (answer.body portIndex)
    if answer.status.isError then
      -- the register block of the response object is still zero
      (⟨answer.status, some (message K .queryResp
        (body ++ List.replicate (ideRegBlockSupportedCount * K.ideReg.size) 0))⟩, s)
    else (⟨.success, some (message K .queryResp (body ++ K.ideReg.encodeList answer.ideRegs))⟩, s)

/-- `pci_ide_km_get_response_query` -/
def pciIdeKmGetResponseQuery (K : PciIdeKm) : PortContext → Bytes → Reply × PortContext :=
  getResponseQueryOf K sampleDeviceQuery

/-- `pci_ide_km_get_response_key_prog` -/
def pciIdeKmGetResponseKeyProg (K : PciIdeKm) : PortContext → Bytes → Reply × PortContext :=
  handleKeyProg K.header.size K.keyProgRequest K.keyBuffer
    (fun ack => message K .kpAck (K.kpAck.encode ack)) (pciIdeKmDeviceKeyProg K)

/-- The common shape of the two handlers of a key set. -/
def handleKeySet (K : PciIdeKm) (body : Packed KeyBody)
    (device : PortContext → KeyBody → Except LibspdmReturn Unit × PortContext) :
    PortContext → Bytes → Reply × PortContext :=
  handleKeySetOf K.header.size body
    (fun key => message K .kSetGostopAck (K.kSetGostopAck.encode key)) device

/-- `pci_ide_km_get_response_key_set_go` -/
def pciIdeKmGetResponseKeySetGo (K : PciIdeKm) : PortContext → Bytes → Reply × PortContext :=
  handleKeySet K K.kSetGoRequest (pciIdeKmDeviceKeySetGo K)

/-- `pci_ide_km_get_response_key_set_stop` -/
def pciIdeKmGetResponseKeySetStop (K : PciIdeKm) : PortContext → Bytes → Reply × PortContext :=
  handleKeySet K K.kSetStopRequest (pciIdeKmDeviceKeySetStop K)

/-- The object ids of `m_pci_ide_km_dispatch`, in its order. -/
def mPciIdeKmDispatch : List Request := [.query, .keyProg, .kSetGo, .kSetStop]

/-- The handler of a table entry. -/
def handler (K : PciIdeKm) : Request → PortContext → Bytes → Reply × PortContext
  | .query => pciIdeKmGetResponseQuery K
  | .keyProg => pciIdeKmGetResponseKeyProg K
  | .kSetGo => pciIdeKmGetResponseKeySetGo K
  | .kSetStop => pciIdeKmGetResponseKeySetStop K

/-- `pci_ide_km_get_response` -/
def pciIdeKmGetResponse (K : PciIdeKm) : PortContext → Bytes → Reply × PortContext :=
  dispatchObject K.header K.requestObjectId mPciIdeKmDispatch (handler K)

/-- Each object id finds its own table entry. -/
theorem find_mPciIdeKmDispatch (K : PciIdeKm) (r : Request) :
    mPciIdeKmDispatch.find? (fun r' => K.requestObjectId r == K.requestObjectId r') = some r :=
  find_of_injective K.requestObjectId_injective (by cases r <;> decide)

/-- The responder over its port context. -/
def responder (K : PciIdeKm) : Machine PortContext Bytes Reply where
  step := pciIdeKmGetResponse K

/-! ## Concrete values -/

namespace PciIdeKm

private def keyBodyLayout : Packed KeyBody :=
  (Packed.u8.pair (Packed.u8.pair Packed.u8)).view (fun x => ⟨x.1, x.2.1, x.2.2⟩)
    (fun b => (b.streamId, b.keySubStream, b.portIndex)) (fun _ => rfl)

/-- Concrete codes and layouts, on which statements can be evaluated. -/
def sample : PciIdeKm where
  requestObjectId
    | .query => 0x00
    | .keyProg => 0x02
    | .kSetGo => 0x04
    | .kSetStop => 0x05
  responseObjectId
    | .queryResp => 0x01
    | .kpAck => 0x03
    | .kSetGostopAck => 0x06
  kpAckStatusSuccess := 0
  keySetMask := 1
  keyDirectionMask := 2
  header := Packed.u8
  queryRequest := ((Packed.reserved 1).pair Packed.u8).view (fun x => x.2) (fun p => ((), p))
    (fun _ => rfl)
  keyProgRequest := ((Packed.reserved 2).pair keyBodyLayout).view (fun x => x.2) (fun b => ((), b))
    (fun _ => rfl)
  kSetGoRequest := ((Packed.reserved 2).pair keyBodyLayout).view (fun x => x.2) (fun b => ((), b))
    (fun _ => rfl)
  kSetStopRequest := ((Packed.reserved 2).pair keyBodyLayout).view (fun x => x.2)
    (fun b => ((), b)) (fun _ => rfl)
  keyBuffer := Packed.u8.array 40
  queryResp := ((Packed.reserved 1).pair (Packed.u8.pair (Packed.u8.pair (Packed.u8.pair
    (Packed.u8.pair Packed.u8))))).view
    (fun x => ⟨x.2.1, x.2.2.1, x.2.2.2.1, x.2.2.2.2.1, x.2.2.2.2.2⟩)
    (fun b => ((), b.portIndex, b.devFuncNum, b.busNum, b.segment, b.maxPortIndex))
    (fun _ => rfl)
  ideReg := Packed.u32
  kpAck := ((Packed.reserved 2).pair (keyBodyLayout.pair Packed.u8)).view
    (fun x => ⟨x.2.1, x.2.2⟩) (fun b => ((), b.key, b.status)) (fun _ => rfl)
  kSetGostopAck := ((Packed.reserved 2).pair keyBodyLayout).view (fun x => x.2)
    (fun b => ((), b)) (fun _ => rfl)
  requestObjectId_injective := by
    intro a b h
    cases a <;> cases b <;> first | rfl | exact absurd h (by decide)
  keyMask_lt := by decide

end PciIdeKm

end SpdmEmu.IdeKm
