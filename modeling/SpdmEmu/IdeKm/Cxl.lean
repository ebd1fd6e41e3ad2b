import SpdmEmu.IdeKm.Responder

/-!
# CXL IDE key management

`library/cxl_ide_km_device_lib_sample` and `library/cxl_ide_km_responder_lib`: the CXL counterpart
of the PCI libraries, with two key slots, a capability byte in the answer to `QUERY` and a fifth
request `GET_KEY`, which returns a fresh random key and stores nothing. `CxlIdeKm` is what they take
from the industry standard header `cxl_idekm.h`, which the repository does not contain; the slot is
the direction bit of the sub-stream, shifted down by one, so the shifted mask is below 2.
-/

set_option autoImplicit false

namespace SpdmEmu.IdeKm.Cxl

open SpdmEmu.Wire SpdmEmu.Libspdm SpdmEmu.Run

/-! ## Message formats -/

/-- The requests of `m_cxl_ide_km_dispatch`. -/
inductive Request where
  | query
  | keyProg
  | kSetGo
  | kSetStop
  | getKey
deriving DecidableEq, Repr

/-- The response messages. -/
inductive Response where
  | queryResp
  | kpAck
  | kSetGostopAck
  | getKeyAck
deriving DecidableEq, Repr

/-- The fixed body of `cxl_ide_km_query_resp_mine_t`; the register block follows. -/
structure QueryRespBody where
  portIndex : UInt8
  devFuncNum : UInt8
  busNum : UInt8
  segment : UInt8
  maxPortIndex : UInt8
  caps : UInt8
deriving DecidableEq, Repr

/-- `cxl_ide_km_aes_256_gcm_key_buffer_t` -/
structure KeyBuffer where
  key : Vector UInt32 8
  iv : Vector UInt32 3
deriving DecidableEq, Repr

/-- A key buffer in zeroed memory. -/
def KeyBuffer.zeroed : KeyBuffer := ⟨Vector.replicate _ 0, Vector.replicate _ 0⟩

/-- The body of `cxl_ide_km_get_key_ack_mine_t`. -/
structure GetKeyAckBody where
  key : KeyBody
  keyBuffer : KeyBuffer
deriving DecidableEq, Repr

/-- `CXL_IDE_KM_IDE_CAP_REG_BLOCK_MAX_COUNT` -/
def ideCapRegBlockMaxCount : Nat := 9

/-- `industry_standard/cxl_idekm.h`, and libspdm's status for missing entropy. -/
structure CxlIdeKm where
  requestObjectId : Request → UInt8
  responseObjectId : Response → UInt8
  kpAckStatusSuccess : UInt8
  keyDirectionMask : UInt8
  queryRespCapVersion1 : UInt8
  queryRespIvGenCap : UInt8
  queryRespKeyGenCap : UInt8
  queryRespKSetStopCap : UInt8
  /-- `LIBSPDM_STATUS_LOW_ENTROPY` -/
  statusLowEntropy : LibspdmReturn
  /-- `cxl_ide_km_header_t`, the object id -/
  header : Packed UInt8
  queryRequest : Packed UInt8
  keyProgRequest : Packed KeyBody
  kSetGoRequest : Packed KeyBody
  kSetStopRequest : Packed KeyBody
  getKeyRequest : Packed KeyBody
  keyBuffer : Packed KeyBuffer
  queryResp : Packed QueryRespBody
  ideReg : Packed UInt32
  kpAck : Packed KpAckBody
  kGostopAck : Packed KeyBody
  getKeyAck : Packed GetKeyAckBody
  requestObjectId_injective : Function.Injective requestObjectId
  keyMask_lt : keyDirectionMask.toNat >>> 1 < 2

/-! ## The device library -/

/-- `libcxlidekm_device_port_context`, less `stream_id`, which no function uses. -/
structure PortContext where
  portIndex : UInt8
  devFuncNum : UInt8
  busNum : UInt8
  segment : UInt8
  maxPortIndex : UInt8
  caps : UInt8
  ideRegBuffer : Vector UInt32 ideCapRegBlockMaxCount
  ideRegBufferCount : UInt32
  keyBuffer : Vector KeyBuffer 2
  isKeyProg : Vector Bool 2
  isKeySetGo : Vector Bool 2
deriving DecidableEq

/-- `g_cxlidekm_device_port_context` before the first request. -/
def PortContext.zeroed : PortContext where
  portIndex := 0
  devFuncNum := 0
  busNum := 0
  segment := 0
  maxPortIndex := 0
  caps := 0
  ideRegBuffer := Vector.replicate _ 0
  ideRegBufferCount := 0
  keyBuffer := Vector.replicate _ KeyBuffer.zeroed
  isKeyProg := Vector.replicate _ false
  isKeySetGo := Vector.replicate _ false

/-- `libcxlidekm_initialize_device_port_context` -/
def libcxlidekmInitializeDevicePortContext (C : CxlIdeKm) (portIndex : UInt8) : PortContext :=
  { PortContext.zeroed with
    portIndex := portIndex
    devFuncNum := 0
    busNum := 0
    segment := 0
    maxPortIndex := 7
    caps := C.queryRespCapVersion1 ||| C.queryRespIvGenCap ||| C.queryRespKeyGenCap |||
      C.queryRespKSetStopCap
    ideRegBufferCount := UInt32.ofNat ideCapRegBlockMaxCount }

/-- `libcxlidekm_get_device_port_context` returns the context, and not `NULL`, for the bound
port. -/
def PortContext.isBound (ctx : PortContext) (portIndex : UInt8) : Bool :=
  ctx.portIndex == portIndex

/-- The slot of a key sub-stream. -/
def keyIndex (C : CxlIdeKm) (keySubStream : UInt8) : Fin 2 :=
  ⟨(keySubStream &&& C.keyDirectionMask).toNat >>> 1, by
    have hle : (keySubStream &&& C.keyDirectionMask).toNat ≤ C.keyDirectionMask.toNat := by
      rw [UInt8.toNat_and]
      exact Nat.and_le_right
    have hlt := C.keyMask_lt
    rw [Nat.shiftRight_eq_div_pow] at hlt ⊢
    omega⟩

/-- `cxl_ide_km_device_key_prog` -/
def cxlIdeKmDeviceKeyProg (C : CxlIdeKm) (ctx : PortContext) (key : KeyBody)
    (keyBuffer : KeyBuffer) : Except LibspdmReturn UInt8 × PortContext :=
  let index := keyIndex C key.keySubStream
  forBoundPort (ctx.isBound key.portIndex) ctx C.kpAckStatusSuccess
    { ctx with
      keyBuffer := ctx.keyBuffer.set index keyBuffer
      isKeyProg := ctx.isKeyProg.set index true }

/-- `cxl_ide_km_device_key_set_go` and `cxl_ide_km_device_key_set_stop`, which set and clear the
same flag. -/
def setKeySetGo (C : CxlIdeKm) (go : Bool) (ctx : PortContext) (key : KeyBody) :
    Except LibspdmReturn Unit × PortContext :=
  forBoundPort (ctx.isBound key.portIndex) ctx ()
    { ctx with isKeySetGo := ctx.isKeySetGo.set (keyIndex C key.keySubStream) go }

/-- `cxl_ide_km_device_key_set_go` -/
def cxlIdeKmDeviceKeySetGo (C : CxlIdeKm) : PortContext → KeyBody →
    Except LibspdmReturn Unit × PortContext :=
  setKeySetGo C true

/-- `cxl_ide_km_device_key_set_stop` -/
def cxlIdeKmDeviceKeySetStop (C : CxlIdeKm) : PortContext → KeyBody →
    Except LibspdmReturn Unit × PortContext :=
  setKeySetGo C false

/-- `cxl_ide_km_device_query`: the port context is initialized anew. -/
def cxlIdeKmDeviceQuery (C : CxlIdeKm) (portIndex : UInt8) : PortContext :=
  libcxlidekmInitializeDevicePortContext C portIndex

/-- What a call of `libspdm_get_random_number` leaves: its result, and the words in the buffer. -/
structure RandomNumber where
  result : Bool
  number : Vector UInt32 8
deriving DecidableEq, Repr

/-- `cxl_ide_km_device_get_key`, with the key buffer before the call. -/
def cxlIdeKmDeviceGetKey (C : CxlIdeKm) (ctx : PortContext) (key : KeyBody) (random : RandomNumber)
    (keyBuffer : KeyBuffer) : LibspdmReturn × KeyBuffer :=
  if !ctx.isBound key.portIndex then (.invalidMsgField, keyBuffer)
  else
    let keyBuffer := { keyBuffer with key := random.number }
    if !random.result then (C.statusLowEntropy, keyBuffer)
    else (.success, { keyBuffer with iv := #v[0, 1, 2] })

/-! ## The handlers -/

/-- A response message. -/
def message (C : CxlIdeKm) (kind : Response) (body : Bytes) : Bytes :=
  C.header.encode (C.responseObjectId kind) ++ body

/-- `cxl_ide_km_get_response_query` -/
def cxlIdeKmGetResponseQuery (C : CxlIdeKm) (ctx : PortContext) (request : Bytes) :
    Reply × PortContext :=
  let portIndex := C.queryRequest.decode (request.drop C.header.size)
  if request.length ≠ C.header.size + C.queryRequest.size then (⟨.invalidMsgSize, none⟩, ctx)
  else
    let ctx := cxlIdeKmDeviceQuery C portIndex
    (⟨.success, some (message C .queryResp
      (C.queryResp.encode
        ⟨portIndex, ctx.devFuncNum, ctx.busNum, ctx.segment, ctx.maxPortIndex, ctx.caps⟩ ++
        C.ideReg.encodeList (ctx.ideRegBuffer.toList.take ctx.ideRegBufferCount.toNat)))⟩, ctx)

/-- `cxl_ide_km_get_response_key_prog` -/
def cxlIdeKmGetResponseKeyProg (C : CxlIdeKm) : PortContext → Bytes → Reply × PortContext :=
  handleKeyProg C.header.size C.keyProgRequest C.keyBuffer
    (fun ack => message C .kpAck (C.kpAck.encode ack)) (cxlIdeKmDeviceKeyProg C)

/-- The common shape of the two handlers of a key set. -/
def handleKeySet (C : CxlIdeKm) (body : Packed KeyBody)
    (device : PortContext → KeyBody → Except LibspdmReturn Unit × PortContext) :
    PortContext → Bytes → Reply × PortContext :=
  handleKeySetOf C.header.size body
    (fun key => message C .kSetGostopAck (C.kGostopAck.encode key)) device

/-- `cxl_ide_km_get_response_key_set_go` -/
def cxlIdeKmGetResponseKeySetGo (C : CxlIdeKm) : PortContext → Bytes → Reply × PortContext :=
  handleKeySet C C.kSetGoRequest (cxlIdeKmDeviceKeySetGo C)

/-- `cxl_ide_km_get_response_key_set_stop` -/
def cxlIdeKmGetResponseKeySetStop (C : CxlIdeKm) : PortContext → Bytes → Reply × PortContext :=
  handleKeySet C C.kSetStopRequest (cxlIdeKmDeviceKeySetStop C)

/-- `cxl_ide_km_get_response_get_key`: the device fills the key buffer of the zeroed response, and
the port context stays as it is. -/
def cxlIdeKmGetResponseGetKey (C : CxlIdeKm) (random : RandomNumber) (ctx : PortContext)
    (request : Bytes) : Reply × PortContext :=
  let key := C.getKeyRequest.decode (request.drop C.header.size)
  if request.length ≠ C.header.size + C.getKeyRequest.size then (⟨.invalidMsgSize, none⟩, ctx)
  else
    let (status, keyBuffer) := cxlIdeKmDeviceGetKey C ctx key random KeyBuffer.zeroed
    let ack := message C .getKeyAck (C.getKeyAck.encode ⟨key, keyBuffer⟩)
    (⟨if status.isError then status else .success, some ack⟩, ctx)

/-- The object ids of `m_cxl_ide_km_dispatch`, in its order. -/
def mCxlIdeKmDispatch : List Request := [.query, .keyProg, .kSetGo, .kSetStop, .getKey]

/-- The handler of a table entry. -/
def handler (C : CxlIdeKm) (random : RandomNumber) :
    Request → PortContext → Bytes → Reply × PortContext
  | .query => cxlIdeKmGetResponseQuery C
  | .keyProg => cxlIdeKmGetResponseKeyProg C
  | .kSetGo => cxlIdeKmGetResponseKeySetGo C
  | .kSetStop => cxlIdeKmGetResponseKeySetStop C
  | .getKey => cxlIdeKmGetResponseGetKey C random

/-- `cxl_ide_km_get_response`; `random` is what the random number generator would return during the
call. -/
def cxlIdeKmGetResponse (C : CxlIdeKm) (random : RandomNumber) :
    PortContext → Bytes → Reply × PortContext :=
  dispatchObject C.header C.requestObjectId mCxlIdeKmDispatch (handler C random)

/-- The responder over its port context; an input is a request with the random number of its
call. -/
def responder (C : CxlIdeKm) : Machine PortContext (Bytes × RandomNumber) Reply where
  step ctx input := cxlIdeKmGetResponse C input.2 ctx input.1

/-! ## Concrete values -/

namespace CxlIdeKm

private def cxlKeyBodyLayout : Packed KeyBody :=
  (Packed.u8.pair ((Packed.reserved 1).pair (Packed.u8.pair Packed.u8))).view
    (fun x => ⟨x.1, x.2.2.1, x.2.2.2⟩) (fun b => (b.streamId, (), b.keySubStream, b.portIndex))
    (fun _ => rfl)

/-- `n` reserved bytes and then a structure. -/
private def afterReserved {α : Type} (n : Nat) (p : Packed α) : Packed α :=
  ((Packed.reserved n).pair p).view (fun x => x.2) (fun b => ((), b)) (fun _ => rfl)

private def cxlKeyRequestLayout : Packed KeyBody := afterReserved 2 cxlKeyBodyLayout

private def cxlKeyBufferLayout : Packed KeyBuffer :=
  ((Packed.u32.array 8).pair (Packed.u32.array 3)).view (fun x => ⟨x.1, x.2⟩)
    (fun b => (b.key, b.iv)) (fun _ => rfl)

/-- Concrete codes and layouts, on which statements can be evaluated. -/
def sample : CxlIdeKm where
  requestObjectId
    | .query => 0x00
    | .keyProg => 0x02
    | .kSetGo => 0x04
    | .kSetStop => 0x05
    | .getKey => 0x07
  responseObjectId
    | .queryResp => 0x01
    | .kpAck => 0x03
    | .kSetGostopAck => 0x06
    | .getKeyAck => 0x08
  kpAckStatusSuccess := 0
  keyDirectionMask := 2
  queryRespCapVersion1 := 1
  queryRespIvGenCap := 2
  queryRespKeyGenCap := 4
  queryRespKSetStopCap := 8
  statusLowEntropy := .raw 0x80000000
  header := Packed.u8
  queryRequest := afterReserved 1 Packed.u8
  keyProgRequest := cxlKeyRequestLayout
  kSetGoRequest := cxlKeyRequestLayout
  kSetStopRequest := cxlKeyRequestLayout
  getKeyRequest := cxlKeyRequestLayout
  keyBuffer := cxlKeyBufferLayout
  queryResp := (afterReserved 1 (Packed.u8.pair (Packed.u8.pair (Packed.u8.pair
    (Packed.u8.pair (Packed.u8.pair Packed.u8)))))).view
    (fun x => ⟨x.1, x.2.1, x.2.2.1, x.2.2.2.1, x.2.2.2.2.1, x.2.2.2.2.2⟩)
    (fun b => (b.portIndex, b.devFuncNum, b.busNum, b.segment, b.maxPortIndex, b.caps))
    (fun _ => rfl)
  ideReg := Packed.u32
  kpAck := (cxlKeyRequestLayout.pair Packed.u8).view (fun x => ⟨x.1, x.2⟩)
    (fun b => (b.key, b.status)) (fun _ => rfl)
  kGostopAck := cxlKeyRequestLayout
  getKeyAck := (cxlKeyRequestLayout.pair cxlKeyBufferLayout).view (fun x => ⟨x.1, x.2⟩)
    (fun b => (b.key, b.keyBuffer)) (fun _ => rfl)
  requestObjectId_injective := by
    intro a b h
    cases a <;> cases b <;> first | rfl | exact absurd h (by decide)
  keyMask_lt := by decide

end CxlIdeKm

end SpdmEmu.IdeKm.Cxl
