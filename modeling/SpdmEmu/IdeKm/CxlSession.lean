import SpdmEmu.IdeKm.Cxl
import SpdmEmu.IdeKm.Session
import SpdmEmu.Run.Slots

/-!
# A CXL IDE_KM session

The requesters of `library/cxl_ide_km_requester_lib` and the two functions of the requester emulator
that call them. Where the keys come from depends on the capabilities of the peer: a peer that
generates keys or initialization vectors is asked for them with `GET_KEY`, and what it does not
generate the requester fills in. The key buffer is a local variable without an initial value;
`cxlIdeKm_setup_of_any_stack` says that no byte of it is left when it is sent.

`cxl_caps` is a global variable. The setup writes it, and the teardown stops the key sets only if it
says that the peer can stop them.
-/

set_option autoImplicit false

namespace SpdmEmu.IdeKm.Cxl

open SpdmEmu.Wire SpdmEmu.Libspdm SpdmEmu.Run

variable {σ : Type}

/-! ## The requesters -/

section Requesters

variable (C : CxlIdeKm) (sendReceive : SendReceive σ) (key : KeyBody)

/-- The messages of `cxl_ide_km_query`. -/
def queryProtocol : QueryProtocol QueryRespBody where
  request portIndex := C.header.encode (C.requestObjectId .query) ++ C.queryRequest.encode portIndex
  header := C.header
  responseObjectId := C.responseObjectId .queryResp
  queryResp := C.queryResp
  portIndex := QueryRespBody.portIndex
  ideReg := C.ideReg
  regBlockCount := ideCapRegBlockMaxCount
  regBlockCount_lt := by decide

/-- `cxl_ide_km_query` -/
def cxlIdeKmQuery (link : σ) (portIndex : UInt8) (ideRegBuffer : Mem)
    (ideRegBufferCount : UInt32) : QueryResult QueryRespBody σ :=
  (queryProtocol C).query sendReceive link portIndex ideRegBuffer ideRegBufferCount

/-- `cxl_ide_km_get_key` -/
def cxlIdeKmGetKey : Flow σ LibspdmReturn KeyBuffer := do
  let ack ← exchangeKey C.header sendReceive
    (C.header.encode (C.requestObjectId .getKey) ++ C.getKeyRequest.encode key)
    (C.responseObjectId .getKeyAck) C.getKeyAck GetKeyAckBody.key key
  return ack.keyBuffer

/-- The request of `cxl_ide_km_key_prog`. -/
def keyProgMessage (keyBuffer : KeyBuffer) : Bytes :=
  C.header.encode (C.requestObjectId .keyProg) ++
    (C.keyProgRequest.encode key ++ C.keyBuffer.encode keyBuffer)

/-- `cxl_ide_km_key_prog`: the status of the acknowledgement. -/
def cxlIdeKmKeyProg (keyBuffer : KeyBuffer) : Flow σ LibspdmReturn UInt8 :=
  exchangeKeyProg C.header sendReceive (keyProgMessage C key keyBuffer)
    (C.responseObjectId .kpAck) C.kpAck key

/-- The common shape of the two requesters of a key set. -/
def exchangeKeySet (r : Request) (body : Packed KeyBody) : Flow σ LibspdmReturn Unit :=
  exchangeKeySetOf C.header sendReceive (C.header.encode (C.requestObjectId r) ++ body.encode key)
    (C.responseObjectId .kSetGostopAck) C.kGostopAck key

/-- `cxl_ide_km_key_set_go` -/
def cxlIdeKmKeySetGo : Flow σ LibspdmReturn Unit :=
  exchangeKeySet C sendReceive key .kSetGo C.kSetGoRequest

/-- `cxl_ide_km_key_set_stop` -/
def cxlIdeKmKeySetStop : Flow σ LibspdmReturn Unit :=
  exchangeKeySet C sendReceive key .kSetStop C.kSetStopRequest

end Requesters

/-! ## The session -/

/-- The codes of `cxl_idekm.h` that a key sub-stream is put together from. -/
structure SubStreamCodes where
  keyDirection : Direction → UInt8
  keySubStreamCxl : UInt8
  keyIvInitial : UInt8
  keyIvDefault : UInt8
  keyModeSkid : UInt8

/-- The stream, sub-stream and port of a key message of the session. -/
def sessionKey (keySubStream : UInt8) : KeyBody := ⟨0, keySubStream, 0⟩

/-- The initialization vector that the requester fills in. -/
def initialIv : Vector UInt32 3 := #v[0x80000000, 0, 1]

/-- Random bytes in the key words of a key buffer. -/
def keyOfBytes (bytes : Vector UInt8 32) : Vector UInt32 8 :=
  (Packed.u32.array 8).decode bytes.toList

section Session

variable (C : CxlIdeKm) (codes : SubStreamCodes) (host : Host σ)

/-- `cxl_ide_km_query` as the setup calls it: `cxl_caps` is cleared before, and written on
success. -/
def sessionQuery (ideRegBlock : Mem) : Flow (σ × UInt8) LibspdmReturn UInt8 := fun s =>
  let result := cxlIdeKmQuery C host.sendReceive s.1 0 ideRegBlock
    (UInt32.ofNat ideCapRegBlockMaxCount)
  let cxlCaps := (result.port.map QueryRespBody.caps).getD 0
  if result.status.isError then (.error result.status, (result.link, cxlCaps))
  else (.ok cxlCaps, (result.link, cxlCaps))

/-- The key buffer of the receiving direction; `stack` is what the local variable holds before. -/
def receiveKeyBuffer (caps : UInt8) (stack : KeyBuffer) : Flow σ LibspdmReturn KeyBuffer := do
  let keyBuffer ←
    if caps &&& (C.queryRespIvGenCap ||| C.queryRespKeyGenCap) ≠ 0 then
      cxlIdeKmGetKey C host.sendReceive (sessionKey codes.keySubStreamCxl)
    else pure stack
  let keyBuffer ←
    if caps &&& C.queryRespKeyGenCap = 0 then do
      let bytes ← host.randomNumber 32
      pure { keyBuffer with key := keyOfBytes bytes }
    else pure keyBuffer
  if caps &&& C.queryRespIvGenCap = 0 then pure { keyBuffer with iv := initialIv }
  else pure keyBuffer

/-- `CXL_IDE_KM_KEY_IV_INITIAL` for the initial vector, `CXL_IDE_KM_KEY_IV_DEFAULT` for another. -/
def ivType (iv : Vector UInt32 3) : UInt8 :=
  if iv.get 0 ≠ 0x80000000 then codes.keyIvDefault else codes.keyIvInitial

/-- The setup after the query. -/
def programKeys (caps : UInt8) (stack : KeyBuffer) : Flow σ LibspdmReturn Unit := do
  let rxBuffer ← receiveKeyBuffer C codes host caps stack
  let _kpAckStatus ← cxlIdeKmKeyProg C host.sendReceive (sessionKey
    (codes.keyDirection .rx ||| ivType codes rxBuffer.iv ||| codes.keySubStreamCxl)) rxBuffer
  let bytes ← host.randomNumber 32
  let _kpAckStatus ← cxlIdeKmKeyProg C host.sendReceive (sessionKey
    (codes.keyDirection .tx ||| codes.keyIvInitial ||| codes.keySubStreamCxl))
    ⟨keyOfBytes bytes, initialIv⟩
  cxlIdeKmKeySetGo C host.sendReceive (sessionKey
    (codes.keyDirection .rx ||| codes.keyModeSkid ||| codes.keySubStreamCxl))
  cxlIdeKmKeySetGo C host.sendReceive (sessionKey
    (codes.keyDirection .tx ||| codes.keyModeSkid ||| codes.keySubStreamCxl))

/-- `cxl_ide_km_process_session_message_setup` -/
def cxlIdeKmProcessSessionMessageSetup (ideRegBlock : Mem) (stack : KeyBuffer) :
    Flow (σ × UInt8) LibspdmReturn Unit := do
  let caps ← sessionQuery C host ideRegBlock
  (programKeys C codes host caps stack).beside

/-- `cxl_ide_km_process_session_message_teardown` -/
def cxlIdeKmProcessSessionMessageTeardown : Flow (σ × UInt8) LibspdmReturn Unit := fun s =>
  if s.2 &&& C.queryRespKSetStopCap ≠ 0 then
    (do (cxlIdeKmKeySetStop C host.sendReceive
          (sessionKey (codes.keyDirection .rx ||| codes.keySubStreamCxl))).beside
        (cxlIdeKmKeySetStop C host.sendReceive
          (sessionKey (codes.keyDirection .tx ||| codes.keySubStreamCxl))).beside :
      Flow (σ × UInt8) LibspdmReturn Unit) s
  else (.ok (), s)

end Session

/-! ## The local variables -/

section Stack

variable {C : CxlIdeKm} {codes : SubStreamCodes} {host : Host σ}

theorem and_eq_zero_of_and_or_eq_zero {a b c : UInt8} (h : a &&& (b ||| c) = 0) :
    a &&& b = 0 ∧ a &&& c = 0 := by
  have hnat := congrArg UInt8.toNat h
  simp only [UInt8.toNat_and, UInt8.toNat_or, UInt8.toNat_zero, Nat.and_or_distrib_left,
    Nat.or_eq_zero_iff] at hnat
  exact ⟨UInt8.toNat_inj.1 (by simpa using hnat.1), UInt8.toNat_inj.1 (by simpa using hnat.2)⟩

/-- The key buffer is written as a whole before it is sent. -/
theorem receiveKeyBuffer_stack (caps : UInt8) (stack stack' : KeyBuffer) :
    receiveKeyBuffer C codes host caps stack = receiveKeyBuffer C codes host caps stack' := by
  by_cases hget : caps &&& (C.queryRespIvGenCap ||| C.queryRespKeyGenCap) ≠ 0
  · simp only [receiveKeyBuffer, if_pos hget]
  · -- the peer generates nothing, and both parts are filled in
    obtain ⟨hiv, hkey⟩ := and_eq_zero_of_and_or_eq_zero (not_not.1 hget)
    simp only [receiveKeyBuffer, if_neg hget, if_pos hkey, if_pos hiv, pure_bind]

/-- What the register buffer holds before the query makes no difference to the session. -/
theorem sessionQuery_ideRegBlock (ideRegBlock ideRegBlock' : Mem) :
    sessionQuery C host ideRegBlock = sessionQuery C host ideRegBlock' := by
  funext s
  rw [sessionQuery, cxlIdeKmQuery, QueryProtocol.query_buffer _ _ _ _ ideRegBlock ideRegBlock']
  rfl

end Stack

/-- **No byte of an uninitialized local variable is sent.** For every peer and whatever capabilities
it announces, the setup makes the same exchanges and ends in the same way for any two contents of
its key buffer and of its register buffer. -/
theorem cxlIdeKm_setup_of_any_stack (C : CxlIdeKm) (codes : SubStreamCodes) (host : Host σ)
    (ideRegBlock ideRegBlock' : Mem) (stack stack' : KeyBuffer) :
    cxlIdeKmProcessSessionMessageSetup C codes host ideRegBlock stack =
      cxlIdeKmProcessSessionMessageSetup C codes host ideRegBlock' stack' := by
  have hprogram : ∀ caps, programKeys C codes host caps stack =
      programKeys C codes host caps stack' := by
    intro caps
    simp only [programKeys, receiveKeyBuffer_stack caps stack stack']
  simp only [cxlIdeKmProcessSessionMessageSetup, hprogram,
    sessionQuery_ideRegBlock ideRegBlock ideRegBlock']

end SpdmEmu.IdeKm.Cxl
