import SpdmEmu.IdeKm.Requester
import SpdmEmu.Libspdm.Host

/-!
# A PCI IDE_KM session

The requesters of `KEY_PROG`, `K_SET_GO` and `K_SET_STOP`, and the two functions of the requester
emulator that call them: the setup queries port 1, and for each direction and each of the three
sub-streams it draws a key, programs it and starts the key set; the teardown stops the key sets.

A `KP_ACK` carries the status of the programming. The requester hands it to its caller, and the
setup prints it: `ideKm_ignores_kpAckStatus` says that nothing else depends on it.
-/

set_option autoImplicit false

namespace SpdmEmu.IdeKm

open SpdmEmu.Wire SpdmEmu.Libspdm SpdmEmu.Run

variable {σ α : Type}

/-! ## The requesters -/

/-- The checks of an acknowledgement: the size, the object id, and the three fields of the
request. -/
def acceptKey (header : Packed UInt8) (objectId : UInt8) (ack : Packed α) (keyOf : α → KeyBody)
    (key : KeyBody) (exchange : Exchange) : Except LibspdmReturn α :=
  let response := exchange.response
  let body := ack.decode (response.drop header.size)
  if exchange.status.isError then .error exchange.status
  else if response.length ≠ header.size + ack.size then .error .invalidMsgSize
  else if header.decode response ≠ objectId then .error .invalidMsgField
  else if (keyOf body).streamId ≠ key.streamId then .error .invalidMsgField
  else if (keyOf body).keySubStream ≠ key.keySubStream then .error .invalidMsgField
  else if (keyOf body).portIndex ≠ key.portIndex then .error .invalidMsgField
  else .ok body

/-- The common shape of the requesters that name a key: send, and check the acknowledgement. -/
def exchangeKey (header : Packed UInt8) (sendReceive : SendReceive σ) (request : Bytes)
    (objectId : UInt8) (ack : Packed α) (keyOf : α → KeyBody) (key : KeyBody) :
    Flow σ LibspdmReturn α := fun link =>
  let (exchange, link) := sendReceive link request (header.size + ack.size)
  (acceptKey header objectId ack keyOf key exchange, link)

/-- An acknowledgement of the request is accepted. -/
theorem exchangeKey_of_ack {header : Packed UInt8} {sendReceive : SendReceive σ} {request : Bytes}
    {objectId : UInt8} {ack : Packed α} {keyOf : α → KeyBody} {key : KeyBody} {a : α} {s s' : σ}
    (hkey : keyOf a = key)
    (hsend : sendReceive s request (header.size + ack.size) =
      (⟨.success, header.encode objectId ++ ack.encode a⟩, s')) :
    exchangeKey header sendReceive request objectId ack keyOf key s = (.ok a, s') := by
  simp [exchangeKey, hsend, acceptKey, hkey, LibspdmReturn.isError]

/-- The shape of the two requesters of `KEY_PROG`: the status of the acknowledgement. -/
def exchangeKeyProg (header : Packed UInt8) (sendReceive : SendReceive σ) (request : Bytes)
    (objectId : UInt8) (ack : Packed KpAckBody) (key : KeyBody) : Flow σ LibspdmReturn UInt8 := do
  let ack ← exchangeKey header sendReceive request objectId ack KpAckBody.key key
  return ack.status

/-- The shape of the requesters of a key set. -/
def exchangeKeySetOf (header : Packed UInt8) (sendReceive : SendReceive σ) (request : Bytes)
    (objectId : UInt8) (ack : Packed KeyBody) (key : KeyBody) : Flow σ LibspdmReturn Unit := do
  let _ ← exchangeKey header sendReceive request objectId ack id key
  return ()

section Acknowledged

variable {δ : Type} {respond : δ → Bytes → Reply × δ}
  {random : Nat → (n : Nat) → Option (Vector UInt8 n)} {statusLowEntropy : ErrorStatus}
  {header : Packed UInt8} {request : Bytes} {objectId : UInt8} {key : KeyBody} {d d' : δ}

/-- The acknowledgement of a device arrives. -/
theorem exchangeKey_deviceHost {ack : Packed α} {keyOf : α → KeyBody} {a : α} (hkey : keyOf a = key)
    (hdevice : respond d request =
      (⟨.success, some (header.encode objectId ++ ack.encode a)⟩, d')) (k : Nat) :
    exchangeKey header (deviceHost respond random statusLowEntropy).sendReceive request objectId ack
      keyOf key (d, k) = (.ok a, (d', k)) := by
  refine exchangeKey_of_ack hkey (deviceHost_sendReceive k hdevice ?_)
  simp

theorem exchangeKeyProg_deviceHost {ack : Packed KpAckBody} {status : UInt8}
    (hdevice : respond d request =
      (⟨.success, some (header.encode objectId ++ ack.encode ⟨key, status⟩)⟩, d')) (k : Nat) :
    exchangeKeyProg header (deviceHost respond random statusLowEntropy).sendReceive request objectId
      ack key (d, k) = (.ok status, (d', k)) :=
  Flow.bind_of_ok (exchangeKey_deviceHost rfl hdevice k) _

theorem exchangeKeySetOf_deviceHost {ack : Packed KeyBody}
    (hdevice : respond d request =
      (⟨.success, some (header.encode objectId ++ ack.encode key)⟩, d')) (k : Nat) :
    exchangeKeySetOf header (deviceHost respond random statusLowEntropy).sendReceive request
      objectId ack key (d, k) = (.ok (), (d', k)) :=
  Flow.bind_of_ok (exchangeKey_deviceHost rfl hdevice k) _

/-- A query that a device answers with a full register block, into a buffer of that size. -/
theorem query_deviceHost {β : Type} {P : QueryProtocol β} (hreg : P.ideReg.size = 4)
    {portIndex : UInt8} {body : β} {regs : List UInt32}
    (hdevice : respond d (P.request portIndex) =
      (⟨.success, some (P.response body (P.ideReg.encodeList regs))⟩, d'))
    (hport : P.portIndex body = portIndex) (hcount : regs.length = P.regBlockCount) (k : Nat)
    (buffer : Mem) :
    P.query (deviceHost respond random statusLowEntropy).sendReceive (d, k) portIndex buffer
        (UInt32.ofNat P.regBlockCount) =
      ⟨.success, some body, buffer.store 0 (P.ideReg.encodeList regs),
        UInt32.ofNat P.regBlockCount, (d', k)⟩ := by
  have hlength : (P.ideReg.encodeList regs).length = P.regBlockCount * 4 := by
    rw [Packed.length_encodeList, hcount, hreg]
  have hcall : (deviceHost respond random statusLowEntropy).sendReceive.call
      (P.call portIndex (d, k)) =
      (⟨.success, P.response body (P.ideReg.encodeList regs)⟩, (d', k)) :=
    deviceHost_sendReceive k hdevice
      (QueryProtocol.length_response_le hreg hlength (Nat.le_refl _) body portIndex (d, k))
  have hroom : ¬ (UInt32.ofNat P.regBlockCount).toNat < P.regBlockCount := by
    have hlt := P.regBlockCount_lt
    rw [UInt32.toNat_ofNat_of_lt' (by omega)]
    exact Nat.lt_irrefl _
  rw [QueryProtocol.query_of_response hreg hcall hport hlength (Nat.le_refl _), if_neg hroom]

end Acknowledged

section Requesters

variable (K : PciIdeKm) (sendReceive : SendReceive σ) (key : KeyBody)

/-- The request of `pci_ide_km_key_prog`. -/
def keyProgMessage (keyBuffer : KeyBuffer) : Bytes :=
  K.header.encode (K.requestObjectId .keyProg) ++
    (K.keyProgRequest.encode key ++ K.keyBuffer.encode keyBuffer)

/-- `pci_ide_km_key_prog`: the status of the acknowledgement. -/
def pciIdeKmKeyProg (keyBuffer : KeyBuffer) : Flow σ LibspdmReturn UInt8 :=
  exchangeKeyProg K.header sendReceive (keyProgMessage K key keyBuffer)
    (K.responseObjectId .kpAck) K.kpAck key

/-- The common shape of the two requesters of a key set. -/
def exchangeKeySet (r : Request) (body : Packed KeyBody) : Flow σ LibspdmReturn Unit :=
  exchangeKeySetOf K.header sendReceive (K.header.encode (K.requestObjectId r) ++ body.encode key)
    (K.responseObjectId .kSetGostopAck) K.kSetGostopAck key

/-- `pci_ide_km_key_set_go` -/
def pciIdeKmKeySetGo : Flow σ LibspdmReturn Unit :=
  exchangeKeySet K sendReceive key .kSetGo K.kSetGoRequest

/-- `pci_ide_km_key_set_stop` -/
def pciIdeKmKeySetStop : Flow σ LibspdmReturn Unit :=
  exchangeKeySet K sendReceive key .kSetStop K.kSetStopRequest

end Requesters

/-! ## The session -/

/-- `PCI_IDE_KM_KEY_DIRECTION_...` -/
inductive Direction where
  | rx
  | tx
deriving DecidableEq, Repr

/-- `PCI_IDE_KM_KEY_SUB_STREAM_...` -/
inductive SubStream where
  | pr
  | npr
  | cpl
deriving DecidableEq, Repr

/-- The codes of `pci_idekm.h` that a key sub-stream is put together from. -/
structure SubStreamCodes where
  keySetK0 : UInt8
  keyDirection : Direction → UInt8
  keySubStream : SubStream → UInt8

/-- `PCI_IDE_KM_KEY_SET_K0 | PCI_IDE_KM_KEY_DIRECTION_... | PCI_IDE_KM_KEY_SUB_STREAM_...` -/
def SubStreamCodes.code (codes : SubStreamCodes) (d : Direction × SubStream) : UInt8 :=
  codes.keySetK0 ||| codes.keyDirection d.1 ||| codes.keySubStream d.2

/-- The order of the setup and of the teardown. -/
def sessionSubStreams : List (Direction × SubStream) :=
  [(.rx, .pr), (.rx, .npr), (.rx, .cpl), (.tx, .pr), (.tx, .npr), (.tx, .cpl)]

/-- The stream, sub-stream and port of a key message of the session. -/
def sessionKey (keySubStream : UInt8) : KeyBody := ⟨0, keySubStream, 1⟩

/-- The key buffer of the session: `key`, and the words 0 and 1 as initialization vector. -/
def sessionKeyBuffer (key : Vector UInt8 32) : KeyBuffer :=
  key ++ (⟨(Packed.u32.encode 0 ++ Packed.u32.encode 1).toArray, rfl⟩ : Vector UInt8 8)

section Session

variable (K : PciIdeKm) (codes : SubStreamCodes) (host : Host σ)

/-- `pci_ide_km_query` as the setup calls it, with what its buffer holds before. -/
def sessionQuery (ideRegBlock : Mem) : Flow σ LibspdmReturn Unit := fun link =>
  let result := pciIdeKmQuery K host.sendReceive link 1 ideRegBlock
    (UInt32.ofNat ideRegBlockSupportedCount)
  if result.status.isError then (.error result.status, result.link) else (.ok (), result.link)

/-- `ide_key_program_and_go`; the status of the acknowledgement is printed. -/
def ideKeyProgramAndGo (keySubStream : UInt8) : Flow σ LibspdmReturn Unit := do
  let key ← host.randomNumber 32
  let _kpAckStatus ← pciIdeKmKeyProg K host.sendReceive (sessionKey keySubStream)
    (sessionKeyBuffer key)
  pciIdeKmKeySetGo K host.sendReceive (sessionKey keySubStream)

/-- `ide_key_stop` -/
def ideKeyStop (keySubStream : UInt8) : Flow σ LibspdmReturn Unit :=
  pciIdeKmKeySetStop K host.sendReceive (sessionKey keySubStream)

/-- `pci_ide_km_process_session_message_setup` -/
def pciIdeKmProcessSessionMessageSetup (ideRegBlock : Mem) : Flow σ LibspdmReturn Unit := do
  sessionQuery K host ideRegBlock
  Flow.forEach (fun d => ideKeyProgramAndGo K host (codes.code d)) sessionSubStreams

/-- `pci_ide_km_process_session_message_teardown` -/
def pciIdeKmProcessSessionMessageTeardown : Flow σ LibspdmReturn Unit :=
  Flow.forEach (fun d => ideKeyStop K host (codes.code d)) sessionSubStreams

end Session

/-! ## The status of an acknowledgement -/

section Status

variable {K : PciIdeKm} {f : Bytes → UInt8}

/-- A response in which the status of a `KP_ACK` is another. -/
def changeKpAckStatus (K : PciIdeKm) (f : Bytes → UInt8) (response : Bytes) : Bytes :=
  if response.length = K.header.size + K.kpAck.size ∧
      K.header.decode response = K.responseObjectId .kpAck then
    message K .kpAck (K.kpAck.encode
      { K.kpAck.decode (response.drop K.header.size) with status := f response })
  else response

theorem length_changeKpAckStatus (response : Bytes) :
    (changeKpAckStatus K f response).length = response.length := by
  unfold changeKpAckStatus
  split
  · next h => simp [message, h.1]
  · rfl

theorem decode_changeKpAckStatus (response : Bytes) :
    K.header.decode (changeKpAckStatus K f response) = K.header.decode response := by
  unfold changeKpAckStatus
  split
  · next h => rw [message, Packed.decode_encode_append, h.2]
  · rfl

theorem changeKpAckStatus_of_ne {response : Bytes}
    (h : K.header.decode response ≠ K.responseObjectId .kpAck) :
    changeKpAckStatus K f response = response :=
  if_neg fun hchanged => h hchanged.2

/-- An acknowledgement of another kind is as it was. -/
theorem acceptKey_of_ne_kpAck (hids : Function.Injective K.responseObjectId) {kind : Response}
    (hkind : kind ≠ .kpAck) (ack : Packed α) (keyOf : α → KeyBody) (key : KeyBody)
    (x : Exchange) :
    acceptKey K.header (K.responseObjectId kind) ack keyOf key
        { x with response := changeKpAckStatus K f x.response } =
      acceptKey K.header (K.responseObjectId kind) ack keyOf key x := by
  by_cases hid : K.header.decode x.response = K.responseObjectId .kpAck
  · -- the object id is the wrong one in both
    have hne : K.responseObjectId .kpAck ≠ K.responseObjectId kind := fun h => hkind (hids h).symm
    simp only [acceptKey, length_changeKpAckStatus, decode_changeKpAckStatus, hid, ne_eq, hne,
      not_false_eq_true, if_true]
  · rw [changeKpAckStatus_of_ne hid]

/-- A `KP_ACK` is accepted with any status, and the status is handed on. -/
theorem acceptKey_kpAck (key : KeyBody) (x : Exchange) :
    acceptKey K.header (K.responseObjectId .kpAck) K.kpAck KpAckBody.key key
        { x with response := changeKpAckStatus K f x.response } =
      (acceptKey K.header (K.responseObjectId .kpAck) K.kpAck KpAckBody.key key x).map
        fun body => { body with status := f x.response } := by
  by_cases hack : x.response.length = K.header.size + K.kpAck.size ∧
      K.header.decode x.response = K.responseObjectId .kpAck
  · have hbody : K.kpAck.decode ((changeKpAckStatus K f x.response).drop K.header.size) =
        { K.kpAck.decode (x.response.drop K.header.size) with status := f x.response } := by
      rw [changeKpAckStatus, if_pos hack, message, Packed.drop_encode_append, Packed.decode_encode]
    simp only [acceptKey, length_changeKpAckStatus, decode_changeKpAckStatus, hbody, hack.1, hack.2]
    repeat' split
    all_goals rfl
  · -- one of the first checks fails in both
    obtain ⟨e, he⟩ : ∃ e, acceptKey K.header (K.responseObjectId .kpAck) K.kpAck KpAckBody.key key
        x = .error e := by
      by_cases herror : x.status.isError = true
      · exact ⟨_, if_pos herror⟩
      by_cases hlength : x.response.length = K.header.size + K.kpAck.size
      · have hid : K.header.decode x.response ≠ K.responseObjectId .kpAck :=
          fun h => hack ⟨hlength, h⟩
        exact ⟨_, by rw [acceptKey, if_neg herror, if_neg (not_not.2 hlength), if_pos hid]⟩
      · exact ⟨_, by rw [acceptKey, if_neg herror, if_pos hlength]⟩
    rw [changeKpAckStatus, if_neg hack, he]
    rfl

/-! ## The session does not depend on it -/

variable {host : Host σ}

theorem pciIdeKmKeyProg_run (sendReceive : SendReceive σ) (key : KeyBody) (keyBuffer : KeyBuffer)
    (s : σ) :
    pciIdeKmKeyProg K sendReceive key keyBuffer s =
      ((acceptKey K.header (K.responseObjectId .kpAck) K.kpAck KpAckBody.key key
          (sendReceive s (keyProgMessage K key keyBuffer) (K.header.size + K.kpAck.size)).1).map
            KpAckBody.status,
        (sendReceive s (keyProgMessage K key keyBuffer) (K.header.size + K.kpAck.size)).2) :=
  Flow.bind_pure_run _ _ s

/-- What follows on the programming of a key is not told the status. -/
theorem pciIdeKmKeyProg_changed (key : KeyBody) (keyBuffer : KeyBuffer)
    (next : Flow σ LibspdmReturn Unit) :
    (pciIdeKmKeyProg K (host.mapResponse (changeKpAckStatus K f)).sendReceive key keyBuffer >>=
        fun _ => next) =
      pciIdeKmKeyProg K host.sendReceive key keyBuffer >>= fun _ => next := by
  refine Flow.bind_const_congr (fun s => ?_) (fun s => ?_) next
  · rw [pciIdeKmKeyProg_run, pciIdeKmKeyProg_run]
    rfl
  · rw [pciIdeKmKeyProg_run, pciIdeKmKeyProg_run]
    simp only [Host.mapResponse, acceptKey_kpAck]
    cases acceptKey K.header (K.responseObjectId .kpAck) K.kpAck KpAckBody.key key
      (host.sendReceive s (keyProgMessage K key keyBuffer) (K.header.size + K.kpAck.size)).1 <;> rfl

variable (hids : Function.Injective K.responseObjectId)

include hids

theorem exchangeKeySet_changed (key : KeyBody) (r : Request) (body : Packed KeyBody) :
    exchangeKeySet K (host.mapResponse (changeKpAckStatus K f)).sendReceive key r body =
      exchangeKeySet K host.sendReceive key r body := by
  have hexchange : ∀ request, exchangeKey K.header
      (host.mapResponse (changeKpAckStatus K f)).sendReceive request
      (K.responseObjectId .kSetGostopAck) K.kSetGostopAck id key =
      exchangeKey K.header host.sendReceive request (K.responseObjectId .kSetGostopAck)
        K.kSetGostopAck id key := by
    intro request
    funext s
    have hkind : Response.kSetGostopAck ≠ .kpAck := by decide
    simp only [exchangeKey, Host.mapResponse, acceptKey_of_ne_kpAck hids hkind]
  simp only [exchangeKeySet, exchangeKeySetOf, hexchange]

theorem sessionQuery_changed (ideRegBlock : Mem) :
    sessionQuery K (host.mapResponse (changeKpAckStatus K f)) ideRegBlock =
      sessionQuery K host ideRegBlock := by
  funext s
  have hquery : pciIdeKmQuery K (host.mapResponse (changeKpAckStatus K f)).sendReceive s 1
      ideRegBlock (UInt32.ofNat ideRegBlockSupportedCount) =
      pciIdeKmQuery K host.sendReceive s 1 ideRegBlock
        (UInt32.ofNat ideRegBlockSupportedCount) := by
    rcases hsend : host.sendReceive s (queryMessage K 1)
      (K.header.size + K.queryResp.size + ideRegBlockSupportedCount * K.ideReg.size) with ⟨x, s'⟩
    simp only [pciIdeKmQuery, QueryProtocol.query, QueryProtocol.call, QueryProtocol.respSize,
      queryProtocol, SendReceive.call, Host.mapResponse, hsend]
    by_cases hid : K.header.decode x.response = K.responseObjectId .kpAck
    · have hne : K.responseObjectId .kpAck ≠ K.responseObjectId .queryResp :=
        fun h => absurd (hids h) (by decide)
      simp only [length_changeKpAckStatus, decode_changeKpAckStatus, hid, ne_eq, hne,
        not_false_eq_true, if_true]
    · rw [changeKpAckStatus_of_ne hid]
  simp only [sessionQuery, hquery]

end Status

/-- **The status of a `KP_ACK` makes no difference.** For every peer and every way in which the
statuses of its `KP_ACK` messages are replaced by others, the setup and the teardown make the same
exchanges and end in the same way: a key that the peer says it could not program is started like
any other. -/
theorem ideKm_ignores_kpAckStatus (K : PciIdeKm)
    (hids : Function.Injective K.responseObjectId) (codes : SubStreamCodes) (host : Host σ)
    (status : Bytes → UInt8) (ideRegBlock : Mem) :
    pciIdeKmProcessSessionMessageSetup K codes (host.mapResponse (changeKpAckStatus K status))
        ideRegBlock =
      pciIdeKmProcessSessionMessageSetup K codes host ideRegBlock ∧
    pciIdeKmProcessSessionMessageTeardown K codes
        (host.mapResponse (changeKpAckStatus K status)) =
      pciIdeKmProcessSessionMessageTeardown K codes host := by
  have hprogram : ∀ keySubStream, ideKeyProgramAndGo K
      (host.mapResponse (changeKpAckStatus K status)) keySubStream =
      ideKeyProgramAndGo K host keySubStream := by
    intro keySubStream
    simp only [ideKeyProgramAndGo, pciIdeKmKeySetGo, pciIdeKmKeyProg_changed,
      exchangeKeySet_changed hids]
    rfl
  constructor
  · simp only [pciIdeKmProcessSessionMessageSetup, hprogram, sessionQuery_changed hids]
  · simp only [pciIdeKmProcessSessionMessageTeardown, ideKeyStop, pciIdeKmKeySetStop,
      exchangeKeySet_changed hids]

/-- Concrete codes. -/
def SubStreamCodes.sample : SubStreamCodes where
  keySetK0 := 0
  keyDirection
    | .rx => 0
    | .tx => 2
  keySubStream
    | .pr => 0x00
    | .npr => 0x10
    | .cpl => 0x20

/-- A status for want of random bytes. -/
def lowEntropy : ErrorStatus := ⟨.raw 0x80000000, rfl⟩

/-- The sample device, and a requester that always has random numbers. -/
def sampleHost : Host (PortContext × Nat) :=
  deviceHost (pciIdeKmGetResponse .sample) (fun k n => some (Vector.replicate n (UInt8.ofNat k)))
    lowEntropy

/-- A device that reports a failure for every key, and the setup succeeds. -/
theorem ideKm_ignores_kpAckStatus_sample :
    Function.Injective PciIdeKm.sample.responseObjectId ∧
      (pciIdeKmProcessSessionMessageSetup .sample .sample
        (sampleHost.mapResponse (changeKpAckStatus .sample fun _ => 1)) (fun _ => 0)
        (libidekmInitializeDevicePortContext 0, 0)).1.isOk = true := by
  have hids : Function.Injective PciIdeKm.sample.responseObjectId := by
    intro a b h
    cases a <;> cases b <;> first | rfl | exact absurd h (by decide)
  refine ⟨hids, ?_⟩
  rw [(ideKm_ignores_kpAckStatus .sample hids .sample sampleHost (fun _ => 1) _).1]
  decide +kernel

end SpdmEmu.IdeKm
