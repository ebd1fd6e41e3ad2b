import SpdmEmu.IdeKm.CxlSession

/-!
# The keys of a CXL IDE_KM session

The sample device announces that it generates keys and initialization vectors and that it can stop
key sets. So the session asks it for the key of the receiving direction and programs that key back
into it, with the device's vector, and draws the key of the sending direction itself. The device
stores nothing when it hands the key out: it has the key because it is programmed.
-/

set_option autoImplicit false

namespace SpdmEmu.IdeKm.Cxl

open SpdmEmu.Wire SpdmEmu.Libspdm SpdmEmu.Run

variable {C : CxlIdeKm} {deviceRandom : Nat → RandomNumber}
  {random : Nat → (n : Nat) → Option (Vector UInt8 n)} {statusLowEntropy : ErrorStatus}

/-- The device, with a count of its calls and the random number of each. -/
def cxlDevice (C : CxlIdeKm) (deviceRandom : Nat → RandomNumber) (d : PortContext × Nat)
    (request : Bytes) : Reply × (PortContext × Nat) :=
  let (reply, ctx) := cxlIdeKmGetResponse C (deviceRandom d.2) d.1 request
  (reply, (ctx, d.2 + 1))

/-- The requester with the device as its peer. -/
abbrev cxlIdeHost (C : CxlIdeKm) (deviceRandom : Nat → RandomNumber)
    (random : Nat → (n : Nat) → Option (Vector UInt8 n)) (statusLowEntropy : ErrorStatus) :
    Host ((PortContext × Nat) × Nat) :=
  deviceHost (cxlDevice C deviceRandom) random statusLowEntropy

/-! ## One message -/

section Messages

variable {ctx : PortContext} {key : KeyBody} {n : Nat}

/-- The dispatcher finds the handler of a request. -/
theorem cxlDevice_request {r : Request} {body : Bytes} {reply : Reply} {ctx' : PortContext}
    (hhandler : handler C (deviceRandom n) r ctx
      (C.header.encode (C.requestObjectId r) ++ body) = (reply, ctx')) :
    cxlDevice C deviceRandom (ctx, n) (C.header.encode (C.requestObjectId r) ++ body) =
      (reply, (ctx', n + 1)) := by
  rw [cxlDevice, cxlIdeKmGetResponse,
    dispatchObject_request C.requestObjectId_injective (by cases r <;> decide), hhandler]

theorem cxlDevice_keyProg (hbound : ctx.isBound key.portIndex = true) (keyBuffer : KeyBuffer) :
    cxlDevice C deviceRandom (ctx, n) (keyProgMessage C key keyBuffer) =
      (⟨.success, some (message C .kpAck (C.kpAck.encode ⟨key, C.kpAckStatusSuccess⟩))⟩,
        ({ ctx with
          keyBuffer := Slots.setAt ctx.keyBuffer (keyIndex C key.keySubStream) keyBuffer
          isKeyProg := Slots.setAt ctx.isKeyProg (keyIndex C key.keySubStream) true }, n + 1)) := by
  apply cxlDevice_request
  rw [handler]
  refine handleKeyProg_request ?_ _
  rw [cxlIdeKmDeviceKeyProg, hbound]
  rfl

/-- A message for a key set is answered with an acknowledgement, by the device of the table. -/
theorem cxlDevice_keySet (hbound : ctx.isBound key.portIndex = true) {r : Request}
    {body : Packed KeyBody} {go : Bool}
    (hhandler : handler C (deviceRandom n) r = handleKeySet C body (setKeySetGo C go)) :
    cxlDevice C deviceRandom (ctx, n)
        (C.header.encode (C.requestObjectId r) ++ body.encode key) =
      (⟨.success, some (message C .kSetGostopAck (C.kGostopAck.encode key))⟩,
        ({ ctx with
          isKeySetGo := Slots.setAt ctx.isKeySetGo (keyIndex C key.keySubStream) go }, n + 1)) := by
  apply cxlDevice_request
  rw [hhandler]
  refine handleKeySetOf_request ?_ _
  rw [setKeySetGo, hbound]
  rfl

/-- The key that the device hands out. -/
theorem cxlDevice_getKey (hbound : ctx.isBound key.portIndex = true)
    (hresult : (deviceRandom n).result = true) :
    cxlDevice C deviceRandom (ctx, n)
        (C.header.encode (C.requestObjectId .getKey) ++ C.getKeyRequest.encode key) =
      (⟨.success, some (message C .getKeyAck
          (C.getKeyAck.encode ⟨key, (deviceRandom n).number, #v[0, 1, 2]⟩))⟩, (ctx, n + 1)) := by
  apply cxlDevice_request
  simp [handler, cxlIdeKmGetResponseGetKey, cxlIdeKmDeviceGetKey, hbound, hresult,
    LibspdmReturn.isError]

/-- A device without a random number answers with its status. -/
theorem cxlDevice_getKey_lowEntropy (hbound : ctx.isBound key.portIndex = true)
    (hresult : (deviceRandom n).result = false) (hlow : C.statusLowEntropy.isError = true) :
    cxlDevice C deviceRandom (ctx, n)
        (C.header.encode (C.requestObjectId .getKey) ++ C.getKeyRequest.encode key) =
      (⟨C.statusLowEntropy, some (message C .getKeyAck (C.getKeyAck.encode
        ⟨key, { KeyBuffer.zeroed with key := (deviceRandom n).number }⟩))⟩, (ctx, n + 1)) := by
  apply cxlDevice_request
  simp [handler, cxlIdeKmGetResponseGetKey, cxlIdeKmDeviceGetKey, hbound, hresult, hlow]

end Messages

/-! ## The calls of the session, with the device -/

/-- The device with a key in a slot. -/
def PortContext.withKey (ctx : PortContext) (i : Fin 2) (keyBuffer : KeyBuffer) : PortContext :=
  { ctx with
    keyBuffer := Slots.setAt ctx.keyBuffer i keyBuffer
    isKeyProg := Slots.setAt ctx.isKeyProg i true }

/-- The device with a slot started or stopped. -/
def PortContext.withGo (ctx : PortContext) (i : Fin 2) (go : Bool) : PortContext :=
  { ctx with isKeySetGo := Slots.setAt ctx.isKeySetGo i go }

section Calls

variable {ctx : PortContext} (hport : ctx.portIndex = 0) (n k : Nat) (keySubStream : UInt8)

include hport

theorem isBound_sessionKey : ctx.isBound (sessionKey keySubStream).portIndex = true := by
  simp [PortContext.isBound, sessionKey, hport]

theorem keyProg_device (keyBuffer : KeyBuffer) :
    cxlIdeKmKeyProg C (cxlIdeHost C deviceRandom random statusLowEntropy).sendReceive
        (sessionKey keySubStream) keyBuffer ((ctx, n), k) =
      (.ok C.kpAckStatusSuccess,
        ((ctx.withKey (keyIndex C keySubStream) keyBuffer, n + 1), k)) :=
  exchangeKeyProg_deviceHost
    (cxlDevice_keyProg (isBound_sessionKey hport keySubStream) keyBuffer) k

theorem keySet_device {r : Request} {body : Packed KeyBody} {go : Bool}
    (hhandler : handler C (deviceRandom n) r = handleKeySet C body (setKeySetGo C go)) :
    exchangeKeySet C (cxlIdeHost C deviceRandom random statusLowEntropy).sendReceive
        (sessionKey keySubStream) r body ((ctx, n), k) =
      (.ok (), ((ctx.withGo (keyIndex C keySubStream) go, n + 1), k)) :=
  exchangeKeySetOf_deviceHost
    (cxlDevice_keySet (isBound_sessionKey hport keySubStream) hhandler) k

theorem keySetGo_device :
    cxlIdeKmKeySetGo C (cxlIdeHost C deviceRandom random statusLowEntropy).sendReceive
        (sessionKey keySubStream) ((ctx, n), k) =
      (.ok (), ((ctx.withGo (keyIndex C keySubStream) true, n + 1), k)) :=
  keySet_device hport n k keySubStream rfl

theorem keySetStop_device :
    cxlIdeKmKeySetStop C (cxlIdeHost C deviceRandom random statusLowEntropy).sendReceive
        (sessionKey keySubStream) ((ctx, n), k) =
      (.ok (), ((ctx.withGo (keyIndex C keySubStream) false, n + 1), k)) :=
  keySet_device hport n k keySubStream rfl

theorem getKey_device (hresult : (deviceRandom n).result = true) :
    cxlIdeKmGetKey C (cxlIdeHost C deviceRandom random statusLowEntropy).sendReceive
        (sessionKey keySubStream) ((ctx, n), k) =
      (.ok ⟨(deviceRandom n).number, #v[0, 1, 2]⟩, ((ctx, n + 1), k)) :=
  Flow.bind_of_ok (exchangeKey_deviceHost rfl
    (cxlDevice_getKey (isBound_sessionKey hport keySubStream) hresult) k) _

/-- The status of a device without a random number reaches the requester. -/
theorem getKey_device_lowEntropy (hresult : (deviceRandom n).result = false)
    (hlow : C.statusLowEntropy.isError = true) :
    cxlIdeKmGetKey C (cxlIdeHost C deviceRandom random statusLowEntropy).sendReceive
        (sessionKey keySubStream) ((ctx, n), k) =
      (.error C.statusLowEntropy, ((ctx, n + 1), k)) := by
  have hdevice := cxlDevice_getKey_lowEntropy (isBound_sessionKey hport keySubStream) hresult hlow
  refine Flow.bind_of_error ?_ _
  have hsend : (cxlIdeHost C deviceRandom random statusLowEntropy).sendReceive ((ctx, n), k)
      (C.header.encode (C.requestObjectId .getKey) ++
        C.getKeyRequest.encode (sessionKey keySubStream))
      (C.header.size + C.getKeyAck.size) = (⟨C.statusLowEntropy, []⟩, ((ctx, n + 1), k)) := by
    simp only [deviceHost]
    rw [directLink_of_error (by rw [hdevice, hlow]), hdevice]
  simp only [exchangeKey, hsend, acceptKey, hlow, if_true]

end Calls

/-! ## The session -/

/-- What `cxl_idekm.h` says of the codes: the flags are not zero, only the direction has a bit of
the mask that selects a slot, and the two directions have different slots. -/
structure SubStreamCodes.Separated (codes : SubStreamCodes) (C : CxlIdeKm) : Prop where
  ivGenCap : C.queryRespIvGenCap ≠ 0
  keyGenCap : C.queryRespKeyGenCap ≠ 0
  kSetStopCap : C.queryRespKSetStopCap ≠ 0
  cxl : codes.keySubStreamCxl &&& C.keyDirectionMask = 0
  ivInitial : codes.keyIvInitial &&& C.keyDirectionMask = 0
  ivDefault : codes.keyIvDefault &&& C.keyDirectionMask = 0
  skid : codes.keyModeSkid &&& C.keyDirectionMask = 0
  direction : keyIndex C (codes.keyDirection .rx) ≠ keyIndex C (codes.keyDirection .tx)

section Session

variable {codes : SubStreamCodes}

theorem keyIndex_or (C : CxlIdeKm) {b : UInt8} (h : b &&& C.keyDirectionMask = 0) (a : UInt8) :
    keyIndex C (a ||| b) = keyIndex C a := by
  have hzero := congrArg UInt8.toNat h
  apply Fin.ext
  simp only [keyIndex, UInt8.toNat_and, UInt8.toNat_or, UInt8.toNat_zero] at hzero ⊢
  rw [Nat.and_or_distrib_right, hzero, Nat.or_zero]

theorem or_and_ne_zero_left {a flag : UInt8} (h : a &&& flag ≠ 0) (b : UInt8) :
    (a ||| b) &&& flag ≠ 0 := by
  intro hzero
  rw [UInt8.and_comm] at hzero
  exact h (by rw [UInt8.and_comm, (and_eq_zero_of_and_or_eq_zero hzero).1])

theorem or_and_ne_zero_right {b flag : UInt8} (h : b &&& flag ≠ 0) (a : UInt8) :
    (a ||| b) &&& flag ≠ 0 := by
  rw [UInt8.or_comm]
  exact or_and_ne_zero_left h a

/-- The device announces all three capabilities. -/
theorem SubStreamCodes.Separated.caps (h : codes.Separated C) :
    (libcxlidekmInitializeDevicePortContext C 0).caps &&& C.queryRespIvGenCap ≠ 0 ∧
      (libcxlidekmInitializeDevicePortContext C 0).caps &&& C.queryRespKeyGenCap ≠ 0 ∧
      (libcxlidekmInitializeDevicePortContext C 0).caps &&& C.queryRespKSetStopCap ≠ 0 := by
  have hself : ∀ flag : UInt8, flag ≠ 0 → flag &&& flag ≠ 0 := fun flag hflag => by
    rwa [UInt8.and_self]
  refine ⟨?_, ?_, ?_⟩
  · exact or_and_ne_zero_left (or_and_ne_zero_left
      (or_and_ne_zero_right (hself _ h.ivGenCap) _) _) _
  · exact or_and_ne_zero_left (or_and_ne_zero_right (hself _ h.keyGenCap) _) _
  · exact or_and_ne_zero_right (hself _ h.kSetStopCap) _

/-- The slots of the messages of the session are those of their directions. -/
theorem SubStreamCodes.Separated.keyIndex_eq (h : codes.Separated C) (d : Direction) :
    (∀ iv, keyIndex C (codes.keyDirection d ||| ivType codes iv ||| codes.keySubStreamCxl) =
        keyIndex C (codes.keyDirection d)) ∧
      keyIndex C (codes.keyDirection d ||| codes.keyIvInitial ||| codes.keySubStreamCxl) =
        keyIndex C (codes.keyDirection d) ∧
      keyIndex C (codes.keyDirection d ||| codes.keyModeSkid ||| codes.keySubStreamCxl) =
        keyIndex C (codes.keyDirection d) ∧
      keyIndex C (codes.keyDirection d ||| codes.keySubStreamCxl) =
        keyIndex C (codes.keyDirection d) := by
  refine ⟨fun iv => ?_, ?_, ?_, keyIndex_or C h.cxl _⟩
  · rw [keyIndex_or C h.cxl, keyIndex_or C]
    unfold ivType
    split
    · exact h.ivDefault
    · exact h.ivInitial
  · rw [keyIndex_or C h.cxl, keyIndex_or C h.ivInitial]
  · rw [keyIndex_or C h.cxl, keyIndex_or C h.skid]

/-- The query of the setup binds port 0, whatever the device was before. -/
theorem sessionQuery_device (hreg : C.ideReg.size = 4) (ctx : PortContext) (n k : Nat)
    (cxlCaps : UInt8) (ideRegBlock : Mem) :
    sessionQuery C (cxlIdeHost C deviceRandom random statusLowEntropy) ideRegBlock
        (((ctx, n), k), cxlCaps) =
      (.ok (libcxlidekmInitializeDevicePortContext C 0).caps,
        (((libcxlidekmInitializeDevicePortContext C 0, n + 1), k),
          (libcxlidekmInitializeDevicePortContext C 0).caps)) := by
  generalize hctx : libcxlidekmInitializeDevicePortContext C 0 = ctx₁
  generalize hregs : ctx₁.ideRegBuffer.toList.take ctx₁.ideRegBufferCount.toNat = regs
  have hcount : regs.length = ideCapRegBlockMaxCount := by
    rw [← hregs, ← hctx]
    rfl
  have hresponse : cxlDevice C deviceRandom (ctx, n) ((queryProtocol C).request 0) =
      (⟨.success, some ((queryProtocol C).response
        ⟨0, ctx₁.devFuncNum, ctx₁.busNum, ctx₁.segment, ctx₁.maxPortIndex, ctx₁.caps⟩
        (C.ideReg.encodeList regs))⟩, (ctx₁, n + 1)) := by
    apply cxlDevice_request
    simp [handler, cxlIdeKmGetResponseQuery, cxlIdeKmDeviceQuery, hctx, hregs, message,
      QueryProtocol.response, queryProtocol]
  have hquery : cxlIdeKmQuery C (cxlIdeHost C deviceRandom random statusLowEntropy).sendReceive
      ((ctx, n), k) 0 ideRegBlock (UInt32.ofNat ideCapRegBlockMaxCount) =
      ⟨.success,
        some ⟨0, ctx₁.devFuncNum, ctx₁.busNum, ctx₁.segment, ctx₁.maxPortIndex, ctx₁.caps⟩,
        ideRegBlock.store 0 (C.ideReg.encodeList regs), UInt32.ofNat ideCapRegBlockMaxCount,
        ((ctx₁, n + 1), k)⟩ :=
    query_deviceHost hreg hresponse rfl hcount k ideRegBlock
  simp only [sessionQuery, hquery, LibspdmReturn.isError, Bool.false_eq_true, if_false,
    Option.map_some, Option.getD_some]

/-- From a device that generates keys and vectors the whole key buffer comes from `GET_KEY`. -/
theorem receiveKeyBuffer_eq_getKey {σ : Type} {host : Host σ} {caps : UInt8}
    (hiv : caps &&& C.queryRespIvGenCap ≠ 0) (hkey : caps &&& C.queryRespKeyGenCap ≠ 0)
    (stack : KeyBuffer) :
    receiveKeyBuffer C codes host caps stack =
      cxlIdeKmGetKey C host.sendReceive (sessionKey codes.keySubStreamCxl) := by
  have hget : caps &&& (C.queryRespIvGenCap ||| C.queryRespKeyGenCap) ≠ 0 :=
    fun h => hiv (and_eq_zero_of_and_or_eq_zero h).1
  simp only [receiveKeyBuffer, if_pos hget, if_neg hiv, if_neg hkey, bind_pure]

/-- The key of the receiving direction, after `GET_KEY` and `KEY_PROG`. -/
theorem programKeys_receive (hcodes : codes.Separated C) (hresult : (deviceRandom 1).result = true)
    (stack : KeyBuffer) :
    programKeys C codes (cxlIdeHost C deviceRandom random statusLowEntropy)
        (libcxlidekmInitializeDevicePortContext C 0).caps stack
        ((libcxlidekmInitializeDevicePortContext C 0, 1), 0) =
      (do
        let bytes ← (cxlIdeHost C deviceRandom random statusLowEntropy).randomNumber 32
        let _kpAckStatus ← cxlIdeKmKeyProg C
          (cxlIdeHost C deviceRandom random statusLowEntropy).sendReceive (sessionKey
            (codes.keyDirection .tx ||| codes.keyIvInitial ||| codes.keySubStreamCxl))
          ⟨keyOfBytes bytes, initialIv⟩
        cxlIdeKmKeySetGo C (cxlIdeHost C deviceRandom random statusLowEntropy).sendReceive
          (sessionKey (codes.keyDirection .rx ||| codes.keyModeSkid ||| codes.keySubStreamCxl))
        cxlIdeKmKeySetGo C (cxlIdeHost C deviceRandom random statusLowEntropy).sendReceive
          (sessionKey (codes.keyDirection .tx ||| codes.keyModeSkid ||| codes.keySubStreamCxl)) :
        Flow ((PortContext × Nat) × Nat) LibspdmReturn Unit)
        (((libcxlidekmInitializeDevicePortContext C 0).withKey
          (keyIndex C (codes.keyDirection .rx)) ⟨(deviceRandom 1).number, #v[0, 1, 2]⟩, 3), 0) := by
  obtain ⟨hiv, hkey, -⟩ := hcodes.caps
  rw [programKeys, receiveKeyBuffer_eq_getKey hiv hkey,
    Flow.bind_of_ok (getKey_device rfl 1 0 _ hresult),
    Flow.bind_of_ok (keyProg_device rfl 2 0 _ _), (hcodes.keyIndex_eq .rx).1]

/-- The rest of the setup, when the requester has a random number. -/
theorem programKeys_device (hcodes : codes.Separated C) (hresult : (deviceRandom 1).result = true)
    {bytes : Vector UInt8 32} (hdraw : random 0 32 = some bytes) (stack : KeyBuffer) :
    programKeys C codes (cxlIdeHost C deviceRandom random statusLowEntropy)
        (libcxlidekmInitializeDevicePortContext C 0).caps stack
        ((libcxlidekmInitializeDevicePortContext C 0, 1), 0) =
      (.ok (), (((((libcxlidekmInitializeDevicePortContext C 0).withKey
          (keyIndex C (codes.keyDirection .rx)) ⟨(deviceRandom 1).number, #v[0, 1, 2]⟩).withKey
          (keyIndex C (codes.keyDirection .tx)) ⟨keyOfBytes bytes, initialIv⟩).withGo
          (keyIndex C (codes.keyDirection .rx)) true).withGo
          (keyIndex C (codes.keyDirection .tx)) true, 6), 1) := by
  rw [programKeys_receive hcodes hresult, Flow.bind_of_ok ((deviceHost_randomNumber _ _ _).trans
    (by rw [hdraw])), Flow.bind_of_ok (keyProg_device rfl 3 1 _ _),
    (hcodes.keyIndex_eq .tx).2.1, Flow.bind_of_ok (keySetGo_device rfl 4 1 _),
    (hcodes.keyIndex_eq .rx).2.2.1, keySetGo_device rfl 5 1 _, (hcodes.keyIndex_eq .tx).2.2.1]

/-- The two slots are the slots of the two directions. -/
theorem SubStreamCodes.Separated.cases (h : codes.Separated C) (i : Fin 2) :
    i = keyIndex C (codes.keyDirection .rx) ∨ i = keyIndex C (codes.keyDirection .tx) := by
  have hne := h.direction
  omega

theorem SubStreamCodes.Separated.stop_both (h : codes.Separated C) (ctx : PortContext) :
    (ctx.withGo (keyIndex C (codes.keyDirection .rx)) false).withGo
        (keyIndex C (codes.keyDirection .tx)) false =
      { ctx with isKeySetGo := Vector.replicate 2 false } := by
  have hflags : Slots.setAt (Slots.setAt ctx.isKeySetGo (keyIndex C (codes.keyDirection .rx)) false)
      (keyIndex C (codes.keyDirection .tx)) false = Vector.replicate 2 false := by
    apply Vector.ext
    intro i hi
    have hget : (Slots.setAt (Slots.setAt ctx.isKeySetGo
        (keyIndex C (codes.keyDirection .rx)) false)
          (keyIndex C (codes.keyDirection .tx)) false).get ⟨i, hi⟩ = false := by
      rw [Slots.get_setAt, Slots.get_setAt]
      rcases h.cases ⟨i, hi⟩ with hrx | htx
      · rw [if_pos hrx, ite_self]
      · rw [if_pos htx]
    rw [Vector.getElem_replicate]
    exact hget
  exact congrArg (fun v => { ctx with isKeySetGo := v }) hflags

/-- The teardown after a setup. -/
theorem teardown_device (hcodes : codes.Separated C) {ctx : PortContext} (hport : ctx.portIndex = 0)
    (n k : Nat) :
    cxlIdeKmProcessSessionMessageTeardown C codes
        (cxlIdeHost C deviceRandom random statusLowEntropy)
        (((ctx, n), k), (libcxlidekmInitializeDevicePortContext C 0).caps) =
      (.ok (), ((((ctx.withGo (keyIndex C (codes.keyDirection .rx)) false).withGo
        (keyIndex C (codes.keyDirection .tx)) false, n + 2), k),
          (libcxlidekmInitializeDevicePortContext C 0).caps)) := by
  obtain ⟨-, -, hcap⟩ := hcodes.caps
  have hport' : (ctx.withGo (keyIndex C (codes.keyDirection .rx)) false).portIndex = 0 := hport
  simp only [cxlIdeKmProcessSessionMessageTeardown]
  rw [if_pos hcap, Flow.bind_of_ok (Flow.beside_of_ok (keySetStop_device hport n k _) _),
    (hcodes.keyIndex_eq .rx).2.2.2, Flow.beside_of_ok (keySetStop_device hport' (n + 1) k _),
    (hcodes.keyIndex_eq .tx).2.2.2]

end Session

/-- **The keys that a CXL session leaves.** From every state of the device, with any values of the
local and global variables of the requester. If the device and then the requester have a random
number, the setup succeeds with both slots programmed and started: the receiving direction with the
device's own key and vector, the sending direction with the requester's; and the teardown after it
stops both and changes nothing else. If the device has none, its status is returned and no slot is
programmed. If only the requester has none, the receiving direction is programmed and nothing is
started. -/
theorem cxlIdeKm_session_keys (C : CxlIdeKm) (hreg : C.ideReg.size = 4)
    (hlow : C.statusLowEntropy.isError = true) (codes : SubStreamCodes)
    (hcodes : codes.Separated C) (deviceRandom : Nat → RandomNumber)
    (random : Nat → (n : Nat) → Option (Vector UInt8 n)) (statusLowEntropy : ErrorStatus)
    (ctx : PortContext) (cxlCaps : UInt8) (ideRegBlock : Mem) (stack : KeyBuffer) :
    let host := cxlIdeHost C deviceRandom random statusLowEntropy
    let run := cxlIdeKmProcessSessionMessageSetup C codes host ideRegBlock stack
      (((ctx, 0), 0), cxlCaps)
    let rx := keyIndex C (codes.keyDirection .rx)
    let tx := keyIndex C (codes.keyDirection .tx)
    (∀ bytes, (deviceRandom 1).result = true → random 0 32 = some bytes →
      ∃ s s', run = (.ok (), s) ∧
        (∀ i, s.1.1.1.isKeyProg.get i = true ∧ s.1.1.1.isKeySetGo.get i = true) ∧
        s.1.1.1.keyBuffer.get rx = ⟨(deviceRandom 1).number, #v[0, 1, 2]⟩ ∧
        s.1.1.1.keyBuffer.get tx = ⟨keyOfBytes bytes, initialIv⟩ ∧
        cxlIdeKmProcessSessionMessageTeardown C codes host s = (.ok (), s') ∧
        s'.1.1.1 = { s.1.1.1 with isKeySetGo := Vector.replicate 2 false }) ∧
    ((deviceRandom 1).result = false →
      ∃ s, run = (.error C.statusLowEntropy, s) ∧
        ∀ i, s.1.1.1.isKeyProg.get i = false ∧ s.1.1.1.isKeySetGo.get i = false) ∧
    ((deviceRandom 1).result = true → random 0 32 = none →
      ∃ s, run = (.error statusLowEntropy.val, s) ∧
        ∀ i, (s.1.1.1.isKeyProg.get i = true ↔ i = rx) ∧ s.1.1.1.isKeySetGo.get i = false) := by
  intro host run rx tx
  have hquery : run = (programKeys C codes host (libcxlidekmInitializeDevicePortContext C 0).caps
      stack).beside (((libcxlidekmInitializeDevicePortContext C 0, 1), 0),
        (libcxlidekmInitializeDevicePortContext C 0).caps) :=
    Flow.bind_of_ok (sessionQuery_device hreg ctx 0 0 cxlCaps ideRegBlock) _
  refine ⟨fun bytes hresult hdraw => ?_, fun hresult => ?_, fun hresult hdraw => ?_⟩
  · have hrun := hquery.trans (Flow.beside_of_ok
      (programKeys_device hcodes hresult hdraw stack) _)
    refine ⟨_, _, hrun, fun i => ?_, ?_, ?_, teardown_device hcodes rfl 6 1, ?_⟩
    · rcases hcodes.cases i with h | h <;>
        simp [h, PortContext.withKey, PortContext.withGo, Slots.get_setAt]
    · simp [PortContext.withKey, PortContext.withGo, Slots.get_setAt, rx, hcodes.direction]
    · simp [PortContext.withKey, PortContext.withGo, Slots.get_setAt, tx]
    · exact hcodes.stop_both _
  · obtain ⟨hiv, hkey, -⟩ := hcodes.caps
    have hprogram : programKeys C codes host (libcxlidekmInitializeDevicePortContext C 0).caps
        stack ((libcxlidekmInitializeDevicePortContext C 0, 1), 0) =
        (.error C.statusLowEntropy, ((libcxlidekmInitializeDevicePortContext C 0, 2), 0)) := by
      rw [programKeys, receiveKeyBuffer_eq_getKey hiv hkey]
      exact Flow.bind_of_error (getKey_device_lowEntropy rfl 1 0 _ hresult hlow) _
    refine ⟨_, hquery.trans (Flow.beside_of_error hprogram _), fun i => ?_⟩
    exact ⟨Slots.get_replicate _ _, Slots.get_replicate _ _⟩
  · have hprogram : programKeys C codes host (libcxlidekmInitializeDevicePortContext C 0).caps
        stack ((libcxlidekmInitializeDevicePortContext C 0, 1), 0) =
        (.error statusLowEntropy.val, (((libcxlidekmInitializeDevicePortContext C 0).withKey rx
          ⟨(deviceRandom 1).number, #v[0, 1, 2]⟩, 3), 1)) := by
      rw [programKeys_receive hcodes hresult]
      exact Flow.bind_of_error ((deviceHost_randomNumber _ _ _).trans (by rw [hdraw])) _
    refine ⟨_, hquery.trans (Flow.beside_of_error hprogram _), fun i => ⟨?_, ?_⟩⟩
    · have hempty : (libcxlidekmInitializeDevicePortContext C 0).isKeyProg.get i = false :=
        Slots.get_replicate _ _
      simp only [PortContext.withKey, Slots.get_setAt, hempty]
      by_cases hi : i = rx <;> simp [hi]
    · exact Slots.get_replicate _ _

/-- Concrete codes. -/
def SubStreamCodes.sample : SubStreamCodes where
  keyDirection
    | .rx => 0
    | .tx => 2
  keySubStreamCxl := 0x80
  keyIvInitial := 0
  keyIvDefault := 8
  keyModeSkid := 0

theorem separated_sample : SubStreamCodes.sample.Separated .sample := by
  constructor <;> decide

/-- Both sides have random numbers. -/
theorem cxlIdeKm_session_keys_sample :
    CxlIdeKm.sample.ideReg.size = 4 ∧ CxlIdeKm.sample.statusLowEntropy.isError = true ∧
      SubStreamCodes.sample.Separated .sample ∧
      ∃ s, cxlIdeKmProcessSessionMessageSetup .sample .sample
          (cxlIdeHost .sample (fun _ => ⟨true, Vector.replicate 8 9⟩)
            (fun _ n => some (Vector.replicate n 7)) ⟨.raw 0x80000000, rfl⟩)
          (fun _ => 0) KeyBuffer.zeroed (((PortContext.zeroed, 0), 0), 0) = (.ok (), s) ∧
        s.1.1.1.keyBuffer.get 0 = ⟨Vector.replicate 8 9, #v[0, 1, 2]⟩ := by
  obtain ⟨s, -, hrun, -, hrx, -⟩ := (cxlIdeKm_session_keys .sample rfl rfl .sample separated_sample
    (fun _ => ⟨true, Vector.replicate 8 9⟩) (fun _ n => some (Vector.replicate n 7))
    ⟨.raw 0x80000000, rfl⟩ PortContext.zeroed 0 (fun _ => 0) KeyBuffer.zeroed).1
    (Vector.replicate 32 7) rfl rfl
  exact ⟨rfl, rfl, separated_sample, s, hrun, hrx⟩

end SpdmEmu.IdeKm.Cxl
