import SpdmEmu.Libspdm.Status
import SpdmEmu.Run.Flow

/-!
# What a requester runs on

The session functions of the requester emulator exchange messages and draw random numbers. `Host` is
these two functions of libspdm over one state, which the requester does not see: the peer, the
transport and the random number generator.
-/

set_option autoImplicit false

namespace SpdmEmu.Libspdm

open SpdmEmu.Wire SpdmEmu.Run

/-- A status that is an error. -/
abbrev ErrorStatus := { status : LibspdmReturn // status.isError = true }

/-- The functions of libspdm that a session function of the requester calls. -/
structure Host (σ : Type) where
  sendReceive : SendReceive σ
  /-- `libspdm_get_random_number`, for a number of bytes; `none` is the result `false` -/
  getRandomNumber : (n : Nat) → σ → Option (Vector UInt8 n) × σ
  /-- `LIBSPDM_STATUS_LOW_ENTROPY` -/
  statusLowEntropy : ErrorStatus

variable {σ : Type}

/-- A random number, or an early return with `LIBSPDM_STATUS_LOW_ENTROPY`. -/
def Host.randomNumber (host : Host σ) (n : Nat) : Flow σ LibspdmReturn (Vector UInt8 n) := fun s =>
  match host.getRandomNumber n s with
  | (some number, s) => (.ok number, s)
  | (none, s) => (.error host.statusLowEntropy.val, s)

/-- A call that returns a status, in a function that returns every error of it. -/
def callStatus (call : σ → LibspdmReturn × σ) : Flow σ LibspdmReturn Unit := fun s =>
  let (status, s) := call s
  if status.isError then (.error status, s) else (.ok (), s)

theorem callStatus_snd (call : σ → LibspdmReturn × σ) (s : σ) :
    (callStatus call s).2 = (call s).2 := by
  simp only [callStatus]
  split <;> rfl

theorem callStatus_of_success {call : σ → LibspdmReturn × σ} {s s' : σ}
    (h : call s = (.success, s')) : callStatus call s = (.ok (), s') := by
  simp [callStatus, h, LibspdmReturn.isError]

/-- The same host with every response changed on its way. -/
def Host.mapResponse (host : Host σ) (change : Bytes → Bytes) : Host σ :=
  { host with
    sendReceive := fun s request capacity =>
      let (exchange, s) := host.sendReceive s request capacity
      ({ exchange with response := change exchange.response }, s) }

/-- A host whose peer is a device, over a transport that delivers messages unchanged; the second
component counts the random numbers that were drawn, and `random` says what each draw gives. -/
def deviceHost {δ : Type} (respond : δ → Bytes → Reply × δ)
    (random : Nat → (n : Nat) → Option (Vector UInt8 n)) (statusLowEntropy : ErrorStatus) :
    Host (δ × Nat) where
  sendReceive s request capacity :=
    let (exchange, device) := directLink respond s.1 request capacity
    (exchange, (device, s.2))
  getRandomNumber n s := (random s.2 n, (s.1, s.2 + 1))
  statusLowEntropy := statusLowEntropy

section Device

variable {δ : Type} {respond : δ → Bytes → Reply × δ}
  {random : Nat → (n : Nat) → Option (Vector UInt8 n)} {statusLowEntropy : ErrorStatus}

/-- A message that the device writes arrives. -/
theorem deviceHost_sendReceive {d d' : δ} {request m : Bytes} {capacity : Nat} (k : Nat)
    (h : respond d request = (⟨.success, some m⟩, d')) (hfits : m.length ≤ capacity) :
    (deviceHost respond random statusLowEntropy).sendReceive (d, k) request capacity =
      (⟨.success, m⟩, (d', k)) := by
  simp only [deviceHost, directLink_of_written h hfits]

/-- A draw that succeeds, and one that does not. -/
theorem deviceHost_randomNumber (n : Nat) (d : δ) (k : Nat) :
    (deviceHost respond random statusLowEntropy).randomNumber n (d, k) =
      match random k n with
      | some number => (.ok number, (d, k + 1))
      | none => (.error statusLowEntropy.val, (d, k + 1)) := by
  simp only [Host.randomNumber, deviceHost]
  cases random k n <;> rfl

end Device

end SpdmEmu.Libspdm
