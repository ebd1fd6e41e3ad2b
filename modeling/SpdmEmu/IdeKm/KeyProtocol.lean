import SpdmEmu.Libspdm.Status

/-!
# What the two key management protocols share

The PCI and the CXL libraries have the same handlers for `KEY_PROG`, `K_SET_GO` and `K_SET_STOP`,
the same search of the dispatch table and the same check of the port, over different layouts,
port contexts and key buffers. The definitions here take these as parameters; `IdeKm.Responder` and
`IdeKm.Cxl` give them their values.

A handler writes its acknowledgement before it calls the device. When the device refuses, the
handler returns an error status with the acknowledgement already in the response buffer.
-/

set_option autoImplicit false

namespace SpdmEmu.IdeKm

open SpdmEmu.Wire SpdmEmu.Libspdm

/-- The stream, sub-stream and port a key message names. -/
structure KeyBody where
  streamId : UInt8
  keySubStream : UInt8
  portIndex : UInt8
deriving DecidableEq, Repr

/-- The body of `pci_ide_km_kp_ack_t` and of `cxl_ide_km_kp_ack_t`. -/
structure KpAckBody where
  key : KeyBody
  status : UInt8
deriving DecidableEq, Repr

variable {σ α β ρ : Type}

/-! ## The device calls -/

/-- The shape of the device calls for a key: without a port context for the port they refuse, and
otherwise they return `a` and leave the device in state `next`. -/
def forBoundPort (isBound : Bool) (s : σ) (a : α) (next : σ) : Except LibspdmReturn α × σ :=
  if !isBound then (.error .invalidMsgField, s) else (.ok a, next)

/-! ## The handlers -/

/-- `pci_ide_km_get_response_key_prog` and `cxl_ide_km_get_response_key_prog`. -/
def handleKeyProg (headerSize : Nat) (body : Packed KeyBody) (buffer : Packed β)
    (ack : KpAckBody → Bytes) (device : σ → KeyBody → β → Except LibspdmReturn UInt8 × σ) (s : σ)
    (request : Bytes) : Reply × σ :=
  let key := body.decode (request.drop headerSize)
  let keyBuffer := buffer.decode (request.drop (headerSize + body.size))
  if request.length ≠ headerSize + body.size + buffer.size then (⟨.invalidMsgSize, none⟩, s)
  else
    match device s key keyBuffer with
    -- the status field of the acknowledgement is still zero
    | (.error status, s) => (⟨status, some (ack ⟨key, 0⟩)⟩, s)
    | (.ok kpAckStatus, s) => (⟨.success, some (ack ⟨key, kpAckStatus⟩)⟩, s)

/-- The shape of the two handlers of a key set. -/
def handleKeySetOf (headerSize : Nat) (body : Packed KeyBody) (ack : KeyBody → Bytes)
    (device : σ → KeyBody → Except LibspdmReturn Unit × σ) (s : σ) (request : Bytes) : Reply × σ :=
  let key := body.decode (request.drop headerSize)
  if request.length ≠ headerSize + body.size then (⟨.invalidMsgSize, none⟩, s)
  else
    match device s key with
    | (.error status, s) => (⟨status, some (ack key)⟩, s)
    | (.ok (), s) => (⟨.success, some (ack key)⟩, s)

/-- `pci_ide_km_get_response` and `cxl_ide_km_get_response`: the first table entry with the object
id of the request handles it. -/
def dispatchObject (header : Packed UInt8) (objectId : ρ → UInt8) (table : List ρ)
    (handle : ρ → σ → Bytes → Reply × σ) (s : σ) (request : Bytes) : Reply × σ :=
  if request.length < header.size then (⟨.invalidMsgSize, none⟩, s)
  else
    match table.find? fun r => header.decode request == objectId r with
    | some r => handle r s request
    | none => (⟨.unsupportedCap, none⟩, s)

section States

variable (headerSize : Nat) (body : Packed KeyBody) (s : σ) (request : Bytes)

/-- The handler of a programming leaves the state to the device. -/
theorem handleKeyProg_snd (buffer : Packed β) (ack : KpAckBody → Bytes)
    (device : σ → KeyBody → β → Except LibspdmReturn UInt8 × σ) :
    (handleKeyProg headerSize body buffer ack device s request).2 =
      if request.length ≠ headerSize + body.size + buffer.size then s
      else (device s (body.decode (request.drop headerSize))
        (buffer.decode (request.drop (headerSize + body.size)))).2 := by
  simp only [handleKeyProg]
  split
  · rfl
  · rcases device s (body.decode (request.drop headerSize))
      (buffer.decode (request.drop (headerSize + body.size))) with ⟨_ | _, _⟩ <;> rfl

/-- The handler of a key set leaves the state to the device. -/
theorem handleKeySetOf_snd (ack : KeyBody → Bytes)
    (device : σ → KeyBody → Except LibspdmReturn Unit × σ) :
    (handleKeySetOf headerSize body ack device s request).2 =
      if request.length ≠ headerSize + body.size then s
      else (device s (body.decode (request.drop headerSize))).2 := by
  simp only [handleKeySetOf]
  split
  · rfl
  · rcases device s (body.decode (request.drop headerSize)) with ⟨_ | _, _⟩ <;> rfl

end States

/-! ## Well-formed requests -/

section Requests

variable {header : Packed UInt8} {body : Packed KeyBody} {s s' : σ} {key : KeyBody}

/-- A request with the object id of a table entry reaches the handler of the entry. -/
theorem dispatchObject_request {objectId : ρ → UInt8} {table : List ρ}
    {handle : ρ → σ → Bytes → Reply × σ} (hids : Function.Injective objectId) {r : ρ}
    (hr : r ∈ table) (s : σ) (rest : Bytes) :
    dispatchObject header objectId table handle s (header.encode (objectId r) ++ rest) =
      handle r s (header.encode (objectId r) ++ rest) := by
  simp [dispatchObject, find_of_injective hids hr]

/-- A key that the device takes is acknowledged with the status of the device. -/
theorem handleKeyProg_request {buffer : Packed β} {ack : KpAckBody → Bytes}
    {device : σ → KeyBody → β → Except LibspdmReturn UInt8 × σ} {keyBuffer : β}
    {kpAckStatus : UInt8} (hdevice : device s key keyBuffer = (.ok kpAckStatus, s'))
    (objectId : UInt8) :
    handleKeyProg header.size body buffer ack device s
        (header.encode objectId ++ (body.encode key ++ buffer.encode keyBuffer)) =
      (⟨.success, some (ack ⟨key, kpAckStatus⟩)⟩, s') := by
  simp [handleKeyProg, hdevice, ← List.drop_drop, Nat.add_assoc]

/-- A key set that the device starts or stops is acknowledged. -/
theorem handleKeySetOf_request {ack : KeyBody → Bytes}
    {device : σ → KeyBody → Except LibspdmReturn Unit × σ} (hdevice : device s key = (.ok (), s'))
    (objectId : UInt8) :
    handleKeySetOf header.size body ack device s (header.encode objectId ++ body.encode key) =
      (⟨.success, some (ack key)⟩, s') := by
  simp [handleKeySetOf, hdevice]

end Requests

end SpdmEmu.IdeKm
