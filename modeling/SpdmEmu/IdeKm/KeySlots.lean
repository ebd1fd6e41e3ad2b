import SpdmEmu.Run.Slots
import SpdmEmu.IdeKm.Cxl

/-!
# Key sets and their keys

A key set is active after `K_SET_GO` and has a key after `KEY_PROG`. Both devices are slot machines:
`QUERY` clears the slots, `KEY_PROG` fills one, `K_SET_GO` starts one and `K_SET_STOP` stops one.
Neither device looks at `is_key_prog` before it sets `is_key_set_go`, so a key set can be active
without a key, and is so exactly after a run with a `K_SET_GO` for a slot that has none. Before the
first `QUERY` the zeroed context is bound to port 0.
-/

set_option autoImplicit false

namespace SpdmEmu.IdeKm

open SpdmEmu.Wire SpdmEmu.Libspdm SpdmEmu.Run

/-! ## Key messages -/

/-- What a request asks of the key slots; `other` is a request that is refused before the device is
called, or one that has nothing to do with the slots. -/
inductive KeyMessage where
  | query
  | keyProg (key : KeyBody)
  | kSetGo (key : KeyBody)
  | kSetStop (key : KeyBody)
  | other

namespace KeyMessage

variable {n : Nat} (isBound : UInt8 → Bool) (index : UInt8 → Fin n)

/-- A message for one slot does nothing unless it names the bound port. -/
def keyOperation (op : Fin n → Slots.Op (Fin n)) (key : KeyBody) : Slots.Op (Fin n) :=
  if !isBound key.portIndex then .idle else op (index key.keySubStream)

/-- What a message does to the slots. -/
def operation : KeyMessage → Slots.Op (Fin n)
  | .query => .clear
  | .keyProg key => keyOperation isBound index .fill key
  | .kSetGo key => keyOperation isBound index .start key
  | .kSetStop key => keyOperation isBound index .stop key
  | .other => .idle

/-- A `K_SET_GO` to the bound port for a slot that has no key. -/
def ActivatesWithoutKey (m : KeyMessage) (isKeyProg : Vector Bool n) : Prop :=
  ∃ key, m = .kSetGo key ∧ isBound key.portIndex = true ∧
    isKeyProg[index key.keySubStream] = false

theorem startsEmpty_operation_iff (m : KeyMessage) (isKeyProg isKeySetGo : Vector Bool n) :
    (m.operation isBound index).StartsEmpty (Slots.ofFlags isKeyProg isKeySetGo) ↔
      m.ActivatesWithoutKey isBound index isKeyProg := by
  constructor
  · rintro ⟨i, hop, hempty⟩
    cases m with
    | query => cases hop
    | other => cases hop
    | kSetGo key =>
        simp only [operation, keyOperation] at hop
        split at hop
        · cases hop
        · next hbound =>
            cases hop
            exact ⟨key, rfl, by simpa using hbound, Bool.eq_false_iff.2 hempty⟩
    | keyProg key | kSetStop key =>
        simp only [operation, keyOperation] at hop
        split at hop <;> cases hop
  · rintro ⟨key, rfl, hbound, hempty⟩
    refine ⟨index key.keySubStream, ?_, Bool.eq_false_iff.1 hempty⟩
    simp [operation, keyOperation, hbound]

end KeyMessage

/-! ## Reading a request -/

/-- What `read` finds in a request, if the size of the request is right. -/
def readSized (size : Nat) (read : Bytes → KeyMessage) (request : Bytes) : KeyMessage :=
  if request.length ≠ size then .other else read request

/-- What the reader of the first table entry with the object id of the request finds in it. -/
def readObject {ρ : Type} (header : Packed UInt8) (objectId : ρ → UInt8) (table : List ρ)
    (read : ρ → Bytes → KeyMessage) (request : Bytes) : KeyMessage :=
  if request.length < header.size then .other
  else
    match table.find? fun r => header.decode request == objectId r with
    | some r => read r request
    | none => .other

/-! ## A device with key slots -/

/-- How a port context is read: which port is bound, which slot a sub-stream has, and the two flags
of each slot. -/
structure KeyView (σ : Type) (n : Nat) where
  isBound : σ → UInt8 → Bool
  index : UInt8 → Fin n
  isKeyProg : σ → Vector Bool n
  isKeySetGo : σ → Vector Bool n

namespace KeyView

variable {σ β ρ : Type} {n : Nat} (V : KeyView σ n)

/-- The key slots of a port context. -/
def slots (s : σ) : Slots (Fin n) := Slots.ofFlags (V.isKeyProg s) (V.isKeySetGo s)

/-- What a message does to the slots in a state. -/
def operation (s : σ) (m : KeyMessage) : Slots.Op (Fin n) := m.operation (V.isBound s) V.index

/-- A handler does to the slots what the message in its request says. -/
def Performs (handle : σ → Bytes → Reply × σ) (read : Bytes → KeyMessage) : Prop :=
  ∀ s request, V.slots (handle s request).2 = (V.slots s).apply (V.operation s (read request))

variable {V}

/-- The port decides for the device and for the operation alike. -/
theorem slots_forBoundPort {α : Type} {s next : σ} {a : α} {key : KeyBody}
    {op : Fin n → Slots.Op (Fin n)}
    (hnext : V.slots next = (V.slots s).apply (op (V.index key.keySubStream))) :
    V.slots (forBoundPort (V.isBound s key.portIndex) s a next).2 =
      (V.slots s).apply (KeyMessage.keyOperation (V.isBound s) V.index op key) := by
  unfold KeyMessage.keyOperation
  cases V.isBound s key.portIndex with
  | false => rfl
  | true => exact hnext

theorem performs_keyProg {headerSize : Nat} {body : Packed KeyBody} {buffer : Packed β}
    {ack : KpAckBody → Bytes} {device : σ → KeyBody → β → Except LibspdmReturn UInt8 × σ}
    (hdevice : ∀ s key keyBuffer, V.slots (device s key keyBuffer).2 =
      (V.slots s).apply (V.operation s (.keyProg key))) :
    V.Performs (handleKeyProg headerSize body buffer ack device)
      (readSized (headerSize + body.size + buffer.size)
        fun request => .keyProg (body.decode (request.drop headerSize))) := by
  intro s request
  rw [handleKeyProg_snd, readSized]
  split
  · rfl
  · exact hdevice _ _ _

/-- The two messages for a key set. -/
theorem performs_keySet {headerSize : Nat} {body : Packed KeyBody} {ack : KeyBody → Bytes}
    {device : σ → KeyBody → Except LibspdmReturn Unit × σ} {m : KeyBody → KeyMessage}
    (hdevice : ∀ s key, V.slots (device s key).2 = (V.slots s).apply (V.operation s (m key))) :
    V.Performs (handleKeySetOf headerSize body ack device)
      (readSized (headerSize + body.size)
        fun request => m (body.decode (request.drop headerSize))) := by
  intro s request
  rw [handleKeySetOf_snd, readSized]
  split
  · rfl
  · exact hdevice _ _

/-- If every handler performs what its reader finds, so does the dispatcher. -/
theorem performs_dispatchObject {header : Packed UInt8} {objectId : ρ → UInt8} {table : List ρ}
    {handle : ρ → σ → Bytes → Reply × σ} {read : ρ → Bytes → KeyMessage}
    (hhandle : ∀ r, V.Performs (handle r) (read r)) :
    V.Performs (dispatchObject header objectId table handle)
      (readObject header objectId table read) := by
  intro s request
  simp only [dispatchObject, readObject]
  split
  · rfl
  · cases table.find? fun r => header.decode request == objectId r with
    | some r => exact hhandle r s request
    | none => rfl

/-- Along a run every active key set has a key exactly when no request activates one without. -/
theorem keyed_run_iff {I : Type} (M : Machine σ I Reply) {read : I → KeyMessage}
    (hstep : ∀ s input,
      V.slots (M.step s input).2 = (V.slots s).apply (V.operation s (read input)))
    {s : σ} (hstopped : V.isKeySetGo s = Vector.replicate n false) (inputs : List I) :
    (∀ js, js <+: inputs → (V.slots (M.after s js)).Backed) ↔
      ∀ e ∈ M.history s inputs,
        ¬ (read e.input).ActivatesWithoutKey (V.isBound e.before) V.index
          (V.isKeyProg e.before) := by
  have hbacked : (V.slots s).Backed := by
    rw [slots, hstopped]
    exact Slots.backed_ofFlags_replicate _
  rw [M.backed_run_iff V.slots (fun s input => V.operation s (read input)) hstep hbacked]
  simp only [slots, operation, KeyMessage.startsEmpty_operation_iff]

end KeyView

/-! ## The PCI device -/

/-- `g_idekm_device_port_context` before the first request. -/
def PortContext.zeroed : PortContext where
  portIndex := 0
  devFuncNum := 0
  busNum := 0
  segment := 0
  maxPortIndex := 0
  ideRegBuffer := Vector.replicate _ 0
  ideRegBufferCount := 0
  keyBuffer := Vector.replicate _ (Vector.replicate _ 0)
  isKeyProg := Vector.replicate _ false
  isKeySetGo := Vector.replicate _ false

/-- The four slots of the PCI device. -/
def keyView (K : PciIdeKm) : KeyView PortContext 4 where
  isBound := PortContext.isBound
  index := keyIndex K
  isKeyProg := PortContext.isKeyProg
  isKeySetGo := PortContext.isKeySetGo

/-- The message in a request with a given table entry, if its size is right. -/
def readBody (K : PciIdeKm) : Request → Bytes → KeyMessage
  | .query => readSized (K.header.size + K.queryRequest.size) fun _ => .query
  | .keyProg =>
      readSized (K.header.size + K.keyProgRequest.size + K.keyBuffer.size) fun request =>
        .keyProg (K.keyProgRequest.decode (request.drop K.header.size))
  | .kSetGo =>
      readSized (K.header.size + K.kSetGoRequest.size) fun request =>
        .kSetGo (K.kSetGoRequest.decode (request.drop K.header.size))
  | .kSetStop =>
      readSized (K.header.size + K.kSetStopRequest.size) fun request =>
        .kSetStop (K.kSetStopRequest.decode (request.drop K.header.size))

/-- The message in a request. -/
def readMessage (K : PciIdeKm) : Bytes → KeyMessage :=
  readObject K.header K.requestObjectId mPciIdeKmDispatch (readBody K)

theorem performs_handler (K : PciIdeKm) (r : Request) :
    (keyView K).Performs (handler K r) (readBody K r) := by
  cases r with
  | query =>
      intro ctx request
      simp only [handler, pciIdeKmGetResponseQuery, getResponseQueryOf, readBody, readSized]
      split
      · rfl
      · exact Slots.ofFlags_clear _ _
  | keyProg =>
      refine KeyView.performs_keyProg fun ctx key keyBuffer => ?_
      exact KeyView.slots_forBoundPort (Slots.ofFlags_fill _ _ _)
  | kSetGo =>
      refine KeyView.performs_keySet fun ctx key => ?_
      exact KeyView.slots_forBoundPort (Slots.ofFlags_start _ _ _)
  | kSetStop =>
      refine KeyView.performs_keySet fun ctx key => ?_
      exact KeyView.slots_forBoundPort (Slots.ofFlags_stop _ _ _)

/-! ## The CXL device -/

namespace Cxl

/-- The two slots of the CXL device. -/
def keyView (C : CxlIdeKm) : KeyView PortContext 2 where
  isBound := PortContext.isBound
  index := keyIndex C
  isKeyProg := PortContext.isKeyProg
  isKeySetGo := PortContext.isKeySetGo

/-- The message in a request with a given table entry, if its size is right. -/
def readBody (C : CxlIdeKm) : Request → Bytes → KeyMessage
  | .query => readSized (C.header.size + C.queryRequest.size) fun _ => .query
  | .keyProg =>
      readSized (C.header.size + C.keyProgRequest.size + C.keyBuffer.size) fun request =>
        .keyProg (C.keyProgRequest.decode (request.drop C.header.size))
  | .kSetGo =>
      readSized (C.header.size + C.kSetGoRequest.size) fun request =>
        .kSetGo (C.kSetGoRequest.decode (request.drop C.header.size))
  | .kSetStop =>
      readSized (C.header.size + C.kSetStopRequest.size) fun request =>
        .kSetStop (C.kSetStopRequest.decode (request.drop C.header.size))
  | .getKey => fun _ => .other

/-- The message in a request. -/
def readMessage (C : CxlIdeKm) : Bytes → KeyMessage :=
  readObject C.header C.requestObjectId mCxlIdeKmDispatch (readBody C)

theorem performs_handler (C : CxlIdeKm) (random : RandomNumber) (r : Request) :
    (keyView C).Performs (handler C random r) (readBody C r) := by
  cases r with
  | query =>
      intro ctx request
      simp only [handler, cxlIdeKmGetResponseQuery, readBody, readSized]
      split
      · rfl
      · exact Slots.ofFlags_clear _ _
  | keyProg =>
      refine KeyView.performs_keyProg fun ctx key keyBuffer => ?_
      exact KeyView.slots_forBoundPort (Slots.ofFlags_fill _ _ _)
  | kSetGo =>
      refine KeyView.performs_keySet fun ctx key => ?_
      exact KeyView.slots_forBoundPort (Slots.ofFlags_start _ _ _)
  | kSetStop =>
      refine KeyView.performs_keySet fun ctx key => ?_
      exact KeyView.slots_forBoundPort (Slots.ofFlags_stop _ _ _)
  | getKey =>
      -- the key that is handed out is stored nowhere
      intro ctx request
      simp only [handler, cxlIdeKmGetResponseGetKey, readBody]
      split <;> rfl

end Cxl

/-! ## Both devices -/

/-- **A key set is active only with a key, at every state of a run from the zeroed port context,
exactly when no request of the run is a `K_SET_GO` to the bound port for a slot without a key**: for
the four slots of the PCI device and the two slots of the CXL device, and every list of requests. -/
theorem active_key_sets_have_keys_iff (K : PciIdeKm) (C : Cxl.CxlIdeKm) :
    (∀ requests : List Bytes,
      (∀ js, js <+: requests → ∀ i : Fin 4,
        ((responder K).after .zeroed js).isKeySetGo[i] = true →
          ((responder K).after .zeroed js).isKeyProg[i] = true) ↔
      ∀ e ∈ (responder K).history .zeroed requests,
        ¬ (readMessage K e.input).ActivatesWithoutKey e.before.isBound (keyIndex K)
          e.before.isKeyProg) ∧
    (∀ requests : List (Bytes × Cxl.RandomNumber),
      (∀ js, js <+: requests → ∀ i : Fin 2,
        ((Cxl.responder C).after .zeroed js).isKeySetGo[i] = true →
          ((Cxl.responder C).after .zeroed js).isKeyProg[i] = true) ↔
      ∀ e ∈ (Cxl.responder C).history .zeroed requests,
        ¬ (Cxl.readMessage C e.input.1).ActivatesWithoutKey e.before.isBound (Cxl.keyIndex C)
          e.before.isKeyProg) := by
  constructor
  · intro requests
    have hstep : (keyView K).Performs (pciIdeKmGetResponse K) (readMessage K) :=
      KeyView.performs_dispatchObject (performs_handler K)
    exact KeyView.keyed_run_iff (responder K) hstep rfl requests
  · intro requests
    have hstep : ∀ random,
        (Cxl.keyView C).Performs (Cxl.cxlIdeKmGetResponse C random) (Cxl.readMessage C) :=
      fun random => KeyView.performs_dispatchObject (Cxl.performs_handler C random)
    exact KeyView.keyed_run_iff (Cxl.responder C) (fun ctx input => hstep input.2 ctx input.1) rfl
      requests

/-- A PCI `K_SET_GO` for slot 0 of port 0. -/
private def goFirst : List Bytes := [[4, 0, 0, 0, 0, 0]]

/-- A CXL `K_SET_GO` for slot 0 of port 0. -/
private def cxlGoFirst : List (Bytes × Cxl.RandomNumber) :=
  [([4, 0, 0, 0, 0, 0, 0], ⟨true, Vector.replicate _ 0⟩)]

/-- The first request to each device is a `K_SET_GO` for slot 0 of port 0. The devices acknowledge
it, and the slot is active without a key. -/
theorem key_set_active_without_key :
    ((responder PciIdeKm.sample).outputs .zeroed goFirst).map (·.status) = [.success] ∧
    ((responder PciIdeKm.sample).after .zeroed goFirst).isKeySetGo[0] = true ∧
    ((responder PciIdeKm.sample).after .zeroed goFirst).isKeyProg[0] = false ∧
    ((Cxl.responder .sample).outputs .zeroed cxlGoFirst).map (·.status) = [.success] ∧
    ((Cxl.responder .sample).after .zeroed cxlGoFirst).isKeySetGo[0] = true ∧
    ((Cxl.responder .sample).after .zeroed cxlGoFirst).isKeyProg[0] = false := by
  decide +kernel

end SpdmEmu.IdeKm
