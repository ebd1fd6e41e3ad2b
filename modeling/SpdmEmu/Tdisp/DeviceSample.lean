import SpdmEmu.Run.Machine
import SpdmEmu.Tdisp.Device

/-!
# The TDISP device library of the device sample

`spdm-device-sample/spdm_device_sample/library/pci_tdisp_device_lib` is a second copy of the TDISP
device library. It has no JSON reports, and its start call compares the nonce the other way round.
Both copies are run here as machines over the seven device calls. They give the same results on
exactly the call sequences that never start a locked interface.
-/

set_option autoImplicit false

namespace SpdmEmu.Tdisp

open SpdmEmu.Wire SpdmEmu.Run

/-- A call of a device library. A lock call carries the outcome of `libspdm_random_bytes`. -/
inductive Call (K : PciTdisp) where
  | getVersion (interfaceId : InterfaceId)
  | getCapabilities (interfaceId : InterfaceId)
      (reqCaps : Vector UInt8 K.requesterCapabilitiesSize)
  | lockInterface (interfaceId : InterfaceId)
      (lockInterfaceParam : Vector UInt8 K.lockInterfaceParamSize)
      (random : Option (Vector UInt8 K.startInterfaceNonceSize))
  | getInterfaceReport (interfaceId : InterfaceId)
  | getInterfaceState (interfaceId : InterfaceId)
  | startInterface (interfaceId : InterfaceId)
      (startInterfaceNonce : Vector UInt8 K.startInterfaceNonceSize)
  | stopInterface (interfaceId : InterfaceId)

/-- What a successful call returns. -/
inductive Output (K : PciTdisp) where
  | version (body : VersionBody)
  | capabilities (rspCaps : ResponderCapabilities)
  | nonce (startInterfaceNonce : Vector UInt8 K.startInterfaceNonceSize)
  | report (interfaceReport : ReportBuffer) (interfaceReportSize : UInt16)
  | state (tdiState : UInt8)
  | done
deriving DecidableEq

variable {K : PciTdisp}

/-! ## The device sample's own functions -/

namespace DeviceSample

/-- `pci_tdisp_device_lock_interface` of the device sample. -/
def pciTdispDeviceLockInterface (random : Option (Vector UInt8 K.startInterfaceNonceSize))
    (ctx : InterfaceContext K) (interfaceId : InterfaceId)
    (lockInterfaceParam : Vector UInt8 K.lockInterfaceParamSize) :
    Except ErrorCode (Vector UInt8 K.startInterfaceNonceSize) × InterfaceContext K :=
  if !ctx.isBound interfaceId then (.error .invalidInterface, ctx)
  else if ctx.tdiState ≠ K.tdiState .configUnlocked then (.error .invalidInterfaceState, ctx)
  else
    let ctx := { ctx with lockInterfaceParam := lockInterfaceParam }
    match random with
    | none => (.error .insufficientEntropy, ctx)
    | some nonce =>
        (.ok nonce,
          { ctx with
            startInterfaceNonce := nonce
            tdiState := K.tdiState .configLocked
            interfaceReport := ctx.interfaceReport.overwrite
              (K.interfaceReport.encode (defaultInterfaceReport K))
            interfaceReportSize := UInt16.ofNat K.interfaceReport.size })

/-- `pci_tdisp_device_start_interface` of the device sample: an equal nonce is the invalid one. -/
def pciTdispDeviceStartInterface (ctx : InterfaceContext K) (interfaceId : InterfaceId)
    (startInterfaceNonce : Vector UInt8 K.startInterfaceNonceSize) :
    Except ErrorCode Unit × InterfaceContext K :=
  if !ctx.isBound interfaceId then (.error .invalidInterface, ctx)
  else if ctx.tdiState ≠ K.tdiState .configLocked then (.error .invalidInterfaceState, ctx)
  else if startInterfaceNonce = ctx.startInterfaceNonce then (.error .invalidNonce, ctx)
  else (.ok (), { ctx with tdiState := K.tdiState .run })

end DeviceSample

/-! ## The two libraries as machines -/

/-- A result and a context, with the result seen as an output. -/
def returning {γ : Type} (f : γ → Output K) (r : Except ErrorCode γ × InterfaceContext K) :
    Except ErrorCode (Output K) × InterfaceContext K :=
  (r.1.map f, r.2)

/-- The calls whose source files are the same in both libraries, given the lock and start calls. -/
def runCall
    (lock : Option (Vector UInt8 K.startInterfaceNonceSize) → InterfaceContext K → InterfaceId →
      Vector UInt8 K.lockInterfaceParamSize →
      Except ErrorCode (Vector UInt8 K.startInterfaceNonceSize) × InterfaceContext K)
    (start : InterfaceContext K → InterfaceId → Vector UInt8 K.startInterfaceNonceSize →
      Except ErrorCode Unit × InterfaceContext K)
    (ctx : InterfaceContext K) : Call K → Except ErrorCode (Output K) × InterfaceContext K
  | .getVersion interfaceId => returning .version (pciTdispDeviceGetVersion ctx interfaceId)
  | .getCapabilities interfaceId reqCaps =>
      returning .capabilities (pciTdispDeviceGetCapabilities ctx interfaceId reqCaps)
  | .lockInterface interfaceId param random =>
      returning .nonce (lock random ctx interfaceId param)
  | .getInterfaceReport interfaceId =>
      returning (fun r => .report r.1 r.2) (pciTdispDeviceGetInterfaceReport ctx interfaceId, ctx)
  | .getInterfaceState interfaceId =>
      returning .state (pciTdispDeviceGetInterfaceState ctx interfaceId, ctx)
  | .startInterface interfaceId nonce => returning (fun _ => .done) (start ctx interfaceId nonce)
  | .stopInterface interfaceId =>
      returning (fun _ => .done) (pciTdispDeviceStopInterface ctx interfaceId)

/-- The library device sample, in a build without JSON reports. -/
def libraryDevice (K : PciTdisp) :
    Machine (InterfaceContext K) (Call K) (Except ErrorCode (Output K)) where
  step := runCall (fun random => pciTdispDeviceLockInterface ⟨random, jsonSupportOff⟩)
    pciTdispDeviceStartInterface

/-- The device library of `spdm-device-sample`. -/
def sampleDevice (K : PciTdisp) :
    Machine (InterfaceContext K) (Call K) (Except ErrorCode (Output K)) where
  step := runCall DeviceSample.pciTdispDeviceLockInterface
    DeviceSample.pciTdispDeviceStartInterface

/-- The call starts the bound interface while it is locked. -/
def StartsLocked (ctx : InterfaceContext K) (call : Call K) : Prop :=
  ∃ nonce, call = .startInterface ctx.interfaceId nonce ∧
    ctx.tdiState = K.tdiState .configLocked

/-! ## Where they agree -/

/-- Without JSON reports the two lock calls are the same. -/
theorem lockInterface_eq (random : Option (Vector UInt8 K.startInterfaceNonceSize))
    (ctx : InterfaceContext K) (interfaceId : InterfaceId)
    (param : Vector UInt8 K.lockInterfaceParamSize) :
    pciTdispDeviceLockInterface ⟨random, jsonSupportOff⟩ ctx interfaceId param =
      DeviceSample.pciTdispDeviceLockInterface random ctx interfaceId param := by
  unfold pciTdispDeviceLockInterface DeviceSample.pciTdispDeviceLockInterface
  cases random with
  | none => rfl
  | some nonce => rfl

/-- The two start calls are the same unless the bound interface is locked. -/
theorem startInterface_eq {ctx : InterfaceContext K} {interfaceId : InterfaceId}
    (h : ¬ (interfaceId = ctx.interfaceId ∧ ctx.tdiState = K.tdiState .configLocked))
    (nonce : Vector UInt8 K.startInterfaceNonceSize) :
    pciTdispDeviceStartInterface ctx interfaceId nonce =
      DeviceSample.pciTdispDeviceStartInterface ctx interfaceId nonce := by
  unfold pciTdispDeviceStartInterface DeviceSample.pciTdispDeviceStartInterface
  -- an unbound id and a state other than locked return before the nonces are compared
  by_cases hbound : ctx.isBound interfaceId = true
  · have hid := (isBound_iff ctx interfaceId).1 hbound
    have hstate : ctx.tdiState ≠ K.tdiState .configLocked := fun hs => h ⟨hid.symm, hs⟩
    simp [hstate]
  · simp [hbound]

/-- On a locked interface exactly one of the two start calls succeeds. -/
theorem startInterface_ne {ctx : InterfaceContext K}
    (hstate : ctx.tdiState = K.tdiState .configLocked)
    (nonce : Vector UInt8 K.startInterfaceNonceSize) :
    (returning (fun _ => Output.done)
        (pciTdispDeviceStartInterface ctx ctx.interfaceId nonce)).1 ≠
      (returning (fun _ => Output.done)
        (DeviceSample.pciTdispDeviceStartInterface ctx ctx.interfaceId nonce)).1 := by
  unfold pciTdispDeviceStartInterface DeviceSample.pciTdispDeviceStartInterface
  by_cases hnonce : nonce = ctx.startInterfaceNonce
  · simp [InterfaceContext.isBound, hstate, hnonce, returning, Except.map]
  · simp [InterfaceContext.isBound, hstate, hnonce, returning, Except.map]

/-- **The two libraries agree exactly on the call sequences that never start a locked
interface.** -/
theorem libraries_agree_iff (calls : List (Call K)) :
    (libraryDevice K).outputs (InterfaceContext.zeroed K) calls =
        (sampleDevice K).outputs (InterfaceContext.zeroed K) calls ↔
      ∀ e ∈ (libraryDevice K).history (InterfaceContext.zeroed K) calls,
        ¬ StartsLocked e.before e.input := by
  refine Machine.outputs_eq_iff_avoids _ _ StartsLocked ?_ ?_ _ _
  · intro ctx call hgood
    cases call with
    | getVersion id => rfl
    | getCapabilities id caps => rfl
    | lockInterface id param random =>
        exact congrArg (returning .nonce) (lockInterface_eq random ctx id param)
    | getInterfaceReport id => rfl
    | getInterfaceState id => rfl
    | startInterface id nonce =>
        refine congrArg (returning fun _ => .done) (startInterface_eq ?_ nonce)
        rintro ⟨rfl, hs⟩
        exact hgood ⟨nonce, rfl, hs⟩
    | stopInterface id => rfl
  -- a locked interface is started by one library and refused by the other, whatever the nonce
  · rintro ctx call ⟨nonce, rfl, hs⟩
    exact startInterface_ne hs nonce

/-- Version, lock, and a start with the returned nonce: the library starts the interface, the device
sample refuses. -/
theorem libraries_differ_on_start :
    (libraryDevice PciTdisp.sample).outputs (InterfaceContext.zeroed _)
        [.getVersion ⟨7, 0⟩, .lockInterface ⟨7, 0⟩ (Vector.replicate 20 0)
          (some (Vector.replicate 32 5)), .startInterface ⟨7, 0⟩ (Vector.replicate 32 5)] ≠
      (sampleDevice PciTdisp.sample).outputs (InterfaceContext.zeroed _)
        [.getVersion ⟨7, 0⟩, .lockInterface ⟨7, 0⟩ (Vector.replicate 20 0)
          (some (Vector.replicate 32 5)), .startInterface ⟨7, 0⟩ (Vector.replicate 32 5)] := by
  decide

end SpdmEmu.Tdisp
