import SpdmEmu.Libspdm.Status

/-!
# Saving and loading the negotiated state

`spdm_emu/spdm_emu_common/nv_storage.c`: after a negotiation the emulator writes the negotiated
version, capabilities and algorithms of its SPDM context into a file, and a later run reads the file
back in place of a negotiation. The items of an SPDM context are kept by libspdm, which is not part
of the repository; here they are the fields of two records, one for each location
`libspdm_get_data` and `libspdm_set_data` are called with.

`spdm_load_negotiated_state` does not give back all that `spdm_save_negotiated_state` was given. It
sets the CT exponent of the peer to 0, although the exponent is in the file, and the measurement
extension log specification it sets is always 0, because the save never asks for that item.
`Survives` is the condition under which this makes no difference.
-/

set_option autoImplicit false

namespace SpdmEmu.Emulator.NvStorage

open SpdmEmu.Wire SpdmEmu.Libspdm

/-! ## The file -/

/-- `spdm_negotiated_state_struct_t`, for a VCA buffer of `maxVca` bytes -/
structure NegotiatedState (maxVca : Nat) where
  version : UInt32
  spdmVersion : UInt8
  requesterCapCtExponent : UInt8
  requesterCapFlags : UInt32
  responderCapCtExponent : UInt8
  responderCapFlags : UInt32
  measurementSpec : UInt8
  otherParamsSupport : UInt8
  melSpec : UInt8
  measurementHashAlgo : UInt32
  baseAsymAlgo : UInt32
  baseHashAlgo : UInt32
  dheNamedGroup : UInt16
  aeadCipherSuite : UInt16
  reqBaseAsymAlg : UInt16
  keySchedule : UInt16
  vcaBufferSize : UInt64
  vcaBuffer : Vector UInt8 maxVca
deriving DecidableEq, Repr

/-- `SPDM_NEGOTIATED_STATE_STRUCT_VERSION` -/
def negotiatedStateStructVersion : UInt32 := 1

/-- What `nv_storage.c` takes from `spdm.h`, from the configuration of libspdm and from the C
implementation. -/
structure Platform where
  messageVersion11 : UInt8
  messageVersion12 : UInt8
  messageVersion13 : UInt8
  version11_le_12 : messageVersion11 ≤ messageVersion12
  version12_le_13 : messageVersion12 ≤ messageVersion13
  versionNumberShiftBit : UInt16
  /-- `SPDM_GET_CAPABILITIES_RESPONSE_FLAGS_CACHE_CAP` -/
  cacheCap : UInt32
  connectionStateNegotiated : UInt32
  maxMessageVcaBufferSize : Nat
  vcaBufferSize_lt : maxMessageVcaBufferSize < 2 ^ 64
  /-- the structure in memory, which is also its form in the file -/
  negotiatedState : Packed (NegotiatedState maxMessageVcaBufferSize)
  /-- whether `malloc(0)` is not the null pointer -/
  mallocZero : Bool

namespace Platform

variable (P : Platform)

/-- `(uint8_t)(spdm_version >> SPDM_VERSION_NUMBER_SHIFT_BIT)` -/
def packVersion (version : UInt16) : UInt8 := (version >>> P.versionNumberShiftBit).toUInt8

/-- `m_use_version << SPDM_VERSION_NUMBER_SHIFT_BIT` -/
def unpackVersion (version : UInt8) : UInt16 := version.toUInt16 <<< P.versionNumberShiftBit

end Platform

/-- The layout of `spdm_negotiated_state_struct_t` on a little-endian host of 64 bits. -/
def NegotiatedState.packed (maxVca : Nat) : Packed (NegotiatedState maxVca) :=
  (Packed.u32.pair <| Packed.u8.pair <| Packed.u8.pair <| Packed.u32.pair <| Packed.u8.pair <|
    Packed.u32.pair <| Packed.u8.pair <| Packed.u8.pair <| Packed.u8.pair <| Packed.u32.pair <|
    Packed.u32.pair <| Packed.u32.pair <| Packed.u16.pair <| Packed.u16.pair <| Packed.u16.pair <|
    Packed.u16.pair <| Packed.u64.pair <| Packed.u8.array maxVca).view
  (fun (a, b, c, d, e, f, g, h, i, j, k, l, m, n, o, p, q, r) =>
    ⟨a, b, c, d, e, f, g, h, i, j, k, l, m, n, o, p, q, r⟩)
  (fun ⟨a, b, c, d, e, f, g, h, i, j, k, l, m, n, o, p, q, r⟩ =>
    (a, b, c, d, e, f, g, h, i, j, k, l, m, n, o, p, q, r))
  (fun _ => rfl)

/-- Concrete codes and a small VCA buffer, on which statements can be evaluated. -/
def Platform.sample : Platform where
  messageVersion11 := 0x11
  messageVersion12 := 0x12
  messageVersion13 := 0x13
  version11_le_12 := by decide
  version12_le_13 := by decide
  versionNumberShiftBit := 8
  cacheCap := 1
  connectionStateNegotiated := 3
  maxMessageVcaBufferSize := 4
  vcaBufferSize_lt := by decide
  negotiatedState := NegotiatedState.packed 4
  mallocZero := true

/-- The files of the host. -/
structure Host where
  files : String → Option Bytes
  writable : String → Bool

/-- `libspdm_read_input_file`. It allocates the size of the file, which the C library may refuse
when the file is empty. -/
def libspdmReadInputFile (P : Platform) (host : Host) (name : String) : Option Bytes :=
  match host.files name with
  | none => none
  | some data => if data.length = 0 ∧ P.mallocZero = false then none else some data

/-- `libspdm_write_output_file` -/
def libspdmWriteOutputFile (host : Host) (name : String) (data : Bytes) : Bool × Host :=
  if host.writable name then
    (true, { host with files := fun n => if n = name then some data else host.files n })
  else (false, host)

theorem write_of_writable {host : Host} {name : String} (h : host.writable name = true)
    (data : Bytes) : ∃ host', libspdmWriteOutputFile host name data = (true, host') ∧
      host'.files name = some data := by
  refine ⟨_, if_pos h, ?_⟩
  exact if_pos rfl

/-! ## The context and the settings -/

/-- A VCA transcript that fits the buffer of libspdm. -/
abbrev VcaCache (P : Platform) := { bytes : Bytes // bytes.length ≤ P.maxMessageVcaBufferSize }

/-- The items at `LIBSPDM_DATA_LOCATION_LOCAL` that are saved. -/
structure LocalInfo where
  capabilityFlags : UInt32
  capabilityCtExponent : UInt8
deriving DecidableEq, Repr

/-- The items at `LIBSPDM_DATA_LOCATION_CONNECTION`. -/
structure ConnectionInfo (P : Platform) where
  isRequester : Bool
  /-- the version numbers `libspdm_get_data` copies out -/
  spdmVersion : List UInt16
  capabilityFlags : UInt32
  capabilityCtExponent : UInt8
  measurementSpec : UInt8
  otherParamsSupport : UInt8
  melSpec : UInt8
  measurementHashAlgo : UInt32
  baseAsymAlgo : UInt32
  baseHashAlgo : UInt32
  dheNameGroup : UInt16
  aeadCipherSuite : UInt16
  reqBaseAsymAlg : UInt16
  keySchedule : UInt16
  vcaCache : VcaCache P
  connectionState : UInt32
deriving DecidableEq

/-- The SPDM context, a store of items. -/
structure SpdmContext (P : Platform) where
  localInfo : LocalInfo
  connection : ConnectionInfo P
deriving DecidableEq

/-- The `m_` settings that the two functions read and write; a file name that is not set is
`none`. -/
structure Settings where
  loadStateFileName : Option String
  saveStateFileName : Option String
  endSessionAttributes : UInt8
  useVersion : UInt8
  useRequesterCapabilityFlags : UInt32
  useResponderCapabilityFlags : UInt32
  useCapabilityFlags : UInt32
  supportMeasurementSpec : UInt8
  supportMeasurementHashAlgo : UInt32
  supportAsymAlgo : UInt32
  supportHashAlgo : UInt32
  supportDheAlgo : UInt16
  supportAeadAlgo : UInt16
  supportReqAsymAlgo : UInt16
  supportKeyScheduleAlgo : UInt16
  supportOtherParamsSupport : UInt8
  supportMelSpec : UInt8
deriving DecidableEq, Repr

/-! ## Saving -/

section Functions

variable {P : Platform}

/-- The bytes at the start of a zeroed buffer of `n` bytes. -/
def paddedBuffer (n : Nat) (bytes : Bytes) : Vector UInt8 n :=
  Vector.ofFn fun i => bytes.getD i 0

/-- The version in the file: the last of the version numbers copied out, without its low bits. -/
def ConnectionInfo.savedVersion (c : ConnectionInfo P) : UInt8 :=
  P.packVersion (c.spdmVersion.getLastD 0)

/-- The flags of the requester: its own in the requester, the peer's in the responder. -/
def SpdmContext.requesterCapFlags (ctx : SpdmContext P) (isRequester : Bool) : UInt32 :=
  if isRequester then ctx.localInfo.capabilityFlags else ctx.connection.capabilityFlags

/-- The flags of the responder. -/
def SpdmContext.responderCapFlags (ctx : SpdmContext P) (isRequester : Bool) : UInt32 :=
  if isRequester then ctx.connection.capabilityFlags else ctx.localInfo.capabilityFlags

/-- The CT exponent of the requester. -/
def SpdmContext.requesterCapCtExponent (ctx : SpdmContext P) (isRequester : Bool) : UInt8 :=
  if isRequester then ctx.localInfo.capabilityCtExponent else ctx.connection.capabilityCtExponent

/-- The CT exponent of the responder. -/
def SpdmContext.responderCapCtExponent (ctx : SpdmContext P) (isRequester : Bool) : UInt8 :=
  if isRequester then ctx.connection.capabilityCtExponent else ctx.localInfo.capabilityCtExponent

/-- The structure `spdm_save_negotiated_state` fills. -/
def gatherNegotiatedState (isRequester : Bool) (ctx : SpdmContext P) :
    NegotiatedState P.maxMessageVcaBufferSize where
  version := negotiatedStateStructVersion
  spdmVersion := ctx.connection.savedVersion
  requesterCapCtExponent := ctx.requesterCapCtExponent isRequester
  requesterCapFlags := ctx.requesterCapFlags isRequester
  responderCapCtExponent := ctx.responderCapCtExponent isRequester
  responderCapFlags := ctx.responderCapFlags isRequester
  measurementSpec := ctx.connection.measurementSpec
  otherParamsSupport := ctx.connection.otherParamsSupport
  -- never read from the context
  melSpec := 0
  measurementHashAlgo := ctx.connection.measurementHashAlgo
  baseAsymAlgo := ctx.connection.baseAsymAlgo
  baseHashAlgo := ctx.connection.baseHashAlgo
  dheNamedGroup := ctx.connection.dheNameGroup
  aeadCipherSuite := ctx.connection.aeadCipherSuite
  reqBaseAsymAlg := ctx.connection.reqBaseAsymAlg
  keySchedule := ctx.connection.keySchedule
  vcaBufferSize := UInt64.ofNat ctx.connection.vcaCache.val.length
  vcaBuffer := paddedBuffer _ ctx.connection.vcaCache.val

/-- `spdm_clear_negotiated_state` -/
def spdmClearNegotiatedState (settings : Settings) (host : Host) : LibspdmReturn × Host :=
  match settings.saveStateFileName with
  | none => (.unsupportedCap, host)
  | some name =>
      let (ret, host) := libspdmWriteOutputFile host name []
      (if ret then .success else .unsupportedCap, host)

/-- `spdm_save_negotiated_state`. The context is in the state NEGOTIATED and has a version number,
as the source asserts. -/
def spdmSaveNegotiatedState (isRequester : Bool) (ctx : SpdmContext P) (settings : Settings)
    (host : Host) : LibspdmReturn × Settings × Host :=
  match settings.saveStateFileName with
  | none => (.unsupportedCap, settings, host)
  | some name =>
      let settings := { settings with endSessionAttributes := 0 }
      let negotiatedState := gatherNegotiatedState isRequester ctx
      if negotiatedState.responderCapFlags &&& P.cacheCap = 0 then
        let (status, host) := spdmClearNegotiatedState settings host
        (status, settings, host)
      else
        let (ret, host) :=
          libspdmWriteOutputFile host name (P.negotiatedState.encode negotiatedState)
        (if ret then .success else .unsupportedCap, settings, host)

/-! ## Loading -/

/-- The items that a load sets, `LIBSPDM_DATA_…`. -/
inductive DataItem where
  | isRequester | spdmVersion | capabilityCtExponent | capabilityFlags
  | measurementSpec | measurementHashAlgo | baseAsymAlgo | baseHashAlgo
  | dheNameGroup | aeadCipherSuite | reqBaseAsymAlg | keySchedule
  | otherParamsSupport | melSpec | vcaCache | connectionState
deriving DecidableEq

/-- `libspdm_set_data (context, item, parameter, data, data_size)` at the connection: the object
that `data` points to, and the length. -/
structure SetDataCall where
  item : DataItem
  object : Bytes
  dataSize : Nat
deriving DecidableEq

/-- A call with a variable and its `sizeof`. -/
def setVariable {α : Type} (p : Packed α) (item : DataItem) (data : α) : SetDataCall :=
  ⟨item, p.encode data, p.size⟩

/-- A `bool` in memory. -/
def boolByte (b : Bool) : UInt8 := if b then 1 else 0

/-- The settings the loaded structure overrides. -/
def overrideSettings (isRequester : Bool) (n : NegotiatedState P.maxMessageVcaBufferSize)
    (settings : Settings) : Settings :=
  { settings with
    useVersion := n.spdmVersion
    useRequesterCapabilityFlags := n.requesterCapFlags
    useResponderCapabilityFlags := n.responderCapFlags
    useCapabilityFlags := if isRequester then n.requesterCapFlags else n.responderCapFlags
    supportMeasurementSpec := n.measurementSpec
    supportMeasurementHashAlgo := n.measurementHashAlgo
    supportAsymAlgo := n.baseAsymAlgo
    supportHashAlgo := n.baseHashAlgo
    supportDheAlgo := n.dheNamedGroup
    supportAeadAlgo := n.aeadCipherSuite
    supportReqAsymAlgo := n.reqBaseAsymAlg
    supportKeyScheduleAlgo := n.keySchedule
    supportOtherParamsSupport := n.otherParamsSupport
    supportMelSpec := n.melSpec }

/-- `libspdm_set_data` of the VCA cache with the first `size` bytes of a buffer. libspdm keeps no
cache that is longer than its own buffer. -/
def ConnectionInfo.setVcaCache (c : ConnectionInfo P) (buffer : Bytes) (size : Nat) :
    ConnectionInfo P :=
  if h : size ≤ P.maxMessageVcaBufferSize then
    { c with vcaCache := ⟨buffer.take size, (List.length_take_le size buffer).trans h⟩ }
  else c

/-- What a call does to the items of the connection. -/
def ConnectionInfo.setData (c : ConnectionInfo P) (call : SetDataCall) : ConnectionInfo P :=
  match call.item with
  | .isRequester => { c with isRequester := Packed.u8.decode call.object != 0 }
  | .spdmVersion => { c with spdmVersion := [Packed.u16.decode call.object] }
  | .capabilityCtExponent => { c with capabilityCtExponent := Packed.u8.decode call.object }
  | .capabilityFlags => { c with capabilityFlags := Packed.u32.decode call.object }
  | .measurementSpec => { c with measurementSpec := Packed.u8.decode call.object }
  | .measurementHashAlgo => { c with measurementHashAlgo := Packed.u32.decode call.object }
  | .baseAsymAlgo => { c with baseAsymAlgo := Packed.u32.decode call.object }
  | .baseHashAlgo => { c with baseHashAlgo := Packed.u32.decode call.object }
  | .dheNameGroup => { c with dheNameGroup := Packed.u16.decode call.object }
  | .aeadCipherSuite => { c with aeadCipherSuite := Packed.u16.decode call.object }
  | .reqBaseAsymAlg => { c with reqBaseAsymAlg := Packed.u16.decode call.object }
  | .keySchedule => { c with keySchedule := Packed.u16.decode call.object }
  | .otherParamsSupport => { c with otherParamsSupport := Packed.u8.decode call.object }
  | .melSpec => { c with melSpec := Packed.u8.decode call.object }
  | .vcaCache => c.setVcaCache call.object call.dataSize
  | .connectionState => { c with connectionState := Packed.u32.decode call.object }

/-- The calls for which the version decides: `settings` are the overridden ones. -/
def versionedCalls (settings : Settings) (n : NegotiatedState P.maxMessageVcaBufferSize) :
    List SetDataCall :=
  if P.messageVersion11 ≤ settings.useVersion then
    [setVariable Packed.u16 .dheNameGroup settings.supportDheAlgo,
      setVariable Packed.u16 .aeadCipherSuite settings.supportAeadAlgo,
      setVariable Packed.u16 .reqBaseAsymAlg settings.supportReqAsymAlgo,
      setVariable Packed.u16 .keySchedule settings.supportKeyScheduleAlgo] ++
    (if P.messageVersion12 ≤ settings.useVersion then
      setVariable Packed.u8 .otherParamsSupport settings.supportOtherParamsSupport ::
      (if P.messageVersion13 ≤ settings.useVersion then
        [setVariable Packed.u8 .melSpec settings.supportMelSpec]
      else [])
    else []) ++
    [⟨.vcaCache, n.vcaBuffer.toList, n.vcaBufferSize.toNat⟩]
  else
    [setVariable Packed.u16 .dheNameGroup 0, setVariable Packed.u16 .aeadCipherSuite 0,
      setVariable Packed.u16 .reqBaseAsymAlg 0, setVariable Packed.u16 .keySchedule 0]

/-- The calls of a load that gets as far, in their order. -/
def loadedCalls (isRequester : Bool) (settings : Settings)
    (n : NegotiatedState P.maxMessageVcaBufferSize) : List SetDataCall :=
  [setVariable Packed.u8 .isRequester (boolByte isRequester),
    setVariable Packed.u16 .spdmVersion (P.unpackVersion settings.useVersion),
    setVariable Packed.u8 .capabilityCtExponent 0,
    setVariable Packed.u32 .capabilityFlags
      (if isRequester then n.responderCapFlags else n.requesterCapFlags),
    setVariable Packed.u8 .measurementSpec settings.supportMeasurementSpec,
    setVariable Packed.u32 .measurementHashAlgo settings.supportMeasurementHashAlgo,
    setVariable Packed.u32 .baseAsymAlgo settings.supportAsymAlgo,
    setVariable Packed.u32 .baseHashAlgo settings.supportHashAlgo] ++
  versionedCalls settings n ++
  [setVariable Packed.u32 .connectionState P.connectionStateNegotiated]

/-- `spdm_load_negotiated_state` without the context: the status, the settings, and the
`libspdm_set_data` calls. -/
def loadNegotiatedState (P : Platform) (isRequester : Bool) (host : Host) (settings : Settings) :
    LibspdmReturn × Settings × List SetDataCall :=
  match settings.loadStateFileName with
  | none => (.unsupportedCap, settings, [])
  | some name =>
      match libspdmReadInputFile P host name with
      | none => (.unsupportedCap, settings, [])
      | some fileData =>
          if fileData.length ≠ P.negotiatedState.size then (.unsupportedCap, settings, [])
          else
            let n := P.negotiatedState.decode fileData
            if n.version ≠ negotiatedStateStructVersion then (.unsupportedCap, settings, [])
            else
              let settings := overrideSettings isRequester n settings
              (.success, settings, loadedCalls isRequester settings n)

/-- `spdm_load_negotiated_state`. The status of a `libspdm_set_data` is not looked at, so all calls
are made. -/
def spdmLoadNegotiatedState (isRequester : Bool) (host : Host) (settings : Settings)
    (ctx : SpdmContext P) : LibspdmReturn × Settings × SpdmContext P :=
  let (status, settings, calls) := loadNegotiatedState P isRequester host settings
  (status, settings, { ctx with connection := calls.foldl ConnectionInfo.setData ctx.connection })

/-! ## What a save and a load do -/

/-- Structures of two versions differ in the file, so the file of a saved state is not empty. -/
theorem size_negotiatedState_pos (P : Platform) : 0 < P.negotiatedState.size := by
  have hencode : ∀ version : UInt32, P.negotiatedState.size = 0 →
      (P.negotiatedState.decode []).version = version := by
    intro version hzero
    let n : NegotiatedState P.maxMessageVcaBufferSize :=
      ⟨version, 0, 0, 0, 0, 0, 0, 0, 0, 0, 0, 0, 0, 0, 0, 0, 0, paddedBuffer _ []⟩
    have hempty : P.negotiatedState.encode n = [] :=
      List.eq_nil_of_length_eq_zero ((P.negotiatedState.length_encode n).trans hzero)
    rw [← hempty, Packed.decode_encode]
  apply Nat.pos_of_ne_zero
  intro hzero
  have hne : (0 : UInt32) = 1 := (hencode 0 hzero).symm.trans (hencode 1 hzero)
  exact absurd hne (by decide)

theorem load_of_encoded {isRequester : Bool} {host : Host} {settings : Settings} {name : String}
    {n : NegotiatedState P.maxMessageVcaBufferSize} (ctx : SpdmContext P)
    (hname : settings.loadStateFileName = some name)
    (hfile : host.files name = some (P.negotiatedState.encode n))
    (hversion : n.version = negotiatedStateStructVersion) :
    spdmLoadNegotiatedState isRequester host settings ctx =
      (.success, overrideSettings isRequester n settings,
        ⟨ctx.localInfo, (loadedCalls isRequester (overrideSettings isRequester n settings)
          n).foldl ConnectionInfo.setData ctx.connection⟩) := by
  have hread : libspdmReadInputFile P host name = some (P.negotiatedState.encode n) := by
    simp only [libspdmReadInputFile, hfile, Packed.length_encode_eq]
    rw [if_neg (by have := size_negotiatedState_pos P; omega)]
  simp only [spdmLoadNegotiatedState, loadNegotiatedState, hname, hread]
  simp [hversion]

theorem load_of_empty {isRequester : Bool} {host : Host} {settings : Settings} {name : String}
    (ctx : SpdmContext P) (hname : settings.loadStateFileName = some name)
    (hfile : host.files name = some []) :
    spdmLoadNegotiatedState isRequester host settings ctx = (.unsupportedCap, settings, ctx) := by
  cases hmalloc : P.mallocZero with
  | false =>
      have hread : libspdmReadInputFile P host name = none := by
        simp [libspdmReadInputFile, hfile, hmalloc]
      simp only [spdmLoadNegotiatedState, loadNegotiatedState, hname, hread, List.foldl_nil]
  | true =>
      have hread : libspdmReadInputFile P host name = some [] := by
        simp [libspdmReadInputFile, hfile, hmalloc]
      simp only [spdmLoadNegotiatedState, loadNegotiatedState, hname, hread, List.length_nil]
      rw [if_pos (size_negotiatedState_pos P).ne]
      rfl

variable {isRequester : Bool} {ctx : SpdmContext P} {settings : Settings} {host : Host}
  {name : String}

/-- With CACHE_CAP the file holds the negotiated state. -/
theorem save_of_cacheCap (hname : settings.saveStateFileName = some name)
    (hwritable : host.writable name = true)
    (hcap : ctx.responderCapFlags isRequester &&& P.cacheCap ≠ 0) :
    ∃ host', spdmSaveNegotiatedState isRequester ctx settings host =
        (.success, { settings with endSessionAttributes := 0 }, host') ∧
      host'.files name =
        some (P.negotiatedState.encode (gatherNegotiatedState isRequester ctx)) := by
  obtain ⟨host', hwrite, hfile⟩ := write_of_writable hwritable
    (P.negotiatedState.encode (gatherNegotiatedState isRequester ctx))
  refine ⟨host', ?_, hfile⟩
  simp only [spdmSaveNegotiatedState, hname, hwrite]
  exact if_neg hcap

/-- Without it the file is empty. -/
theorem save_of_no_cacheCap (hname : settings.saveStateFileName = some name)
    (hwritable : host.writable name = true)
    (hcap : ctx.responderCapFlags isRequester &&& P.cacheCap = 0) :
    ∃ host', spdmSaveNegotiatedState isRequester ctx settings host =
        (.success, { settings with endSessionAttributes := 0 }, host') ∧
      host'.files name = some [] := by
  obtain ⟨host', hwrite, hfile⟩ := write_of_writable hwritable []
  refine ⟨host', ?_, hfile⟩
  have hgather :
      (gatherNegotiatedState isRequester ctx).responderCapFlags &&& P.cacheCap = 0 := hcap
  simp only [spdmSaveNegotiatedState, hname, if_pos hgather, spdmClearNegotiatedState, hwrite]
  rfl

/-! ## The round trip -/

/-- The connection items of a context that a load is to give back: `c` are the items that were
saved, `d` those after the load. -/
structure Restored (c d : ConnectionInfo P) : Prop where
  spdmVersion : d.spdmVersion = c.spdmVersion
  capabilityFlags : d.capabilityFlags = c.capabilityFlags
  capabilityCtExponent : d.capabilityCtExponent = c.capabilityCtExponent
  measurementSpec : d.measurementSpec = c.measurementSpec
  otherParamsSupport : d.otherParamsSupport = c.otherParamsSupport
  melSpec : P.messageVersion13 ≤ c.savedVersion → d.melSpec = c.melSpec
  measurementHashAlgo : d.measurementHashAlgo = c.measurementHashAlgo
  baseAsymAlgo : d.baseAsymAlgo = c.baseAsymAlgo
  baseHashAlgo : d.baseHashAlgo = c.baseHashAlgo
  dheNameGroup : P.messageVersion11 ≤ c.savedVersion → d.dheNameGroup = c.dheNameGroup
  aeadCipherSuite : P.messageVersion11 ≤ c.savedVersion → d.aeadCipherSuite = c.aeadCipherSuite
  reqBaseAsymAlg : P.messageVersion11 ≤ c.savedVersion → d.reqBaseAsymAlg = c.reqBaseAsymAlg
  keySchedule : P.messageVersion11 ≤ c.savedVersion → d.keySchedule = c.keySchedule
  vcaCache : P.messageVersion11 ≤ c.savedVersion → d.vcaCache = c.vcaCache
  connectionState : d.connectionState = P.connectionStateNegotiated

/-- The contexts that lose nothing: the items `c` of the saved context and `f` of the one the state
is loaded into. -/
structure Survives (c f : ConnectionInfo P) : Prop where
  /-- one version number, without low bits -/
  spdmVersion : c.spdmVersion = [P.unpackVersion c.savedVersion]
  capabilityCtExponent : c.capabilityCtExponent = 0
  melSpec : P.messageVersion13 ≤ c.savedVersion → c.melSpec = 0
  /-- an item that only a version from 1.2 on negotiates -/
  otherParamsSupport : c.savedVersion < P.messageVersion12 →
    f.otherParamsSupport = c.otherParamsSupport

theorem take_paddedBuffer {n : Nat} {bytes : Bytes} (h : bytes.length ≤ n) :
    (paddedBuffer n bytes).toList.take bytes.length = bytes := by
  apply List.ext_getElem
  · rw [List.length_take, Vector.length_toList]
    omega
  · intro i hi hi'
    simp [paddedBuffer, hi']

/-- The VCA bytes of the file are those of the context. -/
theorem setVcaCache_gather (ctx : SpdmContext P) (c : ConnectionInfo P) :
    c.setVcaCache (gatherNegotiatedState isRequester ctx).vcaBuffer.toList
        (gatherNegotiatedState isRequester ctx).vcaBufferSize.toNat =
      { c with vcaCache := ctx.connection.vcaCache } := by
  have hfits := ctx.connection.vcaCache.property
  have hsize : (gatherNegotiatedState isRequester ctx).vcaBufferSize.toNat =
      ctx.connection.vcaCache.val.length :=
    UInt64.toNat_ofNat_of_lt' (lt_of_le_of_lt hfits P.vcaBufferSize_lt)
  rw [ConnectionInfo.setVcaCache, dif_pos (hsize.le.trans hfits)]
  have hbytes : (gatherNegotiatedState isRequester ctx).vcaBuffer.toList.take
      (gatherNegotiatedState isRequester ctx).vcaBufferSize.toNat =
        ctx.connection.vcaCache.val := by
    rw [hsize]
    exact take_paddedBuffer hfits
  simp only [hbytes]

/-- The items for which the version decides, one by one. -/
theorem foldl_versionedCalls (ctx : SpdmContext P) (c : ConnectionInfo P) (settings : Settings) :
    (versionedCalls (overrideSettings isRequester (gatherNegotiatedState isRequester ctx) settings)
        (gatherNegotiatedState isRequester ctx)).foldl ConnectionInfo.setData c =
      let v := ctx.connection.savedVersion
      { c with
        dheNameGroup := if P.messageVersion11 ≤ v then ctx.connection.dheNameGroup else 0
        aeadCipherSuite := if P.messageVersion11 ≤ v then ctx.connection.aeadCipherSuite else 0
        reqBaseAsymAlg := if P.messageVersion11 ≤ v then ctx.connection.reqBaseAsymAlg else 0
        keySchedule := if P.messageVersion11 ≤ v then ctx.connection.keySchedule else 0
        otherParamsSupport :=
          if P.messageVersion12 ≤ v then ctx.connection.otherParamsSupport
          else c.otherParamsSupport
        melSpec := if P.messageVersion13 ≤ v then 0 else c.melSpec
        vcaCache := if P.messageVersion11 ≤ v then ctx.connection.vcaCache else c.vcaCache } := by
  have hversion : (overrideSettings isRequester (gatherNegotiatedState isRequester ctx)
    settings).useVersion = ctx.connection.savedVersion := rfl
  have h11 := P.version11_le_12
  have h12 := P.version12_le_13
  rw [versionedCalls, hversion]
  by_cases hv11 : P.messageVersion11 ≤ ctx.connection.savedVersion
  · simp only [if_pos hv11, List.foldl_append, List.foldl_cons, List.foldl_nil, setVariable,
      ConnectionInfo.setData, Packed.decode_encode, setVcaCache_gather]
    by_cases hv12 : P.messageVersion12 ≤ ctx.connection.savedVersion
    · by_cases hv13 : P.messageVersion13 ≤ ctx.connection.savedVersion
      · simp only [if_pos hv12, if_pos hv13, List.foldl_cons, List.foldl_nil,
          ConnectionInfo.setData, Packed.decode_encode]
        rfl
      · simp only [if_pos hv12, if_neg hv13, List.foldl_cons, List.foldl_nil,
          ConnectionInfo.setData, Packed.decode_encode]
        rfl
    · have hv13 : ¬ P.messageVersion13 ≤ ctx.connection.savedVersion :=
        fun h => hv12 (UInt8.le_trans h12 h)
      simp only [if_neg hv12, if_neg hv13, List.foldl_nil]
      rfl
  · have hv12 : ¬ P.messageVersion12 ≤ ctx.connection.savedVersion :=
      fun h => hv11 (UInt8.le_trans h11 h)
    have hv13 : ¬ P.messageVersion13 ≤ ctx.connection.savedVersion :=
      fun h => hv12 (UInt8.le_trans h12 h)
    simp only [if_neg hv11, if_neg hv12, if_neg hv13, List.foldl_cons, List.foldl_nil, setVariable,
      ConnectionInfo.setData, Packed.decode_encode]

/-- A load of a saved state gives back the connection items exactly when they survive. -/
theorem restored_iff_survives (ctx : SpdmContext P) (f : ConnectionInfo P) (settings : Settings) :
    Restored ctx.connection ((loadedCalls isRequester
        (overrideSettings isRequester (gatherNegotiatedState isRequester ctx) settings)
        (gatherNegotiatedState isRequester ctx)).foldl ConnectionInfo.setData f) ↔
      Survives ctx.connection f := by
  rw [loadedCalls, List.foldl_append, List.foldl_append, foldl_versionedCalls]
  simp only [List.foldl_cons, List.foldl_nil, setVariable, ConnectionInfo.setData,
    Packed.decode_encode]
  constructor
  · intro h
    refine ⟨h.spdmVersion.symm, h.capabilityCtExponent.symm, ?_, ?_⟩
    · intro hv13
      have hmel := h.melSpec hv13
      simp only [if_pos hv13] at hmel
      exact hmel.symm
    · intro hv12
      have hother := h.otherParamsSupport
      simp only [if_neg (UInt8.not_le.2 hv12)] at hother
      exact hother
  · intro h
    exact
      { spdmVersion := h.spdmVersion.symm
        capabilityFlags := by
          cases isRequester with
          | true => rfl
          | false => rfl
        capabilityCtExponent := h.capabilityCtExponent.symm
        measurementSpec := rfl
        otherParamsSupport := by
          by_cases hv12 : P.messageVersion12 ≤ ctx.connection.savedVersion
          · exact if_pos hv12
          · exact (if_neg hv12).trans (h.otherParamsSupport (UInt8.not_le.1 hv12))
        melSpec := fun hv13 => (if_pos hv13).trans (h.melSpec hv13).symm
        measurementHashAlgo := rfl
        baseAsymAlgo := rfl
        baseHashAlgo := rfl
        dheNameGroup := fun hv11 => if_pos hv11
        aeadCipherSuite := fun hv11 => if_pos hv11
        reqBaseAsymAlg := fun hv11 => if_pos hv11
        keySchedule := fun hv11 => if_pos hv11
        vcaCache := fun hv11 => if_pos hv11
        connectionState := rfl }

end Functions

/-- **Save, then load.** For both roles and every context: with CACHE_CAP among the flags
of the responder, the save and a later load succeed, and the load gives back every saved item
exactly when the items survive, that is when the CT exponent of the peer is 0, a version from 1.3 on
comes with the specification 0 of the measurement extension log, the version has no low bits, and
the other parameters of a version before 1.2 are those the context has anyway. Without CACHE_CAP the
load fails and changes nothing. -/
theorem save_load_roundtrip (P : Platform) (isRequester : Bool) (ctx fresh : SpdmContext P)
    (settings settings' : Settings) (host : Host) (name : String)
    (hsave : settings.saveStateFileName = some name)
    (hload : settings'.loadStateFileName = some name) (hwritable : host.writable name = true) :
    let saved := spdmSaveNegotiatedState isRequester ctx settings host
    let loaded := spdmLoadNegotiatedState isRequester saved.2.2 settings' fresh
    (ctx.responderCapFlags isRequester &&& P.cacheCap ≠ 0 →
      saved.1 = .success ∧ loaded.1 = .success ∧
        (Restored ctx.connection loaded.2.2.connection ↔
          Survives ctx.connection fresh.connection)) ∧
    (ctx.responderCapFlags isRequester &&& P.cacheCap = 0 →
      loaded.1.isError = true ∧ loaded.2 = (settings', fresh)) := by
  intro saved loaded
  constructor
  · intro hcap
    obtain ⟨host', hsaved, hfile⟩ := save_of_cacheCap hsave hwritable hcap
    have hfile' : saved.2.2.files name =
        some (P.negotiatedState.encode (gatherNegotiatedState isRequester ctx)) := by
      rw [show saved = _ from hsaved]
      exact hfile
    have hloaded : loaded = _ := load_of_encoded fresh hload hfile' rfl
    refine ⟨congrArg Prod.fst hsaved, congrArg Prod.fst hloaded, ?_⟩
    have hconnection := congrArg (fun result => result.2.2.connection) hloaded
    dsimp only at hconnection
    rw [hconnection, restored_iff_survives]
  · intro hcap
    obtain ⟨host', hsaved, hfile⟩ := save_of_no_cacheCap hsave hwritable hcap
    have hfile' : saved.2.2.files name = some [] := by
      rw [show saved = _ from hsaved]
      exact hfile
    have hloaded : loaded = _ := load_of_empty fresh hload hfile'
    rw [hloaded]
    exact ⟨rfl, rfl⟩

/-! ## Two contexts -/

/-- Settings with one file name for both directions. -/
def sampleSettings : Settings :=
  ⟨some "state", some "state", 1, 0, 0, 0, 0, 0, 0, 0, 0, 0, 0, 0, 0, 0, 0⟩

/-- A host without files. -/
def sampleHost : Host := ⟨fun _ => none, fun _ => true⟩

/-- The context of a requester after a negotiation of version 1.3 with a responder of a given CT
exponent and with a given specification of the measurement extension log. -/
def sampleContext (ctExponent melSpec : UInt8) : SpdmContext .sample where
  localInfo := ⟨0, 0⟩
  connection := ⟨true, [0x1300], 1, ctExponent, 1, 2, melSpec, 4, 0x80, 2, 0x10, 2, 1, 1,
    ⟨[0xA, 0xB], by decide⟩, 3⟩

/-- The context a load starts from. -/
def freshContext : SpdmContext .sample where
  localInfo := ⟨0, 0⟩
  connection := ⟨true, [], 0, 0, 0, 0, 0, 0, 0, 0, 0, 0, 0, 0, ⟨[], by decide⟩, 0⟩

/-- A context whose items survive is saved and loaded. -/
theorem save_load_roundtrip_sample :
    let saved := spdmSaveNegotiatedState true (sampleContext 0 0) sampleSettings sampleHost
    Restored (sampleContext 0 0).connection
      (spdmLoadNegotiatedState true saved.2.2 sampleSettings freshContext).2.2.connection := by
  have h := save_load_roundtrip .sample true (sampleContext 0 0) freshContext sampleSettings
    sampleSettings sampleHost "state" rfl rfl rfl
  apply (h.1 (by decide)).2.2.2
  exact ⟨by decide, by decide, by decide, by decide⟩

/-- The responder's CT exponent 14 and the specification 1 of its measurement extension log are both
0 after the load. -/
theorem save_load_loses_items :
    let saved := spdmSaveNegotiatedState true (sampleContext 14 1) sampleSettings sampleHost
    let loaded := spdmLoadNegotiatedState true saved.2.2 sampleSettings freshContext
    saved.1 = .success ∧ loaded.1 = .success ∧
      (sampleContext 14 1).connection.capabilityCtExponent = 14 ∧
      loaded.2.2.connection.capabilityCtExponent = 0 ∧
      (sampleContext 14 1).connection.melSpec = 1 ∧ loaded.2.2.connection.melSpec = 0 ∧
      ¬ Restored (sampleContext 14 1).connection loaded.2.2.connection := by
  intro saved loaded
  have hexponent : loaded.2.2.connection.capabilityCtExponent = 0 := by decide +kernel
  refine ⟨by decide +kernel, by decide +kernel, rfl, hexponent, rfl, by decide +kernel, ?_⟩
  intro h
  have hkept : loaded.2.2.connection.capabilityCtExponent = 14 := h.capabilityCtExponent
  rw [hexponent] at hkept
  exact absurd hkept (by decide)

end SpdmEmu.Emulator.NvStorage
