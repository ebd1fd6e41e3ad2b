import SpdmEmu.IdeKm.Responder
import SpdmEmu.Tsp.Configuration

/-!
# Key material is write-only

Two runs of a responder on requests that differ only in key material give the same replies: the
statuses, the sizes and the bytes. For TSP the key material is that of the secondary sessions in
`SET_TARGET_CONFIGURATION`, for IDE_KM the key buffer of `KEY_PROG`. The two runs stay related by
`LowEq`: the states are equal up to the keys they hold.
-/

set_option autoImplicit false

namespace SpdmEmu.Tsp

open SpdmEmu.Wire SpdmEmu.Libspdm SpdmEmu.Run SpdmEmu.Report

variable {K : CxlTsp}

/-! ## TSP -/

/-- Other key materials in a secondary session information. -/
def Device2ndSessionInfo.withKeys {n : Nat} (info : Device2ndSessionInfo n)
    (keys : Vector (Vector UInt8 n) secondSessionCount) : Device2ndSessionInfo n :=
  { info with secondarySessionPskKeyMaterial := keys }

/-- Other key materials in a device context. -/
def DeviceContext.withKeys (ctx : DeviceContext K) (keys : Vector (Psk K) secondSessionCount) :
    DeviceContext K :=
  { ctx with device2ndSessionInfo := ctx.device2ndSessionInfo.withKeys keys }

theorem DeviceContext.withKeys_primaryValid (ctx : DeviceContext K)
    (keys : Vector (Psk K) secondSessionCount) :
    (ctx.withKeys keys).sessionIdPrimaryValid = ctx.sessionIdPrimaryValid := rfl

/-- The states are equal up to the key materials and the table of secondary session keys. -/
def LowEq (s t : State K) : Prop := ∃ keys, t.context = s.context.withKeys keys

/-- The requests are equal, or they are `SET_TARGET_CONFIGURATION` requests of one length that are
equal up to the key materials. -/
def SameUpToKeys (K : CxlTsp) (request request' : Bytes) : Prop :=
  request = request' ∨
    (IsRequest K request .setTargetConfiguration ∧ request.length = request'.length ∧
      K.header.decode request = K.header.decode request' ∧
      (setBody K request).configuration = (setBody K request').configuration ∧
      ∃ keys, (setBody K request').sessionInfo = (setBody K request).sessionInfo.withKeys keys)

/-- Inputs on one session whose requests are equal up to key materials. -/
structure SimilarInput (K : CxlTsp) (i j : Input) : Prop where
  session : i.session = j.session
  env : i.env = j.env
  request : SameUpToKeys K i.request j.request

/-- Two results with one reply and states that are equal up to keys. -/
def SameReply (x y : Reply × State K) : Prop := x.1 = y.1 ∧ LowEq x.2 y.2

theorem lowEq_refl (s : State K) : LowEq s s :=
  ⟨s.context.device2ndSessionInfo.secondarySessionPskKeyMaterial, rfl⟩

section Handlers

variable {s t : State K}

theorem getConfiguration_of_lowEq (h : LowEq s t) :
    cxlTspDeviceGetConfiguration t.context = cxlTspDeviceGetConfiguration s.context := by
  obtain ⟨keys, hkeys⟩ := h
  rw [hkeys]
  rfl

/-- The session checks do not see keys. -/
theorem sameReply_withPrivilege (h : LowEq s t) (allowed : SessionType → Bool)
    (session : SessionId) {f g : UInt32 → Reply × State K} (hfg : ∀ id, SameReply (f id) (g id)) :
    SameReply (withPrivilege allowed s.context s session f)
      (withPrivilege allowed t.context t session g) := by
  have htype : ∀ id, libcxltspGetSessionType t.context id =
      libcxltspGetSessionType s.context id := by
    obtain ⟨keys, hkeys⟩ := h
    intro id
    rw [hkeys]
    rfl
  unfold withPrivilege
  cases session with
  | none => exact ⟨rfl, h⟩
  | some id =>
      simp only [htype]
      split
      · exact ⟨rfl, h⟩
      · exact hfg id

/-- A handler sees no keys if its device call sees none. -/
theorem sameReply_handleRequest {β γ : Type} (h : LowEq s t) (body : Packed β) (kind : Response)
    (out : Packed γ) {device device' : β → Except ErrorCode γ × State K} {request request' : Bytes}
    (hlength : request.length = request'.length)
    (hheader : K.header.decode request = K.header.decode request')
    (hdevice : (device (body.decode (request.drop K.header.size))).1 =
        (device' (body.decode (request'.drop K.header.size))).1 ∧
      LowEq (device (body.decode (request.drop K.header.size))).2
        (device' (body.decode (request'.drop K.header.size))).2) :
    SameReply (handleRequest body kind out device s request)
      (handleRequest body kind out device' t request') := by
  unfold handleRequest
  simp only [hlength, hheader]
  split
  · exact ⟨rfl, h⟩
  split
  · exact ⟨rfl, h⟩
  -- the two runs have the same result here and related states
  generalize device (body.decode (request.drop K.header.size)) = r at hdevice ⊢
  generalize device' (body.decode (request'.drop K.header.size)) = r' at hdevice ⊢
  obtain ⟨result, s'⟩ := r
  obtain ⟨result', t'⟩ := r'
  obtain ⟨hresult, hlow⟩ := hdevice
  simp only at hresult
  subst hresult
  cases result with
  | error e => exact ⟨rfl, hlow⟩
  | ok b => exact ⟨rfl, hlow⟩

theorem initializeSessionId_withKeys (env : Environment) (ctx : DeviceContext K)
    (keys : Vector (Psk K) secondSessionCount) (id : UInt32) :
    libcxltspInitializeSessionId env (ctx.withKeys keys) id =
      (libcxltspInitializeSessionId env ctx id).withKeys keys := by
  unfold libcxltspInitializeSessionId
  rw [DeviceContext.withKeys_primaryValid]
  split
  · rfl
  split
  · rfl
  split
  · rfl
  · rfl

/-- `GET_VERSION` on contexts that are equal up to keys. -/
theorem getVersion_withKeys (env : Environment) (ctx : DeviceContext K)
    (keys : Vector (Psk K) secondSessionCount) (id : UInt32) :
    (cxlTspDeviceGetVersion env (ctx.withKeys keys) id).1 =
        (cxlTspDeviceGetVersion env ctx id).1 ∧
      ∃ keys', (cxlTspDeviceGetVersion env (ctx.withKeys keys) id).2 =
        (cxlTspDeviceGetVersion env ctx id).2.withKeys keys' := by
  cases hvalid : ctx.sessionIdPrimaryValid with
  | true =>
      have hvalid' : (ctx.withKeys keys).sessionIdPrimaryValid = true := hvalid
      simp only [cxlTspDeviceGetVersion, initializeDeviceContext_of_bound hvalid,
        initializeDeviceContext_of_bound hvalid', initializeSessionId_withKeys]
      exact ⟨rfl, keys, rfl⟩
  | false =>
      -- both contexts are reset, and the reset forgets the keys
      have hinit : libcxltspInitializeDeviceContext (ctx.withKeys keys) =
          libcxltspInitializeDeviceContext ctx := by
        simp [libcxltspInitializeDeviceContext, DeviceContext.withKeys, hvalid]
      simp only [cxlTspDeviceGetVersion, hinit]
      exact ⟨trivial, _, rfl⟩

theorem sameReply_getVersion (h : LowEq s t) (env : Environment) (session : SessionId)
    (request : Bytes) :
    SameReply (cxlTspGetResponseGetVersion env s session request)
      (cxlTspGetResponseGetVersion env t session request) := by
  refine sameReply_withPrivilege h _ session fun id => ?_
  refine sameReply_handleRequest h _ _ _ rfl rfl ?_
  obtain ⟨keys, hkeys⟩ := h
  obtain ⟨hbody, keys', hctx⟩ := getVersion_withKeys env s.context keys id
  simp only [hkeys, hbody]
  exact ⟨trivial, keys', hctx⟩

theorem sameReply_getCapabilities (h : LowEq s t) (session : SessionId) (request : Bytes) :
    SameReply (cxlTspGetResponseGetCapabilities s session request)
      (cxlTspGetResponseGetCapabilities t session request) := by
  refine sameReply_withPrivilege h _ session fun id => ?_
  refine sameReply_handleRequest h _ _ _ rfl rfl ⟨?_, h⟩
  obtain ⟨keys, hkeys⟩ := h
  rw [hkeys]
  rfl

/-- The responder's validator does not look at keys. -/
theorem validate_of_same {b b' : SetConfiguration K.secondSessionKeySize}
    (hconfiguration : b.configuration = b'.configuration)
    (hflags : b.sessionInfo.configurationValidityFlags =
      b'.sessionInfo.configurationValidityFlags) (capabilities : DeviceCapabilities) :
    Responder.cxlTspValidateConfigruation K b capabilities =
      Responder.cxlTspValidateConfigruation K b' capabilities := by
  simp only [Responder.cxlTspValidateConfigruation, hconfiguration, hflags]

theorem sameReply_setConfiguration (h : LowEq s t) (session : SessionId) {request request' : Bytes}
    (hlength : request.length = request'.length)
    (hheader : K.header.decode request = K.header.decode request')
    (hconfiguration : (setBody K request).configuration = (setBody K request').configuration)
    (hinfo : ∃ keys, (setBody K request').sessionInfo =
      (setBody K request).sessionInfo.withKeys keys) :
    SameReply (cxlTspGetResponseSetConfiguration s session request)
      (cxlTspGetResponseSetConfiguration t session request') := by
  refine sameReply_withPrivilege h _ session fun id => ?_
  refine sameReply_handleRequest h _ _ _ hlength hheader ?_
  obtain ⟨keys, hkeys⟩ := h
  obtain ⟨keys', hinfo⟩ := hinfo
  have hstate : t.context.currentTspState = s.context.currentTspState := by rw [hkeys]; rfl
  have hcaps : t.context.deviceCapabilities = s.context.deviceCapabilities := by rw [hkeys]; rfl
  have hvalidate := validate_of_same hconfiguration
    (by rw [hinfo]; rfl) s.context.deviceCapabilities
  simp only [setBody] at hconfiguration hinfo hvalidate
  simp only [cxlTspDeviceGetConfiguration, cxlTspDeviceGetCapabilities, hstate, hcaps, hvalidate]
  by_cases hu : s.context.currentTspState ≠ K.tspState .configUnlocked
  · simp only [if_pos hu]
    exact ⟨trivial, keys, hkeys⟩
  · simp only [if_neg hu]
    cases Responder.cxlTspValidateConfigruation K
        (K.setConfigurationRequest.decode (request'.drop K.header.size))
        s.context.deviceCapabilities with
    | error e => exact ⟨rfl, keys, hkeys⟩
    | ok u =>
        -- the keys that are now stored are those of the requests, the old ones are gone
        refine ⟨rfl, keys', ?_⟩
        simp only [cxlTspDeviceSetConfiguration, hkeys, hconfiguration, hinfo]
        rfl

theorem sameReply_getConfiguration (h : LowEq s t) (session : SessionId) (request : Bytes) :
    SameReply (cxlTspGetResponseGetConfiguration s session request)
      (cxlTspGetResponseGetConfiguration t session request) := by
  refine sameReply_withPrivilege h _ session fun id => ?_
  refine sameReply_handleRequest h _ _ _ rfl rfl ?_
  simp only [getConfiguration_of_lowEq h]
  split
  · exact ⟨rfl, h⟩
  · exact ⟨rfl, h⟩

theorem sameReply_lockConfiguration (h : LowEq s t) (session : SessionId) (request : Bytes) :
    SameReply (cxlTspGetResponseLockConfiguration s session request)
      (cxlTspGetResponseLockConfiguration t session request) := by
  refine sameReply_withPrivilege h _ session fun id => ?_
  refine sameReply_handleRequest h _ _ _ rfl rfl ?_
  simp only [getConfiguration_of_lowEq h]
  split
  · exact ⟨rfl, h⟩
  split
  · exact ⟨rfl, h⟩
  · obtain ⟨keys, hkeys⟩ := h
    refine ⟨rfl, keys, ?_⟩
    simp only [hkeys]
    rfl

theorem sameReply_setTeState (h : LowEq s t) (session : SessionId) (request : Bytes) :
    SameReply (cxlTspGetResponseSetTeState s session request)
      (cxlTspGetResponseSetTeState t session request) := by
  refine sameReply_withPrivilege h _ session fun id => ?_
  simp only [getConfiguration_of_lowEq h]
  split
  · exact ⟨rfl, h⟩
  split
  · exact ⟨rfl, h⟩
  split
  · exact ⟨rfl, h⟩
  split
  · exact ⟨rfl, h⟩
  split
  · exact ⟨rfl, h⟩
  · exact ⟨rfl, h⟩

/-- The sample's report is the same for contexts that are equal up to keys. -/
theorem sameReply_getConfigurationReport (h : LowEq s t) (session : SessionId) (request : Bytes) :
    SameReply
      (cxlTspGetResponseGetConfigurationReport cxlTspDeviceGetConfigurationReport s session request)
      (cxlTspGetResponseGetConfigurationReport cxlTspDeviceGetConfigurationReport t session
        request) := by
  refine sameReply_withPrivilege h _ session fun id => ?_
  have hcurrent := getConfiguration_of_lowEq h
  obtain ⟨keys, hkeys⟩ := h
  have hreport : (cxlTspDeviceGetConfigurationReport t.context).1 =
      (cxlTspDeviceGetConfigurationReport s.context).1 := by rw [hkeys]; rfl
  have hctx : (cxlTspDeviceGetConfigurationReport t.context).2 =
      (cxlTspDeviceGetConfigurationReport s.context).2.withKeys keys := by rw [hkeys]; rfl
  simp only [hcurrent, hreport]
  -- the first three checks leave the context as it is, after them the report was called
  split
  · exact ⟨rfl, keys, hkeys⟩
  split
  · exact ⟨rfl, keys, hkeys⟩
  split
  · exact ⟨rfl, keys, hkeys⟩
  split
  · exact ⟨rfl, keys, hctx⟩
  split
  · exact ⟨rfl, keys, hctx⟩
  · exact ⟨rfl, keys, hctx⟩

/-- One step of two runs that differ in keys only. -/
theorem sameReply_step (h : LowEq s t) {i j : Input} (hij : SimilarInput K i j) :
    SameReply ((responder K).step s i) ((responder K).step t j) := by
  obtain ⟨session, request, env⟩ := i
  obtain ⟨session', request', env'⟩ := j
  obtain ⟨rfl, rfl, hrequest⟩ := hij
  show SameReply (cxlTspGetResponse _ env s session request)
    (cxlTspGetResponse _ env t session request')
  unfold cxlTspGetResponse
  rcases hrequest with rfl | ⟨hset, hlength, hheader, hconfiguration, hinfo⟩
  · simp only
    split
    · exact ⟨rfl, h⟩
    split
    · next r _ =>
        cases r with
        | getTargetTspVersion => exact sameReply_getVersion h env session request
        | getTargetCapabilities => exact sameReply_getCapabilities h session request
        | setTargetConfiguration =>
            exact sameReply_setConfiguration h session rfl rfl rfl ⟨_, rfl⟩
        | getTargetConfiguration => exact sameReply_getConfiguration h session request
        | getTargetConfigurationReport =>
            exact sameReply_getConfigurationReport h session request
        | lockTargetConfiguration => exact sameReply_lockConfiguration h session request
        | setTargetTeState => exact sameReply_setTeState h session request
    · exact ⟨rfl, h⟩
  -- the second request is a `SET` as well, since the headers agree
  · have hset' : (K.header.decode request').opCode = K.requestOpCode .setTargetConfiguration := by
      rw [← hheader]
      exact hset
    simp only [hlength, hheader, hset', find_mCxlTspDispatch]
    split
    · exact ⟨rfl, h⟩
    · exact sameReply_setConfiguration h session hlength hheader hconfiguration hinfo

end Handlers

end SpdmEmu.Tsp

namespace SpdmEmu.IdeKm

open SpdmEmu.Wire SpdmEmu.Libspdm SpdmEmu.Run

variable {K : PciIdeKm}

/-! ## IDE_KM -/

/-- The port contexts are equal up to the key buffers. -/
def LowEq (ctx ctx' : PortContext) : Prop := ∃ keys, ctx' = { ctx with keyBuffer := keys }

/-- The requests are equal, or they are `KEY_PROG` requests of one length that are equal up to the
key buffer. -/
def SameUpToKeys (K : PciIdeKm) (request request' : Bytes) : Prop :=
  request = request' ∨
    (K.header.decode request = K.requestObjectId .keyProg ∧
      request.length = request'.length ∧ K.header.decode request = K.header.decode request' ∧
      K.keyProgRequest.decode (request.drop K.header.size) =
        K.keyProgRequest.decode (request'.drop K.header.size))

/-- Two results with one reply and contexts that are equal up to keys. -/
def SameReply (x y : Reply × PortContext) : Prop := x.1 = y.1 ∧ LowEq x.2 y.2

theorem lowEq_refl (ctx : PortContext) : LowEq ctx ctx := ⟨ctx.keyBuffer, rfl⟩

section Handlers

variable {ctx ctx' : PortContext}

theorem isBound_of_lowEq (h : LowEq ctx ctx') (portIndex : UInt8) :
    ctx'.isBound portIndex = ctx.isBound portIndex := by
  obtain ⟨keys, rfl⟩ := h
  rfl

theorem sameReply_query (h : LowEq ctx ctx') (request : Bytes) :
    SameReply (pciIdeKmGetResponseQuery K ctx request)
      (pciIdeKmGetResponseQuery K ctx' request) := by
  unfold pciIdeKmGetResponseQuery getResponseQueryOf
  simp only
  split
  · exact ⟨rfl, h⟩
  -- a query initializes the port anew and forgets the keys
  · exact ⟨rfl, _, rfl⟩

theorem sameReply_keyProg (h : LowEq ctx ctx') {request request' : Bytes}
    (hlength : request.length = request'.length)
    (hkey : K.keyProgRequest.decode (request.drop K.header.size) =
      K.keyProgRequest.decode (request'.drop K.header.size)) :
    SameReply (pciIdeKmGetResponseKeyProg K ctx request)
      (pciIdeKmGetResponseKeyProg K ctx' request') := by
  unfold pciIdeKmGetResponseKeyProg handleKeyProg pciIdeKmDeviceKeyProg
  simp only [hlength, hkey, isBound_of_lowEq h]
  by_cases hsize : request'.length ≠ K.header.size + K.keyProgRequest.size + K.keyBuffer.size
  · simp only [if_pos hsize]
    exact ⟨rfl, h⟩
  · simp only [if_neg hsize]
    cases ctx.isBound (K.keyProgRequest.decode (request'.drop K.header.size)).portIndex with
    | false => exact ⟨rfl, h⟩
    | true =>
        obtain ⟨keys, rfl⟩ := h
        exact ⟨rfl, _, rfl⟩

theorem sameReply_keySet (h : LowEq ctx ctx') (body : Packed KeyBody) (go : Bool)
    (request : Bytes) :
    SameReply (handleKeySet K body (setKeySetGo K go) ctx request)
      (handleKeySet K body (setKeySetGo K go) ctx' request) := by
  unfold handleKeySet handleKeySetOf setKeySetGo
  simp only [isBound_of_lowEq h]
  by_cases hsize : request.length ≠ K.header.size + body.size
  · simp only [if_pos hsize]
    exact ⟨rfl, h⟩
  · simp only [if_neg hsize]
    cases ctx.isBound (body.decode (request.drop K.header.size)).portIndex with
    | false => exact ⟨rfl, h⟩
    | true =>
        obtain ⟨keys, rfl⟩ := h
        exact ⟨rfl, keys, rfl⟩

/-- One step of two runs that differ in keys only. -/
theorem sameReply_step (h : LowEq ctx ctx') {request request' : Bytes}
    (hrequest : SameUpToKeys K request request') :
    SameReply ((responder K).step ctx request) ((responder K).step ctx' request') := by
  show SameReply (pciIdeKmGetResponse K ctx request) (pciIdeKmGetResponse K ctx' request')
  unfold pciIdeKmGetResponse dispatchObject
  rcases hrequest with rfl | ⟨hprog, hlength, hheader, hkey⟩
  · split
    · exact ⟨rfl, h⟩
    split
    · next r _ =>
        cases r with
        | query => exact sameReply_query h request
        | keyProg => exact sameReply_keyProg h rfl rfl
        | kSetGo => exact sameReply_keySet h K.kSetGoRequest true request
        | kSetStop => exact sameReply_keySet h K.kSetStopRequest false request
    · exact ⟨rfl, h⟩
  · rw [hheader] at hprog
    simp only [hlength, hheader, hprog, find_mPciIdeKmDispatch]
    split
    · exact ⟨rfl, h⟩
    · exact sameReply_keyProg h hlength hkey

end Handlers

end SpdmEmu.IdeKm

namespace SpdmEmu

open SpdmEmu.Wire

/-! ## Whole runs -/

/-- **Key material is write-only.** Runs of the TSP responder and runs of the IDE_KM responder from
one state, on requests that are pointwise equal up to key material, give equal replies: the same
statuses and the same response bytes. -/
theorem replies_independent_of_keys :
    (∀ (K : Tsp.CxlTsp) (s : Tsp.State K) (is js : List Tsp.Input),
      List.Forall₂ (Tsp.SimilarInput K) is js →
      (Tsp.responder K).outputs s is = (Tsp.responder K).outputs s js) ∧
    (∀ (K : IdeKm.PciIdeKm) (ctx : IdeKm.PortContext) (is js : List Bytes),
      List.Forall₂ (IdeKm.SameUpToKeys K) is js →
      (IdeKm.responder K).outputs ctx is = (IdeKm.responder K).outputs ctx js) := by
  constructor
  · intro K s is js hsimilar
    exact Run.Machine.outputs_eq_of_related _ _
      (fun _ _ _ _ hlow hij => Tsp.sameReply_step hlow hij) (Tsp.lowEq_refl s) hsimilar
  · intro K ctx is js hsimilar
    exact Run.Machine.outputs_eq_of_related _ _
      (fun _ _ _ _ hlow hij => IdeKm.sameReply_step hlow hij) (IdeKm.lowEq_refl ctx) hsimilar

/-- A `SET_TARGET_CONFIGURATION` request with one secondary session, whose key is made of `k`. -/
private def setWithKey (k : UInt8) : Tsp.Input :=
  Tsp.sampleInput .setTargetConfiguration
    (Tsp.CxlTsp.sample.setConfigurationRequest.encode
      ⟨Tsp.DeviceConfiguration.zeroed,
        { configurationValidityFlags := 1
          secondarySessionCkidType := 0
          secondarySessionPskKeyMaterial := Vector.replicate _ (Vector.replicate _ k) }⟩)

/-- A `KEY_PROG` request for port 1 with a key buffer made of `k`. -/
private def progWithKey (k : UInt8) : Bytes :=
  IdeKm.PciIdeKm.sample.header.encode (IdeKm.PciIdeKm.sample.requestObjectId .keyProg) ++
    (IdeKm.PciIdeKm.sample.keyProgRequest.encode ⟨0, 0, 1⟩ ++ List.replicate 40 k)

private theorem setWithKey_similar :
    Tsp.SimilarInput Tsp.CxlTsp.sample (setWithKey 1) (setWithKey 2) where
  session := rfl
  env := rfl
  request := by
    refine .inr ⟨?_, ?_, ?_, ?_, Vector.replicate _ (Vector.replicate _ 2), ?_⟩
    · simp [setWithKey, Tsp.sampleInput, Tsp.IsRequest]
    · simp [setWithKey, Tsp.sampleInput]
    · simp [setWithKey, Tsp.sampleInput]
    · simp [setWithKey, Tsp.sampleInput, Tsp.setBody]
    · simp [setWithKey, Tsp.sampleInput, Tsp.setBody, Tsp.Device2ndSessionInfo.withKeys]

private theorem progWithKey_similar :
    IdeKm.SameUpToKeys IdeKm.PciIdeKm.sample (progWithKey 1) (progWithKey 2) := by
  refine .inr ⟨?_, ?_, ?_, ?_⟩
  · simp [progWithKey]
  · simp [progWithKey]
  · simp [progWithKey]
  · simp [progWithKey]

/-- Two TSP runs with different secondary session keys, and two IDE_KM runs with different keys. -/
theorem replies_independent_of_keys_sample :
    (Tsp.responder Tsp.CxlTsp.sample).outputs ⟨Tsp.DeviceContext.zeroed _, Tsp.samplePsk⟩
        [Tsp.sampleInput .getTargetTspVersion [0, 0], setWithKey 1] =
      (Tsp.responder Tsp.CxlTsp.sample).outputs ⟨Tsp.DeviceContext.zeroed _, Tsp.samplePsk⟩
        [Tsp.sampleInput .getTargetTspVersion [0, 0], setWithKey 2] ∧
    (IdeKm.responder IdeKm.PciIdeKm.sample).outputs
        (IdeKm.libidekmInitializeDevicePortContext 1) [progWithKey 1] =
      (IdeKm.responder IdeKm.PciIdeKm.sample).outputs
        (IdeKm.libidekmInitializeDevicePortContext 1) [progWithKey 2] :=
  ⟨replies_independent_of_keys.1 _ _ _ _
      (.cons ⟨rfl, rfl, .inl rfl⟩ (.cons setWithKey_similar .nil)),
    replies_independent_of_keys.2 _ _ _ _ (.cons progWithKey_similar .nil)⟩

end SpdmEmu
