import SpdmEmu.Tdisp.Agreement
import SpdmEmu.Tdisp.ReportForm

/-!
# Sessions that are not disturbed

Other requesters may ask a responder for its state, its report and its capabilities, send it
malformed and unknown requests, and a session on it does not notice: none of this changes anything
but the stored capabilities of the requester. `session_completes` says what such a session comes to,
from any state of the interface and for every JSON report file: it succeeds if there are random
bytes for its lock, no assertion fails, it ends with the interface unlocked, and what it has printed
is the report, up to its last byte and no further.
-/

set_option autoImplicit false

namespace SpdmEmu.Tdisp

open SpdmEmu.Wire SpdmEmu.Libspdm SpdmEmu.Report SpdmEmu.Run

variable {K : PciTdisp}

/-! ## Quiet requests -/

/-- The request is none of those that reset, lock, start or stop an interface. -/
def QuietRequest (K : PciTdisp) (request : Bytes) : Prop :=
  ∀ r ∈ [Request.getVersion, .lockInterface, .startInterface, .stopInterface],
    (K.header.decode request).messageType ≠ K.requestType r

/-- All requests of others are quiet. -/
def QuietSchedule (schedule : Schedule (Input K) (Environment K)) : Prop :=
  ∀ n, ∀ i ∈ (schedule n).others, QuietRequest K i.request

theorem InterfaceContext.Alike.refl (c : InterfaceContext K) : c.Alike c := ⟨_, rfl⟩

theorem alike_step {c ctx : InterfaceContext K} (h : c.Alike ctx) {i : Input K}
    (hquiet : QuietRequest K i.request) : c.Alike ((responder K).step ctx i).2 := by
  obtain ⟨caps, rfl⟩ := h
  have heff := effect_responder { c with tdispReqCaps := caps } i
  generalize ((responder K).step { c with tdispReqCaps := caps } i).1 = reply at heff
  generalize ((responder K).step { c with tdispReqCaps := caps } i).2 = ctx' at heff ⊢
  cases heff with
  | dropped _ => exact ⟨_, rfl⟩
  | rejected _ => exact ⟨_, rfl⟩
  | capabilities _ _ => exact ⟨_, rfl⟩
  | report _ _ _ => exact ⟨_, rfl⟩
  | state _ _ => exact ⟨_, rfl⟩
  | version htype => exact absurd htype (hquiet _ (by simp))
  | noEntropy htype _ _ _ _ => exact absurd htype (hquiet _ (by simp))
  | lock htype _ _ _ => exact absurd htype (hquiet _ (by simp))
  | start htype _ _ _ _ => exact absurd htype (hquiet _ (by simp))
  | stop htype _ _ => exact absurd htype (hquiet _ (by simp))

/-- Quiet requests leave the context as it is, up to the capabilities. -/
theorem undisturbed_alike {schedule : Schedule (Input K) (Environment K)}
    (hquiet : QuietSchedule schedule) (c : InterfaceContext K) :
    Shared.Undisturbed (responder K) schedule c.Alike :=
  fun n i hi _ h => alike_step h (hquiet n i hi)

/-! ## What the responder answers -/

theorem decode_requestMessage (r : Request) (interfaceId : InterfaceId) (body : Bytes) :
    K.header.decode (requestMessage K r interfaceId body) = requestHeader K r interfaceId :=
  Packed.decode_encode_append _ _ _

/-- The dispatcher finds the handler of a request. -/
theorem getResponse_requestMessage (env : Environment K) (ctx : InterfaceContext K) (r : Request)
    (interfaceId : InterfaceId) (body : Bytes) :
    pciTdispGetResponse env ctx (requestMessage K r interfaceId body) =
      handler env r ctx (requestMessage K r interfaceId body) := by
  apply pciTdispGetResponse_of_type
  · rw [decode_requestMessage]
    rfl
  · simp [requestMessage]

/-- A handler passes a request of its own form on to the device. -/
theorem handleRequest_requestMessage {β γ : Type} (body : Packed β) (kind : Response)
    (out : Packed γ) (device : InterfaceId → β → Except ErrorCode γ × InterfaceContext K)
    (ctx : InterfaceContext K) (r : Request) (interfaceId : InterfaceId) (b : β) {c : γ}
    {ctx' : InterfaceContext K}
    (hdevice : device { functionId := interfaceId.functionId, reserved := 0 } b = (.ok c, ctx')) :
    handleRequest body kind out device ctx (requestMessage K r interfaceId (body.encode b)) =
      (⟨.success, some (message K (requestHeader K r interfaceId) kind (out.encode c))⟩, ctx') := by
  simp [handleRequest, requestMessage, requestHeader, hdevice]

section Answers

variable (env : Environment K) {ctx : InterfaceContext K} {interfaceId : InterfaceId}

theorem getResponse_getVersion (ctx : InterfaceContext K) (interfaceId : InterfaceId) :
    pciTdispGetResponse env ctx
        (requestMessage K .getVersion interfaceId (K.getVersionRequest.encode ())) =
      (⟨.success, some (message K (requestHeader K .getVersion interfaceId) .version
          (K.versionResponse.encode ⟨1, K.messageVersion10⟩))⟩,
        libtdispInitializeInterfaceContext K ⟨interfaceId.functionId, 0⟩) := by
  rw [getResponse_requestMessage, handler, pciTdispGetResponseVersion]
  exact handleRequest_requestMessage _ _ _ _ _ _ _ _ rfl

variable (hid : ctx.interfaceId = ⟨interfaceId.functionId, 0⟩)

include hid

theorem getResponse_getCapabilities (reqCaps : Vector UInt8 K.requesterCapabilitiesSize) :
    pciTdispGetResponse env ctx
        (requestMessage K .getCapabilities interfaceId (K.getCapabilitiesRequest.encode reqCaps)) =
      (⟨.success, some (message K (requestHeader K .getCapabilities interfaceId) .capabilities
          (K.capabilitiesResponse.encode ctx.tdispRspCaps))⟩,
        { ctx with tdispReqCaps := reqCaps }) := by
  rw [getResponse_requestMessage, handler, pciTdispGetResponseCapabilities]
  exact handleRequest_requestMessage _ _ _ _ _ _ _ _
    (if_pos ((isBound_iff ctx _).2 hid))

theorem getResponse_getDeviceInterfaceState :
    pciTdispGetResponse env ctx (requestMessage K .getDeviceInterfaceState interfaceId
        (K.getDeviceInterfaceStateRequest.encode ())) =
      (⟨.success, some (message K (requestHeader K .getDeviceInterfaceState interfaceId)
          .deviceInterfaceState (K.deviceInterfaceStateResponse.encode ctx.tdiState))⟩, ctx) := by
  rw [getResponse_requestMessage, handler, pciTdispGetResponseInterfaceState]
  refine handleRequest_requestMessage _ _ _ _ _ _ _ _ ?_
  rw [pciTdispDeviceGetInterfaceState, if_pos ((isBound_iff ctx _).2 hid)]

theorem getResponse_lockInterface (hunlocked : ctx.tdiState = K.tdiState .configUnlocked)
    {nonce : Vector UInt8 K.startInterfaceNonceSize} (hrandom : env.random = some nonce)
    (param : Vector UInt8 K.lockInterfaceParamSize) :
    pciTdispGetResponse env ctx
        (requestMessage K .lockInterface interfaceId (K.lockInterfaceRequest.encode param)) =
      (⟨.success, some (message K (requestHeader K .lockInterface interfaceId) .lockInterface
          (K.lockInterfaceResponse.encode nonce))⟩,
        generateReport env
          { ctx with
            lockInterfaceParam := param
            startInterfaceNonce := nonce
            tdiState := K.tdiState .configLocked }) := by
  rw [getResponse_requestMessage, handler, pciTdispGetResponseLockInterface]
  refine handleRequest_requestMessage _ _ _ _ _ _ _ _ ?_
  have hbound := (isBound_iff ctx _).2 hid
  simp [pciTdispDeviceLockInterface, hbound, hunlocked, hrandom]

theorem getResponse_startInterface (hlocked : ctx.tdiState = K.tdiState .configLocked)
    {nonce : Vector UInt8 K.startInterfaceNonceSize} (hnonce : ctx.startInterfaceNonce = nonce) :
    pciTdispGetResponse env ctx
        (requestMessage K .startInterface interfaceId (K.startInterfaceRequest.encode nonce)) =
      (⟨.success, some (message K (requestHeader K .startInterface interfaceId) .startInterface
          (K.startInterfaceResponse.encode ()))⟩, { ctx with tdiState := K.tdiState .run }) := by
  rw [getResponse_requestMessage, handler, pciTdispGetResponseStartInterface]
  refine handleRequest_requestMessage _ _ _ _ _ _ _ _ ?_
  have hbound := (isBound_iff ctx _).2 hid
  simp [pciTdispDeviceStartInterface, hbound, hlocked, hnonce]

theorem getResponse_stopInterface (hrunning : ctx.tdiState ≠ K.tdiState .configUnlocked) :
    pciTdispGetResponse env ctx
        (requestMessage K .stopInterface interfaceId (K.stopInterfaceRequest.encode ())) =
      (⟨.success, some (message K (requestHeader K .stopInterface interfaceId) .stopInterface
          (K.stopInterfaceResponse.encode ()))⟩,
        { ctx with tdiState := K.tdiState .configUnlocked }) := by
  rw [getResponse_requestMessage, handler, pciTdispGetResponseStopInterface]
  refine handleRequest_requestMessage _ _ _ _ _ _ _ _ ?_
  have hbound := (isBound_iff ctx _).2 hid
  simp [pciTdispDeviceStopInterface, hbound, hrunning]

end Answers

/-! ## The calls of the session -/

section Calls

variable {schedule : Schedule (Input K) (Environment K)} {T : Nat → Prop}
  {c : InterfaceContext K} {γ : Type}

/-- A call whose request the responder answers comes back with the answer. -/
theorem triple_exchangeMessage (hquiet : QuietSchedule schedule) (T' : Nat → Prop)
    (hT : ∀ n, T n → T' (n + 1))
    {r : Request} {interfaceId : InterfaceId} {body : Bytes} {capacity : Nat} {out : Packed γ}
    (hfits : K.header.size + out.size ≤ capacity) (c' : InterfaceContext K) (a : γ)
    (hanswer : ∀ n ctx, T n → c.Alike ctx → ∃ ctx', c'.Alike ctx' ∧
      pciTdispGetResponse (schedule n).env ctx (requestMessage K r interfaceId body) =
        (⟨.success, some (message K (requestHeader K r interfaceId) r.response (out.encode a))⟩,
          ctx')) :
    Flow.Triple (Shared.Standing T c.Alike)
      (exchangeMessage K (sharedLink schedule) r interfaceId body capacity out)
      (fun b s => b = a ∧ Shared.Standing T' c'.Alike s) (fun _ _ => False) := by
  apply Flow.Triple.of_total
  intro s hs
  -- the others leave the context as it is
  have hwait : c.Alike (s.wait (responder K) schedule).state := hs.wait (undisturbed_alike hquiet c)
  obtain ⟨ctx', hctx', hresponse⟩ := hanswer _ _ hs.turn hwait
  have hlength : (message K (requestHeader K r interfaceId) r.response (out.encode a)).length =
      K.header.size + out.size := by
    simp [message]
  refine ⟨a, _, exchangeMessage_ok_iff.2 ⟨_, directLink_of_written
    (Shared.ask_of_step hresponse) (hlength.trans_le hfits), ?_, ?_⟩, rfl, ?_⟩
  · exact
      { status := rfl
        length := hlength
        version := by simp [message, requestHeader]
        messageType := by simp [message]
        functionId := by simp [message, requestHeader] }
  · simp [message]
  · have hstep : ((responder K).step (s.wait (responder K) schedule).state
        ⟨requestMessage K r interfaceId body, (schedule s.own.length).env⟩).2 = ctx' :=
      congrArg Prod.snd hresponse
    have hafter : Shared.Standing T' c'.Alike (s.ask (responder K) schedule
        fun env => ⟨requestMessage K r interfaceId body, env⟩).2 :=
      hs.ask hT (by rwa [hstep])
    rwa [Shared.ask_of_step hresponse] at hafter

/-- What arrives is what the responder writes in the context that the others have left. -/
theorem sharedLink_fst (s : SharedResponder K) (request : Bytes) (capacity : Nat) :
    (sharedLink schedule s request capacity).1 =
      (directLink (pciTdispGetResponse (schedule s.own.length).env)
        (s.wait (responder K) schedule).state request capacity).1 := by
  apply directLink_fst_congr
  rfl

/-- Others that are quiet leave the report to be served. -/
theorem serves_sharedLink (hquiet : QuietSchedule schedule) {functionId : UInt32}
    (hid : c.interfaceId = ⟨functionId, 0⟩)
    (hsize : c.interfaceReportSize.toNat ≤ interfaceReportMaxSize) :
    Serves (interfaceReportProtocol K functionId) (sharedLink schedule) c.report
      (fun s => c.Alike s.state) where
  answer := by
    intro s hs offset length portion remainder bytes hserve
    have hstanding : Shared.Standing (fun _ => True) c.Alike s := ⟨trivial, hs⟩
    have halike := hstanding.wait (undisturbed_alike hquiet c)
    generalize hctx : (s.wait (responder K) schedule).state = ctx at halike
    obtain ⟨caps, hcaps⟩ := id halike
    -- the responder answers as it would without the others
    have hid' : ctx.interfaceId = ⟨functionId, 0⟩ := by rw [hcaps, hid]
    have hsize' : ctx.interfaceReportSize.toNat ≤ interfaceReportMaxSize := by
      rw [hcaps]
      exact hsize
    have hreport : ctx.report = c.report := by rw [hcaps]; rfl
    have hserves := serves_interfaceReport (schedule s.own.length).env hid' hsize'
    rw [hreport] at hserves
    obtain ⟨response, after, hsend, hafter, hrest⟩ :=
      hserves.answer _ rfl offset length portion remainder bytes hserve
    have hstate := congrArg Prod.snd hsend
    rw [directLink_snd, hafter] at hstate
    subst hctx
    have harrives := (sharedLink_fst s _ _).trans (congrArg Prod.fst hsend)
    refine ⟨response, _, Prod.ext harrives rfl, ?_, hrest⟩
    show c.Alike (sharedLink schedule s _ _).2.state
    rw [sharedLink_snd]
    exact (congrArg c.Alike hstate).mpr halike

end Calls

/-! ## The report, printed -/

section Print

variable {L : ReportLayout} {m : Mem}

/-- Structures in memory, read one by one. -/
theorem map_decode_load {α : Type} (p : Packed α) (xs : List α) {a : Nat}
    (h : m.load a (p.encodeList xs).length = p.encodeList xs) :
    ((List.range xs.length).map fun i => p.decode (m.load (a + i * p.size) p.size)) = xs := by
  induction xs generalizing a with
  | nil => rfl
  | cons x xs ih =>
      have hcons : p.encodeList (x :: xs) = p.encode x ++ p.encodeList xs := List.flatMap_cons
      rw [hcons, List.length_append] at h
      obtain ⟨hx, hxs⟩ := Mem.load_of_load_append h
      have htail := ih hxs
      rw [List.length_cons, List.range_succ_eq_map, List.map_cons, List.map_map]
      refine congrArg₂ List.cons ?_ ?_
      · rw [Nat.zero_mul, Nat.add_zero, ← p.length_encode x, hx, Packed.decode_encode]
      · refine Eq.trans (List.map_congr_left fun i _ => ?_) htail
        have haddress : a + (i + 1) * p.size = a + (p.encode x).length + i * p.size := by
          rw [p.length_encode, Nat.succ_mul]
          omega
        exact congrArg (fun n => p.decode (m.load n p.size)) haddress

/-- **A report whose counts are right is printed as it is**, and the walk ends where it ends. -/
theorem printReport_of_bytes {r : Report}
    (hcount : r.header.mmioRangeCount.toNat = r.ranges.length)
    (hinfo : r.infoLen.toNat = r.info.length)
    (hload : m.load 0 (r.bytes L).length = r.bytes L) {fuel : Nat} (hfuel : 2 ^ 32 ≤ fuel) :
    (printReport L fuel m).value = some r ∧
      ∀ a ∈ (printReport L fuel m).reads, a < (r.bytes L).length := by
  rw [Report.bytes, List.length_append] at hload
  obtain ⟨hheader, hload⟩ := Mem.load_of_load_append hload
  rw [List.length_append] at hload
  obtain ⟨hranges, hload⟩ := Mem.load_of_load_append hload
  rw [List.length_append] at hload
  obtain ⟨hlen, hbytes⟩ := Mem.load_of_load_append hload
  rw [Nat.zero_add, Packed.length_encode_eq] at hranges hlen hbytes
  rw [Packed.length_encode_eq] at hheader
  rw [Packed.length_encodeList] at hlen hbytes
  -- the two numbers, at their places
  have hheader' : L.header.decode (m.load 0 L.header.size) = r.header := by
    rw [hheader, Packed.decode_encode]
  have hcount' : rangeCountOf L m = r.ranges.length := by
    rw [rangeCountOf, hheader', hcount]
  have haddress : infoLenAddress L m = L.header.size + r.ranges.length * L.mmioRange.size := by
    rw [infoLenAddress, hcount', mmioRangeAddress]
  have hu32 : (Packed.u32.encode r.infoLen).length = 4 := Packed.length_encode_eq _ _
  rw [hu32, ← haddress] at hlen hbytes
  have hlen' : Packed.u32.decode (m.load (infoLenAddress L m) 4) = r.infoLen := by
    rw [hlen, Packed.decode_encode]
  have hinfo' : infoLenOf L m = r.info.length := by
    rw [infoLenOf, hlen', hinfo]
  constructor
  · rw [printReport, Reading.run_readAs_bind, Reading.run_bind (rangeLoop_run hfuel)]
    have hindex : mmioRangeAddress L (rangeCountOf L m) = infoLenAddress L m := rfl
    simp only [List.length_map, List.length_range, hindex]
    rw [Reading.run_readAs_bind, Reading.run_bind (infoLoop_run hfuel)]
    have hwalked := map_decode_load L.mmioRange r.ranges hranges
    have hloaded : (List.range r.info.length).map (fun i => m (infoLenAddress L m + 4 + i)) =
        r.info := hbytes
    simp only [Reading.run_pure, hheader', hcount', hinfo', mmioRangeAddress, hwalked, hloaded]
    exact congrArg (fun n => some (⟨r.header, r.ranges, n, r.info⟩ : Report)) hlen'
  · refine (printReport_reads_lt_iff hfuel _).2 (Nat.le_of_eq ?_)
    rw [reportEnd, haddress, hinfo', Report.bytes]
    simp only [List.length_append, Packed.length_encode_eq, Packed.length_encodeList]
    show _ = L.header.size + (r.ranges.length * L.mmioRange.size + (4 + r.info.length))
    omega

/-- A received report is the report `r`, printed as it is and no further. -/
structure Received (L : ReportLayout) (r : Report)
    (received : Mem × UInt32 × Traced Report) : Prop where
  held : received.1.load 0 received.2.1.toNat = r.bytes L
  printed : received.2.2.value = some r
  inside : ∀ a ∈ received.2.2.reads, a < received.2.1.toNat

end Print

/-! ## The report of a lock -/

section Lock

variable {L : ReportLayout}

@[simp] theorem generateReport_interfaceId (env : Environment K) (ctx : InterfaceContext K) :
    (generateReport env ctx).interfaceId = ctx.interfaceId := by
  unfold generateReport
  dsimp only
  split <;> rfl

/-- The generation of the report does not look at the requester's capabilities. -/
theorem generateReport_tdispReqCaps (env : Environment K) (ctx : InterfaceContext K)
    (caps : Vector UInt8 K.requesterCapabilitiesSize) :
    generateReport env { ctx with tdispReqCaps := caps } =
      { generateReport env ctx with tdispReqCaps := caps } := by
  unfold generateReport
  dsimp only
  split <;> rfl

/-- What a lock generates with a JSON file is a report whose counts are right. -/
theorem report_generateReport (hmine : MineIsReport K L) {env : Environment K}
    {document : Option JsonValue} (hjson : env.loadFromJson = jsonLoader L document)
    (ctx : InterfaceContext K) :
    (generateReport env ctx).interfaceReportSize.toNat ≤ interfaceReportMaxSize ∧
      ∃ r : Report, r.header.mmioRangeCount.toNat = r.ranges.length ∧
        r.infoLen.toNat = r.info.length ∧ (generateReport env ctx).report = r.bytes L := by
  cases hload : (env.loadFromJson ctx.interfaceReport ctx.interfaceReportSize).1 with
  | false =>
      have hdefault := generateReport_of_not_loaded hload
      exact ⟨hdefault.1.trans_le K.interfaceReport_size_le, (defaultInterfaceReport K).report,
        rfl, rfl, hdefault.2.trans (hmine _)⟩
  | true =>
      rw [generateReport, if_pos hload]
      rw [hjson] at hload ⊢
      obtain ⟨root, ranges, info, r, -, hloaded⟩ := loaded_of_true hload
      have hsize := (hloaded.parses (by decide)).1
      have hle := hloaded.length_le
      rw [← hsize] at hle
      refine ⟨hle, r, hloaded.count_eq, hloaded.info_length, ?_⟩
      refine (ReportBuffer.take_ofMem _ hle).trans ?_
      rw [hsize, hloaded.memory, Mem.load_store]

end Lock

/-! ## The session -/

/-- The response objects of four of the requesters have the size of an error message; the responses
fit. -/
def SmallResponses (K : PciTdisp) : Prop :=
  RoomFor K.errorResponse.size [K.versionResponse.size, K.deviceInterfaceStateResponse.size,
    K.startInterfaceResponse.size, K.stopInterfaceResponse.size]

/-- The interface of the session after `GET_TDISP_VERSION`. -/
def boundContext (K : PciTdisp) : InterfaceContext K :=
  libtdispInitializeInterfaceContext K sessionInterfaceId

/-- The parameters that the session locks with. -/
def sessionParam (setup : SessionSetup K) : Vector UInt8 K.lockInterfaceParamSize :=
  setup.layout.lockInterfaceParam (sessionLockParam (boundContext K).tdispRspCaps)

/-- The interface after the session's lock. -/
def lockedContext (setup : SessionSetup K) (env : Environment K)
    (nonce : Vector UInt8 K.startInterfaceNonceSize) : InterfaceContext K :=
  generateReport env
    { boundContext K with
      lockInterfaceParam := sessionParam setup
      startInterfaceNonce := nonce
      tdiState := K.tdiState .configLocked }

section Session

variable {schedule : Schedule (Input K) (Environment K)} {setup : SessionSetup K}
  {T : Nat → Prop} {c : InterfaceContext K}

/-- The report is received and printed. -/
theorem triple_receiveReport (hquiet : QuietSchedule schedule)
    (hid : c.interfaceId = sessionInterfaceId)
    (hsize : c.interfaceReportSize.toNat ≤ interfaceReportMaxSize) {r : Report}
    (hcount : r.header.mmioRangeCount.toNat = r.ranges.length)
    (hinfo : r.infoLen.toNat = r.info.length) (hreport : c.report = r.bytes setup.report)
    (hfuel : interfaceReportMaxSize < setup.fuel) (hwalk : 2 ^ 32 ≤ setup.walkFuel) :
    Flow.Triple (Shared.Standing (fun _ => True) c.Alike)
      (receiveReport setup (sharedLink schedule))
      (fun received s =>
        Received setup.report r received ∧ Shared.Standing (fun _ => True) c.Alike s)
      (fun _ _ => False) := by
  apply Flow.Triple.of_total
  rintro s ⟨-, hs⟩
  have hmax : interfaceReportMaxSize = 0x1000 := rfl
  have hlength : (r.bytes setup.report).length ≤ interfaceReportMaxSize := by
    rw [← hreport, length_report hsize]
    exact hsize
  have hpos : 0 < (r.bytes setup.report).length := by
    rw [Report.length_bytes]
    omega
  have hserves := serves_sharedLink hquiet hid hsize
  rw [hreport] at hserves
  have hcap : (r.bytes setup.report).length ≤ interfaceReportBufferSize.toNat := hlength
  have hportion : 0 < (interfaceReportProtocol K sessionInterfaceId.functionId).portionLen.toNat :=
    show 0 < interfaceReportPortionLen.toNat by decide
  have hrounds : (r.bytes setup.report).length < setup.fuel := by omega
  obtain ⟨link, hlive, hrun⟩ := getReport_of_serves_live hportion hpos (by omega) hserves hs
    setup.stack hcap hrounds
  have hprint := printReport_of_bytes hcount hinfo
    (Mem.load_store setup.stack 0 (r.bytes setup.report)) hwalk
  have hsize32 : (UInt32.ofNat (r.bytes setup.report).length).toNat =
      (r.bytes setup.report).length := toNat_ofNat_of_lt_u16 (by omega)
  have hget : pciTdispGetInterfaceReport K (sharedLink schedule) setup.fuel s sessionInterfaceId
      setup.stack interfaceReportBufferSize = some ⟨.success, _, _, link⟩ := hrun
  refine ⟨(setup.stack.store 0 (r.bytes setup.report),
    UInt32.ofNat (r.bytes setup.report).length,
    printReport setup.report setup.walkFuel (setup.stack.store 0 (r.bytes setup.report))), link,
    ?_, ⟨?_, hprint.1, ?_⟩, trivial, hlive⟩
  · simp [receiveReport, pciTdispProcessReport, hget, LibspdmReturn.isError, hprint.1]
  · rw [hsize32, Mem.load_store]
  · rw [hsize32]
    exact hprint.2

/-- The version is agreed on, and the interface is bound. -/
theorem triple_pciTdispGetVersion (hquiet : QuietSchedule schedule) (hsmall : SmallResponses K)
    (T' : Nat → Prop) (hT : ∀ n, T n → T' (n + 1)) :
    Flow.Triple (Shared.Standing T c.Alike)
      (pciTdispGetVersion K (sharedLink schedule) sessionInterfaceId)
      (fun _ s => Shared.Standing T' (boundContext K).Alike s) (fun _ _ => False) := by
  refine (triple_exchangeMessage hquiet T' hT (hsmall.add_le (by simp) _)
    (boundContext K) ⟨1, K.messageVersion10⟩ ?_).bind fun body => Flow.Triple.pull ?_
  · intro n ctx _ _
    exact ⟨_, InterfaceContext.Alike.refl _, getResponse_getVersion _ ctx sessionInterfaceId⟩
  · rintro rfl
    refine Flow.Triple.bind (Q := fun _ => Shared.Standing T' (boundContext K).Alike) ?_ fun _ => ?_
    · exact Flow.Triple.check (fun _ hs _ => hs) (fun _ _ h => by simp at h)
    · exact Flow.Triple.check (fun _ hs _ => hs) (fun _ _ h => by simp at h)

/-- A state that is asked for and is as expected. -/
theorem triple_expectState (hquiet : QuietSchedule schedule) (hsmall : SmallResponses K)
    (T' : Nat → Prop) (hT : ∀ n, T n → T' (n + 1)) (hid : c.interfaceId = sessionInterfaceId)
    {expected : TdiState} (hstate : c.tdiState = K.tdiState expected) :
    Flow.Triple (Shared.Standing T c.Alike) (expectState setup (sharedLink schedule) expected)
      (fun _ s => Shared.Standing T' c.Alike s) (fun _ _ => False) := by
  refine Flow.Triple.bind (Flow.Triple.mapError (triple_exchangeMessage hquiet T' hT
    (hsmall.add_le (by simp) _) c (K.tdiState expected) ?_))
    fun tdiState => Flow.Triple.pull ?_
  · rintro n _ _ ⟨caps, rfl⟩
    refine ⟨_, ⟨caps, rfl⟩, ?_⟩
    rw [← hstate]
    exact getResponse_getDeviceInterfaceState _ hid
  · rintro rfl
    exact Flow.Triple.check (fun _ hs _ => hs) (fun _ _ h => by simp at h)

/-- What a session has come to: the answers are the device's, the report is the report of the lock,
and the interface is unlocked again. -/
structure SessionDone (setup : SessionSetup K) (env : Environment K)
    (nonce : Vector UInt8 K.startInterfaceNonceSize) (locals : SessionLocals K)
    (ctx : InterfaceContext K) : Prop where
  rspCaps : locals.rspCaps = (boundContext K).tdispRspCaps
  nonce_eq : locals.startInterfaceNonce = nonce
  report : ∃ r, (lockedContext setup env nonce).report = r.bytes setup.report ∧
    Received setup.report r
      (locals.interfaceReportBuffer, locals.interfaceReportSize, locals.walk)
  unlocked : { lockedContext setup env nonce with
    tdiState := K.tdiState .configUnlocked }.Alike ctx

/-- The session runs to its end. -/
theorem triple_session (hquiet : QuietSchedule schedule) (hsmall : SmallResponses K)
    (hmine : MineIsReport K setup.report) {document : Option JsonValue}
    (hjson : (schedule 3).env.loadFromJson = jsonLoader setup.report document)
    {nonce : Vector UInt8 K.startInterfaceNonceSize}
    (hrandom : (schedule 3).env.random = some nonce)
    (hfuel : interfaceReportMaxSize < setup.fuel) (hwalk : 2 ^ 32 ≤ setup.walkFuel) :
    Flow.Triple (Shared.Standing (· = 0) c.Alike)
      (pciTdispProcessSessionMessage setup (sharedLink schedule))
      (fun locals s => SessionDone setup (schedule 3).env nonce locals s.state)
      (fun _ _ => False) := by
  obtain ⟨hsize, r, hcount, hinfo, hreport⟩ := report_generateReport hmine hjson
    { boundContext K with
      lockInterfaceParam := sessionParam setup
      startInterfaceNonce := nonce
      tdiState := K.tdiState .configLocked }
  have hid : (lockedContext setup (schedule 3).env nonce).interfaceId = sessionInterfaceId :=
    generateReport_interfaceId _ _
  have hlocked : (lockedContext setup (schedule 3).env nonce).tdiState = K.tdiState .configLocked :=
    generateReport_tdiState _ _
  have hnonce : (lockedContext setup (schedule 3).env nonce).startInterfaceNonce = nonce :=
    generateReport_startInterfaceNonce _ _
  -- the first four calls are those of the turns 0 to 3
  refine (Flow.Triple.mapError (triple_pciTdispGetVersion hquiet hsmall (· = 1)
    fun n h => by rw [h])).bind fun _ => ?_
  refine (Flow.Triple.mapError (triple_exchangeMessage hquiet (· = 2) (fun n h => by rw [h])
    (Nat.le_refl _) (boundContext K) (boundContext K).tdispRspCaps ?_)).bind
    fun rspCaps => Flow.Triple.pull ?_
  · rintro n _ _ ⟨caps, rfl⟩
    exact ⟨_, ⟨_, rfl⟩, getResponse_getCapabilities _ rfl _⟩
  rintro rfl
  refine (triple_expectState hquiet hsmall (· = 3) (fun n h => by rw [h]) rfl rfl).bind
    fun _ => ?_
  refine (Flow.Triple.mapError (triple_exchangeMessage hquiet (fun _ => True)
    (fun _ _ => trivial) (Nat.le_refl _) (lockedContext setup (schedule 3).env nonce) nonce
    ?_)).bind fun startInterfaceNonce => Flow.Triple.pull ?_
  · rintro n _ rfl ⟨caps, rfl⟩
    refine ⟨_, ⟨caps, generateReport_tdispReqCaps _ _ caps⟩, ?_⟩
    exact getResponse_lockInterface _ rfl rfl hrandom _
  intro hreturned
  obtain rfl : nonce = startInterfaceNonce := hreturned.symm
  refine (triple_expectState hquiet hsmall (fun _ => True) (fun _ _ => trivial) hid hlocked).bind
    fun _ => ?_
  refine (triple_receiveReport hquiet hid hsize hcount hinfo hreport hfuel hwalk).bind
    fun received => Flow.Triple.pull fun hreceived => ?_
  refine (Flow.Triple.mapError (triple_exchangeMessage hquiet (fun _ => True)
    (fun _ _ => trivial) (hsmall.add_le (by simp) _)
    { lockedContext setup (schedule 3).env nonce with tdiState := K.tdiState .run } ()
    ?_)).bind fun _ => Flow.Triple.pull fun _ => ?_
  · rintro n _ - ⟨caps, rfl⟩
    refine ⟨_, ⟨caps, rfl⟩, getResponse_startInterface _ ?_ ?_ ?_⟩
    · exact hid
    · exact hlocked
    · exact hnonce
  refine (triple_expectState
    (c := { lockedContext setup (schedule 3).env nonce with tdiState := K.tdiState .run })
    hquiet hsmall (fun _ => True) (fun _ _ => trivial) hid rfl).bind fun _ => ?_
  refine (Flow.Triple.mapError (triple_exchangeMessage hquiet (fun _ => True)
    (fun _ _ => trivial) (hsmall.add_le (by simp) _)
    { lockedContext setup (schedule 3).env nonce with tdiState := K.tdiState .configUnlocked } ()
    ?_)).bind fun _ => Flow.Triple.pull fun _ => ?_
  · rintro n _ - ⟨caps, rfl⟩
    refine ⟨_, ⟨caps, rfl⟩, getResponse_stopInterface _ hid ?_⟩
    exact fun h => absurd (K.tdiState_inj.1 h) (by decide)
  refine (triple_expectState
    (c := { lockedContext setup (schedule 3).env nonce with
      tdiState := K.tdiState .configUnlocked })
    hquiet hsmall (fun _ => True) (fun _ _ => trivial) hid rfl).bind fun _ => ?_
  exact Flow.Triple.pure fun s hs => ⟨rfl, rfl, ⟨r, hreport, hreceived⟩, hs.2⟩

/-- **An undisturbed session succeeds and shows the device as it is.** From every state of the
interface, with any quiet requests of others in between and any JSON file: if there are random bytes
at the session's lock, then no call fails and no assertion stops it, the capabilities and the nonce
are those of the device, the report that was received and printed is that of the lock, nothing
behind the report was read, and the interface ends unlocked. -/
theorem session_completes (setup : SessionSetup K)
    (schedule : Schedule (Input K) (Environment K)) (hquiet : QuietSchedule schedule)
    (hsmall : SmallResponses K) (hmine : MineIsReport K setup.report) (document : Option JsonValue)
    (hjson : (schedule 3).env.loadFromJson = jsonLoader setup.report document)
    (nonce : Vector UInt8 K.startInterfaceNonceSize)
    (hrandom : (schedule 3).env.random = some nonce)
    (hfuel : interfaceReportMaxSize < setup.fuel) (hwalk : 2 ^ 32 ≤ setup.walkFuel)
    (ctx : InterfaceContext K) :
    ∃ locals s', pciTdispProcessSessionMessage setup (sharedLink schedule) (Shared.start ctx) =
        (.ok locals, s') ∧
      SessionDone setup (schedule 3).env nonce locals s'.state :=
  (triple_session hquiet hsmall hmine hjson hrandom hfuel hwalk).total
    (s := Shared.start ctx) ⟨rfl, InterfaceContext.Alike.refl ctx⟩

end Session

/-! ## A session with an observer -/

/-- The layouts of the two structures, packed. -/
def sampleSessionLayout : SessionLayout .sample where
  requesterCapabilities tsmCaps := ⟨(Packed.u32.encode tsmCaps).toArray, rfl⟩
  lockInterfaceParam param :=
    ⟨(Packed.u16.encode param.flags ++ [param.defaultStreamId, 0] ++
      (Packed.u64.encode param.mmioReportingOffset ++
        Packed.u64.encode param.bindP2pAddressMask)).toArray, rfl⟩

/-- A build with assertions. -/
def sampleSetup : SessionSetup .sample where
  report := sampleReportLayout
  layout := sampleSessionLayout
  asserts := true
  stack := fun _ => 0xAA
  fuel := 0x1001
  walkFuel := 2 ^ 32

/-- Before each request of the session somebody else asks for the state; random bytes are there for
the lock alone, and the report file has one range. -/
def sampleFacts : Schedule (Bytes × DeviceFacts .sample) (DeviceFacts .sample) := fun n =>
  { others := [(requestMessage .sample .getDeviceInterfaceState ⟨7, 0⟩ [], ⟨none, none⟩)]
    env := ⟨if n = 3 then some (Vector.replicate 32 5) else none, sampleFile (.integer 3)⟩ }

/-- The schedule, with the loader of the report file. -/
def sampleSchedule : Schedule (Input .sample) (Environment .sample) :=
  jsonSchedule sampleReportLayout sampleFacts

theorem quietSchedule_sample : QuietSchedule sampleSchedule := by
  intro n i hi
  rw [List.mem_singleton.1 hi, QuietRequest, decode_requestMessage]
  decide

theorem smallResponses_sample : SmallResponses PciTdisp.sample := by
  unfold SmallResponses RoomFor
  decide

/-- An interface of another function that is running. -/
def runningSample : InterfaceContext .sample :=
  { libtdispInitializeInterfaceContext .sample ⟨9, 0⟩ with
    tdiState := PciTdisp.sample.tdiState .run
    startInterfaceNonce := Vector.replicate 32 1 }

/-- The report of the file is generated, and the session shows it. -/
theorem session_completes_sample :
    QuietSchedule sampleSchedule ∧
      ((sampleSchedule 3).env.loadFromJson (boundContext .sample).interfaceReport
        (boundContext .sample).interfaceReportSize).1 = true ∧
      ∃ locals s', pciTdispProcessSessionMessage sampleSetup (sharedLink sampleSchedule)
          (Shared.start runningSample) = (.ok locals, s') ∧
        SessionDone sampleSetup (sampleSchedule 3).env (Vector.replicate 32 5) locals s'.state :=
  ⟨quietSchedule_sample, by decide +kernel,
    session_completes sampleSetup sampleSchedule quietSchedule_sample smallResponses_sample
      mineIsReport_sample (sampleFile (.integer 3)) rfl _ rfl (by decide) (Nat.le_refl _) _⟩

/-- Where random bytes are drawn at one turn only, no nonce is returned twice. -/
theorem freshNonces_of_onlyAt {s : SharedResponder K} {k : Nat} {s₀ : InterfaceContext K}
    {Ok : Input K → Prop} (hreached : Shared.Reached (responder K) Ok s₀ s)
    (hentropy : Shared.OnlyAt (fun i => i.env.random ≠ none) k s) : FreshNonces s.history := by
  -- a lock that returns a nonce has drawn it
  have hdrawn : ∀ p l nonce, s.history[p]? = some l → LockReturned nonce l →
      s.own[k]? = some p := by
    intro p l nonce hp hlock
    apply hentropy p l hp
    obtain ⟨is, -, hhistory, -⟩ := hreached
    rw [hhistory] at hp
    have hevent := ((responder K).event_of_getElem? hp).1
    obtain ⟨_, -, -, hrandom, -⟩ := lock_of_answers
      (effect_responder ((responder K).after s₀ (is.take p)) l.input)
      (show Answers K l.input.request .lockInterface
        ((responder K).event ((responder K).after s₀ (is.take p)) l.input).output from
        hevent ▸ ⟨_, hlock.2⟩)
    rw [hrandom]
    exact Option.some_ne_none _
  intro i j l l' nonce hi hj hlock hlock'
  exact Option.some.inj ((hdrawn i l nonce hi hlock).symm.trans (hdrawn j l' nonce hj hlock'))

/-- The start of that session is the start of its own lock. -/
theorem session_agreement_sample :
    ∃ locals s',
      pciTdispProcessSessionMessage sampleSetup (sharedLink sampleSchedule)
          (Shared.start (InterfaceContext.zeroed .sample)) = (.ok locals, s') ∧
        FreshNonces s'.history ∧
        ∃ i j l e, StartedAsAttested s' locals.startInterfaceNonce
          (sampleSetup.layout.lockInterfaceParam (sessionLockParam locals.rspCaps))
          (locals.interfaceReportBuffer.load 0 locals.interfaceReportSize.toNat) i j l e := by
  have hsound : SoundSchedule sampleSchedule := soundSchedule_jsonSchedule _ _
  have hsession : Flow.Triple (Shared.Standing (· = 0) (InterfaceContext.zeroed .sample).Alike)
      (pciTdispProcessSessionMessage sampleSetup (sharedLink sampleSchedule))
      (fun locals s => SessionDone sampleSetup (sampleSchedule 3).env (Vector.replicate 32 5)
        locals s.state) (fun _ _ => False) :=
    triple_session quietSchedule_sample smallResponses_sample mineIsReport_sample rfl rfl
      (by decide) (Nat.le_refl _)
  obtain ⟨locals, s', hrun, -⟩ := hsession.total
    (s := Shared.start (InterfaceContext.zeroed .sample)) ⟨rfl, InterfaceContext.Alike.refl _⟩
  have hlater := (keeps_pciTdispProcessSessionMessage (laterThan_sharedLink hsound _)).ok
    ⟨Shared.Reached.start, Shared.Extends.refl _⟩ hrun
  have hkeeps : ∀ (s : SharedResponder .sample) (request : Bytes) (capacity : Nat),
      Shared.OnlyAt (fun i => i.env.random ≠ none) 3 s →
        Shared.OnlyAt (fun i => i.env.random ≠ none) 3
          (sharedLink sampleSchedule s request capacity).2 := by
    intro s request capacity hs
    rw [sharedLink_snd]
    refine hs.ask ?_ ?_
    · intro n i hi hdraws
      rw [List.mem_singleton.1 hi] at hdraws
      exact hdraws rfl
    · intro hdraws
      by_contra hturn
      exact hdraws (if_neg hturn)
  have hentropy := (keeps_pciTdispProcessSessionMessage hkeeps).ok
    (fun p e hp => by simp [Shared.start] at hp) hrun
  have hfresh := freshNonces_of_onlyAt hlater.1 hentropy
  exact ⟨locals, s', hrun, hfresh,
    session_agreement sampleSetup sampleFacts locals s' hrun hfresh⟩

end SpdmEmu.Tdisp
