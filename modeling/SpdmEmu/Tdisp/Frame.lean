import SpdmEmu.Tdisp.Form

/-!
# Who changes a locked interface

While an interface is in `CONFIG_LOCKED` or `RUN`, its state, nonce, lock parameters and report are
to be changed by LOCK, START and STOP requests for that interface and by nothing else. The responder
keeps to this except for one request: `GET_VERSION` reaches `libtdisp_initialize_interface_context`,
which zeroes the one interface context there is and binds it to the interface of the request,
whatever state it was in. The CXL TSP sample device has the same function, and there it leaves a
context that is in use alone.

`engaged_controlled_iff` says that this request is the only exception, and that it is one each time.
-/

set_option autoImplicit false

namespace SpdmEmu.Tdisp

open SpdmEmu.Wire SpdmEmu.Libspdm SpdmEmu.Run

variable {K : PciTdisp}

/-- What LOCK, START and STOP control. -/
structure Guarded (K : PciTdisp) where
  tdiState : UInt8
  startInterfaceNonce : Vector UInt8 K.startInterfaceNonceSize
  lockInterfaceParam : Vector UInt8 K.lockInterfaceParamSize
  interfaceReport : ReportBuffer
  interfaceReportSize : UInt16
deriving DecidableEq

/-- The guarded part of an interface, if the context is bound to it. -/
def InterfaceContext.guarded (ctx : InterfaceContext K) (interfaceId : InterfaceId) :
    Option (Guarded K) :=
  if ctx.isBound interfaceId then
    some ⟨ctx.tdiState, ctx.startInterfaceNonce, ctx.lockInterfaceParam, ctx.interfaceReport,
      ctx.interfaceReportSize⟩
  else none

/-- The interface is in `CONFIG_LOCKED` or `RUN`. -/
def InterfaceContext.Engaged (ctx : InterfaceContext K) : Prop :=
  ctx.tdiState = K.tdiState .configLocked ∨ ctx.tdiState = K.tdiState .run

/-- The requests that change an interface. -/
def controlRequests : List Request := [.lockInterface, .startInterface, .stopInterface]

/-- The requests that ask about it. -/
def queryRequests : List Request :=
  [.getVersion, .getCapabilities, .getDeviceInterfaceReport, .getDeviceInterfaceState]

/-- What is to hold of a step from an engaged interface. -/
structure Controlled (e : ResponderEvent K) : Prop where
  /-- a change is made by a control request for the interface -/
  changed : e.after.guarded e.before.interfaceId ≠ e.before.guarded e.before.interfaceId →
    ∃ r ∈ controlRequests, (K.header.decode e.input.request).messageType = K.requestType r ∧
      (K.header.decode e.input.request).interfaceId = e.before.interfaceId
  /-- a query, for whatever interface, changes nothing -/
  query : ∀ r ∈ queryRequests,
    (K.header.decode e.input.request).messageType = K.requestType r →
      e.after.guarded e.before.interfaceId = e.before.guarded e.before.interfaceId
  /-- `RUN` is left by a stop -/
  run : e.before.tdiState = K.tdiState .run → e.after.tdiState ≠ K.tdiState .run →
    (K.header.decode e.input.request).messageType = K.requestType .stopInterface

/-! ## GET_VERSION -/

/-- A well-formed version request sets the context up anew. -/
theorem after_of_wellFormedGetVersion {ctx : InterfaceContext K} {i : Input K}
    (h : WellFormedRequest K .getVersion i.request) :
    ((responder K).step ctx i).2 =
      libtdispInitializeInterfaceContext K (K.header.decode i.request).interfaceId := by
  have hsize : i.request.length = K.header.size + K.getVersionRequest.size := h.size
  have hstep : (responder K).step ctx i = pciTdispGetResponseVersion ctx i.request :=
    pciTdispGetResponse_of_type i.env ctx h.messageType (by omega)
  rw [hstep, pciTdispGetResponseVersion, handleRequest, if_neg (not_not.2 hsize),
    if_neg (not_not.2 h.version)]
  rfl

/-! ## The steps from an engaged interface -/

/-- A step that leaves the context alone is controlled. -/
theorem controlled_of_unchanged {e : ResponderEvent K} (h : e.after = e.before) :
    Controlled e where
  changed hne := absurd (by rw [h]) hne
  query _ _ _ := by rw [h]
  run hbefore hafter := absurd (h ▸ hbefore) hafter

theorem not_unlocked_of_engaged {ctx : InterfaceContext K} (h : ctx.Engaged) :
    ctx.tdiState ≠ K.tdiState .configUnlocked := by
  rcases h with h | h
  · rw [h]
    simp
  · rw [h]
    simp

/-- A query is not a control request. -/
theorem not_query_of_control {r r' : Request} {messageType : UInt8} (hr : r ∈ controlRequests)
    (hr' : r' ∈ queryRequests) (h : messageType = K.requestType r)
    (h' : messageType = K.requestType r') : False := by
  have heq : r = r' := K.requestType_injective (h.symm.trans h')
  subst heq
  revert hr hr'
  cases r <;> decide

/-- A step by a control request for the interface is controlled if `RUN` is left by a stop. -/
theorem controlled_of_control {e : ResponderEvent K} {r : Request} (hr : r ∈ controlRequests)
    (htype : (K.header.decode e.input.request).messageType = K.requestType r)
    (hid : e.before.interfaceId = (K.header.decode e.input.request).interfaceId)
    (hrun : e.before.tdiState = K.tdiState .run → r = .stopInterface) : Controlled e where
  changed _ := ⟨r, hr, htype, hid.symm⟩
  query r' hr' htype' := (not_query_of_control hr hr' htype htype').elim
  run hbefore _ := by rw [htype, hrun hbefore]

/-- A step that keeps the binding and the guarded part is controlled. -/
theorem controlled_of_guarded {e : ResponderEvent K}
    (h : e.after.guarded e.before.interfaceId = e.before.guarded e.before.interfaceId)
    (hstate : e.after.tdiState = e.before.tdiState) : Controlled e where
  changed hne := absurd h hne
  query _ _ _ := h
  run hbefore hafter := absurd (hstate.trans hbefore) hafter

/-- Without a well-formed GET_VERSION every step from an engaged interface is controlled. -/
theorem controlled_of_engaged {ctx : InterfaceContext K} {i : Input K} (hengaged : ctx.Engaged)
    (h : ¬ WellFormedRequest K .getVersion i.request) : Controlled ((responder K).event ctx i) := by
  by_cases hversion : (K.header.decode i.request).messageType = K.requestType .getVersion
  · exact controlled_of_unchanged (context_of_malformed i.env ctx hversion h)
  · have heffect := effect_responder ctx i
    have hunlocked := not_unlocked_of_engaged hengaged
    show Controlled ⟨ctx, i, ((responder K).step ctx i).1, ((responder K).step ctx i).2⟩
    generalize ((responder K).step ctx i).1 = reply at heffect ⊢
    generalize ((responder K).step ctx i).2 = ctx' at heffect ⊢
    cases heffect with
    | dropped _ => exact controlled_of_unchanged rfl
    | rejected _ => exact controlled_of_unchanged rfl
    | version htype => exact absurd htype hversion
    | capabilities _ _ => exact controlled_of_guarded rfl rfl
    -- a lock takes an unlocked interface
    | noEntropy _ _ hstate _ _ => exact absurd hstate hunlocked
    | lock _ _ hstate _ => exact absurd hstate hunlocked
    | report _ _ _ => exact controlled_of_unchanged rfl
    | state _ _ => exact controlled_of_unchanged rfl
    | start htype _ hid hstate _ =>
        refine controlled_of_control (by decide) htype hid ?_
        intro hrun
        have hne : K.tdiState .configLocked ≠ K.tdiState .run := by simp
        exact absurd (hstate.symm.trans hrun) hne
    | stop htype hid _ => exact controlled_of_control (by decide) htype hid fun _ => rfl

/-- A well-formed GET_VERSION unlocks an engaged interface, or takes the context away from it. -/
theorem not_controlled_of_wellFormedGetVersion {ctx : InterfaceContext K} {i : Input K}
    (hengaged : ctx.Engaged) (h : WellFormedRequest K .getVersion i.request) :
    ¬ Controlled ((responder K).event ctx i) := by
  intro hcontrolled
  have hkept : ((responder K).step ctx i).2.guarded ctx.interfaceId =
      ctx.guarded ctx.interfaceId := hcontrolled.query .getVersion (by decide) h.messageType
  have hbound : ctx.isBound ctx.interfaceId = true := (isBound_iff ctx _).2 rfl
  rw [after_of_wellFormedGetVersion h, InterfaceContext.guarded, InterfaceContext.guarded,
    if_pos hbound] at hkept
  split at hkept
  · injection hkept with hguarded
    injection hguarded with hstate
    exact not_unlocked_of_engaged hengaged hstate.symm
  · cases hkept

/-- **Only control requests and GET_VERSION change an engaged interface.** In every run of TDISP
requests, from any context and with any outcomes of the random source and the report loader, every
step from `CONFIG_LOCKED` or `RUN` is controlled if and only if no such step handles a well-formed
GET_VERSION request. -/
theorem engaged_controlled_iff (ctx : InterfaceContext K) (is : List (Input K)) :
    (∀ e ∈ (responder K).history ctx is, e.before.Engaged → Controlled e) ↔
      ∀ e ∈ (responder K).history ctx is, e.before.Engaged →
        ¬ WellFormedRequest K .getVersion e.input.request := by
  have hstep : ∀ e ∈ (responder K).history ctx is, e.before.Engaged →
      (Controlled e ↔ ¬ WellFormedRequest K .getVersion e.input.request) := by
    refine (responder K).forall_history (fun _ => True)
      (P := fun e => e.before.Engaged →
        (Controlled e ↔ ¬ WellFormedRequest K .getVersion e.input.request))
      (fun _ _ _ => trivial) ?_ trivial is
    intro s i _ hengaged
    constructor
    · intro hcontrolled hversion
      exact not_controlled_of_wellFormedGetVersion hengaged hversion hcontrolled
    · exact controlled_of_engaged hengaged
  constructor
  · intro h e he hengaged
    exact (hstep e he hengaged).1 (h e he hengaged)
  · intro h e he hengaged
    exact (hstep e he hengaged).2 (h e he hengaged)

/-! ## A reset -/

/-- A request for an interface in the sample format, handled with a fixed random nonce. -/
private def requestFor (functionId : UInt32) (r : Request) (body : Bytes) :
    Input PciTdisp.sample where
  request :=
    PciTdisp.sample.header.encode ⟨0x10, PciTdisp.sample.requestType r, ⟨functionId, 0⟩⟩ ++ body
  env := ⟨some (Vector.replicate 32 5), jsonSupportOff⟩

/-- Interface 7 is locked and started. A version request for interface 8 then leaves the one context
unlocked, with a zero nonce and bound to interface 8. -/
theorem version_request_ends_run :
    let started := (responder PciTdisp.sample).after (InterfaceContext.zeroed _)
      [requestFor 7 .getVersion [], requestFor 7 .lockInterface (List.replicate 20 0),
        requestFor 7 .startInterface (List.replicate 32 5)]
    let e := (responder PciTdisp.sample).event started (requestFor 8 .getVersion [])
    started.interfaceId = ⟨7, 0⟩ ∧ started.tdiState = PciTdisp.sample.tdiState .run ∧
      started.startInterfaceNonce = Vector.replicate 32 5 ∧
      e.after.tdiState = PciTdisp.sample.tdiState .configUnlocked ∧
      e.after.startInterfaceNonce = Vector.replicate 32 0 ∧ e.after.interfaceId = ⟨8, 0⟩ ∧
      ¬ Controlled e := by
  intro started e
  refine ⟨by decide, by decide, rfl, by decide, rfl, by decide, ?_⟩
  exact not_controlled_of_wellFormedGetVersion (.inr (by decide)) ⟨by decide, by decide, by decide⟩

end SpdmEmu.Tdisp
