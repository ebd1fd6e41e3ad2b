import SpdmEmu.Tdisp.Responder

/-!
# The start nonce

An interface enters `RUN` only by a `START_INTERFACE` request that presents the nonce of the latest
successful `LOCK_INTERFACE`, and every such lock is good for one start. The link between the stored
nonce and the history is `LockedBy`: while the interface is locked, some event of the history is
the lock that returned the stored nonce, and nothing after it succeeded that starts, stops, locks
again or resets the context.
-/

set_option autoImplicit false

namespace SpdmEmu.Tdisp

open SpdmEmu.Wire SpdmEmu.Libspdm SpdmEmu.Run

variable {K : PciTdisp}

/-- An event of the responder. -/
abbrev ResponderEvent (K : PciTdisp) := Event (InterfaceContext K) (Input K) Reply

/-- The success response of a request. -/
def Request.response : Request → Response
  | .getVersion => .version
  | .getCapabilities => .capabilities
  | .lockInterface => .lockInterface
  | .getDeviceInterfaceReport => .deviceInterfaceReport
  | .getDeviceInterfaceState => .deviceInterfaceState
  | .startInterface => .startInterface
  | .stopInterface => .stopInterface

/-- The event is a request of the given type, answered with its success response. -/
def Succeeded (r : Request) (e : ResponderEvent K) : Prop :=
  (K.header.decode e.input.request).messageType = K.requestType r ∧
    Answers K e.input.request r.response e.output

/-- The event is a successful `LOCK_INTERFACE` whose response carries `nonce`. -/
def LockReturned (nonce : Vector UInt8 K.startInterfaceNonceSize) (e : ResponderEvent K) : Prop :=
  (K.header.decode e.input.request).messageType = K.requestType .lockInterface ∧
    e.output = ⟨.success, some (message K (K.header.decode e.input.request) .lockInterface
      (K.lockInterfaceResponse.encode nonce))⟩

/-- The nonce of a `START_INTERFACE` request. -/
def startNonce (e : ResponderEvent K) : Vector UInt8 K.startInterfaceNonceSize :=
  K.startInterfaceRequest.decode (e.input.request.drop K.header.size)

/-- The event moves the interface to `RUN`. -/
def BecomesRun (e : ResponderEvent K) : Prop :=
  e.before.tdiState ≠ K.tdiState .run ∧ e.after.tdiState = K.tdiState .run

/-- The requests whose success ends what a lock allows. -/
def EndsLock (e : ResponderEvent K) : Prop :=
  Succeeded .lockInterface e ∨ Succeeded .startInterface e ∨ Succeeded .stopInterface e ∨
    Succeeded .getVersion e

/-- The event is a well-formed `START_INTERFACE` request for the bound interface. -/
def StartsBound (e : ResponderEvent K) : Prop :=
  (K.header.decode e.input.request).messageType = K.requestType .startInterface ∧
    e.input.request.length = K.header.size + K.startInterfaceRequest.size ∧
      (K.header.decode e.input.request).interfaceId = e.before.interfaceId

/-- The event at `i` is a successful lock, the event at `j` presents its nonce, and no lock, start,
stop or version request succeeded in between. -/
def Justifies (H : List (ResponderEvent K)) (i j : Nat) : Prop :=
  i < j ∧ ∃ l e, H[i]? = some l ∧ H[j]? = some e ∧ LockReturned (startNonce e) l ∧
    ∀ k x, i < k → k < j → H[k]? = some x → ¬ EndsLock x

/-! ## What an event can be -/

/-- A reply answers with one kind of message. -/
theorem kind_unique {request : Bytes} {a b : Response} {reply : Reply}
    (ha : Answers K request a reply) (hb : Answers K request b reply) : a = b := by
  obtain ⟨body, rfl⟩ := ha
  obtain ⟨body', h⟩ := hb
  simp only [Reply.mk.injEq, true_and, Option.some.injEq] at h
  -- the kind is in the header, which decodes the same from both messages
  have hheader := congrArg K.header.decode h
  simpa [message] using hheader

/-- An answer of another kind ends no lock. -/
theorem not_endsLock_of_answers {e : ResponderEvent K} {kind : Response}
    (h : Answers K e.input.request kind e.output)
    (hkind : kind ∉ [Response.lockInterface, .startInterface, .stopInterface, .version]) :
    ¬ EndsLock e := by
  simp only [List.mem_cons, List.not_mem_nil, or_false, not_or] at hkind
  obtain ⟨hlock, hstart, hstop, hversion⟩ := hkind
  rintro (hs | hs | hs | hs)
  · exact hlock (kind_unique h hs.2)
  · exact hstart (kind_unique h hs.2)
  · exact hstop (kind_unique h hs.2)
  · exact hversion (kind_unique h hs.2)

theorem not_endsLock_of_unwritten {e : ResponderEvent K} (h : e.output.written = none) :
    ¬ EndsLock e := by
  rintro (⟨-, body, hs⟩ | ⟨-, body, hs⟩ | ⟨-, body, hs⟩ | ⟨-, body, hs⟩) <;>
    · rw [hs] at h
      cases h

@[simp] theorem generateReport_tdiState (env : Environment K) (ctx : InterfaceContext K) :
    (generateReport env ctx).tdiState = ctx.tdiState := by
  unfold generateReport
  simp only
  split <;> rfl

@[simp] theorem generateReport_startInterfaceNonce (env : Environment K)
    (ctx : InterfaceContext K) :
    (generateReport env ctx).startInterfaceNonce = ctx.startInterfaceNonce := by
  unfold generateReport
  simp only
  split <;> rfl

/-- The event of an input at a context, and its effect. -/
theorem effect_responder (ctx : InterfaceContext K) (i : Input K) :
    Effect i.env ctx i.request ((responder K).step ctx i).1 ((responder K).step ctx i).2 :=
  effect_pciTdispGetResponse _ _ _

/-- Entering `RUN` is a start with the stored nonce from the locked state. -/
theorem start_of_becomesRun {ctx : InterfaceContext K} {i : Input K}
    (h : BecomesRun ((responder K).event ctx i)) :
    StartsBound ((responder K).event ctx i) ∧
      Succeeded .startInterface ((responder K).event ctx i) ∧
      ctx.tdiState = K.tdiState .configLocked ∧
        startNonce ((responder K).event ctx i) = ctx.startInterfaceNonce := by
  obtain ⟨hbefore, hafter⟩ := h
  have heff := effect_responder ctx i
  simp only [Machine.event, StartsBound, Succeeded, startNonce] at hbefore hafter ⊢
  generalize ((responder K).step ctx i).1 = reply at heff ⊢
  generalize ((responder K).step ctx i).2 = ctx' at heff hafter
  -- only a start leaves the interface in `RUN` from another state
  cases heff with
  | dropped _ => exact absurd hafter hbefore
  | rejected _ => exact absurd hafter hbefore
  | version _ =>
      rw [libtdispInitializeInterfaceContext, PciTdisp.tdiState_inj] at hafter
      cases hafter
  | capabilities _ _ => exact absurd hafter hbefore
  | noEntropy _ _ _ _ _ => exact absurd hafter hbefore
  | lock _ _ _ _ =>
      rw [generateReport_tdiState, PciTdisp.tdiState_inj] at hafter
      cases hafter
  | report _ _ _ => exact absurd hafter hbefore
  | state _ _ => exact absurd hafter hbefore
  | start hr hsize hid hs hn => exact ⟨⟨hr, hsize, hid.symm⟩, ⟨hr, _, rfl⟩, hs, hn⟩
  | stop _ _ _ =>
      rw [PciTdisp.tdiState_inj] at hafter
      cases hafter

/-! ## The lock behind a locked interface -/

/-- While the interface is locked, the history has the lock that returned the stored nonce, and no
later event ends that lock. -/
def LockedBy (H : List (ResponderEvent K)) (ctx : InterfaceContext K) : Prop :=
  ctx.tdiState = K.tdiState .configLocked →
    ∃ (i : Nat) (l : ResponderEvent K), H[i]? = some l ∧ LockReturned ctx.startInterfaceNonce l ∧
      ∀ (k : Nat) (x : ResponderEvent K), i < k → H[k]? = some x → ¬ EndsLock x

/-- An event that ends no lock and keeps state and nonce keeps the lock behind them. -/
theorem LockedBy.snoc {H : List (ResponderEvent K)} {ctx : InterfaceContext K}
    (h : LockedBy H ctx) {e : ResponderEvent K} {ctx' : InterfaceContext K}
    (hstate : ctx'.tdiState = ctx.tdiState)
    (hnonce : ctx'.startInterfaceNonce = ctx.startInterfaceNonce) (hends : ¬ EndsLock e) :
    LockedBy (H ++ [e]) ctx' := by
  intro hlocked
  rw [hstate] at hlocked
  rw [hnonce]
  exact Since.snoc (h hlocked) hends

theorem lockedBy_of_not_locked {H : List (ResponderEvent K)} {ctx : InterfaceContext K}
    (state : TdiState) (hstate : ctx.tdiState = K.tdiState state) (hne : state ≠ .configLocked) :
    LockedBy H ctx := by
  intro hlocked
  rw [hstate, PciTdisp.tdiState_inj] at hlocked
  exact absurd hlocked hne

/-- One step extends the lock behind a locked interface. -/
theorem lockedBy_step {H : List (ResponderEvent K)} {ctx : InterfaceContext K}
    (h : LockedBy H ctx) (i : Input K) :
    LockedBy (H ++ [(responder K).event ctx i]) ((responder K).step ctx i).2 := by
  have heff := effect_responder ctx i
  have hout : ((responder K).event ctx i).output = ((responder K).step ctx i).1 := rfl
  have hin : ((responder K).event ctx i).input = i := rfl
  generalize (responder K).event ctx i = e at hout hin ⊢
  generalize ((responder K).step ctx i).1 = reply at heff hout
  generalize ((responder K).step ctx i).2 = ctx' at heff ⊢
  subst hin
  -- a lock is its own witness, nothing follows it yet; a step that leaves the locked state has
  -- nothing to show; every other step hands the earlier lock on
  cases heff with
  | dropped _ => exact h.snoc rfl rfl (not_endsLock_of_unwritten (by rw [hout]))
  | rejected ha => exact h.snoc rfl rfl (not_endsLock_of_answers (hout ▸ ha) (by decide))
  | version _ => exact lockedBy_of_not_locked .configUnlocked rfl (by decide)
  | capabilities _ _ =>
      exact h.snoc rfl rfl (not_endsLock_of_answers ⟨_, hout⟩ (by decide))
  | noEntropy _ _ hs _ _ => exact lockedBy_of_not_locked _ hs (by decide)
  | lock hr _ _ _ =>
      intro _
      rw [generateReport_startInterfaceNonce]
      exact Since.last ⟨hr, hout⟩
  | report _ _ _ => exact h.snoc rfl rfl (not_endsLock_of_answers ⟨_, hout⟩ (by decide))
  | state _ _ => exact h.snoc rfl rfl (not_endsLock_of_answers ⟨_, hout⟩ (by decide))
  | start _ _ _ _ _ => exact lockedBy_of_not_locked .run rfl (by decide)
  | stop _ _ _ => exact lockedBy_of_not_locked .configUnlocked rfl (by decide)

/-- The lock behind a locked interface, after every run from the zeroed context. -/
theorem lockedBy_history (is : List (Input K)) :
    LockedBy ((responder K).history (InterfaceContext.zeroed K) is)
      ((responder K).after (InterfaceContext.zeroed K) is) := by
  refine (responder K).invariant_history LockedBy (fun _ _ i h => lockedBy_step h i) ?_ is
  exact lockedBy_of_not_locked .configUnlocked K.tdiState_configUnlocked.symm (by decide)

/-! ## Entering RUN -/

/-- **Start-nonce safety.** In every run from the zeroed context, with any random source, a step
that enters `RUN` is a start of the bound interface justified by the latest successful lock, and a
lock justifies at most one such step. -/
theorem run_is_justified_by_one_lock (is : List (Input K)) :
    (∀ j e, ((responder K).history (InterfaceContext.zeroed K) is)[j]? = some e → BecomesRun e →
      StartsBound e ∧
        ∃ i, Justifies ((responder K).history (InterfaceContext.zeroed K) is) i j) ∧
    (∀ i j j' e e', ((responder K).history (InterfaceContext.zeroed K) is)[j]? = some e →
      ((responder K).history (InterfaceContext.zeroed K) is)[j']? = some e' →
      BecomesRun e → BecomesRun e' →
      Justifies ((responder K).history (InterfaceContext.zeroed K) is) i j →
      Justifies ((responder K).history (InterfaceContext.zeroed K) is) i j' → j = j') := by
  constructor
  · intro j e hj hrun
    obtain ⟨he, htake⟩ := (responder K).event_of_getElem? hj
    rw [he] at hrun
    obtain ⟨hbound, -, hlocked, hnonce⟩ := start_of_becomesRun hrun
    rw [← he] at hbound hnonce
    refine ⟨hbound, ?_⟩
    -- the history before step `j` is where the invariant finds the lock
    obtain ⟨i, l, hi, hlock, hafter⟩ := lockedBy_history (is.take j) hlocked
    rw [← htake] at hi hafter
    have hij : i < j := by
      have := (List.getElem?_eq_some_iff.1 hi).1
      rw [List.length_take] at this
      omega
    refine ⟨i, hij, l, e, ?_, hj, hnonce ▸ hlock, ?_⟩
    · rwa [List.getElem?_take_of_lt hij] at hi
    · intro k x hik hkj hk
      exact hafter k x hik (by rw [List.getElem?_take_of_lt hkj, hk])
  · -- the earlier start would lie between the lock and the later one
    have hearlier : ∀ (i j j' : Nat) (e : ResponderEvent K),
        ((responder K).history (InterfaceContext.zeroed K) is)[j]? = some e → BecomesRun e →
        Justifies ((responder K).history (InterfaceContext.zeroed K) is) i j →
        Justifies ((responder K).history (InterfaceContext.zeroed K) is) i j' → ¬ j < j' := by
      rintro i j j' e hj hrun ⟨hij, -⟩ ⟨-, -, -, -, -, -, hbetween⟩ hlt
      obtain ⟨he, -⟩ := (responder K).event_of_getElem? hj
      rw [he] at hrun
      have hsucc := (start_of_becomesRun hrun).2.1
      rw [← he] at hsucc
      exact hbetween j e hij hlt hj (.inr (.inl hsucc))
    intro i j j' e e' hj hj' hrun hrun' hjust hjust'
    have h1 := hearlier i j j' e hj hrun hjust hjust'
    have h2 := hearlier i j' j e' hj' hrun' hjust' hjust
    omega

/-- A request to interface 7 of the sample format, handled with a fixed random nonce. -/
private def sampleInput (r : Request) (body : Bytes) : Input PciTdisp.sample where
  request := PciTdisp.sample.header.encode ⟨0x10, PciTdisp.sample.requestType r, ⟨7, 0⟩⟩ ++ body
  env := ⟨some (Vector.replicate 32 5), jsonSupportOff⟩

/-- Version, lock and a start with the returned nonce: the last step enters `RUN` and is
justified. -/
theorem run_is_justified_by_one_lock_sample :
    ∃ e, ((responder PciTdisp.sample).history (InterfaceContext.zeroed _)
        [sampleInput .getVersion [], sampleInput .lockInterface (List.replicate 20 0),
          sampleInput .startInterface (List.replicate 32 5)])[2]? = some e ∧
      BecomesRun e ∧ StartsBound e ∧
      ∃ i, Justifies ((responder PciTdisp.sample).history (InterfaceContext.zeroed _)
        [sampleInput .getVersion [], sampleInput .lockInterface (List.replicate 20 0),
          sampleInput .startInterface (List.replicate 32 5)]) i 2 := by
  refine ⟨_, rfl, ?_, (run_is_justified_by_one_lock _).1 2 _ rfl ?_⟩
  · exact ⟨by decide, by decide⟩
  · exact ⟨by decide, by decide⟩

end SpdmEmu.Tdisp
