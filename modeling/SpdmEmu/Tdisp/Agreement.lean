import SpdmEmu.Run.Shared
import SpdmEmu.Tdisp.ReportForm
import SpdmEmu.Tdisp.ReportLock
import SpdmEmu.Tdisp.Session

/-!
# What a started interface was attested with

A requester locks an interface, reads its report in portions, decides, and starts the interface with
the nonce of the lock. Other requests reach the responder in between: they may stop the interface
and lock it again, reset it, read the report. The start is to be safe against all of them: if it
succeeds, the report that the requester has read is the report of the lock that it is about to
start, and the parameters of that lock are the requester's.

`session_agreement` says so for every interleaving, as long as no nonce is used twice. The argument
goes through the history of the responder. A start with the nonce of a lock succeeds only while that
lock is in force (`LockedBy`), so nothing since ended it, so nothing since changed the report
(`keptSinceLock_step`), so every portion that was served came from it (`truthful_sharedLink`).
-/

set_option autoImplicit false

namespace SpdmEmu.Tdisp

open SpdmEmu.Wire SpdmEmu.Libspdm SpdmEmu.Report SpdmEmu.Run

variable {K : PciTdisp}

/-- The responder as one of several requesters finds it. -/
abbrev SharedResponder (K : PciTdisp) := Shared (InterfaceContext K) (Input K) Reply

/-- The link to a responder that others use too. -/
def sharedLink (schedule : Schedule (Input K) (Environment K)) : SendReceive (SharedResponder K) :=
  directLink fun s request => s.ask (responder K) schedule fun env => ⟨request, env⟩

/-- The report loader says no more than the report buffer holds. -/
def Environment.Sound (env : Environment K) : Prop :=
  ∀ report size, (env.loadFromJson report size).1 = true →
    (env.loadFromJson report size).2.2.toNat ≤ interfaceReportMaxSize

/-- Every turn of the schedule has sound environments. -/
def SoundSchedule (schedule : Schedule (Input K) (Environment K)) : Prop :=
  ∀ n, (∀ i ∈ (schedule n).others, i.env.Sound) ∧ (schedule n).env.Sound

/-- What the device meets while it handles a request: random bytes, if there are any, and what is
read from the report file. -/
structure DeviceFacts (K : PciTdisp) where
  random : Option (Vector UInt8 K.startInterfaceNonceSize)
  document : Option JsonValue

/-- The device's surroundings, with the report loader of the repository. -/
def DeviceFacts.environment (L : ReportLayout) (facts : DeviceFacts K) : Environment K :=
  ⟨facts.random, jsonLoader L facts.document⟩

/-- A schedule of requests, with what the device meets at each of them. -/
def jsonSchedule (L : ReportLayout) (schedule : Schedule (Bytes × DeviceFacts K) (DeviceFacts K)) :
    Schedule (Input K) (Environment K) := fun n =>
  { others := (schedule n).others.map fun other => ⟨other.1, other.2.environment L⟩
    env := (schedule n).env.environment L }

/-- The loader keeps to the report buffer. -/
theorem DeviceFacts.sound (L : ReportLayout) (facts : DeviceFacts K) :
    (facts.environment L).Sound := by
  intro report size hload
  obtain ⟨root, ranges, info, r, -, hloaded⟩ := loaded_of_true hload
  exact (hloaded.parses (by decide)).1.trans_le hloaded.length_le

theorem soundSchedule_jsonSchedule (L : ReportLayout)
    (schedule : Schedule (Bytes × DeviceFacts K) (DeviceFacts K)) :
    SoundSchedule (jsonSchedule L schedule) := by
  intro n
  refine ⟨fun i hi => ?_, DeviceFacts.sound L _⟩
  obtain ⟨other, -, rfl⟩ := List.mem_map.1 hi
  exact DeviceFacts.sound L _

/-- No nonce was returned by two locks. -/
def FreshNonces (H : List (ResponderEvent K)) : Prop :=
  ∀ (i j : Nat) (l l' : ResponderEvent K) (nonce : Vector UInt8 K.startInterfaceNonceSize),
    H[i]? = some l → H[j]? = some l' → LockReturned nonce l → LockReturned nonce l' → i = j

/-- The requester's lock at `i` and its start at `j`, which is the one that the lock allows, with
the report and the parameters that the interface then runs with. -/
structure StartedAsAttested (s : SharedResponder K) (nonce : Vector UInt8 K.startInterfaceNonceSize)
    (param : Vector UInt8 K.lockInterfaceParamSize) (report : Bytes) (i j : Nat)
    (l e : ResponderEvent K) : Prop where
  lock_own : i ∈ s.own
  start_own : j ∈ s.own
  order : i < j
  lock_at : s.history[i]? = some l
  start_at : s.history[j]? = some e
  lock : LockReturned nonce l
  start : BecomesRun e
  nonce_eq : startNonce e = nonce
  between : ∀ k x, i < k → k < j → s.history[k]? = some x → ¬ EndsLock x
  report_lock : l.after.report = report
  report_start : e.after.report = report
  param_start : e.after.lockInterfaceParam = param

/-! ## What the answers of the responder say -/

/-- A response is a success message of some kind unless it is an error status. -/
theorem reply_cases {env : Environment K} {ctx ctx' : InterfaceContext K} {request : Bytes}
    {reply : Reply} (h : Effect env ctx request reply ctx') :
    reply.status.isError = true ∨ ∃ kind, Answers K request kind reply := by
  cases h with
  | dropped _ => exact .inl rfl
  | rejected ha => exact .inr ⟨_, ha⟩
  | noEntropy _ _ _ _ ha => exact .inr ⟨_, ha⟩
  | version _ => exact .inr ⟨_, _, rfl⟩
  | capabilities _ _ => exact .inr ⟨_, _, rfl⟩
  | lock _ _ _ _ => exact .inr ⟨_, _, rfl⟩
  | report _ _ _ => exact .inr ⟨_, _, rfl⟩
  | state _ _ => exact .inr ⟨_, _, rfl⟩
  | start _ _ _ _ _ => exact .inr ⟨_, _, rfl⟩
  | stop _ _ _ => exact .inr ⟨_, _, rfl⟩

/-- Only a lock answers as a lock. -/
theorem lock_of_answers {env : Environment K} {ctx ctx' : InterfaceContext K} {request : Bytes}
    {reply : Reply} (h : Effect env ctx request reply ctx')
    (ha : Answers K request .lockInterface reply) :
    ∃ nonce, reply = ⟨.success, some (message K (K.header.decode request) .lockInterface
        (K.lockInterfaceResponse.encode nonce))⟩ ∧
      (K.header.decode request).messageType = K.requestType .lockInterface ∧
      env.random = some nonce ∧
      ctx' = generateReport env
        { ctx with
          lockInterfaceParam := K.lockInterfaceRequest.decode (request.drop K.header.size)
          startInterfaceNonce := nonce
          tdiState := K.tdiState .configLocked } := by
  cases h with
  | dropped _ => obtain ⟨_, h⟩ := ha; cases h
  | rejected hb => cases kind_unique ha hb
  | noEntropy _ _ _ _ hb => cases kind_unique ha hb
  | version _ => cases kind_unique ha ⟨_, rfl⟩
  | capabilities _ _ => cases kind_unique ha ⟨_, rfl⟩
  | lock htype _ _ hrandom => exact ⟨_, rfl, htype, hrandom, rfl⟩
  | report _ _ _ => cases kind_unique ha ⟨_, rfl⟩
  | state _ _ => cases kind_unique ha ⟨_, rfl⟩
  | start _ _ _ _ _ => cases kind_unique ha ⟨_, rfl⟩
  | stop _ _ _ => cases kind_unique ha ⟨_, rfl⟩

/-- Only a start answers as a start. -/
theorem start_of_answers {env : Environment K} {ctx ctx' : InterfaceContext K} {request : Bytes}
    {reply : Reply} (h : Effect env ctx request reply ctx')
    (ha : Answers K request .startInterface reply) :
    ctx.tdiState = K.tdiState .configLocked ∧
      K.startInterfaceRequest.decode (request.drop K.header.size) = ctx.startInterfaceNonce ∧
      ctx' = { ctx with tdiState := K.tdiState .run } := by
  cases h with
  | dropped _ => obtain ⟨_, h⟩ := ha; cases h
  | rejected hb => cases kind_unique ha hb
  | noEntropy _ _ _ _ hb => cases kind_unique ha hb
  | version _ => cases kind_unique ha ⟨_, rfl⟩
  | capabilities _ _ => cases kind_unique ha ⟨_, rfl⟩
  | lock _ _ _ _ => cases kind_unique ha ⟨_, rfl⟩
  | report _ _ _ => cases kind_unique ha ⟨_, rfl⟩
  | state _ _ => cases kind_unique ha ⟨_, rfl⟩
  | start _ _ _ hlocked hnonce => exact ⟨hlocked, hnonce, rfl⟩
  | stop _ _ _ => cases kind_unique ha ⟨_, rfl⟩

/-- Only a served portion answers as a report. -/
theorem report_of_answers {env : Environment K} {ctx ctx' : InterfaceContext K} {request : Bytes}
    {reply : Reply} (h : Effect env ctx request reply ctx')
    (ha : Answers K request .deviceInterfaceReport reply) :
    ∃ portion remainder bytes,
      servePortion interfaceReportPortionLen ctx.interfaceReport.toList ctx.interfaceReportSize
        (K.getDeviceInterfaceReportRequest.decode (request.drop K.header.size)).offset
        (K.getDeviceInterfaceReportRequest.decode (request.drop K.header.size)).length =
          some (portion, remainder, bytes) ∧
      reply = ⟨.success, some (message K (K.header.decode request) .deviceInterfaceReport
        (K.deviceInterfaceReportResponse.encode ⟨portion, remainder⟩ ++ bytes))⟩ := by
  cases h with
  | dropped _ => obtain ⟨_, h⟩ := ha; cases h
  | rejected hb => cases kind_unique ha hb
  | noEntropy _ _ _ _ hb => cases kind_unique ha hb
  | version _ => cases kind_unique ha ⟨_, rfl⟩
  | capabilities _ _ => cases kind_unique ha ⟨_, rfl⟩
  | lock _ _ _ _ => cases kind_unique ha ⟨_, rfl⟩
  | report _ _ hserve => exact ⟨_, _, _, hserve, rfl⟩
  | state _ _ => cases kind_unique ha ⟨_, rfl⟩
  | start _ _ _ _ _ => cases kind_unique ha ⟨_, rfl⟩
  | stop _ _ _ => cases kind_unique ha ⟨_, rfl⟩

/-! ## While a lock is in force -/

/-- The contexts are the same up to the requester's capabilities, which no function reads. -/
def InterfaceContext.Alike (c ctx : InterfaceContext K) : Prop :=
  ∃ caps, ctx = { c with tdispReqCaps := caps }

/-- A step from the locked state that ends no lock changes at most the requester's capabilities. -/
theorem kept_of_not_endsLock {ctx : InterfaceContext K} {i : Input K}
    (hlocked : ctx.tdiState = K.tdiState .configLocked)
    (hends : ¬ EndsLock ((responder K).event ctx i)) :
    ctx.Alike ((responder K).step ctx i).2 := by
  have heff := effect_responder ctx i
  have hout : ((responder K).event ctx i).output = ((responder K).step ctx i).1 := rfl
  have hin : ((responder K).event ctx i).input = i := rfl
  generalize (responder K).event ctx i = e at hout hin hends
  generalize ((responder K).step ctx i).1 = reply at heff hout
  generalize ((responder K).step ctx i).2 = ctx' at heff ⊢
  subst hin
  -- what would change more is a success that ends the lock, or needs the unlocked state
  cases heff with
  | dropped _ => exact ⟨_, rfl⟩
  | rejected _ => exact ⟨_, rfl⟩
  | capabilities _ _ => exact ⟨_, rfl⟩
  | report _ _ _ => exact ⟨_, rfl⟩
  | state _ _ => exact ⟨_, rfl⟩
  | version htype =>
      exact absurd (.inr (.inr (.inr ⟨htype, _, hout⟩))) hends
  | lock htype _ _ _ => exact absurd (.inl ⟨htype, _, hout⟩) hends
  | start htype _ _ _ _ => exact absurd (.inr (.inl ⟨htype, _, hout⟩)) hends
  | stop htype _ _ => exact absurd (.inr (.inr (.inl ⟨htype, _, hout⟩))) hends
  | noEntropy _ _ hunlocked _ _ =>
      rw [hlocked, PciTdisp.tdiState_inj] at hunlocked
      cases hunlocked

/-- As long as nothing ended it, a successful lock is still what the interface is in. -/
def KeptSinceLock (H : List (ResponderEvent K)) (ctx : InterfaceContext K) : Prop :=
  ∀ (i : Nat) (l : ResponderEvent K), H[i]? = some l → Succeeded .lockInterface l →
    (∀ (k : Nat) (x : ResponderEvent K), i < k → H[k]? = some x → ¬ EndsLock x) →
    ctx.tdiState = K.tdiState .configLocked ∧ l.after.Alike ctx

theorem keptSinceLock_step (H : List (ResponderEvent K)) (ctx : InterfaceContext K) (i : Input K)
    (h : KeptSinceLock H ctx) :
    KeptSinceLock (H ++ [(responder K).event ctx i]) ((responder K).step ctx i).2 := by
  intro p l hp hlock hlater
  rcases Nat.lt_or_ge p H.length with hlt | hge
  · -- an earlier lock: the new event does not end it
    rw [List.getElem?_append_left hlt] at hp
    obtain ⟨hlocked, caps, hctx⟩ := h p l hp hlock fun k x hk hx =>
      hlater k x hk (by
        rw [List.getElem?_append_left (List.getElem?_eq_some_iff.1 hx).1]
        exact hx)
    have hlast : ¬ EndsLock ((responder K).event ctx i) := hlater H.length _ hlt (by simp)
    obtain ⟨caps', hafter⟩ := kept_of_not_endsLock hlocked hlast
    rw [hafter]
    exact ⟨hlocked, caps', by rw [hctx]⟩
  · -- the new event is the lock
    rw [List.getElem?_append_right hge] at hp
    have hl : l = (responder K).event ctx i := List.mem_singleton.1 (List.mem_of_getElem? hp)
    subst hl
    obtain ⟨nonce, -, -, -, hafter⟩ := lock_of_answers (effect_responder ctx i) hlock.2
    refine ⟨?_, _, rfl⟩
    rw [hafter, generateReport_tdiState]

/-- The report size is inside the buffer as long as the loader keeps to it. -/
theorem sizeBounded_step (ctx : InterfaceContext K) (i : Input K) (hsound : i.env.Sound)
    (h : ctx.interfaceReportSize.toNat ≤ interfaceReportMaxSize) :
    ((responder K).step ctx i).2.interfaceReportSize.toNat ≤ interfaceReportMaxSize := by
  have heff := effect_responder ctx i
  generalize ((responder K).step ctx i).1 = reply at heff
  generalize ((responder K).step ctx i).2 = ctx' at heff ⊢
  cases heff with
  | dropped _ => exact h
  | rejected _ => exact h
  | version _ => exact Nat.zero_le _
  | capabilities _ _ => exact h
  | noEntropy _ _ _ _ _ => exact h
  | report _ _ _ => exact h
  | state _ _ => exact h
  | start _ _ _ _ _ => exact h
  | stop _ _ _ => exact h
  | lock _ _ _ _ =>
      rw [generateReport]
      dsimp only
      split_ifs with hload
      · exact hsound _ _ hload
      · have hle := K.interfaceReport_size_le
        have hmax : interfaceReportMaxSize = 0x1000 := rfl
        rw [UInt16.toNat_ofNat_of_lt' (by
          show K.interfaceReport.size < 65536
          omega)]
        exact hle

/-! ## The shared link -/

section Link

variable {schedule : Schedule (Input K) (Environment K)} {s s' : SharedResponder K}

/-- The requester's event at its next turn. -/
def requestEvent (schedule : Schedule (Input K) (Environment K)) (s : SharedResponder K)
    (request : Bytes) : ResponderEvent K :=
  s.ownEvent (responder K) schedule fun env => ⟨request, env⟩

theorem effect_requestEvent (schedule : Schedule (Input K) (Environment K))
    (s : SharedResponder K) (request : Bytes) :
    Effect (schedule s.own.length).env (s.wait (responder K) schedule).state request
      (requestEvent schedule s request).output (requestEvent schedule s request).after :=
  effect_pciTdispGetResponse _ _ _

theorem sharedLink_snd (request : Bytes) (capacity : Nat) :
    (sharedLink schedule s request capacity).2 =
      (s.ask (responder K) schedule fun env => ⟨request, env⟩).2 :=
  directLink_snd _ _ _ _

/-- What arrives over the link is the message of the requester's own event. -/
theorem message_of_sharedLink {request : Bytes} {capacity : Nat} {x : Exchange}
    (h : sharedLink schedule s request capacity = (x, s')) (hx : x.status.isError = false) :
    ∃ kind body, (requestEvent schedule s request).output =
        ⟨.success, some (message K (K.header.decode request) kind body)⟩ ∧
      x.response = message K (K.header.decode request) kind body := by
  obtain ⟨hstatus, hresponse⟩ := response_of_directLink h hx
  have hreply : (s.ask (responder K) schedule fun env => ⟨request, env⟩).1 =
      (requestEvent schedule s request).output := rfl
  rw [hreply] at hstatus hresponse
  rcases reply_cases (effect_requestEvent schedule s request) with herror | ⟨kind, body, hbody⟩
  · rw [herror] at hstatus
    cases hstatus
  · refine ⟨kind, body, hbody, ?_⟩
    rw [hresponse, hbody]
    rfl

/-- A requester that succeeds has its request answered in the history. -/
theorem exchange_sharedLink {γ : Type} {r : Request} {interfaceId : InterfaceId} {body : Bytes}
    {capacity : Nat} {out : Packed γ} {a : γ}
    (h : exchangeMessage K (sharedLink schedule) r interfaceId body capacity out s = (.ok a, s')) :
    s' = (s.ask (responder K) schedule fun env =>
        ⟨requestMessage K r interfaceId body, env⟩).2 ∧
      ∃ answer, (requestEvent schedule s (requestMessage K r interfaceId body)).output =
          ⟨.success, some (message K (K.header.decode (requestMessage K r interfaceId body))
            r.response answer)⟩ ∧
        a = out.decode answer := by
  obtain ⟨x, hsend, haccepted, rfl⟩ := exchangeMessage_ok_iff.1 h
  obtain ⟨kind, answer, hout, hresponse⟩ := message_of_sharedLink hsend haccepted.status
  have hlink : s' = (sharedLink schedule s (requestMessage K r interfaceId body) capacity).2 := by
    rw [hsend]
  refine ⟨hlink.trans (sharedLink_snd _ _), answer, ?_, ?_⟩
  · -- the type in the header is that of the expected response
    have htype := haccepted.messageType
    rw [hresponse, message, Packed.decode_encode_append] at htype
    rw [hout, K.responseType_inj.1 htype]
  · rw [hresponse, message, Packed.drop_encode_append]

/-- What holds of the link after the lock at `p`. -/
def AfterLock (p : Nat) (l : ResponderEvent K) (s : SharedResponder K) : Prop :=
  Shared.Reached (responder K) (fun i => i.env.Sound) (InterfaceContext.zeroed K) s ∧
    s.history[p]? = some l

/-- Nothing has ended the lock at `p`. -/
def InForce (p : Nat) (s : SharedResponder K) : Prop :=
  ∀ (k : Nat) (x : ResponderEvent K), p < k → s.history[k]? = some x → ¬ EndsLock x

theorem InForce.of_extends {p : Nat} (h : InForce p s') (hext : Shared.Extends s s') :
    InForce p s :=
  fun k x hk hx => h k x hk (hext.getElem? hx)

theorem reached_ask (hsound : SoundSchedule schedule)
    (h : Shared.Reached (responder K) (fun i => i.env.Sound) (InterfaceContext.zeroed K) s)
    (request : Bytes) :
    Shared.Reached (responder K) (fun i => i.env.Sound) (InterfaceContext.zeroed K)
      (s.ask (responder K) schedule fun env => ⟨request, env⟩).2 :=
  h.ask (fun n => (hsound n).1) (hsound _).2

theorem AfterLock.wait (hsound : SoundSchedule schedule) {p : Nat} {l : ResponderEvent K}
    (h : AfterLock p l s) : AfterLock p l (s.wait (responder K) schedule) :=
  ⟨h.1.wait fun n => (hsound n).1, (Shared.Extends.wait s).getElem? h.2⟩

/-- While the lock at `p` is in force, the context is what the lock left. -/
theorem AfterLock.kept {p : Nat} {l : ResponderEvent K} (h : AfterLock p l s)
    (hlock : Succeeded .lockInterface l) (hforce : InForce p s) :
    s.state.tdiState = K.tdiState .configLocked ∧
      l.after.Alike s.state ∧
      s.state.interfaceReportSize.toNat ≤ interfaceReportMaxSize := by
  have hkept : KeptSinceLock s.history s.state :=
    h.1.invariant KeptSinceLock (fun H ctx i _ hk => keptSinceLock_step H ctx i hk)
      (fun i l hi => by simp at hi)
  have hsize : s.state.interfaceReportSize.toNat ≤ interfaceReportMaxSize :=
    h.1.invariant (fun _ ctx => ctx.interfaceReportSize.toNat ≤ interfaceReportMaxSize)
      (fun _ ctx i hi hs => sizeBounded_step ctx i hi hs) (Nat.zero_le _)
  obtain ⟨hlocked, hctx⟩ := hkept p l h.2 hlock hforce
  exact ⟨hlocked, hctx, hsize⟩

/-- Serving from the report alone is serving from the whole buffer with the report size. -/
theorem servePortion_report {ctx : InterfaceContext K}
    (hsize : ctx.interfaceReportSize.toNat ≤ interfaceReportMaxSize) (offset length : UInt16) :
    servePortion interfaceReportPortionLen ctx.report (UInt16.ofNat ctx.report.length) offset
        length =
      servePortion interfaceReportPortionLen ctx.interfaceReport.toList ctx.interfaceReportSize
        offset length := by
  rw [length_report hsize, UInt16.ofNat_toNat, InterfaceContext.report, servePortion_take]

/-- **The link is truthful about the report of a lock** as long as the lock is in force. -/
theorem truthful_sharedLink (hsound : SoundSchedule schedule) {p : Nat} {l : ResponderEvent K}
    (hlock : Succeeded .lockInterface l) (functionId : UInt32) :
    Truthful (interfaceReportProtocol K functionId) (sharedLink schedule) l.after.report
      (AfterLock p l) (InForce p) where
  keeps := by
    intro s request capacity h
    rw [sharedLink_snd]
    exact ⟨reached_ask hsound h.1 request, (Shared.Extends.ask s _).getElem? h.2⟩
  before := by
    intro s request capacity _ hforce
    rw [sharedLink_snd] at hforce
    exact hforce.of_extends (Shared.Extends.ask s _)
  portion := by
    intro s offset length x s' h hsend hforce hstatus _ haccepted
    obtain ⟨kind, body, hout, hresponse⟩ := message_of_sharedLink hsend hstatus
    generalize hrequest : (interfaceReportProtocol K functionId).request offset length = request
      at hsend hout hresponse
    have hrange : K.getDeviceInterfaceReportRequest.decode (request.drop K.header.size) =
        ⟨offset, length⟩ := by
      rw [← hrequest]
      simp [interfaceReportProtocol]
    -- the accepted type is that of a report, so it is a portion of the context's report
    have hkind : kind = .deviceInterfaceReport := by
      simp only [interfaceReportProtocol, hresponse, message, Packed.decode_encode_append,
        Bool.and_eq_true, beq_iff_eq] at haccepted
      exact K.responseType_inj.1 haccepted.1.2
    subst hkind
    obtain ⟨portion, remainder, bytes, hserve, hreply⟩ :=
      report_of_answers (effect_requestEvent schedule s request) ⟨body, hout⟩
    have hbody : body = K.deviceInterfaceReportResponse.encode ⟨portion, remainder⟩ ++ bytes := by
      rw [hout] at hreply
      simpa [message] using hreply
    -- before the request the context was still that of the lock
    have hlink : s' = (s.ask (responder K) schedule fun env => ⟨request, env⟩).2 := by
      rw [← sharedLink_snd, hsend]
    have hwait : InForce p (s.wait (responder K) schedule) := by
      rw [hlink] at hforce
      exact hforce.of_extends (Shared.Extends.wait_ask s _)
    obtain ⟨-, ⟨caps, hctx⟩, hsize⟩ := (h.wait hsound).kept hlock hwait
    have hreport : l.after.report = (s.wait (responder K) schedule).state.report := by
      rw [hctx]
      rfl
    have hlimit : (interfaceReportProtocol K functionId).portionLen = interfaceReportPortionLen :=
      rfl
    rw [hrange] at hserve
    rw [hreport, hlimit, servePortion_report hsize, hserve, hresponse, hbody]
    simp only [interfaceReportProtocol, message, Packed.drop_encode_append,
      Packed.decode_encode_append, ← List.drop_drop]

@[simp] theorem generateReport_lockInterfaceParam (env : Environment K)
    (ctx : InterfaceContext K) :
    (generateReport env ctx).lockInterfaceParam = ctx.lockInterfaceParam := by
  unfold generateReport
  dsimp only
  split <;> rfl

/-- The requester's lock, in the history. -/
theorem lock_sharedLink {interfaceId : InterfaceId}
    {param : Vector UInt8 K.lockInterfaceParamSize}
    {nonce : Vector UInt8 K.startInterfaceNonceSize}
    (h : pciTdispLockInterface K (sharedLink schedule) interfaceId param s = (.ok nonce, s')) :
    ∃ i l, s'.history[i]? = some l ∧ i ∈ s'.own ∧ LockReturned nonce l ∧
      l.after.lockInterfaceParam = param := by
  obtain ⟨rfl, answer, hout, rfl⟩ := exchange_sharedLink h
  obtain ⟨nonce, hreply, htype, -, hafter⟩ :=
    lock_of_answers (effect_requestEvent schedule s _) ⟨answer, hout⟩
  refine ⟨_, _, Shared.getElem?_ask s _, Shared.mem_own_ask s _, ⟨htype, ?_⟩, ?_⟩
  · have hanswer : answer = K.lockInterfaceResponse.encode nonce := by
      rw [hout] at hreply
      simpa [message, Request.response] using hreply
    rw [hanswer, Packed.decode_encode]
    exact hreply
  · refine (congrArg InterfaceContext.lockInterfaceParam hafter).trans ?_
    simp [requestMessage]

/-- The requester's start, in the history: it found its own nonce and the locked state. -/
theorem start_sharedLink {interfaceId : InterfaceId}
    {nonce : Vector UInt8 K.startInterfaceNonceSize}
    (h : pciTdispStartInterface K (sharedLink schedule) interfaceId nonce s = (.ok (), s')) :
    Shared.Extends (s.wait (responder K) schedule) s' ∧
    ∃ e, s'.history[(s.wait (responder K) schedule).history.length]? = some e ∧
      (s.wait (responder K) schedule).history.length ∈ s'.own ∧ startNonce e = nonce ∧
      (s.wait (responder K) schedule).state.tdiState = K.tdiState .configLocked ∧
      (s.wait (responder K) schedule).state.startInterfaceNonce = nonce ∧
      e.before = (s.wait (responder K) schedule).state ∧
      e.after = { (s.wait (responder K) schedule).state with tdiState := K.tdiState .run } := by
  obtain ⟨rfl, answer, hout, -⟩ := exchange_sharedLink h
  obtain ⟨hlocked, hnonce, hafter⟩ :=
    start_of_answers (effect_requestEvent schedule s _) ⟨answer, hout⟩
  have hpresented : startNonce (requestEvent schedule s (requestMessage K .startInterface
      interfaceId (K.startInterfaceRequest.encode nonce))) = nonce := by
    show K.startInterfaceRequest.decode ((requestMessage K .startInterface interfaceId
      (K.startInterfaceRequest.encode nonce)).drop K.header.size) = nonce
    simp [requestMessage]
  exact ⟨Shared.Extends.wait_ask s _, _, Shared.getElem?_ask s _, Shared.mem_own_ask s _,
    hpresented, hlocked, hnonce.symm.trans hpresented, rfl, hafter⟩

end Link

/-! ## The session -/

section Session

variable {schedule : Schedule (Input K) (Environment K)}

/-- The link between two calls of the session: reached by a run, and later than `s₀`. -/
def LaterThan (s₀ s : SharedResponder K) : Prop :=
  Shared.Reached (responder K) (fun i => i.env.Sound) (InterfaceContext.zeroed K) s ∧
    Shared.Extends s₀ s

/-- Every exchange leads to a later point of the same run. -/
theorem laterThan_sharedLink (hsound : SoundSchedule schedule) (s₀ : SharedResponder K) :
    ∀ (s : SharedResponder K) (request : Bytes) (capacity : Nat), LaterThan s₀ s →
      LaterThan s₀ (sharedLink schedule s request capacity).2 := by
  intro s request capacity h
  rw [sharedLink_snd]
  exact ⟨reached_ask hsound h.1 request, h.2.trans (Shared.Extends.ask s _)⟩

/-- The lock behind a locked interface, at every point of the run. -/
theorem lockedBy_of_reached {s : SharedResponder K}
    (h : Shared.Reached (responder K) (fun i => i.env.Sound) (InterfaceContext.zeroed K) s) :
    LockedBy s.history s.state :=
  h.invariant LockedBy (fun _ _ i _ hlocked => lockedBy_step hlocked i)
    (lockedBy_of_not_locked .configUnlocked K.tdiState_configUnlocked.symm (by decide))

/-- Where the interface is locked with the nonce of the lock at `p`, that lock is in force. -/
theorem inForce_of_nonce {s s' : SharedResponder K} {p : Nat} {l : ResponderEvent K}
    (h : AfterLock p l s) (hext : Shared.Extends s s') (hfresh : FreshNonces s'.history)
    (hlock : LockReturned s.state.startInterfaceNonce l)
    (hlocked : s.state.tdiState = K.tdiState .configLocked) : InForce p s := by
  obtain ⟨i, l', hi, hlock', hlater⟩ := lockedBy_of_reached h.1 hlocked
  -- both locks returned the stored nonce
  have hip : i = p := hfresh i p l' l _ (hext.getElem? hi) (hext.getElem? h.2) hlock' hlock
  intro k x hk hx
  exact hlater k x (hip ▸ hk) hx

/-- The three calls that matter, with the states of the link around them. -/
theorem startedAsAttested_of_calls {setup : SessionSetup K} (hsound : SoundSchedule schedule)
    {param : Vector UInt8 K.lockInterfaceParamSize}
    {nonce : Vector UInt8 K.startInterfaceNonceSize} {buffer : Mem} {size : UInt32}
    {walk : Traced Report} {a b c d f s' : SharedResponder K}
    (hlock : pciTdispLockInterface K (sharedLink schedule) sessionInterfaceId param a =
      (.ok nonce, b)) (hbc : LaterThan b c)
    (hreport : receiveReport setup (sharedLink schedule) c = (.ok (buffer, size, walk), d))
    (hbd : LaterThan b d)
    (hstart : pciTdispStartInterface K (sharedLink schedule) sessionInterfaceId nonce d =
      (.ok (), f)) (hend : Shared.Extends f s') (hfresh : FreshNonces s'.history) :
    ∃ i j l e, StartedAsAttested s' nonce param (buffer.load 0 size.toNat) i j l e := by
  -- the lock, and the start that found it in force
  obtain ⟨i, l, hi, hiown, hreturned, hparam⟩ := lock_sharedLink hlock
  have hsucceeded : Succeeded .lockInterface l := ⟨hreturned.1, _, hreturned.2⟩
  have hafterc : AfterLock i l c := ⟨hbc.1, hbc.2.getElem? hi⟩
  have hafterd : AfterLock i l d := ⟨hbd.1, hbd.2.getElem? hi⟩
  have hwait := hafterd.wait hsound
  obtain ⟨hext, e, he, heown, hpresented, hlocked, hnonce, hbefore, hafter⟩ :=
    start_sharedLink hstart
  have hforce := inForce_of_nonce hwait (hext.trans hend) hfresh (hnonce ▸ hreturned) hlocked
  obtain ⟨-, ⟨caps, hctx⟩, -⟩ := hwait.kept hsucceeded hforce
  -- so the report was served from that lock, to its end
  have hlength : l.after.report.length < 2 ^ 16 := by
    have hmax : interfaceReportMaxSize = 0x1000 := rfl
    rw [InterfaceContext.report, List.length_take, Vector.length_toList]
    omega
  obtain ⟨hsize, hload⟩ := getReport_of_truthful hlength
    (truthful_sharedLink hsound hsucceeded _) hafterc (receiveReport_ok hreport)
    (hforce.of_extends (Shared.Extends.wait d)) rfl
  dsimp only at hsize hload
  have hwaits : Shared.Extends (d.wait (responder K) schedule) s' := hext.trans hend
  have hilt : i < (d.wait (responder K) schedule).history.length :=
    (List.getElem?_eq_some_iff.1 hwait.2).1
  refine ⟨i, (d.wait (responder K) schedule).history.length, l, e, ?_⟩
  exact
    { lock_own := ((hbd.2.trans (Shared.Extends.wait d)).trans hwaits).mem_own hiown
      start_own := hend.mem_own heown
      order := hilt
      lock_at := hwaits.getElem? hwait.2
      start_at := hend.getElem? he
      lock := hreturned
      start := by
        refine ⟨?_, by rw [hafter]⟩
        rw [hbefore, hlocked]
        exact fun h => absurd (K.tdiState_inj.1 h) (by decide)
      nonce_eq := hpresented
      between := fun k x hk hkj hx => hforce k x hk (by rw [← hwaits.getElem?_of_lt hkj, hx])
      report_lock := by rw [hsize, hload]
      report_start := by
        rw [hsize, hload, hafter, hctx]
        rfl
      param_start := by rw [hafter, hctx, ← hparam] }

/-- A session that succeeds, with any report loader that keeps to the buffer. -/
theorem startedAsAttested_of_session {setup : SessionSetup K} (hsound : SoundSchedule schedule)
    {locals : SessionLocals K} {s' : SharedResponder K}
    (hrun : pciTdispProcessSessionMessage setup (sharedLink schedule)
      (Shared.start (InterfaceContext.zeroed K)) = (.ok locals, s'))
    (hfresh : FreshNonces s'.history) :
    ∃ i j l e, StartedAsAttested s' locals.startInterfaceNonce
      (setup.layout.lockInterfaceParam (sessionLockParam locals.rspCaps))
      (locals.interfaceReportBuffer.load 0 locals.interfaceReportSize.toNat) i j l e := by
  have hlink := laterThan_sharedLink hsound
  -- the link after each call, and that each is a later point of the same run
  obtain ⟨_, s₁, h₁, hrun⟩ := Flow.of_bind_ok hrun
  obtain ⟨rspCaps, s₂, h₂, hrun⟩ := Flow.of_bind_ok hrun
  obtain ⟨_, s₃, h₃, hrun⟩ := Flow.of_bind_ok hrun
  obtain ⟨nonce, s₄, h₄, hrun⟩ := Flow.of_bind_ok hrun
  obtain ⟨_, s₅, h₅, hrun⟩ := Flow.of_bind_ok hrun
  obtain ⟨⟨buffer, size, walk⟩, s₆, h₆, hrun⟩ := Flow.of_bind_ok hrun
  obtain ⟨_, s₇, h₇, hrun⟩ := Flow.of_bind_ok hrun
  obtain ⟨_, s₈, h₈, hrun⟩ := Flow.of_bind_ok hrun
  obtain ⟨_, s₉, h₉, hrun⟩ := Flow.of_bind_ok hrun
  obtain ⟨_, s₁₀, h₁₀, hrun⟩ := Flow.of_bind_ok hrun
  cases hrun
  have hr₀ : LaterThan (Shared.start (InterfaceContext.zeroed K))
      (Shared.start (InterfaceContext.zeroed K)) := ⟨Shared.Reached.start, Shared.Extends.refl _⟩
  have hr₁ := ((keeps_pciTdispGetVersion (hlink _) _).mapError _).ok hr₀ h₁
  have hr₂ := ((keeps_exchangeMessage (hlink _) _ _ _ _ _).mapError _).ok hr₁ h₂
  have hr₃ := (keeps_expectState (hlink _) _).ok hr₂ h₃
  have hr₄ := (((keeps_exchangeMessage (hlink _) _ _ _ _ _).mapError _).ok hr₃ h₄).1
  have hr₅ := (keeps_expectState (hlink s₄) _).ok ⟨hr₄, Shared.Extends.refl _⟩ h₅
  have hr₆ := (keeps_receiveReport (hlink s₄)).ok hr₅ h₆
  have hr₇ := (((keeps_exchangeMessage (hlink s₄) _ _ _ _ _).mapError _).ok hr₆ h₇).1
  have hr₈ := (keeps_expectState (hlink s₇) _).ok ⟨hr₇, Shared.Extends.refl _⟩ h₈
  have hr₉ := ((keeps_exchangeMessage (hlink s₇) _ _ _ _ _).mapError _).ok hr₈ h₉
  have hr₁₀ := (keeps_expectState (hlink s₇) _).ok hr₉ h₁₀
  exact startedAsAttested_of_calls hsound (Flow.of_mapError_ok h₄) hr₅ h₆ hr₆
    (Flow.of_mapError_ok h₇) hr₁₀.2 hfresh

/-- **A started interface runs with the report that its requester has read.** For every
interleaving of other requests with those of a session, from the zeroed context, and for all report
files: if the session succeeds and no nonce was returned twice, then the start is the requester's
own, the lock behind it is the requester's own, nothing has ended that lock in between, and the
report that the requester holds and the parameters that it asked for are those the interface runs
with. -/
theorem session_agreement (setup : SessionSetup K)
    (schedule : Schedule (Bytes × DeviceFacts K) (DeviceFacts K)) (locals : SessionLocals K)
    (s' : SharedResponder K)
    (hrun : pciTdispProcessSessionMessage setup (sharedLink (jsonSchedule setup.report schedule))
      (Shared.start (InterfaceContext.zeroed K)) = (.ok locals, s'))
    (hfresh : FreshNonces s'.history) :
    ∃ i j l e, StartedAsAttested s' locals.startInterfaceNonce
      (setup.layout.lockInterfaceParam (sessionLockParam locals.rspCaps))
      (locals.interfaceReportBuffer.load 0 locals.interfaceReportSize.toNat) i j l e :=
  startedAsAttested_of_session (soundSchedule_jsonSchedule setup.report schedule) hrun hfresh

end Session

end SpdmEmu.Tdisp
