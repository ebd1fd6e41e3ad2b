import SpdmEmu.Run.Shared
import SpdmEmu.Tsp.Session

/-!
# What a TSP session has agreed on

A primary session that succeeds has locked the device with its own configuration, and both sides
hold the same keys for the secondary sessions, whatever other sessions sent to the device before,
between and after its requests. The device never says which session is the primary one; the session
knows it from the answer to `SET_TARGET_CONFIGURATION`. From then on nobody else can change a
setting, and once the device is locked nobody at all.

A denial is no error status: the vendor dispatcher takes it for success and sends its whole response
buffer. The requester notices because the buffer is longer than any response it expects.
-/

set_option autoImplicit false

namespace SpdmEmu.Tsp

open SpdmEmu.Wire SpdmEmu.Libspdm SpdmEmu.Report SpdmEmu.Run

variable {K : CxlTsp}

/-! ## The device among other sessions -/

/-- What arrives of a reply in a response object of `capacity` bytes. When the handler reports no
error and writes nothing, it is the response buffer with what it held. -/
def arrives (buffer : Bytes) (reply : Reply) (capacity : Nat) : Exchange :=
  let m := reply.written.getD buffer
  if reply.status.isError then ⟨reply.status, []⟩
  else if capacity < m.length then ⟨.bufferTooSmall, []⟩
  else ⟨.success, m⟩

/-- The device as a session finds it, with the number of random numbers that were drawn and what
libspdm knows of each session. -/
structure Peer (K : CxlTsp) where
  shared : Shared (State K) Input Reply
  draws : Nat
  sessions : UInt32 → Environment

/-- How libspdm opens a session with a pre-shared key: from the key tables of the two sides and the
hint, the id of the session and what the responder knows of it. -/
abbrev PskStart (K : CxlTsp) :=
  (requester responder : PskTable K) → Bytes → Except ErrorStatus (UInt32 × Environment)

/-- What the sessions of a requester run on, besides the device. -/
structure Surroundings (K : CxlTsp) where
  /-- the requests of other sessions, and the response buffer at each turn -/
  schedule : Schedule Input Bytes
  random : Nat → (n : Nat) → Option (Vector UInt8 n)
  statusLowEntropy : ErrorStatus
  start : PskStart K
  stop : UInt32 → Except ErrorStatus Unit

/-- The input of a request on a session. -/
def Peer.input (s : Peer K) (sessionId : UInt32) (request : Bytes) : Input :=
  ⟨some sessionId, request, s.sessions sessionId⟩

/-- The sessions with the device of the sample library. -/
def peerHost (w : Surroundings K) : SessionHost K (Peer K) where
  sendReceive sessionId s request capacity :=
    let (reply, shared) :=
      s.shared.ask (responder K) w.schedule fun _ => s.input sessionId request
    (arrives (w.schedule s.shared.own.length).env reply capacity, { s with shared := shared })
  getRandomNumber n s := (w.random s.draws n, { s with draws := s.draws + 1 })
  statusLowEntropy := w.statusLowEntropy
  startSession table pskHint s :=
    match w.start table s.shared.state.secondSessionPsk pskHint with
    | .ok (sessionId, env) =>
        (.ok sessionId,
          { s with sessions := fun id => if id = sessionId then env else s.sessions id })
    | .error status => (.error status, s)
  stopSession sessionId s := (w.stop sessionId, s)

/-- No response object of the requester has room for the response buffer. -/
def Oversized (K : CxlTsp) (buffer : Bytes) : Prop :=
  errorMessageMaxSize K < buffer.length ∧
    K.header.size + K.getConfigurationResponse.size < buffer.length

/-! ## One exchange -/

section Exchange

variable {w : Surroundings K} {sessionId : UInt32} {s s' : Peer K} {request : Bytes}
  {capacity : Nat} {x : Exchange}

/-- The state in which the device takes the request of a session. -/
def Peer.atTurn (w : Surroundings K) (s : Peer K) : State K :=
  (s.shared.wait (responder K) w.schedule).state

/-- A response that arrives was written for this request. -/
theorem written_of_arrives {buffer : Bytes} {reply : Reply} (hbuffer : capacity < buffer.length)
    (h : (arrives buffer reply capacity).status.isError = false) :
    reply.written = some (arrives buffer reply capacity).response := by
  unfold arrives at h ⊢
  cases hwritten : reply.written with
  | none =>
      simp only [hwritten, Option.getD_none, if_pos hbuffer] at h
      split at h
      · simp_all
      · cases h
  | some m =>
      simp only [hwritten, Option.getD_some] at h ⊢
      split_ifs at h ⊢ with herror hroom
      · simp_all
      · cases h
      · rfl

/-- A reply with a message answers with some kind of message. -/
theorem answers_of_written {source : ReportSource K} {env : Environment} {d d' : State K}
    {session : SessionId} {reply : Reply} {m : Bytes}
    (heffect : Effect source env d session request reply d') (h : reply.written = some m) :
    ∃ kind, Answers K request kind reply ∧ (K.header.decode m).opCode = K.responseOpCode kind := by
  have hanswers : ∃ kind, Answers K request kind reply := by
    cases heffect with
    | dropped _ => cases h
    | unsupported _ => cases h
    | denied _ _ => cases h
    | rejected _ _ hanswer => exact ⟨_, hanswer⟩
    | reportRejected _ _ hanswer => exact ⟨_, hanswer⟩
    | _ => exact ⟨_, answers_success⟩
  obtain ⟨kind, body, rfl⟩ := hanswers
  cases h
  refine ⟨kind, ⟨body, rfl⟩, ?_⟩
  rw [message, Packed.decode_encode_append]

/-- **An accepted response is the answer of the device to this request.** -/
theorem answers_of_sendReceive {kind : Response}
    (hbuffer : ∀ n, capacity < (w.schedule n).env.length)
    (hsend : (peerHost w).sendReceive sessionId s request capacity = (x, s'))
    (haccepted : AcceptedResponse K kind x) :
    Answers K request kind
        ((responder K).step (s.atTurn w) (s.input sessionId request)).1 ∧
      ((responder K).step (s.atTurn w) (s.input sessionId request)).1.written =
        some x.response := by
  have hx : x = arrives (w.schedule s.shared.own.length).env
      ((responder K).step (s.atTurn w) (s.input sessionId request)).1 capacity :=
    (congrArg Prod.fst hsend).symm
  rw [hx] at haccepted ⊢
  have hwritten := written_of_arrives (hbuffer _) haccepted.status
  obtain ⟨kind', hanswers, hcode'⟩ :=
    answers_of_written (effect_responder (s.atTurn w) (s.input sessionId request)) hwritten
  have hkind : kind' = kind := K.responseOpCode_inj.1 (hcode'.symm.trans haccepted.opCode)
  exact ⟨hkind ▸ hanswers, hwritten⟩

end Exchange

/-! ## What nobody else changes -/

/-- The session is the primary one, and the settings have the property `Φ`. -/
structure Holds (sessionId : UInt32) (Φ : Settings K → Prop) (d : State K) : Prop where
  fresh : FreshUnlessBound d
  primary : d.primarySession = some sessionId
  settings : Φ d.settings

section Holds

variable {sessionId : UInt32} {Φ : Settings K → Prop} {d : State K}

/-- The primary session is kept by every step. -/
theorem Holds.of_settings (h : Holds sessionId Φ d) (i : Input)
    (hsettings : ((responder K).step d i).2.settings = d.settings) :
    Holds sessionId Φ ((responder K).step d i).2 where
  fresh := fresh_step h.fresh (effect_responder d i)
  primary := by
    have hbound : d.primarySession ≠ none := by
      rw [h.primary]
      exact Option.some_ne_none _
    rw [primarySession_step hbound (effect_responder d i), h.primary]
  settings := by
    rw [hsettings]
    exact h.settings

/-- A request of another session, and one that neither sets nor locks, keeps the settings. -/
theorem Holds.step (h : Holds sessionId Φ d) {i : Input}
    (hi : i.session = some sessionId →
      ¬ IsRequest K i.request .setTargetConfiguration ∧
        ¬ IsRequest K i.request .lockTargetConfiguration) :
    Holds sessionId Φ ((responder K).step d i).2 := by
  refine h.of_settings i ?_
  rcases settings_step h.fresh (effect_responder d i) with hkeep | ⟨r, hr, hreq, hsession, -⟩
  · exact hkeep
  · obtain ⟨hset, hlock⟩ := hi (hsession.1.trans h.primary)
    rcases hr with rfl | rfl
    · exact absurd hreq hset
    · exact absurd hreq hlock

/-- A locked device keeps its settings whoever asks for what. -/
theorem Holds.step_of_locked (h : Holds sessionId Φ d)
    (hlocked : ∀ settings, Φ settings → settings.currentTspState = K.tspState .configLocked)
    (i : Input) : Holds sessionId Φ ((responder K).step d i).2 := by
  refine h.of_settings i ?_
  rcases settings_step h.fresh (effect_responder d i) with hkeep | ⟨_, _, _, _, hunlocked, _⟩
  · exact hkeep
  · have hstate : d.context.currentTspState = K.tspState .configLocked := hlocked _ h.settings
    rw [hstate] at hunlocked
    exact absurd hunlocked K.tspState_locked_ne_unlocked

/-- The other sessions of the schedule are others. -/
def OtherSessions (w : Surroundings K) (sessionId : UInt32) : Prop :=
  ∀ n, ∀ i ∈ (w.schedule n).others, i.session ≠ some sessionId

theorem Holds.atTurn {w : Surroundings K} (hothers : OtherSessions w sessionId) {s : Peer K}
    (h : Holds sessionId Φ s.shared.state) : Holds sessionId Φ (s.atTurn w) :=
  (responder K).invariant_history_of_inputs (fun _ d => Holds sessionId Φ d)
    (fun _ _ _ hi hd => hd.step fun heq => absurd heq hi) h (hothers s.shared.own.length)

theorem fresh_atTurn (w : Surroundings K) {s : Peer K} (h : FreshUnlessBound s.shared.state) :
    FreshUnlessBound (s.atTurn w) :=
  fresh_after h _

end Holds

/-! ## The three answers that the session relies on -/

section Answers

variable {sessionId : UInt32} {d : State K} {env : Environment}

/-- What the primary session asks the device to be. -/
def AsSet (body : SetConfiguration K.secondSessionKeySize) (settings : Settings K) : Prop :=
  settings.deviceConfiguration = body.configuration ∧
    ∀ slot, Flagged body.sessionInfo slot →
      settings.secondSessionPsk.get slot =
        body.sessionInfo.secondarySessionPskKeyMaterial.get slot

/-- Set and not yet locked. -/
def SetUnlocked (body : SetConfiguration K.secondSessionKeySize) (settings : Settings K) : Prop :=
  AsSet body settings ∧ settings.currentTspState = K.tspState .configUnlocked

/-- Set and locked. -/
def SetLocked (body : SetConfiguration K.secondSessionKeySize) (settings : Settings K) : Prop :=
  AsSet body settings ∧ settings.currentTspState = K.tspState .configLocked

theorem isRequest_setConfigurationMessage (body : SetConfiguration K.secondSessionKeySize) :
    IsRequest K (setConfigurationMessage K body) .setTargetConfiguration := by
  simp only [IsRequest, setConfigurationMessage, Packed.decode_encode_append,
    requestHeader_opCode]

theorem setBody_setConfigurationMessage (body : SetConfiguration K.secondSessionKeySize) :
    setBody K (setConfigurationMessage K body) = body := by
  rw [setBody, setConfigurationMessage, Packed.drop_encode_append, Packed.decode_encode]

/-- An accepted configuration is that of the primary session. -/
theorem holds_of_set (hfresh : FreshUnlessBound d) {body : SetConfiguration K.secondSessionKeySize}
    (h : Answers K (setConfigurationMessage K body) .setTargetConfiguration
      ((responder K).step d ⟨some sessionId, setConfigurationMessage K body, env⟩).1) :
    Holds sessionId
      (SetUnlocked body)
      ((responder K).step d ⟨some sessionId, setConfigurationMessage K body, env⟩).2 := by
  have hset : AcceptedSet ((responder K).event d
      ⟨some sessionId, setConfigurationMessage K body, env⟩) :=
    ⟨isRequest_setConfigurationMessage body, h⟩
  obtain ⟨hprivileged, hunlocked, -, hstep⟩ := step_of_acceptedSet hset
  have hpsk := secondSessionPsk_of_acceptedSet hset
  simp only [setBody_setConfigurationMessage] at hstep hpsk
  have hprimary := (primarySession_of_privileged rfl hprivileged).1
  refine ⟨fresh_step hfresh (effect_responder d _), ?_, ⟨?_, ?_⟩, ?_⟩
  · rw [hstep]
    exact hprimary.symm
  · rw [hstep]
    rfl
  · intro slot hslot
    exact (hpsk slot).trans (if_pos hslot)
  · rw [hstep]
    exact hunlocked

/-- The state after an accepted lock. -/
theorem step_of_lock {i : Input}
    (h : Answers K i.request .lockTargetConfiguration ((responder K).step d i).1) :
    ((responder K).step d i).2 =
      { d with context := cxlTspDeviceLockConfiguration d.context } := by
  have heffect := effect_responder d i
  generalize ((responder K).step d i).1 = reply at heffect h
  generalize ((responder K).step d i).2 = d' at heffect ⊢
  cases heffect with
  | lock _ _ _ => rfl
  | dropped _ | unsupported _ | denied _ _ =>
      obtain ⟨_, h⟩ := h
      cases h
  | rejected _ _ ha | reportRejected _ _ ha => cases kind_unique h ha
  | _ => cases kind_unique h answers_success

/-- The answer to a request for the configuration shows it. -/
theorem reply_of_configuration {i : Input}
    (h : Answers K i.request .getTargetConfiguration ((responder K).step d i).1) :
    ((responder K).step d i).1 = success K i.request .getTargetConfiguration
      (K.getConfigurationResponse.encode
        ⟨d.context.deviceConfiguration, d.context.currentTspState⟩) := by
  have heffect := effect_responder d i
  generalize ((responder K).step d i).1 = reply at heffect h ⊢
  generalize ((responder K).step d i).2 = d' at heffect
  cases heffect with
  | configuration _ _ => rfl
  | dropped _ | unsupported _ | denied _ _ =>
      obtain ⟨_, h⟩ := h
      cases h
  | rejected _ _ ha | reportRejected _ _ ha => cases kind_unique h ha
  | _ => cases kind_unique h answers_success

end Answers

/-! ## The calls of the session -/

section Calls

variable {w : Surroundings K} {sessionId : UInt32} {Φ : Settings K → Prop}

/-- The request neither sets nor locks. -/
def Unchanging (K : CxlTsp) (request : Bytes) : Prop :=
  ¬ IsRequest K request .setTargetConfiguration ∧ ¬ IsRequest K request .lockTargetConfiguration

theorem unchanging_of_opCode {r : Request} (hset : r ≠ .setTargetConfiguration)
    (hlock : r ≠ .lockTargetConfiguration) (body : Bytes) :
    Unchanging K (K.header.encode (requestHeader K r) ++ body) := by
  simp only [Unchanging, IsRequest, Packed.decode_encode_append, requestHeader_opCode,
    K.requestOpCode_inj]
  exact ⟨hset, hlock⟩

theorem holds_sendReceive (hothers : OtherSessions w sessionId) (s : Peer K) (request : Bytes)
    (capacity : Nat) (hrequest : Unchanging K request) (h : Holds sessionId Φ s.shared.state) :
    Holds sessionId Φ
      ((peerHost w).sendReceive sessionId s request capacity).2.shared.state :=
  (h.atTurn hothers).step fun _ => hrequest

theorem holds_sendReceive_of_locked
    (hlocked : ∀ settings, Φ settings → settings.currentTspState = K.tspState .configLocked)
    (anySession : UInt32) (s : Peer K) (request : Bytes) (capacity : Nat)
    (h : Holds sessionId Φ s.shared.state) :
    Holds sessionId Φ
      ((peerHost w).sendReceive anySession s request capacity).2.shared.state := by
  have hturn : Holds sessionId Φ (s.atTurn w) :=
    (responder K).invariant_after (Holds sessionId Φ) (fun _ i hd => hd.step_of_locked hlocked i)
      h _
  exact hturn.step_of_locked hlocked _

theorem fresh_sendReceive (anySession : UInt32) (s : Peer K) (request : Bytes) (capacity : Nat)
    (h : FreshUnlessBound s.shared.state) :
    FreshUnlessBound
      ((peerHost w).sendReceive anySession s request capacity).2.shared.state :=
  fresh_step (fresh_atTurn w h) (effect_responder _ _)

theorem triple_setConfiguration (sessionId : UInt32)
    (hbuffer : ∀ n, Oversized K (w.schedule n).env)
    (body : SetConfiguration K.secondSessionKeySize) :
    Flow.Triple (fun s : Peer K => FreshUnlessBound s.shared.state)
      (cxlTspSetConfiguration K ((peerHost w).sendReceive sessionId) body.configuration
        body.sessionInfo)
      (fun _ s => Holds sessionId
        (SetUnlocked body) s.shared.state)
      (fun _ _ => True) := by
  refine Flow.Triple.intro (fun s _ s' hs hrun => ?_) fun _ _ _ _ _ => trivial
  obtain ⟨x, hsend, haccepted⟩ := of_exchangeHeader_ok hrun
  obtain ⟨hanswers, -⟩ := answers_of_sendReceive (fun n => (hbuffer n).1) hsend haccepted
  have hafter := holds_of_set (fresh_atTurn w hs) hanswers
  have hstate : s' = ((peerHost w).sendReceive sessionId s (setConfigurationMessage K body)
      (errorMessageMaxSize K)).2 := (congrArg Prod.snd hsend).symm
  rw [hstate]
  exact hafter

theorem triple_lockConfiguration (hbuffer : ∀ n, Oversized K (w.schedule n).env)
    (hothers : OtherSessions w sessionId) {body : SetConfiguration K.secondSessionKeySize} :
    Flow.Triple
      (fun s : Peer K => Holds sessionId
        (SetUnlocked body) s.shared.state)
      (cxlTspLockConfiguration K ((peerHost w).sendReceive sessionId))
      (fun _ s => Holds sessionId
        (SetLocked body) s.shared.state)
      (fun _ _ => True) := by
  refine Flow.Triple.intro (fun s _ s' hs hrun => ?_) fun _ _ _ _ _ => trivial
  obtain ⟨x, hsend, haccepted⟩ := of_exchangeHeader_ok hrun
  obtain ⟨hanswers, -⟩ := answers_of_sendReceive (fun n => (hbuffer n).1) hsend haccepted
  have hturn := hs.atTurn hothers
  have hstate : s'.shared.state = { s.atTurn w with
      context := cxlTspDeviceLockConfiguration (s.atTurn w).context } := by
    rw [← step_of_lock hanswers]
    exact congrArg (fun r => r.2.shared.state) hsend.symm
  rw [hstate]
  exact
    { fresh := by
        rw [← step_of_lock hanswers]
        exact fresh_step hturn.fresh (effect_responder _ _)
      primary := hturn.primary
      settings := ⟨hturn.settings.1, rfl⟩ }

/-- The bytes of the configuration that the device shows. -/
theorem response_of_configuration (hbuffer : ∀ n, Oversized K (w.schedule n).env)
    {s s' : Peer K} {x : Exchange}
    (hsend : (peerHost w).sendReceive sessionId s (getConfigurationMessage K)
      (K.header.size + K.getConfigurationResponse.size) = (x, s'))
    (haccepted : AcceptedResponse K .getTargetConfiguration x) :
    K.getConfigurationResponse.decode (x.response.drop K.header.size) =
      ⟨(s.atTurn w).context.deviceConfiguration, (s.atTurn w).context.currentTspState⟩ := by
  obtain ⟨hanswers, hwritten⟩ := answers_of_sendReceive (fun n => (hbuffer n).2) hsend haccepted
  rw [reply_of_configuration hanswers] at hwritten
  have hresponse := Option.some.inj hwritten
  rw [← hresponse, message, Packed.drop_encode_append, Packed.decode_encode]

/-- The configuration that is read is that of the settings. -/
theorem triple_getConfiguration (hbuffer : ∀ n, Oversized K (w.schedule n).env)
    (hothers : OtherSessions w sessionId) :
    Flow.Triple (fun s : Peer K => Holds sessionId Φ s.shared.state)
      (cxlTspGetConfiguration K ((peerHost w).sendReceive sessionId))
      (fun current s => (∃ settings, Φ settings ∧
          current = ⟨settings.deviceConfiguration, settings.currentTspState⟩) ∧
        Holds sessionId Φ s.shared.state) (fun _ _ => True) := by
  refine Flow.Triple.intro (fun s current s' hs hrun => ?_) fun _ _ _ _ _ => trivial
  have hkeeps := keeps_getConfiguration (A := Unchanging K)
    (holds_sendReceive (Φ := Φ) hothers) (unchanging_of_opCode (by decide) (by decide) _)
  obtain ⟨x, hsend, haccepted, rfl⟩ := of_cxlTspGetConfiguration_ok hrun
  refine ⟨⟨(s.atTurn w).settings, (hs.atTurn hothers).settings, ?_⟩, hkeeps.ok hs hrun⟩
  exact response_of_configuration hbuffer hsend haccepted

theorem triple_getTspState (hbuffer : ∀ n, Oversized K (w.schedule n).env)
    (hothers : OtherSessions w sessionId) :
    Flow.Triple (fun s : Peer K => Holds sessionId Φ s.shared.state)
      (cxlTspGetTspState K ((peerHost w).sendReceive sessionId))
      (fun state s => (∃ settings, Φ settings ∧ state = settings.currentTspState) ∧
        Holds sessionId Φ s.shared.state) (fun _ _ => True) := by
  refine Flow.Triple.intro (fun s current s' hs hrun => ?_) fun _ _ _ _ _ => trivial
  have hkeeps := keeps_getTspState (A := Unchanging K)
    (holds_sendReceive (Φ := Φ) hothers) (unchanging_of_opCode (by decide) (by decide) _)
  obtain ⟨x, hsend, haccepted, rfl⟩ := of_cxlTspGetTspState_ok hrun
  refine ⟨⟨(s.atTurn w).settings, (hs.atTurn hothers).settings, ?_⟩, hkeeps.ok hs hrun⟩
  rw [response_of_configuration hbuffer hsend haccepted]
  rfl

end Calls

/-! ## The keys -/

/-- The slot is that of a secondary session the device supports. -/
def SlotInUse (K : CxlTsp) (capabilities : DeviceCapabilities) (slot : Fin secondSessionCount) :
    Prop :=
  supportsSecondarySessions K capabilities = true ∧
    slot.val < capabilities.numberOfSecondarySessions.toNat

/-- The flags that the session sets are those of the slots below the number of sessions. -/
theorem flagged_validityFlags {number : UInt8} {flags : UInt16}
    (h : validityFlags number = some flags) (slot : Fin secondSessionCount) :
    flags &&& (1 <<< UInt16.ofNat slot) ≠ 0 ↔ slot.val < number.toNat := by
  unfold validityFlags at h
  split_ifs at h with h1 h2 h3 h4
  all_goals
    cases h
    subst_vars
    revert slot
    decide

section Keys

variable {w : Surroundings K} {sessionId : UInt32} {capabilities : DeviceCapabilities}

/-- The slots in use have the keys of the requester's table, which is otherwise as it was. -/
def HandedOut (capabilities : DeviceCapabilities)
    (info : Device2ndSessionInfo K.secondSessionKeySize) (table table' : PskTable K) : Prop :=
  ∀ slot, (SlotInUse K capabilities slot →
      Flagged info slot ∧ info.secondarySessionPskKeyMaterial.get slot = table'.get slot) ∧
    (¬ SlotInUse K capabilities slot → table'.get slot = table.get slot)

theorem triple_sessionInfo {Inv : Peer K → Prop}
    (hrandom : ∀ n s, Inv s → Inv ((peerHost w).getRandomNumber n s).2) (table : PskTable K) :
    Flow.Triple (fun s => Inv s.1 ∧ s.2 = table) (sessionInfo (peerHost w) sessionId capabilities)
      (fun info s => Inv s.1 ∧ HandedOut capabilities info table s.2) (fun _ _ => True) := by
  unfold sessionInfo
  by_cases hsupport : supportsSecondarySessions K capabilities = true
  · rw [if_pos hsupport]
    cases hflags : validityFlags capabilities.numberOfSecondarySessions with
    | none => exact fun s _ => trivial
    | some flags =>
        refine (triple_drawKeys hrandom sessionId _ _ table).imp (fun _ h => h) ?_ fun _ _ h => h
        refine fun info s hs => ⟨hs.1, fun slot => ?_⟩
        obtain ⟨-, hdrawn⟩ := hs
        have hin : Flagged { Device2ndSessionInfo.zeroed K.secondSessionKeySize with
            configurationValidityFlags := flags } slot ↔ SlotInUse K capabilities slot :=
          (flagged_validityFlags hflags slot).trans ⟨fun h => ⟨hsupport, h⟩, fun h => h.2⟩
        constructor
        · intro huse
          refine ⟨?_, hdrawn.agree slot (List.mem_finRange slot) (hin.2 huse)⟩
          rw [Flagged, hdrawn.flags]
          exact hin.2 huse
        · intro hfree
          exact (hdrawn.kept slot (.inr fun h => hfree (hin.1 h))).2
  · rw [if_neg hsupport]
    refine Flow.Triple.pure fun s hs => ⟨hs.1, fun slot => ⟨fun h => absurd h.1 hsupport, ?_⟩⟩
    intro _
    rw [hs.2]

/-- The primary session after its first block. -/
theorem triple_configure (hbuffer : ∀ n, Oversized K (w.schedule n).env) (table : PskTable K) :
    Flow.Triple (fun s => FreshUnlessBound s.1.shared.state ∧ s.2 = table)
      (configure (peerHost w) sessionId capabilities)
      (fun info s =>
        Holds sessionId (SetUnlocked ⟨sessionConfiguration K, info⟩) s.1.shared.state ∧
        HandedOut capabilities info table s.2) (fun _ _ => True) := by
  have hrandom : ∀ n (s : Peer K), FreshUnlessBound s.shared.state →
      FreshUnlessBound ((peerHost w).getRandomNumber n s).2.shared.state := fun _ _ h => h
  refine (triple_sessionInfo hrandom table).bind fun info => ?_
  have hset := triple_setConfiguration sessionId hbuffer ⟨sessionConfiguration K, info⟩
  refine (hset.beside fun _ _ _ _ => trivial).bind fun _ => ?_
  exact Flow.Triple.pure fun _ h => h

end Keys

/-! ## The session -/

/-- The device is locked by the session with its configuration, which was shown to it, and both
sides have the same keys. -/
structure LockedAsAgreed (sessionId : UInt32) (locals : SessionLocals) (table : PskTable K)
    (d : State K) : Prop where
  primary : d.primarySession = some sessionId
  locked : d.context.currentTspState = K.tspState .configLocked
  configuration : d.context.deviceConfiguration = sessionConfiguration K
  shown : locals.currentConfiguration =
    some ⟨sessionConfiguration K, K.tspState .configUnlocked⟩
  shownLocked : locals.currentTspState = some (K.tspState .configLocked)
  keys : ∀ slot, SlotInUse K locals.deviceCapabilities slot →
    d.secondSessionPsk.get slot = table.get slot

section Session

variable {setup : SessionSetup K} {w : Surroundings K} {sessionId : UInt32}

/-- The rest of the primary session. -/
theorem triple_processConfigured (hbuffer : ∀ n, Oversized K (w.schedule n).env)
    (hothers : OtherSessions w sessionId) (capabilities : DeviceCapabilities)
    (info : Device2ndSessionInfo K.secondSessionKeySize) (R : PskTable K → Prop) :
    Flow.Triple
      (fun s => Holds sessionId (SetUnlocked ⟨sessionConfiguration K, info⟩) s.1.shared.state ∧
        R s.2)
      (processConfigured setup (peerHost w) (doCxlTsp2ndSessionViaSpdm setup (peerHost w))
        sessionId true capabilities info)
      (fun locals s =>
        (locals.deviceCapabilities = capabilities ∧
          locals.currentConfiguration =
            some ⟨sessionConfiguration K, K.tspState .configUnlocked⟩ ∧
          locals.currentTspState = some (K.tspState .configLocked)) ∧
        Holds sessionId (SetLocked ⟨sessionConfiguration K, info⟩) s.1.shared.state ∧ R s.2)
      (fun _ _ => True) := by
  -- until the lock, the others are refused; after it, everybody is
  have hlocked : ∀ settings, SetLocked ⟨sessionConfiguration K, info⟩ settings →
      settings.currentTspState = K.tspState .configLocked := fun _ h => h.2
  have hany : ∀ s request capacity, (fun _ : Bytes => True) request →
      Holds sessionId (SetLocked ⟨sessionConfiguration K, info⟩) s.shared.state →
      Holds sessionId (SetLocked ⟨sessionConfiguration K, info⟩)
        ((peerHost w).sendReceive sessionId s request capacity).2.shared.state :=
    fun s request capacity _ => holds_sendReceive_of_locked hlocked sessionId s request capacity
  have hget := triple_getConfiguration (Φ := SetUnlocked ⟨sessionConfiguration K, info⟩) hbuffer
    hothers
  have hstate := triple_getTspState (Φ := SetLocked ⟨sessionConfiguration K, info⟩) hbuffer hothers
  have hsecond : ∀ index, Flow.Triple
      (fun s => Holds sessionId (SetLocked ⟨sessionConfiguration K, info⟩) s.1.shared.state ∧
        R s.2) (doCxlTsp2ndSessionViaSpdm setup (peerHost w) index)
      (fun _ s => Holds sessionId (SetLocked ⟨sessionConfiguration K, info⟩) s.1.shared.state ∧
        R s.2) (fun _ _ => True) := by
    intro index
    refine keeps_doCxlTsp2ndSessionViaSpdm (holds_sendReceive_of_locked hlocked) ?_ ?_ index R
    · intro table pskHint s hs
      simp only [peerHost]
      split <;> exact hs
    · exact fun _ _ hs => hs
  refine ((hget.beside_fact fun _ _ _ _ => trivial).returned _).bind_fact fun current hcurrent => ?_
  refine ((keeps_readReport (A := Unchanging K) (holds_sendReceive hothers)
    fun _ _ => unchanging_of_opCode (by decide) (by decide) _).framed R).bind fun report => ?_
  refine (((triple_lockConfiguration hbuffer hothers).beside
    fun _ _ _ _ => trivial).returned _).bind fun _ => ?_
  refine ((hstate.beside_fact fun _ _ _ _ => trivial).returned _).bind_fact fun state hshown => ?_
  refine (((keeps_setSessionTeState hany (fun _ _ _ => trivial) 0x1).framed R).returned _).bind
    fun _ => ?_
  refine (((keeps_setSessionTeState hany (fun _ _ _ => trivial) 0x0).framed R).returned _).bind
    fun _ => ?_
  have hloop : Flow.Triple
      (fun s => Holds sessionId (SetLocked ⟨sessionConfiguration K, info⟩) s.1.shared.state ∧
        R s.2) (forEachSecondary (doCxlTsp2ndSessionViaSpdm setup (peerHost w)) info)
      (fun _ s => Holds sessionId (SetLocked ⟨sessionConfiguration K, info⟩) s.1.shared.state ∧
        R s.2) (fun _ _ => True) := by
    refine Flow.Triple.forEach
      (P := fun _ (s : Peer K × PskTable K) =>
        Holds sessionId (SetLocked ⟨sessionConfiguration K, info⟩) s.1.shared.state ∧ R s.2)
      fun _ index _ _ => ?_
    split
    · exact hsecond index
    · exact Flow.Triple.pure fun _ h => h
  refine hloop.when.bind fun _ => ?_
  refine Flow.Triple.pure fun s hs => ⟨⟨rfl, ?_, ?_⟩, hs⟩
  · obtain ⟨settings, hset, rfl⟩ := hcurrent
    simp only [hset.1.1, hset.2]
  · obtain ⟨settings, hset, rfl⟩ := hshown
    simp only [hset.2]

/-- **A primary session that succeeds has locked the device as it asked for.** Whatever other
sessions send before, between and after its requests, and however libspdm opens the secondary
sessions: the session is the primary one, the device is locked with the session's configuration, the
configuration and the state that the session was shown are the true ones, both sides have the same
key for every secondary session, and no request of anybody changes a setting or the primary session
any more. -/
theorem tspSession_agreement (setup : SessionSetup K) (w : Surroundings K) (sessionId : UInt32)
    (hothers : OtherSessions w sessionId) (hbuffer : ∀ n, Oversized K (w.schedule n).env)
    (s s' : Peer K) (hfresh : FreshUnlessBound s.shared.state) (table table' : PskTable K)
    (locals : SessionLocals)
    (hrun : cxlTspProcessSessionMessage setup (peerHost w) sessionId .primary (s, table) =
      (.ok locals, (s', table'))) :
    LockedAsAgreed sessionId locals table' s'.shared.state ∧
      (∀ slot, ¬ SlotInUse K locals.deviceCapabilities slot →
        table'.get slot = table.get slot) ∧
      ∀ is, ((responder K).after s'.shared.state is).settings = s'.shared.state.settings ∧
        ((responder K).after s'.shared.state is).primarySession = some sessionId := by
  have hany : ∀ s request capacity, (fun _ : Bytes => True) request →
      FreshUnlessBound s.shared.state →
      FreshUnlessBound ((peerHost w).sendReceive sessionId s request capacity).2.shared.state :=
    fun s request capacity _ => fresh_sendReceive sessionId s request capacity
  have hsession : Flow.Triple (fun s => FreshUnlessBound s.1.shared.state ∧ s.2 = table)
      (cxlTspProcessSessionMessage setup (peerHost w) sessionId .primary)
      (fun locals s => LockedAsAgreed sessionId locals s.2 s.1.shared.state ∧
        FreshUnlessBound s.1.shared.state ∧
        ∀ slot, ¬ SlotInUse K locals.deviceCapabilities slot → s.2.get slot = table.get slot)
      (fun _ _ => True) := by
    refine (((keeps_getVersion hany trivial).framed (· = table)).returned _).bind fun _ => ?_
    refine (((keeps_getCapabilities hany trivial).framed (· = table)).returned _).bind
      fun capabilities => ?_
    refine ((triple_configure hbuffer table).returned _).bind fun info => ?_
    refine (triple_processConfigured hbuffer hothers capabilities info
      (HandedOut capabilities info table)).imp (fun _ h => h) ?_ fun _ _ h => h
    rintro locals s ⟨⟨hcaps, hshown, hstate⟩, hholds, hkeys⟩
    subst hcaps
    refine ⟨⟨hholds.primary, hholds.settings.2, hholds.settings.1.1, hshown, hstate, ?_⟩,
      hholds.fresh, fun slot => (hkeys slot).2⟩
    intro slot huse
    obtain ⟨hflagged, hkey⟩ := (hkeys slot).1 huse
    exact (hholds.settings.1.2 slot hflagged).trans hkey
  obtain ⟨hagreed, hafter, hkept⟩ := hsession.ok ⟨hfresh, rfl⟩ hrun
  refine ⟨hagreed, hkept, fun is => ⟨settings_of_locked hafter hagreed.locked is, ?_⟩⟩
  have hbound : s'.shared.state.primarySession ≠ none := by
    rw [hagreed.primary]
    exact Option.some_ne_none _
  rw [primarySession_of_bound hbound is, hagreed.primary]

end Session

end SpdmEmu.Tsp
