import SpdmEmu.Tsp.Configuration

/-!
# Secondary sessions

A secondary session has a slot, with a pre-shared key that the primary session stores with
`SET_TARGET_CONFIGURATION` and a session id that `GET_TARGET_TSP_VERSION` binds to it. Both tables
are written slot by slot and nothing is ever taken out of them: a configuration that does not flag a
slot leaves the key of an earlier one there, and a session that is bound to a slot displaces the
session that was bound to it before and keeps the slots it had. The two results say exactly when
this does not show.
-/

set_option autoImplicit false

namespace SpdmEmu.Tsp

open SpdmEmu.Wire SpdmEmu.Libspdm SpdmEmu.Run

variable {K : CxlTsp}

/-! ## The key table -/

/-- `configuration_validity_flags & (0x1 << index)` is not zero. -/
def Flagged {n : Nat} (info : Device2ndSessionInfo n) (slot : Fin secondSessionCount) : Prop :=
  info.configurationValidityFlags &&& (1 <<< UInt16.ofNat slot) ≠ 0

instance {n : Nat} (info : Device2ndSessionInfo n) (slot : Fin secondSessionCount) :
    Decidable (Flagged info slot) :=
  inferInstanceAs (Decidable (_ ≠ _))

/-- The key of zero bytes. -/
def zeroKey (K : CxlTsp) : Psk K := Vector.replicate _ 0

private theorem get_eq_getElem {α : Type} {n : Nat} (v : Vector α n) (i : Fin n) :
    v.get i = getElem v i.val i.isLt :=
  rfl

/-- The table holds the flagged keys of the secondary session information, and nothing else. -/
def Reflects (info : Device2ndSessionInfo K.secondSessionKeySize)
    (table : Vector (Psk K) secondSessionCount) : Prop :=
  ∀ slot : Fin secondSessionCount, table.get slot =
    if Flagged info slot then info.secondarySessionPskKeyMaterial.get slot else zeroKey K

/-- An accepted `SET` writes the flagged slots. -/
theorem secondSessionPsk_of_acceptedSet {s : State K} {i : Input}
    (h : AcceptedSet ((responder K).event s i)) (slot : Fin secondSessionCount) :
    ((responder K).step s i).2.secondSessionPsk.get slot =
      if Flagged (setBody K i.request).sessionInfo slot then
        (setBody K i.request).sessionInfo.secondarySessionPskKeyMaterial.get slot
      else s.secondSessionPsk.get slot := by
  obtain ⟨-, -, -, hstep⟩ := step_of_acceptedSet h
  rw [hstep]
  simp only [cxlTspDeviceSetConfiguration, get_eq_getElem, Fin.getElem_fin,
    Vector.getElem_ofFn]
  rfl

/-- Any other request keeps the table. -/
theorem secondSessionPsk_step {s : State K} {i : Input}
    (hset : ¬ AcceptedSet ((responder K).event s i)) :
    ((responder K).step s i).2.secondSessionPsk = s.secondSessionPsk := by
  have heff := effect_responder s i
  simp only [AcceptedSet, Machine.event] at hset
  generalize ((responder K).step s i).1 = reply at heff hset
  generalize ((responder K).step s i).2 = s' at heff ⊢
  cases heff with
  | dropped _ => rfl
  | unsupported _ => rfl
  | denied _ _ => rfl
  | rejected _ _ _ => rfl
  | version _ _ => rfl
  | capabilities _ _ => rfl
  | set hr _ _ _ _ => exact absurd ⟨hr, _, rfl⟩ hset
  | configuration _ _ => rfl
  | reportRejected _ _ _ => rfl
  | report _ _ _ _ => rfl
  | lock _ _ _ => rfl
  | teState _ _ _ => rfl

theorem secondSessionPsk_after {s : State K} {is : List Input}
    (hset : ∀ e ∈ (responder K).history s is, ¬ AcceptedSet e) :
    ((responder K).after s is).secondSessionPsk = s.secondSessionPsk :=
  (responder K).invariant_after_of_events (fun s' => s'.secondSessionPsk = s.secondSessionPsk)
    (fun _ _ hs hne => (secondSessionPsk_step hne).trans hs) rfl hset

/-- The device before the first request, with a table of zero keys. -/
def State.zeroed (K : CxlTsp) : State K := ⟨DeviceContext.zeroed K, Vector.replicate _ (zeroKey K)⟩

/-- The event is an accepted `SET` that flags the slot, with this key for it. -/
def StoresKey (slot : Fin secondSessionCount) (key : Psk K)
    (e : Event (State K) Input Reply) : Prop :=
  AcceptedSet e ∧ Flagged (setBody K e.input.request).sessionInfo slot ∧
    (setBody K e.input.request).sessionInfo.secondarySessionPskKeyMaterial.get slot = key

/-- Of the accepted `SET`s that flag the slot, the last one has this key for it. -/
def LastKey (H : List (Event (State K) Input Reply)) (slot : Fin secondSessionCount)
    (key : Psk K) : Prop :=
  Since H (StoresKey slot key) fun e => ∀ other, ¬ StoresKey slot other e

theorem LastKey.unique {H : List (Event (State K) Input Reply)} {slot : Fin secondSessionCount}
    {key other : Psk K} (h : LastKey H slot key) (h' : LastKey H slot other) : key = other := by
  obtain ⟨e, -, hkey, hother⟩ := h.same h' (fun _ hl hnone => hnone _ hl)
    (fun _ hl hnone => hnone _ hl)
  exact hkey.2.2.symm.trans hother.2.2

/-- Where the key of a slot comes from: the last accepted `SET` that flags the slot, or, without
one, the zeroed table. -/
def KeyOrigin (slot : Fin secondSessionCount) (H : List (Event (State K) Input Reply))
    (s : State K) : Prop :=
  LastKey H slot (s.secondSessionPsk.get slot) ∨
    (∀ e ∈ H, ∀ key, ¬ StoresKey slot key e) ∧ s.secondSessionPsk.get slot = zeroKey K

/-- An event that stores nothing in the slot keeps the origin of its key. -/
theorem KeyOrigin.snoc {slot : Fin secondSessionCount} {H : List (Event (State K) Input Reply)}
    {s s' : State K} {e : Event (State K) Input Reply} (h : KeyOrigin slot H s)
    (hkept : s'.secondSessionPsk.get slot = s.secondSessionPsk.get slot)
    (hnone : ∀ key, ¬ StoresKey slot key e) : KeyOrigin slot (H ++ [e]) s' := by
  unfold KeyOrigin
  rw [hkept]
  rcases h with hlast | ⟨hno, hzero⟩
  · exact .inl (Since.snoc hlast hnone)
  · refine .inr ⟨fun x hx => ?_, hzero⟩
    rcases List.mem_append.1 hx with hx | hx
    · exact hno x hx
    · rw [List.mem_singleton.1 hx]
      exact hnone

theorem keyOrigin_step (slot : Fin secondSessionCount) (H : List (Event (State K) Input Reply))
    (s : State K) (i : Input) (h : KeyOrigin slot H s) :
    KeyOrigin slot (H ++ [(responder K).event s i]) ((responder K).step s i).2 := by
  by_cases hset : AcceptedSet ((responder K).event s i)
  · have hslot := secondSessionPsk_of_acceptedSet hset slot
    by_cases hflag : Flagged (setBody K i.request).sessionInfo slot
    · rw [if_pos hflag] at hslot
      exact .inl (Since.last ⟨hset, hflag, hslot.symm⟩)
    · rw [if_neg hflag] at hslot
      exact h.snoc hslot fun _ hstores => hflag hstores.2.1
  · refine h.snoc ?_ fun _ hstores => hset hstores.1
    rw [secondSessionPsk_step hset]

theorem keyOrigin_after (slot : Fin secondSessionCount) (is : List Input) :
    KeyOrigin slot ((responder K).history (State.zeroed K) is)
      ((responder K).after (State.zeroed K) is) := by
  refine (responder K).invariant_history (KeyOrigin slot) (keyOrigin_step slot) (.inr ⟨?_, ?_⟩) is
  · intro e he
    cases he
  · simp [State.zeroed, get_eq_getElem]

/-- A slot is zero exactly when no `SET`, or last a `SET` with zero bytes, was accepted for it. -/
theorem secondSessionPsk_eq_zeroKey_iff (slot : Fin secondSessionCount) (is : List Input) :
    ((responder K).after (State.zeroed K) is).secondSessionPsk.get slot = zeroKey K ↔
      ∀ key, LastKey ((responder K).history (State.zeroed K) is) slot key → key = zeroKey K := by
  rcases keyOrigin_after slot is with hlast | ⟨hno, hzero⟩
  · exact ⟨fun h key hkey => (hkey.unique hlast).trans h, fun h => h _ hlast⟩
  · refine iff_of_true hzero fun key hkey => ?_
    obtain ⟨_, e, he, hstores, -⟩ := hkey
    exact absurd hstores (hno e (List.mem_of_getElem? he) key)

/-- **The table reflects the last accepted configuration exactly when, for each slot that this one
does not flag, the latest earlier accepted `SET` that flags the slot, if there is one, carried zero
bytes for it**: in every run with an accepted `SET`, after the requests `before`, that is the last
one. -/
theorem keys_reflect_last_set_iff (before : List Input) (i : Input) (later : List Input)
    (hset : AcceptedSet ((responder K).event ((responder K).after (State.zeroed K) before) i))
    (hlast : ∀ e ∈ (responder K).history
      ((responder K).step ((responder K).after (State.zeroed K) before) i).2 later,
      ¬ AcceptedSet e) :
    Reflects (setBody K i.request).sessionInfo
        ((responder K).after (State.zeroed K) (before ++ i :: later)).secondSessionPsk ↔
      ∀ slot : Fin secondSessionCount, ¬ Flagged (setBody K i.request).sessionInfo slot →
        ∀ key, LastKey ((responder K).history (State.zeroed K) before) slot key →
          key = zeroKey K := by
  rw [Machine.after_append, Machine.after_cons, secondSessionPsk_after hlast]
  refine forall_congr' fun slot => ?_
  rw [secondSessionPsk_of_acceptedSet hset slot, ← secondSessionPsk_eq_zeroKey_iff]
  by_cases hflag : Flagged (setBody K i.request).sessionInfo slot
  · rw [if_pos hflag, if_pos hflag]
    exact iff_of_true rfl fun hnot => absurd hflag hnot
  · rw [if_neg hflag, if_neg hflag]
    exact ⟨fun h _ => h, fun h => h hflag⟩

/-- A request that sets a key of equal bytes for the flagged slots. -/
private def keyInput (validityFlags : UInt16) (byte : UInt8) : Input :=
  sampleInput .setTargetConfiguration
    (CxlTsp.sample.setConfigurationRequest.encode
      ⟨DeviceConfiguration.zeroed,
        ⟨validityFlags, 0, Vector.replicate _ (Vector.replicate 32 byte)⟩⟩)

/-- The request that binds the primary session. -/
private def bindPrimary : Input := sampleInput .getTargetTspVersion [0, 0]

/-- A key for the first slot is set and overwritten with zeros before a configuration without keys,
and a version request follows. -/
theorem keys_reflect_last_set_sample :
    let before := [bindPrimary, keyInput 1 1, keyInput 1 0]
    AcceptedSet ((responder CxlTsp.sample).event
      ((responder CxlTsp.sample).after (State.zeroed _) [bindPrimary, keyInput 1 1])
      (keyInput 1 0)) ∧
    AcceptedSet ((responder CxlTsp.sample).event
      ((responder CxlTsp.sample).after (State.zeroed _) before) (keyInput 0 1)) ∧
    Reflects (setBody CxlTsp.sample (keyInput 0 1).request).sessionInfo
      ((responder CxlTsp.sample).after (State.zeroed _)
        (before ++ keyInput 0 1 :: [bindPrimary])).secondSessionPsk ∧
    ∀ slot : Fin secondSessionCount,
      ¬ Flagged (setBody CxlTsp.sample (keyInput 0 1).request).sessionInfo slot →
      ∀ key, LastKey ((responder CxlTsp.sample).history (State.zeroed _) before) slot key →
        key = zeroKey CxlTsp.sample := by
  intro before
  have hset : AcceptedSet ((responder CxlTsp.sample).event
      ((responder CxlTsp.sample).after (State.zeroed _) before) (keyInput 0 1)) :=
    ⟨rfl, [0, 0], by decide +kernel⟩
  have hreflects : Reflects (setBody CxlTsp.sample (keyInput 0 1).request).sessionInfo
      ((responder CxlTsp.sample).after (State.zeroed _)
        (before ++ keyInput 0 1 :: [bindPrimary])).secondSessionPsk := by
    unfold Reflects
    decide +kernel
  refine ⟨⟨rfl, [0, 0], by decide +kernel⟩, hset, hreflects, ?_⟩
  refine (keys_reflect_last_set_iff before (keyInput 0 1) [bindPrimary] hset fun e he => ?_).1
    hreflects
  -- the later request is no `SET`
  rw [List.mem_singleton.1 he]
  rintro ⟨hrequest, -⟩
  cases hrequest

/-- A key for the first slot is set, and then a configuration without keys: the second `SET` is
accepted and the key of the first one stays in the table. -/
theorem key_survives_reconfiguration :
    AcceptedSet ((responder CxlTsp.sample).event
      ((responder CxlTsp.sample).after (State.zeroed _) [bindPrimary, keyInput 1 1])
      (keyInput 0 1)) ∧
    ¬ Reflects (setBody CxlTsp.sample (keyInput 0 1).request).sessionInfo
      ((responder CxlTsp.sample).after (State.zeroed _)
        [bindPrimary, keyInput 1 1, keyInput 0 1]).secondSessionPsk := by
  refine ⟨⟨rfl, [0, 0], by decide +kernel⟩, fun h => ?_⟩
  have hslot := h ⟨0, by decide⟩
  revert hslot
  decide +kernel

/-! ## The session slots -/

/-- A session is bound to a slot. -/
def BoundTo (ctx : DeviceContext K) (slot : Fin secondSessionCount) (sessionId : UInt32) : Prop :=
  ctx.sessionIdSecondaryValid.get slot = true ∧ ctx.sessionIdSecondary.get slot = sessionId

/-- No slot but this one holds the session. -/
def OnlySlot (ctx : DeviceContext K) (slot : Fin secondSessionCount) (sessionId : UInt32) : Prop :=
  ∀ a, BoundTo ctx a sessionId → a = slot

/-- The slot to which a version request on any session binds that session, if it binds one: the
request passes the checks of its handler, there is a primary session, and the session was set up
with a pre-shared key for a slot of the table. -/
def boundSlot (env : Environment) (ctx : DeviceContext K) (request : Bytes) :
    Option (Fin secondSessionCount) :=
  if request.length = K.header.size + K.getVersionRequest.size ∧
      (K.header.decode request).tspVersion = K.messageVersion10 ∧
      ctx.sessionIdPrimaryValid = true ∧ env.isPsk = true then
    if h : env.currentPskSessionIndex.toNat < secondSessionCount then
      some ⟨env.currentPskSessionIndex.toNat, h⟩
    else none
  else none

theorem isSessionSecondary_iff (ctx : DeviceContext K) (sessionId : UInt32) :
    libcxltspIsSessionSecondary ctx sessionId = true ↔ ∃ slot, BoundTo ctx slot sessionId := by
  simp [libcxltspIsSessionSecondary, BoundTo, get_eq_getElem]

/-- The slots after one of them was written. -/
theorem boundTo_set_iff (ctx : DeviceContext K) (sessionId other : UInt32)
    (slot a : Fin secondSessionCount) :
    BoundTo (libcxltspSetSecondarySessionId ctx sessionId slot) a other ↔
      (a = slot ∧ sessionId = other) ∨ (a ≠ slot ∧ BoundTo ctx a other) := by
  simp only [BoundTo, libcxltspSetSecondarySessionId, get_eq_getElem]
  by_cases ha : a = slot
  · subst ha
    simp
  · have hne : (slot : Nat) ≠ a := fun h => ha (Fin.ext h.symm)
    simp [ha, Vector.getElem_set_ne _ _ hne]

/-- A version request reaches the device if it has the size and the version of one. -/
theorem context_getVersion (s : State K) (sessionId : UInt32) (request : Bytes) (env : Environment)
    (h : IsRequest K request .getTargetTspVersion) :
    ((responder K).step s ⟨some sessionId, request, env⟩).2.context =
      if request.length = K.header.size + K.getVersionRequest.size ∧
          (K.header.decode request).tspVersion = K.messageVersion10 then
        (cxlTspDeviceGetVersion env s.context sessionId).2
      else s.context := by
  unfold IsRequest at h
  simp only [responder, cxlTspGetResponse, h, find_mCxlTspDispatch, handler,
    cxlTspGetResponseGetVersion, withPrivilege, handleRequest]
  by_cases hsize : request.length = K.header.size + K.getVersionRequest.size
  · have hlong : ¬ request.length < K.header.size := by omega
    by_cases hversion : (K.header.decode request).tspVersion = K.messageVersion10
    · simp [hsize, hversion]
    · simp [hsize, hversion]
  · simp only [hsize, false_and, if_false]
    split
    · rfl
    · simp

/-- What a version request does to the context: it binds its session to a slot, or keeps the
context, or binds the first session as the primary one. -/
theorem getVersion_cases (s : State K) (sessionId : UInt32) (request : Bytes) (env : Environment)
    (h : IsRequest K request .getTargetTspVersion) :
    (∃ slot, boundSlot env s.context request = some slot ∧
      ((responder K).step s ⟨some sessionId, request, env⟩).2.context =
        libcxltspSetSecondarySessionId s.context sessionId slot) ∨
    (boundSlot env s.context request = none ∧
      ((responder K).step s ⟨some sessionId, request, env⟩).2.context = s.context) ∨
    (boundSlot env s.context request = none ∧ s.context.sessionIdPrimaryValid = false ∧
      ((responder K).step s ⟨some sessionId, request, env⟩).2.context =
        libcxltspSetPrimarySessionId (libcxltspInitializeDeviceContext s.context) sessionId) := by
  rw [context_getVersion s sessionId request env h]
  unfold boundSlot
  by_cases hform : request.length = K.header.size + K.getVersionRequest.size ∧
      (K.header.decode request).tspVersion = K.messageVersion10
  · simp only [hform, and_self, if_true, true_and, cxlTspDeviceGetVersion]
    cases hprimary : s.context.sessionIdPrimaryValid with
    | false =>
        have hfresh : (libcxltspInitializeDeviceContext s.context).sessionIdPrimaryValid =
            false := by
          simp [libcxltspInitializeDeviceContext, hprimary, DeviceContext.zeroed]
        right
        right
        simp [libcxltspInitializeSessionId, hfresh]
    | true =>
        rw [initializeDeviceContext_of_bound hprimary]
        simp only [libcxltspInitializeSessionId, hprimary, Bool.not_true, Bool.false_eq_true,
          if_false, true_and]
        cases hpsk : env.isPsk with
        | false => simp
        | true =>
            by_cases hindex : env.currentPskSessionIndex.toNat < secondSessionCount
            · simp [hindex]
            · simp [hindex]
  · right
    left
    have hnot : ¬ (request.length = K.header.size + K.getVersionRequest.size ∧
        (K.header.decode request).tspVersion = K.messageVersion10 ∧
        s.context.sessionIdPrimaryValid = true ∧ env.isPsk = true) := fun hall =>
      hform ⟨hall.1, hall.2.1⟩
    rw [if_neg hform, if_neg hnot]
    exact ⟨rfl, rfl⟩

/-! ## Reachable slots -/

/-- Without a primary session no slot is in use. -/
def FreeUnlessBound (s : State K) : Prop :=
  s.context.sessionIdPrimaryValid = false → ∀ slot sessionId, ¬ BoundTo s.context slot sessionId

theorem free_zeroed (psk : Vector (Psk K) secondSessionCount) :
    FreeUnlessBound (⟨DeviceContext.zeroed K, psk⟩ : State K) := by
  intro _ slot sessionId h
  have hvalid := h.1
  simp [DeviceContext.zeroed, get_eq_getElem] at hvalid

theorem free_step (s : State K) (i : Input) (h : FreeUnlessBound s) :
    FreeUnlessBound ((responder K).step s i).2 := by
  have heff := effect_responder s i
  generalize ((responder K).step s i).1 = reply at heff
  generalize ((responder K).step s i).2 = s' at heff ⊢
  -- only a version request writes the sessions, and it leaves a primary one
  cases heff with
  | dropped _ => exact h
  | unsupported _ => exact h
  | denied _ _ => exact h
  | rejected _ _ _ => exact h
  | version _ _ =>
      intro hv
      simp only [bound_getVersion] at hv
      cases hv
  | capabilities _ _ => exact h
  | set _ _ _ _ _ => exact h
  | configuration _ _ => exact h
  | reportRejected _ _ _ => exact h
  | report _ _ _ _ => exact h
  | lock _ _ _ => exact h
  | teState _ _ _ => exact h

theorem free_after (psk : Vector (Psk K) secondSessionCount) (is : List Input) :
    FreeUnlessBound ((responder K).after ⟨DeviceContext.zeroed K, psk⟩ is) :=
  (responder K).invariant_after FreeUnlessBound free_step (free_zeroed psk) is

/-! ## What a version request does to the other sessions -/

/-- The slot is the only thing that gives another session than `sessionId` its type. -/
def Displaces (ctx : DeviceContext K) (slot : Fin secondSessionCount) (sessionId : UInt32) : Prop :=
  ∃ other, other ≠ sessionId ∧ BoundTo ctx slot other ∧
    libcxltspIsSessionPrimary ctx other = false ∧ OnlySlot ctx slot other

/-- With the same primary session, a session keeps its type if it is that session, or keeps having
or not having a slot. -/
theorem getSessionType_eq_iff (ctx ctx' : DeviceContext K) (sessionId : UInt32)
    (h : libcxltspIsSessionPrimary ctx' sessionId = libcxltspIsSessionPrimary ctx sessionId) :
    libcxltspGetSessionType ctx' sessionId = libcxltspGetSessionType ctx sessionId ↔
      (libcxltspIsSessionPrimary ctx sessionId = false →
        ((∃ a, BoundTo ctx' a sessionId) ↔ ∃ a, BoundTo ctx a sessionId)) := by
  rw [← isSessionSecondary_iff, ← isSessionSecondary_iff]
  unfold libcxltspGetSessionType
  rw [h]
  cases libcxltspIsSessionPrimary ctx sessionId with
  | true => simp
  | false =>
      cases libcxltspIsSessionSecondary ctx' sessionId <;>
        cases libcxltspIsSessionSecondary ctx sessionId <;> simp

/-- Binding a session to a slot keeps the types of the others unless it displaces one. -/
theorem types_set_iff (ctx : DeviceContext K) (sessionId : UInt32) (slot : Fin secondSessionCount) :
    (∀ other, other ≠ sessionId →
      libcxltspGetSessionType (libcxltspSetSecondarySessionId ctx sessionId slot) other =
        libcxltspGetSessionType ctx other) ↔ ¬ Displaces ctx slot sessionId := by
  have htype := fun other => getSessionType_eq_iff ctx
    (libcxltspSetSecondarySessionId ctx sessionId slot) other rfl
  simp only [htype, boundTo_set_iff]
  constructor
  · rintro hkept ⟨other, hne, hslot, hprimary, honly⟩
    obtain ⟨a, ⟨-, rfl⟩ | ⟨hother, ha⟩⟩ := (hkept other hne hprimary).2 ⟨slot, hslot⟩
    · exact hne rfl
    · exact hother (honly a ha)
  · intro hnot other hne hprimary
    constructor
    · rintro ⟨a, ⟨-, rfl⟩ | ⟨-, ha⟩⟩
      · exact absurd rfl hne
      · exact ⟨a, ha⟩
    · rintro ⟨a, ha⟩
      by_cases hslot : a = slot
      · subst hslot
        by_contra hlost
        refine hnot ⟨other, hne, ha, hprimary, fun b hb => ?_⟩
        by_contra hb'
        exact hlost ⟨b, .inr ⟨hb', hb⟩⟩
      · exact ⟨a, .inr ⟨hslot, ha⟩⟩

/-- After binding a session to a slot it has no other slot if it had none before. -/
theorem onlySlot_set_iff (ctx : DeviceContext K) (sessionId : UInt32)
    (slot : Fin secondSessionCount) :
    OnlySlot (libcxltspSetSecondarySessionId ctx sessionId slot) slot sessionId ↔
      OnlySlot ctx slot sessionId := by
  simp only [OnlySlot, boundTo_set_iff, and_true]
  constructor
  · intro h a ha
    by_contra hne
    exact hne (h a (.inr ⟨hne, ha⟩))
  · rintro h a (rfl | ⟨-, ha⟩)
    · rfl
    · exact h a ha

/-- Binding the first session as the primary one gives no other session a type. -/
theorem types_setPrimary {s : State K} (hfree : FreeUnlessBound s)
    (hprimary : s.context.sessionIdPrimaryValid = false) (sessionId other : UInt32)
    (hne : other ≠ sessionId) :
    libcxltspGetSessionType (libcxltspSetPrimarySessionId
        (libcxltspInitializeDeviceContext s.context) sessionId) other =
      libcxltspGetSessionType s.context other := by
  rw [getSessionType_eq_iff _ _ _ (by simp [libcxltspIsSessionPrimary, libcxltspSetPrimarySessionId,
    hprimary, hne.symm])]
  intro _
  apply iff_of_false
  · rintro ⟨a, hvalid, -⟩
    simp [libcxltspSetPrimarySessionId, libcxltspInitializeDeviceContext, hprimary,
      DeviceContext.zeroed, get_eq_getElem] at hvalid
  · rintro ⟨a, ha⟩
    exact hfree hprimary a other ha

/-- **A version request leaves the other sessions alone and binds its own session to no second slot,
exactly when it binds none or displaces no session and its session has no other slot.** The state is
any state that the responder reaches; the index of the last pre-shared key exchange is in `env`. -/
theorem getVersion_undisturbing_iff (psk : Vector (Psk K) secondSessionCount) (is : List Input)
    (env : Environment) (sessionId : UInt32) (request : Bytes)
    (h : IsRequest K request .getTargetTspVersion) :
    let s := (responder K).after ⟨DeviceContext.zeroed K, psk⟩ is
    let s' := ((responder K).step s ⟨some sessionId, request, env⟩).2
    (∀ other, other ≠ sessionId →
        libcxltspGetSessionType s'.context other = libcxltspGetSessionType s.context other) ∧
      (∀ slot, boundSlot env s.context request = some slot →
        OnlySlot s'.context slot sessionId) ↔
    ∀ slot, boundSlot env s.context request = some slot →
      ¬ Displaces s.context slot sessionId ∧ OnlySlot s.context slot sessionId := by
  intro s s'
  have hfree : FreeUnlessBound s := free_after psk is
  rcases getVersion_cases s sessionId request env h with
    ⟨slot, hslot, hcontext⟩ | ⟨hslot, hcontext⟩ | ⟨hslot, hprimary, hcontext⟩
  · rw [show s'.context = _ from hcontext, hslot, types_set_iff]
    simp [onlySlot_set_iff]
  · rw [show s'.context = _ from hcontext, hslot]
    simp
  · rw [show s'.context = _ from hcontext, hslot]
    exact iff_of_true ⟨types_setPrimary hfree hprimary sessionId, nofun⟩ nofun

/-- A version request on a session that was set up with the pre-shared key `index`. -/
private def pskVersion (sessionId : UInt32) (index : UInt8) : Input :=
  { sampleInput .getTargetTspVersion [0, 0] with
    session := some sessionId
    env := ⟨true, index⟩ }

/-- The sample device after the primary session 1 and a version request of session 2. -/
private def twoSessions : State CxlTsp.sample :=
  (responder CxlTsp.sample).after ⟨DeviceContext.zeroed _, samplePsk⟩
    [bindPrimary, pskVersion 2 0]

/-- Session 3 comes with a free slot. -/
theorem getVersion_undisturbing_sample :
    let s := twoSessions
    let s' := ((responder CxlTsp.sample).step s (pskVersion 3 1)).2
    boundSlot ⟨true, 1⟩ s.context (pskVersion 3 1).request = some ⟨1, by decide⟩ ∧
    ((∀ other, other ≠ 3 →
        libcxltspGetSessionType s'.context other = libcxltspGetSessionType s.context other) ∧
      (∀ slot, boundSlot ⟨true, 1⟩ s.context (pskVersion 3 1).request = some slot →
        OnlySlot s'.context slot 3) ↔
    ∀ slot, boundSlot ⟨true, 1⟩ s.context (pskVersion 3 1).request = some slot →
      ¬ Displaces s.context slot 3 ∧ OnlySlot s.context slot 3) :=
  ⟨by decide +kernel, getVersion_undisturbing_iff samplePsk [bindPrimary, pskVersion 2 0] ⟨true, 1⟩
    3 (pskVersion 3 1).request rfl⟩

/-- A version request of session 3 with the index of session 2 takes session 2 its type; a further
version request of session 2, after an exchange with another key, gives it a second slot. -/
theorem getVersion_disturbs :
    libcxltspGetSessionType twoSessions.context 2 = .secondary ∧
    libcxltspGetSessionType
      ((responder CxlTsp.sample).step twoSessions (pskVersion 3 0)).2.context 2 = .other ∧
    BoundTo ((responder CxlTsp.sample).step twoSessions (pskVersion 2 1)).2.context
      ⟨0, by decide⟩ 2 ∧
    BoundTo ((responder CxlTsp.sample).step twoSessions (pskVersion 2 1)).2.context
      ⟨1, by decide⟩ 2 := by
  unfold BoundTo
  decide +kernel

end SpdmEmu.Tsp
