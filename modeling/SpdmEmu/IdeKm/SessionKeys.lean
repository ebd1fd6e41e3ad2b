import SpdmEmu.IdeKm.QueryRoundTrip
import SpdmEmu.IdeKm.Session
import SpdmEmu.Run.Slots

/-!
# The keys of a PCI IDE_KM session

The setup draws six keys, one for each direction and sub-stream, and the device keeps a key for each
key set and direction: the sub-stream is no part of the slot. So of the three keys of a direction
the device keeps the last, and after the setup two of its four slots are programmed and started. The
teardown stops both, and stops each of them three times.

A setup that runs out of random numbers returns in the middle and leaves what it has started.
`ideKm_session_keys` has both cases.
-/

set_option autoImplicit false

namespace SpdmEmu.IdeKm

open SpdmEmu.Wire SpdmEmu.Libspdm SpdmEmu.Run

variable {K : PciIdeKm} {random : Nat → (n : Nat) → Option (Vector UInt8 n)}
  {statusLowEntropy : ErrorStatus}

/-- The requester with the device as its peer. -/
abbrev pciIdeHost (K : PciIdeKm) (random : Nat → (n : Nat) → Option (Vector UInt8 n))
    (statusLowEntropy : ErrorStatus) : Host (PortContext × Nat) :=
  deviceHost (pciIdeKmGetResponse K) random statusLowEntropy

/-! ## One message -/

section Messages

variable {ctx : PortContext} {key : KeyBody}

/-- The dispatcher finds the handler of a request. -/
theorem pciIdeKmGetResponse_request (ctx : PortContext) (r : Request) (body : Bytes) :
    pciIdeKmGetResponse K ctx (K.header.encode (K.requestObjectId r) ++ body) =
      handler K r ctx (K.header.encode (K.requestObjectId r) ++ body) :=
  dispatchObject_request K.requestObjectId_injective (by cases r <;> decide) ctx body

theorem getResponse_keyProg (hbound : ctx.isBound key.portIndex = true) (keyBuffer : KeyBuffer) :
    pciIdeKmGetResponse K ctx (keyProgMessage K key keyBuffer) =
      (⟨.success, some (message K .kpAck (K.kpAck.encode ⟨key, K.kpAckStatusSuccess⟩))⟩,
        { ctx with
          keyBuffer := Slots.setAt ctx.keyBuffer (keyIndex K key.keySubStream) keyBuffer
          isKeyProg := Slots.setAt ctx.isKeyProg (keyIndex K key.keySubStream) true }) := by
  rw [keyProgMessage, pciIdeKmGetResponse_request, handler]
  refine handleKeyProg_request ?_ _
  rw [pciIdeKmDeviceKeyProg, hbound]
  rfl

/-- A message for a key set is answered with an acknowledgement, by the device of the table. -/
theorem getResponse_keySet (hbound : ctx.isBound key.portIndex = true) {r : Request}
    {body : Packed KeyBody} {go : Bool}
    (hhandler : handler K r = handleKeySet K body (setKeySetGo K go)) :
    pciIdeKmGetResponse K ctx (K.header.encode (K.requestObjectId r) ++ body.encode key) =
      (⟨.success, some (message K .kSetGostopAck (K.kSetGostopAck.encode key))⟩,
        { ctx with
          isKeySetGo := Slots.setAt ctx.isKeySetGo (keyIndex K key.keySubStream) go }) := by
  rw [pciIdeKmGetResponse_request, hhandler]
  refine handleKeySetOf_request ?_ _
  rw [setKeySetGo, hbound]
  rfl

end Messages

/-! ## The calls of the session, with the device -/

/-- A slot with a key that is started. -/
def PortContext.withKey (ctx : PortContext) (i : Fin 4) (keyBuffer : KeyBuffer) : PortContext :=
  { ctx with
    keyBuffer := Slots.setAt ctx.keyBuffer i keyBuffer
    isKeyProg := Slots.setAt ctx.isKeyProg i true
    isKeySetGo := Slots.setAt ctx.isKeySetGo i true }

section Calls

variable {ctx : PortContext} (hport : ctx.portIndex = 1) (k : Nat) (keySubStream : UInt8)

include hport

theorem isBound_sessionKey : ctx.isBound (sessionKey keySubStream).portIndex = true := by
  simp [PortContext.isBound, sessionKey, hport]

theorem keyProg_device (keyBuffer : KeyBuffer) :
    pciIdeKmKeyProg K (pciIdeHost K random statusLowEntropy).sendReceive (sessionKey keySubStream)
        keyBuffer (ctx, k) =
      (.ok K.kpAckStatusSuccess,
        ({ ctx with
          keyBuffer := Slots.setAt ctx.keyBuffer (keyIndex K keySubStream) keyBuffer
          isKeyProg := Slots.setAt ctx.isKeyProg (keyIndex K keySubStream) true }, k)) :=
  exchangeKeyProg_deviceHost
    (getResponse_keyProg (isBound_sessionKey hport keySubStream) keyBuffer) k

theorem keySet_device {r : Request} {body : Packed KeyBody} {go : Bool}
    (hhandler : handler K r = handleKeySet K body (setKeySetGo K go)) :
    exchangeKeySet K (pciIdeHost K random statusLowEntropy).sendReceive (sessionKey keySubStream) r
        body (ctx, k) =
      (.ok (),
        ({ ctx with
          isKeySetGo := Slots.setAt ctx.isKeySetGo (keyIndex K keySubStream) go }, k)) :=
  exchangeKeySetOf_deviceHost
    (getResponse_keySet (isBound_sessionKey hport keySubStream) hhandler) k

/-- A key that is drawn ends in the slot of the sub-stream, which is started. -/
theorem programAndGo_of_some {key : Vector UInt8 32} (hdraw : random k 32 = some key) :
    ideKeyProgramAndGo K (pciIdeHost K random statusLowEntropy) keySubStream (ctx, k) =
      (.ok (), (ctx.withKey (keyIndex K keySubStream) (sessionKeyBuffer key), k + 1)) := by
  have hrandom : (pciIdeHost K random statusLowEntropy).randomNumber 32 (ctx, k) =
      (.ok key, (ctx, k + 1)) := by
    rw [deviceHost_randomNumber, hdraw]
  rw [ideKeyProgramAndGo, Flow.bind_of_ok hrandom,
    Flow.bind_of_ok (keyProg_device hport (k + 1) keySubStream (sessionKeyBuffer key))]
  have hgo : handler K .kSetGo = handleKeySet K K.kSetGoRequest (setKeySetGo K true) := rfl
  refine keySet_device ?_ (k + 1) keySubStream hgo
  exact hport

omit hport in
/-- Without a key nothing is sent. -/
theorem programAndGo_of_none (hdraw : random k 32 = none) :
    ideKeyProgramAndGo K (pciIdeHost K random statusLowEntropy) keySubStream (ctx, k) =
      (.error statusLowEntropy.val, (ctx, k + 1)) := by
  have hrandom : (pciIdeHost K random statusLowEntropy).randomNumber 32 (ctx, k) =
      (.error statusLowEntropy.val, (ctx, k + 1)) := by
    rw [deviceHost_randomNumber, hdraw]
  rw [ideKeyProgramAndGo, Flow.bind_of_error hrandom]

end Calls

/-! ## The loops of the session -/

/-- The slot of a direction and sub-stream. -/
def SubStreamCodes.slot (codes : SubStreamCodes) (K : PciIdeKm) (d : Direction × SubStream) :
    Fin 4 :=
  keyIndex K (codes.code d)

/-- The device after the sub-streams `done`, with the keys of the first draws: their slots are
programmed and started and no others, and each slot has the key of the last of its sub-streams. -/
structure Programmed (K : PciIdeKm) (codes : SubStreamCodes)
    (random : Nat → (n : Nat) → Option (Vector UInt8 n)) (done : List (Direction × SubStream))
    (s : PortContext × Nat) : Prop where
  port : s.1.portIndex = 1
  count : s.2 = done.length
  drawn : ∀ j < done.length, (random j 32).isSome = true
  programmed : ∀ i, s.1.isKeyProg.get i = true ↔ i ∈ done.map (codes.slot K)
  started : ∀ i, s.1.isKeySetGo.get i = true ↔ i ∈ done.map (codes.slot K)
  key : ∀ (j : Nat) (d : Direction × SubStream), done[j]? = some d →
    (∀ (j' : Nat) (d' : Direction × SubStream), j < j' → done[j']? = some d' →
      codes.slot K d' ≠ codes.slot K d) →
    (random j 32).map sessionKeyBuffer = some (s.1.keyBuffer.get (codes.slot K d))

section Loops

variable {codes : SubStreamCodes}

theorem programmed_query :
    Programmed K codes random [] (libidekmInitializeDevicePortContext 1, 0) where
  port := rfl
  count := rfl
  drawn := fun j hj => absurd hj (Nat.not_lt_zero j)
  programmed := fun i => by
    have hempty : (libidekmInitializeDevicePortContext 1).isKeyProg.get i = false :=
      Slots.get_replicate false i
    simp only [hempty, List.map_nil, List.not_mem_nil, Bool.false_eq_true]
  started := fun i => by
    have hstopped : (libidekmInitializeDevicePortContext 1).isKeySetGo.get i = false :=
      Slots.get_replicate false i
    simp only [hstopped, List.map_nil, List.not_mem_nil, Bool.false_eq_true]
  key := fun j d hd => by simp at hd

/-- One more sub-stream. -/
theorem Programmed.snoc {done : List (Direction × SubStream)} {s : PortContext × Nat}
    (h : Programmed K codes random done s) {d : Direction × SubStream} {key : Vector UInt8 32}
    (hdraw : random s.2 32 = some key) :
    Programmed K codes random (done ++ [d])
      (s.1.withKey (codes.slot K d) (sessionKeyBuffer key), s.2 + 1) where
  port := h.port
  count := by simp [h.count]
  drawn := by
    intro j hj
    rw [List.length_append, List.length_singleton] at hj
    rcases Nat.lt_succ_iff_lt_or_eq.1 hj with hlt | rfl
    · exact h.drawn j hlt
    · rw [← h.count, hdraw]
      rfl
  programmed := by
    intro i
    simp only [PortContext.withKey, Slots.get_setAt, List.map_append, List.mem_append,
      List.map_singleton, List.mem_singleton, ← h.programmed i]
    by_cases hi : i = codes.slot K d <;> simp [hi]
  started := by
    intro i
    simp only [PortContext.withKey, Slots.get_setAt, List.map_append, List.mem_append,
      List.map_singleton, List.mem_singleton, ← h.started i]
    by_cases hi : i = codes.slot K d <;> simp [hi]
  key := by
    intro j e hj hlast
    simp only [PortContext.withKey, Slots.get_setAt]
    rcases Nat.lt_or_ge j done.length with hlt | hge
    · -- an earlier sub-stream, whose slot is not the one written now
      have hne : codes.slot K d ≠ codes.slot K e := hlast done.length d hlt (by simp)
      rw [if_neg hne.symm]
      rw [List.getElem?_append_left hlt] at hj
      refine h.key j e hj fun j' e' hj' he' => hlast j' e' hj' ?_
      rw [List.getElem?_append_left (List.getElem?_eq_some_iff.1 he').1, he']
    · rw [List.getElem?_append_right hge] at hj
      have he : e = d := List.mem_singleton.1 (List.mem_of_getElem? hj)
      have hj0 : j = done.length := by
        have hlen := (List.getElem?_eq_some_iff.1 hj).1
        simp only [List.length_singleton] at hlen
        omega
      rw [he, if_pos rfl, hj0, ← h.count, hdraw]
      rfl

/-- The setup has returned for want of a random number, in front of the sub-stream `m`. -/
def OutOfEntropy (K : PciIdeKm) (codes : SubStreamCodes)
    (random : Nat → (n : Nat) → Option (Vector UInt8 n)) (statusLowEntropy : ErrorStatus)
    (status : LibspdmReturn) (s : PortContext × Nat) : Prop :=
  status = statusLowEntropy.val ∧ ∃ m < sessionSubStreams.length, random m 32 = none ∧
    Programmed K codes random (sessionSubStreams.take m) (s.1, m)

/-- The loop of the setup. -/
theorem triple_setupLoop :
    Flow.Triple (Programmed K codes random [])
      (Flow.forEach (fun d => ideKeyProgramAndGo K (pciIdeHost K random statusLowEntropy)
        (codes.code d)) sessionSubStreams)
      (fun _ => Programmed K codes random sessionSubStreams)
      (OutOfEntropy K codes random statusLowEntropy) := by
  apply Flow.Triple.forEach
  intro done d rest hdone s hs
  obtain ⟨ctx, k⟩ := s
  cases hdraw : random k 32 with
  | some key =>
      rw [programAndGo_of_some hs.port k _ hdraw]
      exact hs.snoc hdraw
  | none =>
      have hk : k = done.length := hs.count
      rw [programAndGo_of_none k _ hdraw]
      refine ⟨rfl, k, ?_, hdraw, ?_⟩
      · rw [hdone, List.length_append, List.length_cons]
        omega
      · rw [hdone, List.take_left' hk.symm]
        exact hs

/-- The query of the setup binds port 1, whatever the device was before. -/
theorem sessionQuery_device (hreg : K.ideReg.size = 4) (ctx : PortContext) (k : Nat)
    (ideRegBlock : Mem) :
    sessionQuery K (pciIdeHost K random statusLowEntropy) ideRegBlock (ctx, k) =
      (.ok (), (libidekmInitializeDevicePortContext 1, k)) := by
  generalize hctx : libidekmInitializeDevicePortContext 1 = ctx₁
  generalize hregs : ctx₁.ideRegBuffer.toList.take ctx₁.ideRegBufferCount.toNat = regs
  have hcount : regs.length = ideRegBlockSupportedCount := by
    rw [← hregs, ← hctx]
    decide +kernel
  have hresponse : pciIdeKmGetResponse K ctx ((queryProtocol K).request 1) =
      (⟨.success, some ((queryProtocol K).response
        ⟨1, ctx₁.devFuncNum, ctx₁.busNum, ctx₁.segment, ctx₁.maxPortIndex⟩
        (K.ideReg.encodeList regs))⟩, ctx₁) := by
    refine (pciIdeKmGetResponse_request ctx .query _).trans ?_
    refine (getResponseQueryOf_queryMessage K sampleDeviceQuery ctx 1 rfl).trans ?_
    rw [← hregs, ← hctx]
    rfl
  have hquery : pciIdeKmQuery K (pciIdeHost K random statusLowEntropy).sendReceive (ctx, k) 1
      ideRegBlock (UInt32.ofNat ideRegBlockSupportedCount) =
      ⟨.success, some ⟨1, ctx₁.devFuncNum, ctx₁.busNum, ctx₁.segment, ctx₁.maxPortIndex⟩,
        ideRegBlock.store 0 (K.ideReg.encodeList regs), UInt32.ofNat ideRegBlockSupportedCount,
        (ctx₁, k)⟩ :=
    query_deviceHost hreg hresponse rfl hcount k ideRegBlock
  simp only [sessionQuery, hquery, LibspdmReturn.isError, Bool.false_eq_true, if_false]

variable (codes random statusLowEntropy)

/-- The setup, from any state of the device. -/
theorem triple_setup (hreg : K.ideReg.size = 4) (ideRegBlock : Mem) :
    Flow.Triple (fun s => s.2 = 0)
      (pciIdeKmProcessSessionMessageSetup K codes (pciIdeHost K random statusLowEntropy)
        ideRegBlock)
      (fun _ => Programmed K codes random sessionSubStreams)
      (OutOfEntropy K codes random statusLowEntropy) := by
  refine Flow.Triple.bind (Q := fun _ => Programmed K codes random []) ?_
    fun _ => triple_setupLoop
  apply Flow.Triple.of_total
  rintro ⟨ctx, k⟩ rfl
  exact ⟨(), _, sessionQuery_device hreg ctx 0 ideRegBlock, programmed_query⟩

/-- The device after the sub-streams `done` were stopped. -/
structure Stopped (K : PciIdeKm) (codes : SubStreamCodes) (start : PortContext)
    (done : List (Direction × SubStream)) (s : PortContext × Nat) : Prop where
  same : s.1 = { start with isKeySetGo := s.1.isKeySetGo }
  started : ∀ i, s.1.isKeySetGo.get i = true ↔
    start.isKeySetGo.get i = true ∧ i ∉ done.map (codes.slot K)

variable (K) in
/-- The teardown stops the slots of the six sub-streams. -/
theorem triple_teardown {start : PortContext} (hport : start.portIndex = 1) :
    Flow.Triple (fun s => s.1 = start)
      (pciIdeKmProcessSessionMessageTeardown K codes (pciIdeHost K random statusLowEntropy))
      (fun _ => Stopped K codes start sessionSubStreams) (fun _ _ => False) := by
  have hloop : Flow.Triple (Stopped K codes start [])
      (pciIdeKmProcessSessionMessageTeardown K codes (pciIdeHost K random statusLowEntropy))
      (fun _ => Stopped K codes start sessionSubStreams) (fun _ _ => False) := by
    apply Flow.Triple.forEach
    intro done d rest _
    apply Flow.Triple.of_total
    rintro ⟨ctx, k⟩ hs
    have hport' : ctx.portIndex = 1 := (congrArg PortContext.portIndex hs.same).trans hport
    have hstop : handler K .kSetStop = handleKeySet K K.kSetStopRequest (setKeySetGo K false) := rfl
    refine ⟨(), _, keySet_device hport' k (codes.code d) hstop, ?_, ?_⟩
    · exact congrArg (fun c : PortContext => { c with
        isKeySetGo := Slots.setAt ctx.isKeySetGo (keyIndex K (codes.code d)) false }) hs.same
    · intro i
      have hi := hs.started i
      simp only [Slots.get_setAt, List.map_append, List.mem_append, List.map_singleton,
        List.mem_singleton, not_or] at hi ⊢
      by_cases hslot : i = keyIndex K (codes.code d)
      · simp [hslot, SubStreamCodes.slot]
      · have hne : i ≠ codes.slot K d := hslot
        rw [if_neg hslot, hi]
        simp [hne]
  refine hloop.imp ?_ (fun _ _ h => h) (fun _ _ h => h)
  rintro s rfl
  exact ⟨rfl, fun i => by simp⟩

end Loops

/-! ## The two slots of a session -/

/-- What `pci_idekm.h` says of the codes: the sub-stream has no bit of the masks that select a slot,
and the two directions have different slots. -/
structure SubStreamCodes.Separated (codes : SubStreamCodes) (K : PciIdeKm) : Prop where
  subStream : ∀ s, codes.keySubStream s &&& (K.keySetMask ||| K.keyDirectionMask) = 0
  direction : codes.slot K (.rx, .pr) ≠ codes.slot K (.tx, .pr)

section Slots

variable {codes : SubStreamCodes}

theorem keyIndex_or (K : PciIdeKm) {b : UInt8}
    (h : b &&& (K.keySetMask ||| K.keyDirectionMask) = 0) (a : UInt8) :
    keyIndex K (a ||| b) = keyIndex K a := by
  have hzero := congrArg UInt8.toNat h
  apply Fin.ext
  simp only [keyIndex, UInt8.toNat_and, UInt8.toNat_or, UInt8.toNat_zero] at hzero ⊢
  rw [Nat.and_or_distrib_right, hzero, Nat.or_zero]

/-- The slot is that of the direction. -/
theorem SubStreamCodes.Separated.slot_eq (h : codes.Separated K) (d : Direction) (s : SubStream) :
    codes.slot K (d, s) = codes.slot K (d, .pr) := by
  simp only [SubStreamCodes.slot, SubStreamCodes.code, keyIndex_or K (h.subStream _)]

theorem SubStreamCodes.Separated.mem_slots (h : codes.Separated K) (i : Fin 4) :
    i ∈ sessionSubStreams.map (codes.slot K) ↔
      i = codes.slot K (.rx, .pr) ∨ i = codes.slot K (.tx, .pr) := by
  simp only [sessionSubStreams, List.map_cons, List.map_nil, List.mem_cons, List.not_mem_nil,
    h.slot_eq .rx .npr, h.slot_eq .rx .cpl, h.slot_eq .tx .npr, h.slot_eq .tx .cpl]
  tauto

/-- Of the keys of a direction the last is kept. -/
theorem Programmed.keys (h : codes.Separated K) {s : PortContext × Nat}
    (hs : Programmed K codes random sessionSubStreams s) :
    (random 2 32).map sessionKeyBuffer = some (s.1.keyBuffer.get (codes.slot K (.rx, .pr))) ∧
      (random 5 32).map sessionKeyBuffer =
        some (s.1.keyBuffer.get (codes.slot K (.tx, .pr))) := by
  constructor
  · rw [← h.slot_eq .rx .cpl]
    refine hs.key 2 (.rx, .cpl) rfl fun j d hj hd heq => ?_
    -- the later sub-streams are those of the other direction
    have htx : d.1 = .tx := by
      have hlt := (List.getElem?_eq_some_iff.1 hd).1
      simp only [sessionSubStreams, List.length_cons, List.length_nil] at hlt
      obtain rfl | rfl | rfl : j = 3 ∨ j = 4 ∨ j = 5 := by omega
      all_goals exact (congrArg Prod.fst (Option.some.inj hd)).symm
    obtain ⟨_, s⟩ := d
    dsimp only at htx
    rw [htx, h.slot_eq .tx s, h.slot_eq .rx .cpl] at heq
    exact h.direction heq.symm
  · rw [← h.slot_eq .tx .cpl]
    refine hs.key 5 (.tx, .cpl) rfl fun j d hj hd => ?_
    have hlt := (List.getElem?_eq_some_iff.1 hd).1
    simp only [sessionSubStreams, List.length_cons, List.length_nil] at hlt
    omega

end Slots

/-- **The keys that a session leaves.** From every state of the device: if the six draws give keys,
then the setup succeeds with the slots of the two directions programmed and started and no others,
each with the last of its three keys, and the teardown after it succeeds and leaves the keys and no
key set started. If a draw fails, then the setup returns for want of entropy and leaves the slots of
the sub-streams before it started. -/
theorem ideKm_session_keys (K : PciIdeKm) (hreg : K.ideReg.size = 4) (codes : SubStreamCodes)
    (hcodes : codes.Separated K) (random : Nat → (n : Nat) → Option (Vector UInt8 n))
    (statusLowEntropy : ErrorStatus) (ctx : PortContext) (ideRegBlock : Mem) :
    (∀ keys : Fin 6 → Vector UInt8 32, (∀ j : Fin 6, random j 32 = some (keys j)) →
      ∃ s s', pciIdeKmProcessSessionMessageSetup K codes (pciIdeHost K random statusLowEntropy)
          ideRegBlock (ctx, 0) = (.ok (), s) ∧
        (∀ i, s.1.isKeySetGo.get i = true ↔
          i = codes.slot K (.rx, .pr) ∨ i = codes.slot K (.tx, .pr)) ∧
        (∀ i, s.1.isKeyProg.get i = s.1.isKeySetGo.get i) ∧
        s.1.keyBuffer.get (codes.slot K (.rx, .pr)) = sessionKeyBuffer (keys 2) ∧
        s.1.keyBuffer.get (codes.slot K (.tx, .pr)) = sessionKeyBuffer (keys 5) ∧
        pciIdeKmProcessSessionMessageTeardown K codes (pciIdeHost K random statusLowEntropy) s =
          (.ok (), s') ∧
        s'.1 = { s.1 with isKeySetGo := Vector.replicate 4 false }) ∧
    (∀ m < 6, (∀ j < m, (random j 32).isSome = true) → random m 32 = none →
      ∃ s, pciIdeKmProcessSessionMessageSetup K codes (pciIdeHost K random statusLowEntropy)
          ideRegBlock (ctx, 0) = (.error statusLowEntropy.val, s) ∧
        ∀ i, s.1.isKeySetGo.get i = true ↔
          i ∈ (sessionSubStreams.take m).map (codes.slot K)) := by
  have hsetup := triple_setup random statusLowEntropy codes hreg ideRegBlock
  rcases hrun : pciIdeKmProcessSessionMessageSetup K codes (pciIdeHost K random statusLowEntropy)
    ideRegBlock (ctx, 0) with ⟨result, s⟩
  constructor
  · intro keys hkeys
    cases result with
    | error status =>
        -- no draw has failed
        obtain ⟨-, m, hm, hnone, -⟩ := hsetup.error rfl hrun
        exact absurd ((hkeys ⟨m, hm⟩).symm.trans hnone) (Option.some_ne_none _)
    | ok _ =>
        have hs := hsetup.ok rfl hrun
        obtain ⟨_, s', hteardown, hstopped⟩ :=
          (triple_teardown K random statusLowEntropy codes hs.port).total (s := s) rfl
        obtain ⟨hrx, htx⟩ := hs.keys hcodes
        rw [show random 2 32 = some (keys 2) from hkeys 2] at hrx
        rw [show random 5 32 = some (keys 5) from hkeys 5] at htx
        have hstarted := fun i => (hs.started i).trans (hcodes.mem_slots i)
        refine ⟨s, s', rfl, hstarted, fun i => ?_, (Option.some.inj hrx).symm,
          (Option.some.inj htx).symm, hteardown, ?_⟩
        · rw [Bool.eq_iff_iff, hs.programmed, hs.started]
        · -- every slot that was started is one of those that were stopped
          have hnone : s'.1.isKeySetGo = Vector.replicate 4 false := by
            apply Vector.ext
            intro i hi
            have hiff := hstopped.started ⟨i, hi⟩
            rw [hs.started] at hiff
            have hfalse : s'.1.isKeySetGo.get ⟨i, hi⟩ = false :=
              Bool.eq_false_iff.2 fun h => (hiff.1 h).2 (hiff.1 h).1
            rw [Vector.getElem_replicate]
            exact hfalse
          rw [hstopped.same, hnone]
  · intro m hm hdrawn hnone
    cases result with
    | ok _ =>
        have hs := hsetup.ok rfl hrun
        have hsome := hs.drawn m hm
        rw [hnone] at hsome
        cases hsome
    | error status =>
        obtain ⟨rfl, m', hm', hnone', hs⟩ := hsetup.error rfl hrun
        -- the first draw that fails is the one at which the setup has stopped
        have hmm : m' = m := by
          rcases Nat.lt_trichotomy m' m with hlt | heq | hgt
          · have hsome := hdrawn m' hlt
            rw [hnone'] at hsome
            cases hsome
          · exact heq
          · have hsome := hs.drawn m (by rw [List.length_take]; omega)
            rw [hnone] at hsome
            cases hsome
        exact ⟨s, rfl, fun i => hmm ▸ hs.started i⟩

theorem separated_sample : SubStreamCodes.sample.Separated .sample where
  subStream := fun s => by cases s <;> decide
  direction := by decide

/-- Random bytes that are the number of their draw, for a number of draws. -/
private def countedDraws (draws : Nat) : Nat → (n : Nat) → Option (Vector UInt8 n) := fun k n =>
  if k < draws then some (Vector.replicate n (UInt8.ofNat k)) else none

/-- Six draws give six keys, and the third and the sixth of them stay; of six the fifth fails. -/
theorem ideKm_session_keys_sample :
    PciIdeKm.sample.ideReg.size = 4 ∧ SubStreamCodes.sample.Separated .sample ∧
      (∃ s s', pciIdeKmProcessSessionMessageSetup .sample .sample
          (pciIdeHost .sample (countedDraws 6) lowEntropy) (fun _ => 0)
          (libidekmInitializeDevicePortContext 0, 0) = (.ok (), s) ∧
        s.1.keyBuffer.get (SubStreamCodes.sample.slot .sample (.rx, .pr)) =
          sessionKeyBuffer (Vector.replicate 32 2) ∧
        s.1.keyBuffer.get (SubStreamCodes.sample.slot .sample (.tx, .pr)) =
          sessionKeyBuffer (Vector.replicate 32 5) ∧
        pciIdeKmProcessSessionMessageTeardown .sample .sample
          (pciIdeHost .sample (countedDraws 6) lowEntropy) s = (.ok (), s') ∧
        s'.1 = { s.1 with isKeySetGo := Vector.replicate 4 false }) ∧
      ∃ s, pciIdeKmProcessSessionMessageSetup .sample .sample
          (pciIdeHost .sample (countedDraws 4) lowEntropy) (fun _ => 0)
          (libidekmInitializeDevicePortContext 0, 0) = (.error (.raw 0x80000000), s) ∧
        ∀ i, s.1.isKeySetGo.get i = true ↔
          i ∈ (sessionSubStreams.take 4).map (SubStreamCodes.sample.slot .sample) := by
  refine ⟨rfl, separated_sample, ?_, ?_⟩
  · obtain ⟨s, s', hsetup, -, -, hrx, htx, hteardown, hkept⟩ :=
      (ideKm_session_keys .sample rfl .sample separated_sample (countedDraws 6) lowEntropy
        (libidekmInitializeDevicePortContext 0) (fun _ => 0)).1
        (fun j => Vector.replicate 32 (UInt8.ofNat j)) (fun j => if_pos j.isLt)
    exact ⟨s, s', hsetup, hrx, htx, hteardown, hkept⟩
  · exact (ideKm_session_keys .sample rfl .sample separated_sample (countedDraws 4) lowEntropy
      (libidekmInitializeDevicePortContext 0) (fun _ => 0)).2 4 (by decide)
      (fun j hj => by simp [countedDraws, hj]) rfl

end SpdmEmu.IdeKm
