import SpdmEmu.Tsp.Requester

/-!
# The memory ranges of SET_TARGET_TE_STATE

`cxl_tsp_set_te_state` sends a fixed part and up to 32 memory ranges, and
`cxl_tsp_get_response_set_te_state` hands the ranges of a request to the device library. The device
library is any one here, and the handler runs on it with a record of its calls.

The requester fills a structure of its own, `cxl_tsp_set_target_te_state_req_mine_t`, whose fixed
part has to have the layout of `cxl_tsp_set_target_te_state_req_t` (`MineLayout`).
-/

set_option autoImplicit false

namespace SpdmEmu.Tsp

open SpdmEmu.Wire SpdmEmu.Libspdm

variable {K : CxlTsp} {σ : Type}

/-! ## The responder -/

/-- The context of a device with a record of its calls. -/
def recordedContext (s : State K × List (TeStateCall K)) : DeviceContext K := s.1.context

/-- A device library with a record of its calls. -/
def recordCalls (device : SetTeState K) (s : State K × List (TeStateCall K))
    (call : TeStateCall K) : Except UInt32 Unit × State K × List (TeStateCall K) :=
  let (result, s') := device s.1 call
  (result, s', s.2 ++ [call])

/-- `cxl_tsp_get_response_set_te_state` over any device library, with a record of its calls. -/
def getResponseSetTeStateOf (device : SetTeState K) (session : SessionId)
    (s : State K × List (TeStateCall K)) (request : Bytes) :
    Reply × State K × List (TeStateCall K) :=
  setTeStateOver recordedContext (recordCalls device) s session request

/-- The session is a primary or secondary one. -/
def PrimaryOrSecondary (s : State K) (session : SessionId) : Prop :=
  ∃ sessionId, session = some sessionId ∧ libcxltspGetSessionType s.context sessionId ≠ .other

/-- What a request passes before the device library is called. -/
structure TeStateAccepted (s : State K) (session : SessionId) (request : Bytes) : Prop where
  session : PrimaryOrSecondary s session
  count_pos : 0 < (teStateCall K request).numberOfMemoryRanges.toNat
  count_le : (teStateCall K request).numberOfMemoryRanges.toNat ≤ 32
  length : request.length =
    setTeStateFixedSize K + (teStateCall K request).numberOfMemoryRanges.toNat * K.memoryRangeSize
  version : (K.header.decode request).tspVersion = K.messageVersion10
  locked : s.context.currentTspState = K.tspState .configLocked

section Over

variable {context : σ → DeviceContext K} {device : σ → TeStateCall K → Except UInt32 Unit × σ}
  {s : σ} {d : State K} (hcontext : context s = d.context) {session : SessionId} {request : Bytes}

include hcontext

/-- An accepted request is one call of the device library. -/
theorem setTeStateOver_of_accepted (h : TeStateAccepted d session request) :
    setTeStateOver context device s session request =
      (match (device s (teStateCall K request)).1 with
        | .error errorCode => cxlTspGetResponseError K (K.header.decode request) errorCode 0
        | .ok () => ⟨.success, some (message K (K.header.decode request) .setTargetTeState
            (K.setTeStateResponse.encode ()))⟩,
        (device s (teStateCall K request)).2) := by
  obtain ⟨sessionId, rfl, htype⟩ := h.session
  have hlen : ¬ request.length < setTeStateFixedSize K := by
    rw [h.length]
    omega
  have hcount : ¬ ((teStateCall K request).numberOfMemoryRanges = 0 ∨
      (teStateCall K request).numberOfMemoryRanges > 32) := by
    rintro (hzero | hmany)
    · exact absurd (congrArg UInt8.toNat hzero) (Nat.ne_of_gt h.count_pos)
    · exact absurd (UInt8.lt_iff_toNat_lt.1 hmany) (Nat.not_lt.2 h.count_le)
  have hlocked : (cxlTspDeviceGetConfiguration d.context).currentTspState =
      K.tspState .configLocked := h.locked
  have hallowed : (!(libcxltspGetSessionType d.context sessionId != .other)) = false := by
    simpa using htype
  simp only [setTeStateOver, withPrivilege, hcontext, hallowed, Bool.false_eq_true, if_false,
    if_neg hlen, if_neg hcount, if_neg (not_not_intro h.length),
    if_neg (not_not_intro h.version), if_neg (not_not_intro hlocked)]
  cases device s (teStateCall K request) with
  | mk result s' =>
      cases result with
      | error errorCode => rfl
      | ok u => rfl

/-- Any other request is answered without the device library. -/
theorem setTeStateOver_of_not_accepted (h : ¬ TeStateAccepted d session request) :
    (setTeStateOver context device s session request).2 = s := by
  cases session with
  | none => rfl
  | some sessionId =>
      simp only [setTeStateOver, withPrivilege, hcontext]
      split_ifs with htype hshort hcount hlen hversion hlocked
      any_goals rfl
      -- all checks passed
      refine absurd ⟨⟨sessionId, rfl, by simpa using htype⟩, ?_, ?_, not_not.1 hlen,
        not_not.1 hversion, not_not.1 hlocked⟩ h
      · have hzero : (teStateCall K request).numberOfMemoryRanges ≠ 0 := fun h0 =>
          hcount (.inl h0)
        exact Nat.pos_of_ne_zero fun h0 => hzero (UInt8.toNat_inj.1 h0)
      · exact Nat.not_lt.1 fun h32 => hcount (.inr (UInt8.lt_iff_toNat_lt.2 h32))

end Over

section Recorded

variable (device : SetTeState K) {session : SessionId} {s : State K} (calls : List (TeStateCall K))
  {request : Bytes}

theorem getResponseSetTeStateOf_of_accepted (h : TeStateAccepted s session request) :
    getResponseSetTeStateOf device session (s, calls) request =
      (match (device s (teStateCall K request)).1 with
        | .error errorCode => cxlTspGetResponseError K (K.header.decode request) errorCode 0
        | .ok () => ⟨.success, some (message K (K.header.decode request) .setTargetTeState
            (K.setTeStateResponse.encode ()))⟩,
        (device s (teStateCall K request)).2, calls ++ [teStateCall K request]) := by
  have hcontext : recordedContext (s, calls) = s.context := rfl
  rw [getResponseSetTeStateOf, setTeStateOver_of_accepted hcontext h]
  rfl

theorem getResponseSetTeStateOf_of_not_accepted (h : ¬ TeStateAccepted s session request) :
    (getResponseSetTeStateOf device session (s, calls) request).2 = (s, calls) := by
  have hcontext : recordedContext (s, calls) = s.context := rfl
  rw [getResponseSetTeStateOf, setTeStateOver_of_not_accepted hcontext h]

end Recorded

/-! ## The requester -/

/-- The bytes of `cxl_tsp_set_target_te_state_req_mine_t`. -/
def setTeStateMine (K : CxlTsp) (teState numberOfMemoryRanges : UInt8) (memoryRanges : Mem) :
    Bytes :=
  let copied := K.memoryRangeSize * numberOfMemoryRanges.toNat
  K.header.encode (requestHeader K .setTargetTeState) ++
    (teState :: numberOfMemoryRanges :: List.replicate 0xc 0) ++ memoryRanges.load 0 copied ++
    List.replicate (32 * K.memoryRangeSize - copied) 0

/-- The request of `cxl_tsp_set_te_state`: the first `request_size` bytes of the structure. -/
def setTeStateMessage (K : CxlTsp) (teState numberOfMemoryRanges : UInt8) (memoryRanges : Mem) :
    Bytes :=
  (setTeStateMine K teState numberOfMemoryRanges memoryRanges).take
    (setTeStateFixedSize K + numberOfMemoryRanges.toNat * K.memoryRangeSize)

/-- `cxl_tsp_set_te_state`. The value of `LIBSPDM_STATUS_INVALID_STATE_LOCAL` is a parameter. -/
def cxlTspSetTeState (K : CxlTsp) (invalidStateLocal : LibspdmReturn)
    (sendReceive : SendReceive σ) (link : σ) (teState numberOfMemoryRanges : UInt8)
    (memoryRanges : Mem) : LibspdmReturn × σ :=
  if numberOfMemoryRanges > 32 then (invalidStateLocal, link)
  else
    let (exchange, link) := sendReceive link
      (setTeStateMessage K teState numberOfMemoryRanges memoryRanges) (errorMessageMaxSize K)
    let response := exchange.response
    let header := K.header.decode response
    if exchange.status.isError then (exchange.status, link)
    else if response.length ≠ K.header.size + K.setTeStateResponse.size then
      (.invalidMsgSize, link)
    else if header.tspVersion ≠ K.messageVersion10 then (.invalidMsgField, link)
    else if header.opCode ≠ K.responseOpCode .setTargetTeState then (.invalidMsgField, link)
    else (.success, link)

/-- The fixed part of the requester's structure has the layout of the request. -/
def MineLayout (K : CxlTsp) : Prop :=
  ∀ body, K.setTeStateRequest.encode body =
    body.teState :: body.numberOfMemoryRanges :: List.replicate 0xc 0

section Request

variable {teState count : UInt8} {memory : Mem}

/-- The request is the fixed part and the ranges, without the rest of the structure. -/
theorem setTeStateMessage_eq (hlayout : MineLayout K) :
    setTeStateMessage K teState count memory =
      K.header.encode (requestHeader K .setTargetTeState) ++
        (K.setTeStateRequest.encode ⟨teState, count⟩ ++
          memory.load 0 (K.memoryRangeSize * count.toNat)) := by
  rw [setTeStateMessage, setTeStateMine, ← hlayout ⟨teState, count⟩]
  refine (List.take_left' ?_).trans (List.append_assoc _ _ _)
  simp only [List.length_append, Packed.length_encode_eq, Mem.length_load, setTeStateFixedSize,
    Nat.mul_comm]

theorem decode_setTeStateMessage (hlayout : MineLayout K) :
    K.setTeStateRequest.decode ((setTeStateMessage K teState count memory).drop K.header.size) =
      ⟨teState, count⟩ := by
  rw [setTeStateMessage_eq hlayout, Packed.drop_encode_append, Packed.decode_encode_append]

/-- The responder reads the count that the requester was called with. -/
theorem numberOfMemoryRanges_setTeStateMessage (hlayout : MineLayout K) :
    (teStateCall K (setTeStateMessage K teState count memory)).numberOfMemoryRanges = count := by
  simp only [teStateCall, decode_setTeStateMessage hlayout]

theorem header_setTeStateMessage (hlayout : MineLayout K) :
    K.header.decode (setTeStateMessage K teState count memory) =
      (requestHeader K .setTargetTeState) := by
  rw [setTeStateMessage_eq hlayout, Packed.decode_encode_append]

/-- The ranges in the memory of the caller are the ranges of the call. -/
theorem teStateCall_setTeStateMessage (hlayout : MineLayout K) {ranges : List (MemoryRange K)}
    (hcount : count.toNat = ranges.length)
    (hmemory : memory.load 0 (K.memoryRangeSize * ranges.length) =
      (memoryRange K).encodeList ranges) :
    teStateCall K (setTeStateMessage K teState count memory) = ⟨teState, count, ranges⟩ := by
  have hdrop : (setTeStateMessage K teState count memory).drop (setTeStateFixedSize K) =
      (memoryRange K).encodeList ranges ++ [] := by
    rw [setTeStateMessage_eq hlayout, setTeStateFixedSize, ← List.drop_drop,
      Packed.drop_encode_append, Packed.drop_encode_append, hcount, hmemory, List.append_nil]
  simp only [teStateCall, decode_setTeStateMessage hlayout, hdrop, hcount,
    Packed.decodeList_encodeList]

/-- On an open session in the locked state the request of the requester is accepted. -/
theorem teStateAccepted_setTeStateMessage (hlayout : MineLayout K) {s : State K}
    {session : SessionId} (hsession : PrimaryOrSecondary s session)
    (hlocked : s.context.currentTspState = K.tspState .configLocked)
    (hpos : 0 < count.toNat) (hle : count.toNat ≤ 32) :
    TeStateAccepted s session (setTeStateMessage K teState count memory) where
  session := hsession
  count_pos := by rwa [numberOfMemoryRanges_setTeStateMessage hlayout]
  count_le := by rwa [numberOfMemoryRanges_setTeStateMessage hlayout]
  length := by
    rw [numberOfMemoryRanges_setTeStateMessage hlayout, setTeStateMessage_eq hlayout]
    simp only [List.length_append, Packed.length_encode_eq, Mem.length_load, setTeStateFixedSize,
      Nat.mul_comm, Nat.add_assoc]
  version := by rw [header_setTeStateMessage hlayout, requestHeader_tspVersion]
  locked := hlocked

end Request

/-! ## The exchange -/

/-- The exchange with the handler on one session. -/
def teStateLink (device : SetTeState K) (session : SessionId) :
    SendReceive (State K × List (TeStateCall K)) :=
  directLink (getResponseSetTeStateOf device session)

/-- The requester leaves the link alone or makes its one exchange. -/
theorem cxlTspSetTeState_snd (invalidStateLocal : LibspdmReturn) (sendReceive : SendReceive σ)
    (link : σ) (teState count : UInt8) (memory : Mem) :
    (cxlTspSetTeState K invalidStateLocal sendReceive link teState count memory).2 =
      if count > 32 then link
      else (sendReceive link (setTeStateMessage K teState count memory)
        (errorMessageMaxSize K)).2 := by
  simp only [cxlTspSetTeState]
  repeat' split
  all_goals rfl

/-- The requester accepts the response of the handler. -/
theorem cxlTspSetTeState_of_response {invalidStateLocal : LibspdmReturn}
    {sendReceive : SendReceive σ} {link link' : σ} {teState count : UInt8} {memory : Mem}
    {header : Header} (hcount : count.toNat ≤ 32)
    (hversion : header.tspVersion = K.messageVersion10)
    (hsend : sendReceive link (setTeStateMessage K teState count memory) (errorMessageMaxSize K) =
      (⟨.success, message K header .setTargetTeState (K.setTeStateResponse.encode ())⟩, link')) :
    (cxlTspSetTeState K invalidStateLocal sendReceive link teState count memory).1 =
      .success := by
  have hle : ¬ count > 32 := fun h => Nat.not_lt.2 hcount (UInt8.lt_iff_toNat_lt.1 h)
  have hlen : (message K header .setTargetTeState (K.setTeStateResponse.encode ())).length =
      K.header.size + K.setTeStateResponse.size := by
    simp only [message, List.length_append, Packed.length_encode_eq]
  have hheader : K.header.decode
      (message K header .setTargetTeState (K.setTeStateResponse.encode ())) =
        ⟨header.tspVersion, K.responseOpCode .setTargetTeState⟩ := by
    rw [message, Packed.decode_encode_append]
  simp [cxlTspSetTeState, hle, hsend, hlen, hheader, hversion, LibspdmReturn.isError]

/-- **SET_TARGET_TE_STATE delivers the ranges intact.** On a primary or secondary session in the
state `CONFIG_LOCKED`, between 1 and 32 ranges reach the device library in one call, and the
requester succeeds if the device library does. Without ranges, with more than 32, on another session
or in another state there is no call. A request of any bytes that leads to a call has passed every
check, and the bytes of the ranges it declares are exactly its rest. -/
theorem set_te_state_delivers (hlayout : MineLayout K)
    (hroom : K.setTeStateResponse.size ≤ K.errorResponse.size) (device : SetTeState K)
    (s : State K) (calls : List (TeStateCall K)) (session : SessionId) :
    (∀ (invalidStateLocal : LibspdmReturn) (teState count : UInt8)
        (ranges : List (MemoryRange K)) (memory : Mem),
      0 < count.toNat → count.toNat ≤ 32 → count.toNat = ranges.length →
      memory.load 0 (K.memoryRangeSize * ranges.length) = (memoryRange K).encodeList ranges →
      PrimaryOrSecondary s session → s.context.currentTspState = K.tspState .configLocked →
      let result := cxlTspSetTeState K invalidStateLocal (teStateLink device session) (s, calls)
        teState count memory
      result.2.2 = calls ++ [⟨teState, count, ranges⟩] ∧
      ((device s ⟨teState, count, ranges⟩).1 = .ok () → result.1 = .success)) ∧
    (∀ (invalidStateLocal : LibspdmReturn) (teState count : UInt8) (memory : Mem),
      (count.toNat = 0 ∨ 32 < count.toNat ∨ ¬ PrimaryOrSecondary s session ∨
        s.context.currentTspState ≠ K.tspState .configLocked) →
      (cxlTspSetTeState K invalidStateLocal (teStateLink device session) (s, calls) teState count
        memory).2.2 = calls) ∧
    ∀ request : Bytes,
      (getResponseSetTeStateOf device session (s, calls) request).2.2 ≠ calls →
      TeStateAccepted s session request ∧
      setTeStateFixedSize K +
          (teStateCall K request).numberOfMemoryRanges.toNat * K.memoryRangeSize =
        request.length ∧
      (getResponseSetTeStateOf device session (s, calls) request).2.2 =
        calls ++ [teStateCall K request] := by
  refine ⟨?_, ?_, ?_⟩
  · intro invalidStateLocal teState count ranges memory hpos hle hcount hmemory hsession hlocked
      result
    have haccepted : TeStateAccepted s session (setTeStateMessage K teState count memory) :=
      teStateAccepted_setTeStateMessage hlayout hsession hlocked hpos hle
    have hstep := getResponseSetTeStateOf_of_accepted device calls haccepted
    rw [teStateCall_setTeStateMessage hlayout hcount hmemory] at hstep
    refine ⟨?_, ?_⟩
    · have hle' : ¬ count > 32 := fun h => Nat.not_lt.2 hle (UInt8.lt_iff_toNat_lt.1 h)
      simp only [result, cxlTspSetTeState_snd, if_neg hle', teStateLink, directLink_snd, hstep]
    · intro hok
      rw [hok] at hstep
      refine cxlTspSetTeState_of_response hle haccepted.version (directLink_of_written hstep ?_)
      simp only [message, errorMessageMaxSize, List.length_append, Packed.length_encode_eq]
      omega
  · intro invalidStateLocal teState count memory hbad
    rw [cxlTspSetTeState_snd]
    split
    · rfl
    · rename_i hle
      have hnot : ¬ TeStateAccepted s session (setTeStateMessage K teState count memory) := by
        intro h
        have hpos := h.count_pos
        rw [numberOfMemoryRanges_setTeStateMessage hlayout] at hpos
        rcases hbad with hzero | hmany | hsession | hstate
        · omega
        · exact hle (UInt8.lt_iff_toNat_lt.2 hmany)
        · exact hsession h.session
        · exact hstate h.locked
      rw [teStateLink, directLink_snd, getResponseSetTeStateOf_of_not_accepted device calls hnot]
  · intro request hcall
    have haccepted : TeStateAccepted s session request := by
      by_contra hnot
      exact hcall (congrArg Prod.snd (getResponseSetTeStateOf_of_not_accepted device calls hnot))
    refine ⟨haccepted, haccepted.length.symm, ?_⟩
    rw [getResponseSetTeStateOf_of_accepted device calls haccepted]

/-! ## Concrete values -/

/-- Concrete values whose request has the layout of the requester's structure. -/
def CxlTsp.teStateSample : CxlTsp :=
  { CxlTsp.sample with
    setTeStateRequest := (Packed.u8.pair (Packed.u8.reserve 0xc)).view
      (fun x => ⟨x.1, x.2⟩) (fun b => (b.teState, b.numberOfMemoryRanges)) (fun _ => rfl) }

/-- A locked device whose primary session is session 1. -/
def lockedTeStateSample : State CxlTsp.teStateSample where
  context :=
    { libcxltspSetPrimarySessionId (DeviceContext.zeroed _) 1 with
      currentTspState := CxlTsp.teStateSample.tspState .configLocked }
  secondSessionPsk := Vector.replicate _ (Vector.replicate _ 0)

/-- Two ranges, of fives and of sixes. -/
def twoRangesSample : List (MemoryRange CxlTsp.teStateSample) :=
  [Vector.replicate _ 5, Vector.replicate _ 6]

/-- The memory of the requester with the two ranges in it. -/
def twoRangesMemory : Mem := fun address =>
  if address < CxlTsp.teStateSample.memoryRangeSize then 5 else 6

/-- Two ranges on the primary session reach the device library sample; session 2 makes no call. -/
theorem set_te_state_delivers_sample :
    (cxlTspSetTeState .teStateSample .errorPeer (teStateLink sampleSetTeState (some 1))
      (lockedTeStateSample, []) 1 2 twoRangesMemory).2.2 = [⟨1, 2, twoRangesSample⟩] ∧
    (cxlTspSetTeState .teStateSample .errorPeer (teStateLink sampleSetTeState (some 1))
      (lockedTeStateSample, []) 1 2 twoRangesMemory).1 = .success ∧
    (cxlTspSetTeState .teStateSample .errorPeer (teStateLink sampleSetTeState (some 2))
      (lockedTeStateSample, []) 1 2 twoRangesMemory).2.2 = [] := by
  have hlayout : MineLayout .teStateSample := fun _ => rfl
  have hroom : CxlTsp.teStateSample.setTeStateResponse.size ≤
      CxlTsp.teStateSample.errorResponse.size := by decide
  have hprimary := (set_te_state_delivers hlayout hroom sampleSetTeState lockedTeStateSample []
    (some 1)).1 .errorPeer 1 2 twoRangesSample twoRangesMemory (by decide) (by decide) rfl
    (by decide +kernel) ⟨1, rfl, by decide +kernel⟩ rfl
  have hother : ¬ PrimaryOrSecondary lockedTeStateSample (some 2) := by
    rintro ⟨sessionId, hid, htype⟩
    cases hid
    exact htype (by decide +kernel)
  exact ⟨hprimary.1, hprimary.2 rfl, (set_te_state_delivers hlayout hroom sampleSetTeState
    lockedTeStateSample [] (some 2)).2.1 .errorPeer 1 2 twoRangesMemory
    (.inr (.inr (.inl hother)))⟩

end SpdmEmu.Tsp
