import SpdmEmu.Libspdm.Tunnel
import SpdmEmu.Mctp.Message

/-!
# The MCTP tunnel

`mctp_send_receive_data` and `mctp_get_response_secured_app_request` as the two ends of a tunnel,
over a libspdm that carries application messages unchanged.
-/

set_option autoImplicit false

namespace SpdmEmu.Mctp

open SpdmEmu.Wire SpdmEmu.Libspdm

variable {σ : Type}

/-- The contract of libspdm for application messages, to a responder with a buffer of `bufferSize`
bytes whose content is not known: an error status of the responder becomes an error status of the
requester, and a response that fits is handed over. -/
def CarriesAppMessages (respond : Respond σ) (bufferSize : Nat)
    (exchange : SessionId → SendReceive σ) : Prop :=
  ∀ (s : σ) (session : SessionId) (request : Bytes) (capacity : Nat),
    ∃ (buffer : Mem) (o : Outcome σ), respond s session request buffer bufferSize = o ∧
      (exchange session s request capacity).2 = o.state ∧
      (o.status.isError = true → (exchange session s request capacity).1.status.isError = true) ∧
      (o.status = .success → o.responseSize ≤ capacity →
        (exchange session s request capacity).1 = ⟨.success, o.message⟩)

/-- The requester's end on a session. -/
def mctpTunnel (M : MctpStandard) (exchange : SessionId → SendReceive σ) (session : SessionId)
    (messageType : UInt8) : Receive σ := fun s request response responseSize =>
  mctpSendReceiveData M exchange s session messageType request response responseSize

/-- A response fits the tunnel: the room the responder's buffer leaves after the header, and the
caller's size, which the requester asserts to be below its own buffer's. -/
def AppFits (room responseSize size : Nat) : Prop :=
  size ≤ room ∧ size ≤ responseSize ∧ responseSize < mctpMaxMessageSize

/-! ## The responder's end -/

section Responder

variable (M : MctpStandard) (pldm : Handler σ) (s : σ) (session : SessionId) (m : Bytes)
  (buffer : Mem) (bufferSize : Nat)

theorem respond_of_other_type {messageType : UInt8} (h : messageType ≠ M.messageTypePldm) :
    mctpGetResponseSecuredAppRequest M (mMctpSecuredAppDispatch M pldm) s session
        (M.messageHeader.encode messageType ++ m) buffer bufferSize =
      ⟨.unsupportedCap, buffer, bufferSize, s⟩ := by
  simp [mctpGetResponseSecuredAppRequest, mMctpSecuredAppDispatch, h]

variable {reply : Reply} {s' : σ} (hrun : pldm s session m = (reply, s'))

include hrun

theorem respond_of_pldm_error (herror : reply.status.isError = true) :
    mctpGetResponseSecuredAppRequest M (mMctpSecuredAppDispatch M pldm) s session
        (M.messageHeader.encode M.messageTypePldm ++ m) buffer bufferSize =
      ⟨reply.status, reply.buffer buffer M.messageHeader.size, bufferSize, s'⟩ := by
  simp [mctpGetResponseSecuredAppRequest, mMctpSecuredAppDispatch, hrun, herror]

end Responder

/-- The outcome when the handler wrote `r`: the message type, and then `r`. -/
theorem respond_of_pldm_written (M : MctpStandard) {pldm : Handler σ} {s s' : σ}
    {session : SessionId} {m r : Bytes} {status : LibspdmReturn}
    (hrun : pldm s session m = (⟨status, some r⟩, s')) (hok : status.isError = false)
    (buffer : Mem) (bufferSize : Nat) :
    ∃ response, mctpGetResponseSecuredAppRequest M (mMctpSecuredAppDispatch M pldm) s session
        (M.messageHeader.encode M.messageTypePldm ++ m) buffer bufferSize =
          ⟨.success, response, M.messageHeader.size + r.length, s'⟩ ∧
      response.load 0 (M.messageHeader.size + r.length) =
        M.messageHeader.encode M.messageTypePldm ++ r := by
  refine ⟨(buffer.store M.messageHeader.size r).store 0
    (M.messageHeader.encode M.messageTypePldm), ?_, ?_⟩
  · simp [mctpGetResponseSecuredAppRequest, mMctpSecuredAppDispatch, hrun, hok, Reply.size,
      Reply.buffer, Nat.add_comm]
  · rw [Mem.load_store_append _ (M.messageHeader.length_encode _), Mem.load_store]

/-! ## A call through the tunnel -/

section Call

variable {M : MctpStandard} {pldm : Handler σ} {bufferSize : Nat}
  {exchange : SessionId → SendReceive σ}
  (hcarries : CarriesAppMessages
    (mctpGetResponseSecuredAppRequest M (mMctpSecuredAppDispatch M pldm)) bufferSize exchange)
  (session : SessionId)

include hcarries

/-- A failure of the dispatcher reaches the caller. -/
theorem failed_of_dispatch_error {messageType : UInt8} {m : Bytes} {s s' : σ}
    (hfails : ∀ buffer, ∃ status response size, status.isError = true ∧
      mctpGetResponseSecuredAppRequest M (mMctpSecuredAppDispatch M pldm) s session
        (M.messageHeader.encode messageType ++ m) buffer bufferSize = ⟨status, response, size, s'⟩)
    (response : Mem) (responseSize : Nat) :
    (mctpTunnel M exchange session messageType s m response responseSize).Failed response
      responseSize s' := by
  obtain ⟨buffer, o, hrespond, hstate, herror, -⟩ := hcarries s session
    (M.messageHeader.encode messageType ++ m) (M.messageHeader.size + responseSize)
  obtain ⟨status, _, _, hstatus, hdispatch⟩ := hfails buffer
  rw [hdispatch] at hrespond
  subst hrespond
  have hexchange := herror hstatus
  simp only [mctpTunnel, mctpSendReceiveData, hexchange, if_true, hstate]
  exact ⟨hexchange, rfl, rfl, rfl⟩

/-- **The MCTP tunnel is transparent for the PLDM handler.** -/
theorem transparent_mctpTunnel :
    Transparent (mctpTunnel M exchange session M.messageTypePldm) (fun s m => pldm s session m)
      mctpMaxMessageSize (AppFits (bufferSize - M.messageHeader.size)) where
  delivers := by
    intro s s' m r status response responseSize _ hrun hok hfits
    obtain ⟨buffer, o, hrespond, hstate, -, hsuccess⟩ := hcarries s session
      (M.messageHeader.encode M.messageTypePldm ++ m) (M.messageHeader.size + responseSize)
    obtain ⟨written, hdispatch, hload⟩ := respond_of_pldm_written M hrun hok buffer bufferSize
    rw [hdispatch] at hrespond
    subst hrespond
    -- the message type and the response fit the buffer the requester offers
    have hexchange := hsuccess rfl (Nat.add_le_add_left hfits.2.1 _)
    simp only [Outcome.message, hload] at hexchange
    simp [mctpTunnel, mctpSendReceiveData, hexchange, hstate, LibspdmReturn.isError, copyMem]
  fails := by
    intro s s' m reply response responseSize _ hrun herror
    refine failed_of_dispatch_error hcarries session (fun buffer => ?_) response responseSize
    exact ⟨_, _, _, herror, respond_of_pldm_error M pldm s session m buffer bufferSize hrun herror⟩

/-- A message of another type is refused. -/
theorem refuses_mctpTunnel {messageType : UInt8} (h : messageType ≠ M.messageTypePldm) :
    Refuses (mctpTunnel M exchange session messageType) mctpMaxMessageSize := by
  intro s m response responseSize _
  refine failed_of_dispatch_error hcarries session (fun buffer => ?_) response responseSize
  exact ⟨_, _, _, rfl, respond_of_other_type M pldm s session m buffer bufferSize h⟩

end Call

end SpdmEmu.Mctp
