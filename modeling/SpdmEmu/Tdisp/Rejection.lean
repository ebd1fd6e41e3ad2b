import SpdmEmu.Tdisp.Form

/-!
# Rejected requests

A request is rejected with a TDISP error message or with an error status. Every rejection leaves the
interface context as it was, but one: `pci_tdisp_device_lock_interface` stores the lock parameters
before it asks for random bytes, and a lock that fails for want of them has replaced the parameters.
-/

set_option autoImplicit false

namespace SpdmEmu.Tdisp

open SpdmEmu.Wire SpdmEmu.Libspdm SpdmEmu.Run

variable {K : PciTdisp}

/-- The reply is a TDISP error message, or the status is an error. -/
def Rejected (K : PciTdisp) (request : Bytes) (reply : Reply) : Prop :=
  Answers K request .error reply ∨ reply.status.isError = true

/-- The lock parameters of a `LOCK_INTERFACE` request. -/
def lockParam (K : PciTdisp) (request : Bytes) : Vector UInt8 K.lockInterfaceParamSize :=
  K.lockInterfaceRequest.decode (request.drop K.header.size)

/-- A lock of the bound, unlocked interface with new parameters, for which there are no random
bytes. -/
structure FailsAfterStore (env : Environment K) (ctx : InterfaceContext K) (request : Bytes) :
    Prop where
  wellFormed : WellFormedRequest K .lockInterface request
  bound : ctx.interfaceId = (K.header.decode request).interfaceId
  unlocked : ctx.tdiState = K.tdiState .configUnlocked
  noRandom : env.random = none
  newParam : ctx.lockInterfaceParam ≠ lockParam K request

/-! ## One step -/

section Step

variable {env : Environment K} {ctx : InterfaceContext K} {request : Bytes}

theorem not_rejected_of_answers (kind : Response) {reply : Reply} (hkind : kind ≠ .error)
    (h : Answers K request kind reply) : ¬ Rejected K request reply := by
  rintro (herror | hstatus)
  · exact hkind (kind_unique h herror)
  · obtain ⟨body, rfl⟩ := h
    cases hstatus

/-- A rejected request keeps the context, or it is a lock that stored its parameters. -/
theorem context_of_rejected {reply : Reply} {ctx' : InterfaceContext K}
    (heff : Effect env ctx request reply ctx') (h : Rejected K request reply) :
    ctx' = ctx ∨
      (K.header.decode request).messageType = K.requestType .lockInterface ∧
        ctx.interfaceId = (K.header.decode request).interfaceId ∧
        ctx.tdiState = K.tdiState .configUnlocked ∧ env.random = none ∧
        ctx' = { ctx with lockInterfaceParam := lockParam K request } := by
  cases heff with
  | dropped _ => exact .inl rfl
  | rejected _ => exact .inl rfl
  | version _ => exact absurd h (not_rejected_of_answers .version nofun ⟨_, rfl⟩)
  | capabilities _ _ =>
      exact absurd h (not_rejected_of_answers .capabilities nofun ⟨_, rfl⟩)
  | noEntropy htype hbound hunlocked hrandom _ =>
      exact .inr ⟨htype, hbound, hunlocked, hrandom, rfl⟩
  | lock _ _ _ _ =>
      exact absurd h (not_rejected_of_answers .lockInterface nofun ⟨_, rfl⟩)
  | report _ _ _ => exact .inl rfl
  | state _ _ => exact .inl rfl
  | start _ _ _ _ _ =>
      exact absurd h (not_rejected_of_answers .startInterface nofun ⟨_, rfl⟩)
  | stop _ _ _ =>
      exact absurd h (not_rejected_of_answers .stopInterface nofun ⟨_, rfl⟩)

/-- The lock without random bytes. -/
theorem step_of_failsAfterStore (h : FailsAfterStore env ctx request) :
    Rejected K request (pciTdispGetResponse env ctx request).1 ∧
      (pciTdispGetResponse env ctx request).2 =
        { ctx with lockInterfaceParam := lockParam K request } := by
  have hsize : request.length = K.header.size + K.lockInterfaceRequest.size := h.wellFormed.size
  have hbound := (isBound_iff ctx _).2 h.bound
  rw [pciTdispGetResponse_of_type env ctx h.wellFormed.messageType (by omega), handler,
    pciTdispGetResponseLockInterface, handleRequest, if_neg (not_not.2 hsize),
    if_neg (not_not.2 h.wellFormed.version)]
  simp only [pciTdispDeviceLockInterface, hbound, Bool.not_true, Bool.false_eq_true, if_false,
    ne_eq, h.unlocked, not_true_eq_false, h.noRandom]
  exact ⟨.inl (answers_error request _ _), rfl⟩

end Step

/-- **A rejected request has no effect exactly when it is not a lock that fails after it stored new
parameters**, for every context, request and random-source outcome. -/
theorem rejection_without_effect_iff (env : Environment K) (ctx : InterfaceContext K)
    (request : Bytes) :
    (Rejected K request (pciTdispGetResponse env ctx request).1 →
      (pciTdispGetResponse env ctx request).2 = ctx) ↔ ¬ FailsAfterStore env ctx request := by
  constructor
  · intro hkept h
    obtain ⟨hrejected, hstored⟩ := step_of_failsAfterStore h
    have heq := congrArg InterfaceContext.lockInterfaceParam
      ((hkept hrejected).symm.trans hstored)
    exact h.newParam heq
  · intro hnot hrejected
    rcases context_of_rejected (effect_pciTdispGetResponse env ctx request) hrejected with
      hkept | ⟨htype, hbound, hunlocked, hrandom, hstored⟩
    · exact hkept
    by_cases hform : WellFormedRequest K .lockInterface request
    · have hparam : ctx.lockInterfaceParam = lockParam K request := by
        by_contra hne
        exact hnot ⟨hform, hbound, hunlocked, hrandom, hne⟩
      rw [hstored, ← hparam]
    · exact context_of_malformed env ctx htype hform

/-- Interface 7 is bound and unlocked, and a lock with parameters of ones finds no random bytes: it
is answered with an error, and the parameters stay. -/
theorem failed_lock_stores_param :
    let ctx := libtdispInitializeInterfaceContext PciTdisp.sample ⟨7, 0⟩
    let request := PciTdisp.sample.header.encode
      ⟨0x10, PciTdisp.sample.requestType .lockInterface, ⟨7, 0⟩⟩ ++ List.replicate 20 1
    let result := pciTdispGetResponse ⟨none, jsonSupportOff⟩ ctx request
    Rejected PciTdisp.sample request result.1 ∧
      ctx.lockInterfaceParam = Vector.replicate 20 0 ∧
      result.2.lockInterfaceParam = Vector.replicate 20 1 ∧ result.2 ≠ ctx := by
  intro ctx request result
  have hbefore : ctx.lockInterfaceParam = Vector.replicate 20 0 := rfl
  have hafter : result.2.lockInterfaceParam = Vector.replicate 20 1 := rfl
  refine ⟨.inl ⟨_, rfl⟩, hbefore, hafter, fun h => ?_⟩
  have hne : Vector.replicate 20 (0 : UInt8) ≠ Vector.replicate 20 1 := by decide
  rw [h] at hafter
  exact hne (hbefore.symm.trans hafter)

end SpdmEmu.Tdisp
