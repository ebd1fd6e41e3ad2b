import SpdmEmu.Libspdm.Status

/-!
# Tunnels

A tunnel carries the messages of a protocol inside those of another one: the requester wraps a
request and unwraps the response, the responder unwraps the request, runs a handler and wraps what
it wrote. `Transparent` says what the two ends are for together, in terms of the handler alone: a
call through the tunnel is a call of the handler, and a failure reaches the caller without a trace
in its buffer.
-/

set_option autoImplicit false

namespace SpdmEmu.Libspdm

open SpdmEmu.Wire

variable {σ : Type}

/-- A requester's entry point on a fixed session: request, response buffer and `*response_size`. -/
abbrev Receive (σ : Type) := σ → Bytes → Mem → Nat → Outcome σ

/-- An error status reaches the caller, whose buffer and size stay as they are. -/
def Outcome.Failed (o : Outcome σ) (response : Mem) (responseSize : Nat) (s : σ) : Prop :=
  o.status.isError = true ∧ o.response = response ∧ o.responseSize = responseSize ∧ o.state = s

/-- A call of `send` is a call of `run`, for requests of at most `maxRequest` bytes, and for
responses whose size fits the caller's as `Fits` says. -/
structure Transparent (send : Receive σ) (run : σ → Bytes → Reply × σ) (maxRequest : Nat)
    (Fits : Nat → Nat → Prop) : Prop where
  delivers : ∀ (s s' : σ) (m r : Bytes) (status : LibspdmReturn) (response : Mem)
    (responseSize : Nat), m.length ≤ maxRequest → run s m = (⟨status, some r⟩, s') →
      status.isError = false → Fits responseSize r.length →
      send s m response responseSize = ⟨.success, response.store 0 r, r.length, s'⟩
  fails : ∀ (s s' : σ) (m : Bytes) (reply : Reply) (response : Mem) (responseSize : Nat),
    m.length ≤ maxRequest → run s m = (reply, s') → reply.status.isError = true →
      (send s m response responseSize).Failed response responseSize s'

/-- Every call of `send` fails, and no handler runs. -/
def Refuses (send : Receive σ) (maxRequest : Nat) : Prop :=
  ∀ (s : σ) (m : Bytes) (response : Mem) (responseSize : Nat), m.length ≤ maxRequest →
    (send s m response responseSize).Failed response responseSize s

end SpdmEmu.Libspdm
